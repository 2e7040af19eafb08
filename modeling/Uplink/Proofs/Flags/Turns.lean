import Uplink.Proofs.Flags.Faithful

/-! Turns and the clock: a wait begins, is looked after, and meets its deadline, as the history has it. -/

namespace Uplink.Flags

variable {history : List Happening} {waits next : Waits} {task : TaskId} {wait : BackgroundWait}
  {state : Wait} {condition : Condition} {timeout : Timeout} {rest : List TaskId}

/-- A ticket that a wait does not hold is not the one that it has parked under. -/
theorem BackgroundWait.ne_of_not_holds {ticket other : Ticket} {deadline : Option Nat}
    (foreign : ¬ wait.Holds other) (parked : wait.stage = .waiting (.parked ticket deadline)) :
    other ≠ ticket := by
  -- Were they the same, the wait would hold the ticket by being parked under it.
  intro same
  subst same
  exact foreign ⟨deadline, parked⟩

/-! ### The call of a wait -/

/-- An answer at once is one of this instant. -/
theorem Moment.now_of_atOnce {moment : Moment} {answer : Nat × UInt32}
    (answered : moment.atOnce condition timeout = some answer) : answer.1 = moment.now := by
  -- The clock is read in both branches that answer.
  unfold atOnce at answered
  split at answered
  · cases answered
    rfl
  · split at answered
    · cases answered
      rfl
    · contradiction

/-- A wait does not park for a condition that is met. -/
theorem Moment.unmet_of_atOnce {moment : Moment} (parks : moment.atOnce condition timeout = none) :
    condition.matched moment.bits = none := by
  -- A wait for a condition that is met would have been answered at once.
  unfold atOnce at parks
  split at parks
  · contradiction
  · assumption

/-- No wait is called after its deadline. -/
theorem Moment.le_of_deadline {moment : Moment} {due : Nat} (same : moment.deadline timeout = some due) :
    moment.now ≤ due := by
  -- A deadline is set by adding a span to the clock.
  cases timeout with
  | forever | noWait => contradiction
  | after span =>
    simp only [deadline, Option.ite_none_right_eq_some, Option.some.injEq] at same
    omega

/-- A wait that has not missed its deadline is answered by a look if the deadline is this instant. -/
theorem Moment.expiry_eq {moment : Moment} {agenda : Agenda} {deadline : Option Nat}
    (clock : moment.now = agenda.now) (inTime : ∀ due, deadline = some due → agenda.now ≤ due) :
    moment.expiry deadline = if agenda.reached deadline then some (agenda.now, 0) else none := by
  cases deadline with
  | none => rfl
  | some due =>
    have early := inTime due rfl
    by_cases come : due ≤ agenda.now
    · -- The deadline has come and was not missed, so it is now.
      obtain rfl : due = agenda.now := Nat.le_antisymm come early
      simp [expiry, Agenda.reached, clock]
    · simp [expiry, Agenda.reached, clock, come, Option.filter]

/-- Whether a wait is answered at once or parks is read off the moment of its call. -/
theorem Register.wait_eq {register : Register} {agenda : Agenda} {moment : Moment}
    (clock : moment.now = agenda.now) (shown : moment.bits = register.bits) (owner : TaskId)
    (condition : Condition) (timeout : Timeout) :
    register.wait agenda owner condition timeout =
      match moment.atOnce condition timeout with
      | some (_, bits) => (.answered bits, register)
      | none => register.park owner condition (moment.deadline timeout) := by
  -- The register and the history look at the same bits and the same clock.
  unfold wait Moment.atOnce
  rw [shown]
  cases condition.matched register.bits with
  | some bits => rfl
  | none => cases timeout <;> simp [Moment.deadline, Agenda.deadline, clock]

namespace Waits

/-- The wait of a task has begun and was not looked after yet. -/
def begun (waits : Waits) (task : TaskId) (condition : Condition) (timeout : Timeout) : Waits :=
  let (state, register) := waits.register.wait waits.agenda task condition timeout
  { waits with register }.setStage task (.waiting state)

/-- Who stands where after one wait has come to a stage. -/
theorem setStage_eq (waits : Waits) (task : TaskId) (stage : WaitStage) :
    waits.setStage task stage =
      { waits with pending := Entries.adjust task ({ · with stage }) waits.pending } :=
  -- The entries are adjusted and nothing else is touched.
  rfl

/-- Looking after a wait does not depend on the stage that it is listed with. -/
theorem look_setStage (waits : Waits) (task : TaskId) (stage : WaitStage) (label : Nat) (state : Wait) :
    (waits.setStage task stage).look task label state = waits.look task label state := by
  -- The new stage is overwritten at once, or the entry is taken out.
  simp only [setStage_eq, look, remove, Entries.filter_adjust, Entries.adjust_adjust]
  rfl

/-- What the next turn lets happen: the task looks after its wait, which it calls before if it has not
run yet. -/
def inTurn (waits : Waits) : List Happening :=
  match waits.agenda.ready with
  | [] => []
  | task :: _ =>
    match waits.pending.lookup task with
    | some { stage := .called condition timeout, cancelled := false, .. } =>
      [.called task condition timeout, .looked task]
    | _ => [.looked task]

end Waits

namespace Faithful

/-- The wait of a task comes to a stage by its call, which parks it at most. -/
theorem stage (faithful : Faithful history waits) (member : (task, wait) ∈ waits.pending)
    {register : Register} (orderly : register.Orderly) (shown : register.bits = waits.register.bits)
    (lists : ∀ ticket owner condition,
      waits.register.Lists ticket owner condition → register.Lists ticket owner condition)
    (hands : ∀ ticket bits, waits.register.Hands ticket bits → register.Hands ticket bits)
    (tickets : waits.register.nextTicket ≤ register.nextTicket) {stage : WaitStage}
    (parks : ∀ ticket deadline, stage = .waiting (.parked ticket deadline) →
      ticket = waits.register.nextTicket ∧ ticket < register.nextTicket)
    (stands : Stands (history ++ [.called task condition timeout]) waits.agenda register task
      { wait with stage }) :
    Faithful (history ++ [.called task condition timeout])
      ({ waits with register }.setStage task stage) := by
  -- Every other entry stands as before, and there is one entry of this task.
  have others : ∀ {entry}, entry ∈ Entries.adjust task ({ · with stage }) waits.pending →
      (entry ∈ waits.pending ∧ entry.1 ≠ task) ∨ entry = (task, { wait with stage }) := by
    intro entry adjusted
    rcases Entries.mem_adjust.mp adjusted with kept | ⟨value, kept, rfl⟩
    · exact .inl kept
    · obtain rfl := faithful.unique member kept
      exact .inr rfl
  apply faithful.happens
  case clock => simpa [Waits.setStage, Moment.after] using faithful.clock
  case shown => simpa [Waits.setStage, Moment.after, shown] using faithful.shown
  case orderly => exact orderly
  case ticketed =>
    -- The ticket of this wait was not issued before.
    constructor
    · intro one first other second ticket holds holds'
      rcases others first with ⟨kept, apart⟩ | rfl <;> rcases others second with ⟨kept', apart'⟩ | rfl
      · exact faithful.ticketed.sole one kept other kept' ticket holds holds'
      · obtain ⟨deadline, parked⟩ := holds'
        have before := faithful.ticketed.issued one kept ticket holds
        exact absurd before ((parks ticket deadline parked).1 ▸ Nat.lt_irrefl _)
      · obtain ⟨deadline, parked⟩ := holds
        have before := faithful.ticketed.issued other kept' ticket holds'
        exact absurd before ((parks ticket deadline parked).1 ▸ Nat.lt_irrefl _)
      · rfl
    · intro entry adjusted ticket holds
      rcases others adjusted with ⟨kept, apart⟩ | rfl
      · exact Nat.lt_of_lt_of_le (faithful.ticketed.issued entry kept ticket holds) tickets
      · obtain ⟨deadline, parked⟩ := holds
        exact (parks ticket deadline parked).2
  case stands =>
    intro entry adjusted
    rcases others adjusted with ⟨kept, apart⟩ | rfl
    · have stands := (faithful.stands entry kept).append (.called task condition timeout) apart.symm
      exact stands.frame rfl id (fun ticket _ _ => lists ticket _ _) (fun ticket _ _ => hands ticket _)
    · exact stands
  case names => exact Entries.adjust_names task ({ · with stage }) waits.pending
  case ended => rfl
  case unused => rfl
  -- Only the one that is called hears of its call.
  case about =>
    intro other absent
    have apart : task ≠ other := by
      intro same
      subst same
      exact absent (List.mem_map_of_mem member)
    exact ⟨by simp [apart], by simp⟩

/-- A wait begins. -/
theorem begin (faithful : Faithful history waits) (member : (task, wait) ∈ waits.pending)
    (called : wait.stage = .called condition timeout) (live : wait.cancelled = false) :
    Faithful (history ++ [.called task condition timeout]) (waits.begun task condition timeout) := by
  -- A wait that is called has not run, so it is answered at once or parks.
  have stands : Stands history waits.agenda waits.register task wait := faithful.stands _ member
  cases stands with
  | cancelled => contradiction
  | answered | listed | handed => contradiction
  | uncalled condition' timeout' uncalled kept ready =>
    obtain ⟨rfl, rfl⟩ := WaitStage.called.inj called
    have keeps : .cancelled task ∉ history ++ [.called task condition' timeout'] := by
      simpa using kept
    have known : ¬ Uncalled task (history ++ [.called task condition' timeout']) := fun never =>
      never condition' timeout' (by simp)
    have answer := uncalled.answerFrom_called condition' timeout'
    have starts := Register.wait_eq faithful.clock faithful.shown task condition' timeout'
    cases immediate : (momentOf history).atOnce condition' timeout' with
    | some found =>
      -- The condition is met now, or the wait may only look: it has its answer at once.
      have now : found.1 = waits.agenda.now := (Moment.now_of_atOnce immediate).trans faithful.clock
      rw [immediate] at starts answer
      simp only [Waits.begun, starts]
      refine faithful.stage member faithful.orderly rfl (fun _ _ _ => id) (fun _ _ => id) (Nat.le_refl _)
        (by simp) ?_
      exact .answered found.2 known keeps ready (by rw [answer, ← now])
    | none =>
      rw [immediate] at starts answer
      -- The wait parks under a new ticket. Its deadline may be this very instant, but its turn is
      -- not over.
      have unmet := Moment.unmet_of_atOnce immediate
      rw [faithful.shown] at unmet
      have parked := uncalled.parked immediate
      have listed := waits.register.lists_park task condition' ((momentOf history).deadline timeout')
      simp only [Waits.begun, starts]
      refine faithful.stage member (faithful.orderly.park unmet task _) rfl
        (fun _ _ _ lists => lists.park task condition' _) (fun _ _ => id) (Nat.le_succ _) ?_ ?_
      · intro ticket deadline same
        cases same
        exact ⟨rfl, Nat.lt_succ_self _⟩
      · refine .listed condition' _ _ parked keeps listed (fun _ => ready) ?_ answer
        intro due same
        exact faithful.clock ▸ Moment.le_of_deadline same

/-- The wait of the task at the head of the line ends in its turn by giving its ticket up. -/
theorem giveUp (faithful : Faithful history waits) (line : waits.agenda.ready = task :: rest)
    (member : (task, wait) ∈ waits.pending) {ticket : Ticket} {deadline : Option Nat}
    (parked : wait.stage = .waiting (.parked ticket deadline)) {ended : List Ended}
    (ends : (ended = waits.ended ∧ .cancelled task ∈ history) ∨
      ∃ instant bits, ended = ⟨task, instant, bits⟩ :: waits.ended ∧
        outcome task (history ++ [.looked task]) = some (instant, bits)) :
    Faithful (history ++ [.looked task])
      ({ waits with register := waits.register.abandon (.parked ticket deadline), ended }.remove task) := by
  -- The other waits hold other tickets.
  refine faithful.leave line member (faithful.orderly.abandon (.parked ticket deadline)) rfl rfl ?_ ?_ ends
  · intro other foreign owner condition stood
    exact stood.abandon (BackgroundWait.ne_of_not_holds foreign parked) deadline
  · intro other foreign bits hands
    exact hands.abandon (BackgroundWait.ne_of_not_holds foreign parked) deadline

/-- The wait of the task at the head of the line is looked after. -/
theorem look (faithful : Faithful history waits) (line : waits.agenda.ready = task :: rest)
    (member : (task, wait) ∈ waits.pending) (waiting : wait.stage = .waiting state)
    (live : wait.cancelled = false) :
    Faithful (history ++ [.looked task]) (waits.look task wait.label state) := by
  -- Where the wait stands says what the look finds, and a look takes no answer back.
  have stands : Stands history waits.agenda waits.register task wait := faithful.stands _ member
  have keeps : ∀ {answer}, .cancelled task ∉ history → answerFrom task {} history = some answer →
      outcome task (history ++ [.looked task]) = some answer := fun kept answered =>
    outcome_append ((outcome_of_kept kept).trans answered) (by simp)
  cases stands with
  | cancelled | uncalled => contradiction
  | answered bits called kept ready answered =>
    obtain rfl := WaitStage.waiting.inj waiting
    simp only [Waits.look, Register.poll]
    refine faithful.leave line member faithful.orderly rfl rfl (fun _ _ _ _ => id) (fun _ _ _ => id)
      (.inr ⟨_, bits, rfl, keeps kept answered⟩)
  | listed condition ticket deadline parked kept lists prompt inTime unanswered =>
    obtain rfl := WaitStage.waiting.inj waiting
    have stays : .cancelled task ∉ history ++ [.looked task] := by
      simpa using kept
    -- The look answers the wait if its deadline is now.
    have answer := parked.answerFrom_append (.looked task)
    rw [unanswered, Option.none_or, Moment.granted, if_pos rfl,
      Moment.expiry_eq faithful.clock inTime] at answer
    cases reached : waits.agenda.reached deadline with
    | true =>
      rw [if_pos reached] at answer
      simp only [Waits.look, faithful.orderly.poll_due lists reached]
      exact faithful.giveUp line member rfl (.inr ⟨_, 0, rfl, (outcome_of_kept stays).trans answer⟩)
    | false =>
      rw [if_neg (by simp [reached])] at answer
      simp only [Waits.look, faithful.orderly.poll_open lists reached, Waits.setStage_eq]
      -- The stage is the one that the wait was listed with.
      rw [Entries.adjust_eq_self fun other member' => by rw [faithful.unique member member']]
      refine faithful.yield line fun other member' => ?_
      rw [faithful.unique member member']
      exact .listed condition ticket deadline (parked.append _) stays lists
        (fun come => absurd come (by simp [reached])) inTime answer
  | handed ticket deadline bits called kept hands ready answered =>
    obtain rfl := WaitStage.waiting.inj waiting
    -- The bits were handed over by a post, and are taken out of the hand.
    have orderly := faithful.orderly.poll waits.agenda (.parked ticket deadline)
    have polled : waits.register.poll waits.agenda (.parked ticket deadline) = _ :=
      faithful.orderly.poll_handed hands
    rw [polled] at orderly
    simp only [Waits.look, polled]
    refine faithful.leave line member orderly rfl rfl (fun _ _ _ _ => id) ?_
      (.inr ⟨_, bits, rfl, keeps kept answered⟩)
    intro other foreign bits given
    exact List.mem_filter.mpr ⟨given, by simpa using BackgroundWait.ne_of_not_holds foreign rfl⟩

/-- A cancelled wait takes its last turn. -/
theorem last (faithful : Faithful history waits) (line : waits.agenda.ready = task :: rest)
    (member : (task, wait) ∈ waits.pending) (marked : wait.cancelled = true) :
    Faithful (history ++ [.looked task]) (waits.turnOf task wait) := by
  -- A wait that parked gives its place in the list up; any other has none.
  have stands : Stands history waits.agenda waits.register task wait := faithful.stands _ member
  cases stands with
  | uncalled | answered | listed | handed => contradiction
  | cancelled stage given ready =>
    cases stage with
    | called condition timeout =>
      exact faithful.leave line member faithful.orderly rfl rfl (fun _ _ _ _ => id) (fun _ _ _ => id)
        (.inl ⟨rfl, given⟩)
    | waiting state =>
      cases state with
      | answered bits =>
        exact faithful.leave line member faithful.orderly rfl rfl (fun _ _ _ _ => id) (fun _ _ _ => id)
          (.inl ⟨rfl, given⟩)
      | parked ticket deadline => exact faithful.giveUp line member rfl (.inl ⟨rfl, given⟩)

/-- A wait that begins is looked after in the same turn. -/
theorem turnOf_called (called : wait.stage = .called condition timeout) (live : wait.cancelled = false) :
    waits.turnOf task wait =
      let state := (waits.register.wait waits.agenda task condition timeout).1
      (waits.begun task condition timeout).look task wait.label state := by
  -- The two halves of the turn meet at the stage that the call has led to.
  obtain ⟨label, stage, marked⟩ := wait
  obtain rfl := called
  obtain rfl := live
  simp only [Waits.begun, Waits.look_setStage]
  rfl

/-- The task at the head of the line takes its turn. -/
theorem turn (faithful : Faithful history waits) (turned : waits.turn? = some next) :
    Faithful (history ++ waits.inTurn) next := by
  -- A turn ends, looks or begins, and each of these has been shown to agree with the history.
  unfold Waits.turn? at turned
  split at turned
  · contradiction
  · rename_i task rest line
    simp only [Waits.inTurn, line]
    split at turned
    · -- Its wait has ended before.
      rename_i ended
      cases turned
      rw [ended]
      refine faithful.yield line fun wait member => ?_
      rw [faithful.lookup_iff.mpr member] at ended
      contradiction
    · rename_i wait found
      cases turned
      have member := faithful.lookup_iff.mp found
      rw [found]
      obtain ⟨label, stage, marked⟩ := wait
      cases marked with
      | true =>
        -- A wait that was cancelled before its call is not called any more.
        cases stage <;> exact faithful.last line member rfl
      | false =>
        cases stage with
        | waiting state => exact faithful.look line member rfl rfl
        | called condition timeout =>
          -- The call and the first look fall into one turn.
          rw [turnOf_called rfl rfl, List.append_cons]
          let stage : WaitStage := .waiting (waits.register.wait waits.agenda task condition timeout).1
          have listed : (task, { label, stage }) ∈
              Entries.adjust task ({ · with stage }) waits.pending :=
            Entries.mem_adjust.mpr (.inr ⟨_, member, rfl⟩)
          have looked := (faithful.begin member rfl rfl).look line listed rfl rfl
          exact looked

/-! ### The clock -/

/-- The clock moves while no task can run, and not past the next deadline. -/
theorem strike (faithful : Faithful history waits) (quiet : waits.agenda.ready = []) {instant : Nat}
    (stop : ∀ due, Timed.nextDue? waits = some due → instant ≤ due) :
    Faithful (history ++ [.passed instant]) (waits.strike instant) := by
  -- Nobody stands in line, so everybody waits, and those whose deadline has come are woken.
  apply faithful.happens
  case clock => simp [Waits.strike, Moment.after]
  case shown => simpa [Waits.strike, Moment.after] using faithful.shown
  case orderly => exact faithful.orderly
  case ticketed => exact ⟨faithful.ticketed.sole, faithful.ticketed.issued⟩
  case stands =>
    intro entry member
    apply (faithful.stands entry member).strike quiet
    case now => simp [Waits.strike]
    case next =>
      intro due deadline ahead
      -- The clock was not to pass the first deadline, so it passes none.
      have listed : some due ∈ waits.pending.map (·.2.deadline?) :=
        List.mem_map.mpr ⟨entry, member, deadline⟩
      obtain ⟨first, next⟩ := Agenda.nextOf_isSome listed ahead
      exact Nat.le_trans (stop first next) (Agenda.nextOf_le next listed ahead)
    -- Whoever has come to the deadline is among those who are called.
    case woken =>
      intro reached
      simp only [Waits.strike, Agenda.reached_wakeAll] at reached
      simp only [Waits.strike, Agenda.mem_wakeAll, List.mem_map, List.mem_filter]
      exact .inr ⟨entry, ⟨member, reached⟩, rfl⟩
  case names => rfl
  case ended => rfl
  case unused => simp [Waits.strike]
  case about => simp [Happening.Leaves]

end Faithful

end Uplink.Flags
