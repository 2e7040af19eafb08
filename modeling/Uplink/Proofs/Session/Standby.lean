import Uplink.Proofs.Session.Pending

/-! How a wait for a connection ends: it waits for the network, and from the turn that finds the network for the
session, each time with the whole timeout. -/

namespace Uplink.Session

open Flags (Timeout Wait)

variable {own : TaskId} {label : Nat} {timeout : Timeout} {states : Nat → Session} {length i j : Nat} {part : Part}

/-! ### What is seen of a part -/

/-- From one moment to another the bit of the part was set at some time; whoever was only to look looks at the first
moment. -/
def Sees (states : Nat → Session) (part : Part) (timeout : Timeout) (i j : Nat) : Prop :=
  (states i).Shows part ∨ timeout ≠ .noWait ∧ ∃ k, i ≤ k ∧ k ≤ j ∧ (states k).Shows part

/-- The time that a part has taken: none for whoever was only to look, none since the bit was set, and no more than
the timeout. -/
structure InTime (states : Nat → Session) (part : Part) (timeout : Timeout) (i j : Nat) : Prop where
  still : timeout = .noWait → (states j).agenda.now = (states i).agenda.now
  prompt : timeout ≠ .noWait → ∀ k, i ≤ k → k ≤ j → (states k).Shows part →
    (states j).agenda.now = (states k).agenda.now
  inTime : ∀ span, timeout = .after span → (states j).agenda.now ≤ (states i).agenda.now + span

/-- The part ends well: the bit was set in time, and the part ends at the instant at which it was set first. -/
structure Succeeds (states : Nat → Session) (part : Part) (timeout : Timeout) (i j : Nat) : Prop
    extends InTime states part timeout i j where
  heard : Sees states part timeout i j

/-- The part ends badly: the bit was not set all the time, and the part ends at once if the task was only to look, and
otherwise at its deadline. -/
structure Fails (states : Nat → Session) (part : Part) (timeout : Timeout) (i j : Nat) : Prop where
  unheard : ¬Sees states part timeout i j
  ends : timeout ≠ .forever
  still : timeout = .noWait → (states j).agenda.now = (states i).agenda.now
  due : ∀ span, timeout = .after span → (states j).agenda.now = (states i).agenda.now + span

/-- The part goes on: the bit was not set all the time, and the deadline is ahead. -/
structure Lingers (states : Nat → Session) (part : Part) (timeout : Timeout) (i j : Nat) : Prop where
  unheard : ¬Sees states part timeout i j
  lasts : timeout ≠ .noWait
  ahead : ∀ span, timeout = .after span → (states j).agenda.now < (states i).agenda.now + span

/-- What is seen in one moment more is what was seen before and what is seen then. -/
theorem sees_succ (order : i ≤ j) : Sees states part timeout i (j + 1) ↔
    Sees states part timeout i j ∨ timeout ≠ .noWait ∧ (states (j + 1)).Shows part := by
  -- A moment up to the next one is one before it, or is that one.
  constructor
  · rintro (first | ⟨lasts, k, from_i, to_j, shows⟩)
    · exact .inl (.inl first)
    · rcases Nat.le_succ_iff.mp to_j with inside | rfl
      · exact .inl (.inr ⟨lasts, k, from_i, inside, shows⟩)
      · exact .inr ⟨lasts, shows⟩
  · rintro ((first | ⟨lasts, k, from_i, to_j, shows⟩) | ⟨lasts, shows⟩)
    · exact .inl first
    · exact .inr ⟨lasts, k, from_i, by omega, shows⟩
    · exact .inr ⟨lasts, j + 1, by omega, Nat.le_refl _, shows⟩

/-- Where the clock stands still or moves on unheard to the deadline at most, the part stays within its time. -/
theorem InTime.succ (timely : InTime states part timeout i j)
    (clock : (states (j + 1)).agenda.now = (states j).agenda.now ∨ ¬Sees states part timeout i j ∧
      timeout ≠ .noWait ∧
      ∀ span, timeout = .after span → (states (j + 1)).agenda.now ≤ (states i).agenda.now + span) :
    InTime states part timeout i (j + 1) where
  -- A wait that may only look has its turn before the clock moves at all.
  still := fun once => by
    rcases clock with still | ⟨-, lasts, -⟩
    · exact still.trans (timely.still once)
    · exact absurd once lasts
  -- Whoever has heard of the bit has its turn before the clock moves.
  prompt := fun lasts k from_i to_j shows => by
    rcases Nat.le_succ_iff.mp to_j with inside | rfl
    · rcases clock with still | ⟨unheard, -⟩
      · exact still.trans (timely.prompt lasts k from_i inside shows)
      · exact absurd (.inr ⟨lasts, k, from_i, inside, shows⟩) unheard
    · rfl
  inTime := fun span lasts => by
    rcases clock with still | ⟨-, -, ahead⟩
    · exact still.trans_le (timely.inTime span lasts)
    · exact ahead span lasts

/-- A part that begins in a turn has taken no time. -/
theorem InTime.begun (still : (states (i + 1)).agenda.now = (states i).agenda.now) :
    InTime states part timeout i (i + 1) where
  -- Between the two moments no time passes, so whatever is said of it holds.
  still := fun _ => still
  prompt := fun _ k from_i to_j _ => by
    obtain rfl | rfl : k = i ∨ k = i + 1 := by omega
    · exact still
    · rfl
  inTime := fun span _ => by omega

/-- In a turn in which the bits stay as they are a part is seen to begin with what they show. -/
theorem sees_begun (same : (states i).Shows part ↔ (states (i + 1)).Shows part) :
    Sees states part timeout i (i + 1) ↔ (states (i + 1)).Shows part := by
  refine ⟨?_, fun shows => .inl (same.mpr shows)⟩
  -- Two moments are looked at, and they show the same.
  rintro (first | ⟨-, k, from_i, to_j, shows⟩)
  · exact same.mp first
  · obtain rfl | rfl : k = i ∨ k = i + 1 := by omega
    · exact same.mp shows
    · exact shows

/-! ### One part -/

/-- The part that began in the turn at one moment goes on at another. -/
def Underway (states : Nat → Session) (own : TaskId) (label : Nat) (timeout : Timeout) (part : Part) (i j : Nat) :
    Prop :=
  ∃ wait, (states j).Keeping own label (.connection (part.place timeout wait)) ∧
    (states j).Pending own part timeout (timeout.due (states i).agenda) (Sees states part timeout i j) wait ∧
    InTime states part timeout i j

/-- Where no task can run, the part has not been heard of, and its deadline is ahead. -/
theorem Pending.quiet {session : Session} {due : Option Nat} {heard : Prop} {wait : Wait}
    (pending : session.Pending own part timeout due heard wait) (quiet : session.turn? = none) :
    ¬heard ∧ timeout ≠ .noWait ∧ session.agenda.reached due = false ∧ ∃ ticket, wait = .parked ticket due := by
  -- Had it been heard of, the task would be in line, and so it would be with a deadline that has come.
  have asleep : own ∉ session.agenda.ready := by simp [ready_of_quiet quiet]
  have unheard : ¬heard := fun known => asleep (pending.met known).1
  rcases pending.unmet unheard with ⟨-, -, ready⟩ | ⟨lasts, alarm, ticket, parked, -⟩
  · exact absurd ready asleep
  · exact ⟨unheard, lasts, by simpa using mt alarm asleep, ticket, parked⟩

/-- The deadline of a wait has come once its span has passed. -/
theorem reached_due (first : Agenda) {last : Agenda} (span : Nat) (shown : last.now ≤ Agenda.horizon) :
    last.reached ((Timeout.after span).due first) = true ↔ first.now + span ≤ last.now := by
  -- A clock never shows a deadline that is beyond its horizon.
  by_cases fits : first.now + span ≤ Agenda.horizon
  · simp [Timeout.due, Agenda.deadline, Agenda.reached, fits]
  · simp only [Timeout.due, Agenda.deadline, Agenda.reached, if_neg fits]
    exact ⟨fun reached => Bool.noConfusion reached, fun passed => absurd (passed.trans shown) fits⟩

/-- The clock stands still, or moves on where the part has not been heard of, to its deadline at most. -/
theorem Underway.clock (underway : Underway states own label timeout part i j)
    (occurs : Occurs (· = own) (states j) (states (j + 1))) :
    (states (j + 1)).agenda.now = (states j).agenda.now ∨ ¬Sees states part timeout i j ∧ timeout ≠ .noWait ∧
      ∀ span, timeout = .after span → (states (j + 1)).agenda.now ≤ (states i).agenda.now + span := by
  obtain ⟨wait, keeping, pending, timely⟩ := underway
  rcases occurs.now with still | ⟨quiet, later, shown, next⟩
  · exact .inl still
  · obtain ⟨unheard, lasts, early, ticket, rfl⟩ := pending.quiet quiet
    refine .inr ⟨unheard, lasts, ?_⟩
    rintro span rfl
    -- The next deadline of all is not later than the one of this task.
    by_cases fits : (states i).agenda.now + span ≤ Agenda.horizon
    · have due : (Timeout.after span).due (states i).agenda = some ((states i).agenda.now + span) := if_pos fits
      rw [due] at early keeping
      have ahead : (states j).agenda.now < (states i).agenda.now + span := by simpa [Agenda.reached] using early
      have member : some ((states i).agenda.now + span) ∈
          (states j).tasks.map fun entry => entry.2.job.deadline? := by
        refine List.mem_map.mpr ⟨_, Entries.mem_of_lookup keeping.stands, ?_⟩
        exact part.deadline_place _ _
      obtain ⟨due, first⟩ := Agenda.nextOf_isSome member ahead
      exact (next due first).trans (Agenda.nextOf_le first member ahead)
    · omega

/-- What comes of a part that goes on: it still does, or the task takes its turn and ends it. -/
inductive Leads (states : Nat → Session) (own : TaskId) (label : Nat) (timeout : Timeout) (part : Part)
    (i j : Nat) : Prop where
  | goes_on (underway : Underway states own label timeout part i (j + 1))
  | crosses (first : part = .network) (succeeds : Succeeds states part timeout i j)
      (head : (states j).agenda.ready.head? = some own) (turned : (states j).turn? = some (states (j + 1)))
      (begun : Underway states own label timeout .session j (j + 1))
  | connected (last : part = .session) (succeeds : Succeeds states part timeout i j)
      (turned : (states j).turn? = some (states (j + 1)))
      (answers : (states j).Answers (states (j + 1)) own label true)
  | fails (fails : Fails states part timeout i j) (turned : (states j).turn? = some (states (j + 1)))
      (answers : (states j).Answers (states (j + 1)) own label false)

/-- Whatever happens next, a part goes on or ends as it should. -/
theorem Underway.leads (underway : Underway states own label timeout part i j) (order : i ≤ j)
    (occurs : Occurs (· = own) (states j) (states (j + 1))) : Leads states own label timeout part i j := by
  have clock := underway.clock occurs
  obtain ⟨wait, keeping, pending, earlier⟩ := underway
  have timely := earlier.succ clock
  rcases keeping.occurs occurs with ⟨turned, head⟩ | ⟨liberty, middle, moves, tidings, after⟩
  · -- In its own turn the part is found, given up, or waits on.
    cases pending.turned keeping head turned with
    | crosses known first begun _ _ same =>
      obtain ⟨wait', keeping', pending'⟩ := begun
      refine .crosses first ⟨earlier, known⟩ head turned ⟨wait', keeping', ?_, .begun (now_turn turned)⟩
      rw [propext (sees_begun (same .session))]
      exact pending'
    | connected known last answers => exact .connected last ⟨earlier, known⟩ turned answers
    | expired unheard closes answers =>
      refine .fails ⟨unheard, ?_, earlier.still, ?_⟩ turned answers
      · rintro rfl
        rcases closes with once | ⟨-, reached⟩
        · cases once
        · cases reached
      · rintro span rfl
        rcases closes with once | ⟨-, reached⟩
        · cases once
        · -- The deadline has come, and no later instant has.
          exact Nat.le_antisymm (earlier.inTime span rfl) ((reached_due _ span keeping.sound.clock).mp reached)
    | parked unheard lasts keeping' pending' same =>
      refine .goes_on ⟨wait, keeping', ?_, timely⟩
      -- The bit is not set now either, as the turn is no matter of the bits.
      have dark : ¬(states (j + 1)).Shows part :=
        fun shows => unheard (.inr ⟨lasts, j, order, Nat.le_refl j, (same part).mpr shows⟩)
      have none : Sees states part timeout i (j + 1) ↔ Sees states part timeout i j :=
        (sees_succ order).trans (or_iff_left fun news => dark news.2)
      rw [propext none]
      exact pending'
  · -- What the others do may raise the bit, and the part has heard of it then.
    refine .goes_on ⟨wait, ?_, ?_, timely⟩
    · have sound := keeping.sound.occurs occurs
      rw [after] at sound ⊢
      exact keeping.beside moves sound
    · have sound := keeping.sound.occurs occurs
      rw [propext (sees_succ order)]
      rw [after] at sound ⊢
      exact pending.beside keeping moves tidings sound

/-! ### The whole wait -/

/-- A wait for a connection from the call on: what has happened so far, while the task is there and nobody cancels
it. -/
structure Standby (own : TaskId) (label : Nat) (timeout : Timeout) (states : Nat → Session) (length : Nat) :
    Prop where
  opening : ∃ session : Session, session.Arises ∧ own = session.agenda.unused ∧
    states 0 = (session.act (.await label .connection timeout)).2
  next : ∀ i < length, Occurs (· = own) (states i) (states (i + 1))
  waits : ∀ i ≤ length, (states i).tasks.lookup own ≠ none

/-- The task stands in this part of its wait. -/
def At (session : Session) (own : TaskId) (label : Nat) (timeout : Timeout) (part : Part) : Prop :=
  ∃ wait, session.Stands own label (.connection (part.place timeout wait))

/-- The task takes the turn at this moment. -/
def Takes (states : Nat → Session) (own : TaskId) (i : Nat) : Prop :=
  (states i).agenda.ready.head? = some own ∧ (states i).turn? = some (states (i + 1))

/-- In the turn at this moment, at the instant of the call, the task begins to wait for the network. -/
structure Calls (states : Nat → Session) (own : TaskId) (label : Nat) (timeout : Timeout) (i : Nat) : Prop where
  called : (states i).Stands own label (.called .connection timeout)
  atOnce : (states i).agenda.now = (states 0).agenda.now
  takes : Takes states own i
  begins : (states (i + 1)).At own label timeout .network

/-- In the turn at this moment the task comes from its wait for the network to the one for the session. -/
structure Crosses (states : Nat → Session) (own : TaskId) (label : Nat) (timeout : Timeout) (i : Nat) : Prop where
  waits : (states i).At own label timeout .network
  takes : Takes states own i
  begins : (states (i + 1)).At own label timeout .session

/-- The answer of a wait that began in the turn at one moment and ends in the one at another: no, if no network was
found or, after that, no session that is ready; yes, if both were found. -/
inductive Concludes (states : Nat → Session) (own : TaskId) (label : Nat) (timeout : Timeout) (call j : Nat) :
    Bool → Prop where
  | unconnected (fails : Fails states .network timeout call j) : Concludes states own label timeout call j false
  | unready {resumed : Nat} (below : call < resumed) (before : resumed < j)
      (crosses : Crosses states own label timeout resumed)
      (succeeds : Succeeds states .network timeout call resumed)
      (fails : Fails states .session timeout resumed j) : Concludes states own label timeout call j false
  | ready {resumed : Nat} (below : call < resumed) (before : resumed < j)
      (crosses : Crosses states own label timeout resumed)
      (succeeds : Succeeds states .network timeout call resumed)
      (ends : Succeeds states .session timeout resumed j) : Concludes states own label timeout call j true

/-- A wait that began in the turn at one moment goes on at another: either no network was found yet, or no session
that is ready after that. -/
inductive Outlasts (states : Nat → Session) (own : TaskId) (label : Nat) (timeout : Timeout) (call j : Nat) :
    Prop where
  | network (lingers : Lingers states .network timeout call j)
  | session {resumed : Nat} (below : call < resumed) (before : resumed < j)
      (crosses : Crosses states own label timeout resumed)
      (succeeds : Succeeds states .network timeout call resumed)
      (lingers : Lingers states .session timeout resumed j)

/-- How far the wait has come. -/
inductive Stage (states : Nat → Session) (own : TaskId) (label : Nat) (timeout : Timeout) (j : Nat) : Prop where
  | called (keeping : (states j).Keeping own label (.called .connection timeout))
      (ready : own ∈ (states j).agenda.ready) (still : (states j).agenda.now = (states 0).agenda.now)
  | network {call : Nat} (below : call < j) (calls : Calls states own label timeout call)
      (underway : Underway states own label timeout .network call j)
  | session {call resumed : Nat} (below : call < resumed) (before : resumed < j)
      (calls : Calls states own label timeout call) (crosses : Crosses states own label timeout resumed)
      (succeeds : Succeeds states .network timeout call resumed)
      (underway : Underway states own label timeout .session resumed j)

/-- The call leaves a task at the beginning of its wait. -/
theorem Arises.calls {session : Session} (arises : session.Arises) (label : Nat) (what : Awaited)
    (timeout : Timeout) :
    (session.act (.await label what timeout)).2.Keeping session.agenda.unused label (.called what timeout) ∧
      session.agenda.unused ∈ (session.act (.await label what timeout)).2.agenda.ready where
  left := {
    sound := by
      -- A call cancels nobody.
      have happens : Occurs (fun _ => False) session (session.act (.await label what timeout)).2 := .act nofun
      exact arises.sound.occurs happens
    stands := lookup_spawn arises.sound.numbered (.await label (.called what timeout))
    unhired := fun runs => Nat.lt_irrefl _ (arises.sound.hired _ runs)
    apart := fun _ _ holds => holds.elim }
  -- A new task is put in line at once.
  right := Agenda.mem_wakeAll.mpr (.inl (List.mem_append_right _ (List.mem_singleton.mpr rfl)))

/-- The wait begins with the call. -/
theorem Standby.stage_zero (standby : Standby own label timeout states length) :
    Stage states own label timeout 0 := by
  -- The call is what the standby opens with.
  obtain ⟨session, arises, rfl, opening⟩ := standby.opening
  obtain ⟨keeping, ready⟩ := arises.calls label .connection timeout
  exact .called (opening ▸ keeping) (opening ▸ ready) rfl

/-- However far the wait has come, the task is there. -/
theorem Stage.listed (stage : Stage states own label timeout j) : (states j).tasks.lookup own ≠ none := by
  -- Each of the stages has the task at its wait.
  rcases stage with ⟨keeping, -, -⟩ | ⟨-, -, wait, keeping, -⟩ | ⟨-, -, -, -, -, wait, keeping, -⟩ <;>
    exact Option.ne_none_iff_exists'.mpr ⟨_, keeping.stands⟩

/-- Whatever happens next, the wait goes on, or ends as it should. -/
theorem Stage.succ (stage : Stage states own label timeout j)
    (occurs : Occurs (· = own) (states j) (states (j + 1))) :
    Stage states own label timeout (j + 1) ∨
      ∃ call < j, Calls states own label timeout call ∧ (states (j + 1)).agenda.now = (states j).agenda.now ∧
        ∃ answer, (states j).Answers (states (j + 1)) own label answer ∧
          Concludes states own label timeout call j answer := by
  cases stage with
  | called keeping ready still =>
    -- The call does not end the wait, and the clock stands still until its turn comes.
    refine .inl ?_
    have now : (states (j + 1)).agenda.now = (states j).agenda.now := by
      rcases occurs.now with same | ⟨quiet, -⟩
      · exact same
      · simp [ready_of_quiet quiet] at ready
    rcases keeping.occurs occurs with ⟨turned, head⟩ | ⟨liberty, middle, moves, -, after⟩
    · obtain ⟨⟨wait, keeping', pending⟩, -, -, same⟩ := keeping.calls head turned
      have underway : Underway states own label timeout .network j (j + 1) := by
        refine ⟨wait, keeping', ?_, .begun now⟩
        rw [propext (sees_begun (same .network))]
        exact pending
      exact .network (Nat.lt_succ_self j) ⟨keeping.stands, still, ⟨head, turned⟩, wait, keeping'.stands⟩ underway
    · have sound := keeping.sound.occurs occurs
      have stays : own ∈ middle.flush.agenda.ready := Agenda.mem_wakeAll.mpr (.inl (moves.ready own rfl ready))
      rw [after] at sound
      exact .called (after ▸ keeping.beside moves sound) (after ▸ stays) (now.trans still)
  | @network call below calls underway =>
    cases underway.leads (Nat.le_of_lt below) occurs with
    | goes_on onward => exact .inl (.network (by omega) calls onward)
    | crosses _ succeeds head turned begun =>
      obtain ⟨wait, keeping, -⟩ := underway
      obtain ⟨wait', keeping', -⟩ := id begun
      have crosses : Crosses states own label timeout j :=
        ⟨⟨wait, keeping.stands⟩, ⟨head, turned⟩, ⟨wait', keeping'.stands⟩⟩
      exact .inl (.session below (Nat.lt_succ_self j) calls crosses succeeds begun)
    -- The network is the first part, so it cannot be the end.
    | connected last => cases last
    | fails fails turned answers =>
      exact .inr ⟨call, below, calls, now_turn turned, false, answers, .unconnected fails⟩
  | @session call resumed below before calls crosses succeeds underway =>
    cases underway.leads (Nat.le_of_lt before) occurs with
    | goes_on onward => exact .inl (.session below (by omega) calls crosses succeeds onward)
    -- And the session is the second one.
    | crosses first => cases first
    | connected _ well turned answers =>
      exact .inr ⟨call, below.trans before, calls, now_turn turned, true, answers,
        .ready below before crosses succeeds well⟩
    | fails fails turned answers =>
      exact .inr ⟨call, below.trans before, calls, now_turn turned, false, answers,
        .unready below before crosses succeeds fails⟩

/-- While the task is there its wait is as far as it should be. -/
theorem Standby.stage (standby : Standby own label timeout states length) : ∀ j ≤ length,
    Stage states own label timeout j := by
  -- Induction on what has happened; whoever has ended is not there any more.
  intro j within
  induction j with
  | zero => exact standby.stage_zero
  | succ j ih =>
    rcases (ih (by omega)).succ (standby.next j (by omega)) with onward | ⟨_, -, -, -, _, answers, -⟩
    · exact onward
    · exact absurd answers.gone (standby.waits (j + 1) within)

/-- Where no task can run, the deadline of the part that goes on is ahead. -/
theorem Underway.lingers (underway : Underway states own label timeout part i j)
    (quiet : (states j).turn? = none) : Lingers states part timeout i j := by
  obtain ⟨wait, keeping, pending, -⟩ := underway
  obtain ⟨unheard, lasts, early, -⟩ := pending.quiet quiet
  refine ⟨unheard, lasts, ?_⟩
  rintro span rfl
  -- A deadline that has come would have called the task.
  have ahead := mt (reached_due (states i).agenda span keeping.sound.clock).mpr
  exact Nat.lt_of_not_le (ahead (by simp [early]))

/-- Whoever stands at the head of the line has a turn. -/
theorem turns_of_head {session : Session} (head : session.agenda.ready.head? = some own) :
    ∃ after, session.turn? = some after := by
  -- In a session without a turn the line is empty.
  refine Option.ne_none_iff_exists'.mp fun quiet => ?_
  simp [ready_of_quiet quiet] at head

/-- A wait that is only to look has its answer after three turns at most, at the same instant. -/
theorem Keeping.answers_at_once {session : Session}
    (keeping : session.Keeping own label (.called .connection .noWait))
    (head : session.agenda.ready.head? = some own) :
    ∃ turns ≤ 3, ∃ answer, session.Answers (Timed.settle turns session) own label answer ∧
      (Timed.settle turns session).agenda.now = session.agenda.now ∧
      (answer = true ↔ session.Shows .network ∧ session.Shows .session) := by
  -- The first turn begins to look at the network.
  obtain ⟨first, turned⟩ := turns_of_head head
  obtain ⟨⟨wait, keeping', pending⟩, head', reports, same⟩ := keeping.calls head turned
  obtain ⟨second, turned'⟩ := turns_of_head head'
  have now : second.agenda.now = session.agenda.now := (now_turn turned').trans (now_turn turned)
  have settled : Timed.settle 2 session = second := by
    rw [Timed.settle_of_turn turned, Timed.settle_of_turn turned']
    rfl
  cases pending.turned keeping' head' turned' with
  | crosses known _ begun head'' reports' same' =>
    -- The second one finds the network and begins to look at the session, and the third one has looked at both.
    obtain ⟨wait', keeping'', pending'⟩ := begun
    obtain ⟨third, turned''⟩ := turns_of_head head''
    have settled' : Timed.settle 3 session = third := by
      rw [Timed.settle_of_turn turned, Timed.settle_of_turn turned', Timed.settle_of_turn turned'']
      rfl
    have still : (Timed.settle 3 session).agenda.now = session.agenda.now :=
      settled' ▸ (now_turn turned'').trans now
    have ready : session.Shows .session ↔ second.Shows .session := (same .session).trans (same' .session)
    have connected := (same .network).mpr known
    have before : second.reports = session.reports := reports'.trans reports
    cases pending'.turned keeping'' head'' turned'' with
    | crosses _ first => cases first
    | connected shows _ answers =>
      refine ⟨3, Nat.le_refl 3, true, ?_, still, by simp [connected, ready.mpr shows]⟩
      rw [settled']
      exact ⟨answers.gone, before ▸ answers.reports⟩
    | expired dark _ answers =>
      refine ⟨3, Nat.le_refl 3, false, ?_, still, by simp [ready, dark]⟩
      rw [settled']
      exact ⟨answers.gone, before ▸ answers.reports⟩
    -- A look that is to end at once does not park.
    | parked _ lasts => exact absurd rfl lasts
  | connected _ last => cases last
  | expired dark _ answers =>
    refine ⟨2, by decide, false, ?_, settled ▸ now, by simp [same, dark]⟩
    rw [settled]
    exact ⟨answers.gone, reports ▸ answers.reports⟩
  | parked _ lasts => exact absurd rfl lasts

/-- A wait for a connection waits for the network, and from the turn that finds the network for the session, each time
with the whole timeout. It ends well at the instant at which the session is ready for the first time in the second
part, and badly at the deadline of the part in which nothing was found; what was lost after it was found, and that a
session was dropped, makes no difference. Where no task can run it goes on only while nothing was found and the
deadline is ahead. Whoever is only to look has the answer at once. -/
theorem Standby.network_then_session (standby : Standby own label timeout states length) :
    (Occurs (· = own) (states length) (states (length + 1)) → (states (length + 1)).tasks.lookup own = none →
      ∃ call < length, Calls states own label timeout call ∧
        (states (length + 1)).agenda.now = (states length).agenda.now ∧
        ∃ answer, (states length).Answers (states (length + 1)) own label answer ∧
          Concludes states own label timeout call length answer) ∧
    ((states length).turn? = none → ∃ call < length, Calls states own label timeout call ∧
      Outlasts states own label timeout call length) ∧
    (timeout = .noWait → (states length).Stands own label (.called .connection timeout) →
      (states length).agenda.ready.head? = some own →
      ∃ turns ≤ 3, ∃ answer, (states length).Answers (Timed.settle turns (states length)) own label answer ∧
        (Timed.settle turns (states length)).agenda.now = (states length).agenda.now ∧
        (answer = true ↔ (states length).Shows .network ∧ (states length).Shows .session)) := by
  have stage := standby.stage length (Nat.le_refl length)
  refine ⟨fun occurs gone => ?_, fun quiet => ?_, ?_⟩
  · rcases stage.succ occurs with onward | ends
    · exact absurd gone onward.listed
    · exact ends
  · cases stage with
    | called keeping ready still => simp [ready_of_quiet quiet] at ready
    | @network call below calls underway => exact ⟨call, below, calls, .network (underway.lingers quiet)⟩
    | @session call resumed below before calls crosses succeeds underway =>
      exact ⟨call, below.trans before, calls, .session below before crosses succeeds (underway.lingers quiet)⟩
  · rintro rfl stands head
    -- Only a task that is about to call stands at the beginning.
    cases stage with
    | called keeping ready still => exact keeping.answers_at_once head
    | network _ _ underway | session _ _ _ _ _ underway =>
      obtain ⟨wait, keeping, -⟩ := underway
      cases stands.symm.trans keeping.stands

/-- A turn of whoever stands at the head of the line can happen. -/
theorem Occurs.settle {spared : TaskId → Prop} {session : Session} (busy : session.turn?.isSome = true) :
    Occurs spared session (Timed.settle 1 session) := by
  -- The settling takes the one turn that there is.
  obtain ⟨after, turned⟩ := Option.isSome_iff_exists.mp busy
  rw [Timed.settle_of_turn turned]
  exact .turn turned

/-- What is done from outside to a device that can come about leads to one that can, unless a task is cancelled. -/
theorem Arises.act {session : Session} (arises : session.Arises) (action : Action) :
    (session.act action).2.Arises := by
  -- The action is put at the end of the path; it spares nobody in particular.
  obtain ⟨config, messages, cloud, modem, path⟩ := arises
  exact ⟨config, messages, cloud, modem, path.tail (.act fun _ _ _ _ => id)⟩

/-- What its tasks do leads to a device that can come about. -/
theorem Arises.settle {session : Session} (arises : session.Arises) (turns : Nat) :
    (Timed.settle turns session).Arises := by
  -- Induction on the turns.
  induction turns generalizing session with
  | zero => exact arises
  | succ turns ih =>
    cases turned : session.turn? with
    | none =>
      have quiet : Timed.turn? session = none := turned
      rw [Timed.settle_of_quiet quiet]
      exact arises
    | some next =>
      obtain ⟨config, messages, cloud, modem, path⟩ := arises
      rw [Timed.settle_of_turn turned]
      exact ih ⟨config, messages, cloud, modem, path.tail (.turn turned)⟩

/-- A wait for a connection ends well although the network and the session are lost again before the task gets its
turn. -/
theorem found_network_and_session_may_be_lost :
    ∃ (own : TaskId) (states : Nat → Session) (length : Nat), Standby own 1 (.after 1000) states length ∧
      Occurs (· = own) (states length) (states (length + 1)) ∧
      (states (length + 1)).tasks.lookup own = none ∧
      ¬(states length).Shows .network ∧ ¬(states length).Shows .session ∧
      ∃ call < length, Calls states own 1 (.after 1000) call ∧
        (states length).Answers (states (length + 1)) own 1 true ∧
        Concludes states own 1 (.after 1000) call length true := by
  let first : Session := { ofConfig (.ofAppVersion "1.0.0") 0 with cloud := {}, modem := {} }
  have arises : first.Arises := ⟨.ofAppVersion "1.0.0", 0, {}, {}, .refl⟩
  let called := (first.act (.await 1 .connection (.after 1000))).2
  let begun := Timed.settle 1 called
  let found := ((Timed.settle 1 begun).act (.link (.registration .registeredHome))).2
  let lost := (found.act (.link (.registration .searching))).2
  let onward := Timed.settle 1 lost
  let ready := ((Timed.settle 1 onward).act (.cloud .ready)).2
  let dropped := (ready.act (.reset .cloud)).2
  -- The network is found and lost before the turn of the wait, and so is the session.
  let states : Nat → Session
    | 0 => called
    | 1 => begun
    | 2 => Timed.settle 1 begun
    | 3 => found
    | 4 => lost
    | 5 => onward
    | 6 => Timed.settle 1 onward
    | 7 => ready
    | 8 => dropped
    | _ => Timed.settle 1 dropped
  have there : ∀ i < 9, ((states i).tasks.lookup 0).isSome = true := by decide +kernel
  -- Each state follows from the one before.
  have standby : Standby 0 1 (.after 1000) states 8 := by
    refine ⟨⟨first, arises, rfl, rfl⟩, fun i below => ?_, fun i within => ?_⟩
    · match i, below with
      | 0, _ | 1, _ | 4, _ | 5, _ => exact .settle (by decide +kernel)
      | 2, _ | 3, _ | 6, _ | 7, _ => exact .act nofun
    · exact Option.isSome_iff_ne_none.mp (there i (by omega))
  have last : Occurs (· = 0) (states 8) (states 9) := .settle (by decide +kernel)
  have gone : (states 9).tasks.lookup 0 = none := Option.isNone_iff_eq_none.mp (by decide +kernel)
  obtain ⟨call, below, calls, -, answer, answers, ends⟩ := standby.network_then_session.1 last gone
  -- Nevertheless the answer is yes.
  have said : (states 9).reports.head?.map (·.answer) = some true := by decide +kernel
  rw [answers.reports] at said
  obtain rfl : answer = true := by simpa using said
  exact ⟨0, states, 8, standby, last, gone, by decide +kernel, by decide +kernel, call, below, calls, answers, ends⟩

/-- A network that is found at the very instant of the deadline, before the task gets its turn, is found in time,
although there was none at any instant before. -/
theorem network_found_at_deadline_counts :
    ∃ (own : TaskId) (states : Nat → Session) (length call : Nat), Standby own 1 (.after 1000) states length ∧
      Calls states own 1 (.after 1000) call ∧ call < length ∧
      (∀ k ≤ length, (states k).agenda.now < (states call).agenda.now + 1000 → ¬(states k).Shows .network) ∧
      Occurs (· = own) (states length) (states (length + 1)) ∧
      (states length).Answers (states (length + 1)) own 1 true := by
  -- The modem takes as long to attach as the task waits for the network, and gets its turn before it.
  let device : Session :=
    { ofConfig (.ofAppVersion "1.0.0") 0 with cloud := {}, modem := { pause := some 1000 } }
  have arises : device.Arises := ⟨.ofAppVersion "1.0.0", 0, {}, { pause := some 1000 }, .refl⟩
  let attaching := Timed.settle 2 (device.act .connectModem).2
  have attaches : (attaching.act (.cloud .ready)).2.Arises := ((arises.act .connectModem).settle 2).act _
  let called := ((attaching.act (.cloud .ready)).2.act (.await 1 .connection (.after 1000))).2
  let begun := Timed.settle 1 called
  let due := (Timed.settle 1 begun).strike 1000
  let attached := Timed.settle 1 (Timed.settle 1 due)
  let states : Nat → Session
    | 0 => called
    | 1 => begun
    | 2 => Timed.settle 1 begun
    | 3 => due
    | 4 => Timed.settle 1 due
    | 5 => attached
    | 6 => Timed.settle 1 attached
    | _ => Timed.settle 1 (Timed.settle 1 attached)
  have own : (attaching.act (.cloud .ready)).2.agenda.unused = 1 := by decide +kernel
  have there : ∀ i < 7, ((states i).tasks.lookup 1).isSome = true := by decide +kernel
  -- The clock strikes once, at the instant of both deadlines.
  have standby : Standby 1 1 (.after 1000) states 6 := by
    refine ⟨⟨_, attaches, own.symm, rfl⟩, fun i below => ?_, fun i within => ?_⟩
    · match i, below with
      | 0, _ | 1, _ | 3, _ | 4, _ | 5, _ => exact .settle (by decide +kernel)
      | 2, _ =>
        have next : Timed.nextDue? (Timed.settle 1 begun) = some 1000 := by decide +kernel
        refine .strike 1000 (Option.isNone_iff_eq_none.mp (by decide +kernel)) (by decide +kernel)
          (by decide +kernel) fun instant first => ?_
        exact Nat.le_of_eq (Option.some.inj (next.symm.trans first))
    · exact Option.isSome_iff_ne_none.mp (there i (by omega))
  have last : Occurs (· = 1) (states 6) (states 7) := .settle (by decide +kernel)
  have gone : (states 7).tasks.lookup 1 = none := Option.isNone_iff_eq_none.mp (by decide +kernel)
  obtain ⟨call, below, calls, -, answer, answers, -⟩ := standby.network_then_session.1 last gone
  have said : (states 7).reports.head?.map (·.answer) = some true := by decide +kernel
  rw [answers.reports] at said
  obtain rfl : answer = true := by simpa using said
  -- There was no network at any instant before.
  have dark : ∀ k < 7, (states k).agenda.now < 1000 → ¬(states k).Shows .network := by decide +kernel
  have start : (states call).agenda.now = 0 := calls.atOnce.trans (by decide +kernel)
  refine ⟨1, states, 6, call, standby, calls, below, fun k within early => ?_, last, answers⟩
  exact dark k (by omega) (by omega)

end Uplink.Session
