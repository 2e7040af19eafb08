import Uplink.Proofs.Session.Company

/-! A task that waits for a connection among everything else: where it is in its wait, and what it has heard of. -/

namespace Uplink

open Flags (Condition Register Ticket Timeout Wait)

/-! ### The two parts of a wait for a connection -/

/-- The deadline of a wait that begins now. -/
def Flags.Timeout.due (agenda : Agenda) : Timeout → Option Nat
  | .after span => agenda.deadline span
  | .forever | .noWait => none

/-- A wait for a connection waits for the network, and then for the session. -/
inductive Part where
  | network
  | session
deriving DecidableEq

namespace Part

/-- The register that this part waits on. -/
def register : Part → RegisterName
  | network => .network
  | session => .cloud

/-- The one bit that this part waits for. -/
def bit : Part → UInt32
  | network => Network.connected
  | session => Cloud.ready

/-- The condition that this part waits for. -/
def condition : Part → Condition
  | network => .all Network.connected
  | session => .any Cloud.ready

/-- Where a wait for a connection stands in this part. -/
def place (timeout : Timeout) (wait : Wait) : Part → ConnectionWait
  | network => .network timeout wait
  | session => .session wait

variable {part : Part} {bits answer : UInt32}

/-- The bit is the answer if it is set, and there is no other. -/
theorem matched (part : Part) (bits : UInt32) :
    part.condition.matched bits = if bits &&& part.bit ≠ 0 then some part.bit else none := by
  -- Of a single bit either nothing or the whole is set.
  cases part with
  | network =>
    have some : Network.connected ≠ 0 := by decide
    rcases Flags.single_bit bits (by decide : Network.connected.toNat = 2 ^ 1) with none | whole
    · simp [condition, bit, Condition.matched, none, some.symm]
    · simp [condition, bit, Condition.matched, whole, some]
  | session =>
    rcases Flags.single_bit bits (by decide : Cloud.ready.toNat = 2 ^ 2) with none | whole
    · simp [condition, bit, Condition.matched, none]
    · simp [condition, bit, Condition.matched, whole]

/-- The condition is one that no event answers with bits that it clears again. -/
theorem sought (part : Part) : Session.Sought part.register part.condition := by
  -- On the network any condition is sought, and on the cloud register this one is.
  cases part with
  | network => trivial
  | session => exact .inr rfl

/-- The part holds its wait alone. -/
theorem holds_place (part : Part) (timeout : Timeout) (wait : Wait) (name : RegisterName) (ticket : Ticket) :
    (part.place timeout wait).Holds name ticket ↔ name = part.register ∧ wait.Has ticket := by
  -- One case for each part.
  cases part <;> rfl

/-- The deadline of the part is that of its wait. -/
@[simp] theorem deadline_place (part : Part) (timeout : Timeout) (wait : Wait) :
    (part.place timeout wait).deadline? = wait.deadline? := by
  -- One case for each part.
  cases part <;> rfl

end Part

namespace Session

variable {session before middle after : Session} {own : TaskId} {rest : List TaskId} {label : Nat} {part : Part}
  {timeout : Timeout} {due : Option Nat} {heard : Prop} {wait : Wait} {awaiting onward : Awaiting}

/-- The bit of this part is set. -/
def Shows (session : Session) (part : Part) : Prop :=
  (session.connection.register part.register).isSet part.bit = true

/-- Whether the bit is set can be looked up. -/
instance (session : Session) (part : Part) : Decidable (session.Shows part) :=
  inferInstanceAs (Decidable ((session.connection.register part.register).isSet part.bit = true))

/-- What is shown is the answer to those who wait for it, and otherwise they have none. -/
theorem matched_iff_shows : session.Shows part ↔
    part.condition.matched (session.connection.register part.register).bits = some part.bit := by
  -- The condition of a part asks for its bit and for nothing else.
  rw [part.matched, Shows, Register.isSet]
  split <;> simp_all

/-- Whoever waits for a part in a register in order is not shown it. -/
theorem not_shows_of_lists (ordered : ∀ name, (session.connection.register name).Orderly) {ticket : Ticket}
    (listed : (session.connection.register part.register).Lists ticket own part.condition) : ¬session.Shows part := by
  -- Whoever is in the list has a condition that is not met.
  intro shows
  have unmet := (ordered part.register).unmet _ listed rfl
  rw [matched_iff_shows.mp shows] at unmet
  cases unmet

/-! ### What the task has heard of -/

/-- The task has heard that the bit of this part was set, has the answer and stands in line; or it has not heard so.
Then it stands in line with no answer if it was only to look, and otherwise waits in the list and stands in line once
the deadline has come. -/
structure Pending (session : Session) (own : TaskId) (part : Part) (timeout : Timeout) (due : Option Nat)
    (heard : Prop) (wait : Wait) : Prop where
  met : heard → own ∈ session.agenda.ready ∧ (wait = .answered part.bit ∨ ∃ ticket deadline,
    wait = .parked ticket deadline ∧ (session.connection.register part.register).Hands ticket part.bit)
  unmet : ¬heard →
    (timeout = .noWait ∧ wait = .answered 0 ∧ own ∈ session.agenda.ready) ∨
    (timeout ≠ .noWait ∧ (session.agenda.reached due = true → own ∈ session.agenda.ready) ∧
      ∃ ticket, wait = .parked ticket due ∧
        (session.connection.register part.register).Lists ticket own part.condition)

/-- A part begins with what its register shows, and otherwise with a place in its list. -/
theorem pending_wait (register : Register) (agenda : Agenda) (head : own ∈ session.agenda.ready)
    (begun : session.connection.register part.register =
      (register.wait agenda own part.condition timeout).2) :
    session.Pending own part timeout (timeout.due agenda) (session.Shows part)
      (register.wait agenda own part.condition timeout).1 := by
  -- Beginning the wait has not changed the bits.
  have bits : (session.connection.register part.register).bits = register.bits := by
    rw [begun]
    exact register.wait_bits agenda own part.condition timeout
  constructor
  · intro shows
    have met : part.condition.matched register.bits = some part.bit := bits ▸ matched_iff_shows.mp shows
    rw [Register.wait_met met]
    exact ⟨head, .inl rfl⟩
  · intro dark
    have unmet : part.condition.matched register.bits = none := by
      rw [Shows, Register.isSet, bits] at dark
      rw [part.matched, if_neg (by simpa using dark)]
    -- Only a wait that may not last has its answer now.
    have parks (deadline : Option Nat) : register.wait agenda own part.condition timeout =
        register.park own part.condition deadline → ∃ ticket,
        (register.wait agenda own part.condition timeout).1 = .parked ticket deadline ∧
          (session.connection.register part.register).Lists ticket own part.condition := by
      intro parked
      rw [begun, parked]
      exact ⟨_, rfl, Register.lists_park register own part.condition deadline⟩
    cases timeout with
    | noWait => exact .inl ⟨rfl, by simp [Register.wait, unmet], head⟩
    | forever => exact .inr ⟨by simp, fun _ => head, parks _ (by simp [Register.wait, unmet, Timeout.due])⟩
    | after span => exact .inr ⟨by simp, fun _ => head, parks _ (by simp [Register.wait, unmet, Timeout.due])⟩

/-- A look at the wait finds the bit if the task has heard of it. Otherwise it finds nothing, and ends the wait if it
was only to look or its deadline has come. -/
theorem Pending.looked (pending : session.Pending own part timeout due heard wait)
    (orderly : (session.connection.register part.register).Orderly) :
    (heard ∧ ((session.connection.register part.register).poll session.agenda wait).1 = some part.bit) ∨
    (¬heard ∧ (timeout = .noWait ∨ timeout ≠ .noWait ∧ session.agenda.reached due = true) ∧
      ((session.connection.register part.register).poll session.agenda wait).1 = some 0) ∨
    (¬heard ∧ timeout ≠ .noWait ∧ session.agenda.reached due = false ∧
      (session.connection.register part.register).poll session.agenda wait =
        (none, session.connection.register part.register)) := by
  -- A wait that has heard what it waits for was handed its bit, or found it when it was called.
  by_cases known : heard
  · obtain ⟨-, rfl | ⟨ticket, deadline, rfl, handed⟩⟩ := pending.met known
    · exact .inl ⟨known, rfl⟩
    · exact .inl ⟨known, congrArg Prod.fst (orderly.poll_handed handed)⟩
  · rcases pending.unmet known with ⟨once, rfl, -⟩ | ⟨lasts, -, ticket, rfl, listed⟩
    · exact .inr (.inl ⟨known, .inl once, rfl⟩)
    · cases reached : session.agenda.reached due with
      | true => exact .inr (.inl ⟨known, .inr ⟨lasts, rfl⟩, congrArg Prod.fst (orderly.poll_due listed reached)⟩)
      | false => exact .inr (.inr ⟨known, lasts, rfl, orderly.poll_open listed reached⟩)

/-! ### Where the task is -/

/-- The task is at this point of its wait, and nobody has cancelled it. -/
def Stands (session : Session) (own : TaskId) (label : Nat) (awaiting : Awaiting) : Prop :=
  session.tasks.lookup own = some ⟨.await label awaiting, false⟩

/-- The task is at this point of its wait in a session in order, it does not run the supervisor, and nobody else holds
what it waits for. -/
structure Keeping (session : Session) (own : TaskId) (label : Nat) (awaiting : Awaiting) : Prop where
  sound : session.Sound
  stands : session.Stands own label awaiting
  unhired : session.runTask ≠ some own
  apart : ∀ name ticket, awaiting.Holds name ticket → ¬session.HeldBeside (· = own) name ticket

/-- The task's name is in use. -/
theorem Keeping.below (keeping : session.Keeping own label awaiting) : own < session.agenda.unused :=
  -- Every task that is listed has a name that was given out.
  keeping.sound.numbered _ (Entries.mem_of_lookup keeping.stands)

/-- What the task waits for was issued. -/
theorem Keeping.issued (keeping : session.Keeping own label awaiting) {name : RegisterName} {ticket : Ticket}
    (holds : awaiting.Holds name ticket) : ticket < (session.connection.register name).nextTicket :=
  -- It is held by a task that is listed, and whatever such tasks hold was issued.
  keeping.sound.issued name ticket ⟨_, Entries.mem_of_lookup keeping.stands, id, holds⟩

/-- What others do leaves the task where it is. -/
theorem Keeping.beside {liberty : Liberty} (keeping : before.Keeping own label awaiting)
    (moves : Moves liberty (· = own) before middle) (sound : middle.flush.Sound) :
    middle.flush.Keeping own label awaiting where
  sound := sound
  stands := (moves.lookup own rfl).trans keeping.stands
  unhired := by
    intro runs
    -- A new run would have a name of its own.
    rcases moves.running own runs with earlier | ⟨other, -⟩
    · exact keeping.unhired earlier
    · exact other rfl
  apart := by
    intro name ticket holds held
    -- What others have obtained since has a number that was not issued yet.
    rcases moves.obtains held with old | ⟨low, -⟩
    · exact keeping.apart name ticket holds old
    · exact absurd (keeping.issued holds) (Nat.not_lt_of_le low)

/-- Whatever happens is the task's own turn or leaves it where it is. -/
theorem Keeping.occurs (keeping : before.Keeping own label awaiting) (occurs : Occurs (· = own) before after) :
    (before.turn? = some after ∧ before.agenda.ready.head? = some own) ∨
      ∃ liberty middle, Moves liberty (· = own) before middle ∧ Tidings (· = own) before middle ∧
        after = middle.flush := by
  by_cases mine : before.turn? = some after ∧ before.agenda.ready.head? = some own
  · exact .inl mine
  · refine .inr (occurs.moves keeping.sound (Nat.ne_of_lt keeping.below).symm (fun task runs same => ?_)
      (fun task job listed calls same => ?_) fun turned task head same => ?_)
    · exact keeping.unhired (same ▸ runs)
    · -- Whoever waits for a connection has asked the modem and the transport for nothing.
      rw [same, keeping.stands] at listed
      obtain rfl := (Task.mk.inj (Option.some.inj listed)).1
      exact calls
    · exact mine ⟨turned, same ▸ head⟩

/-- What others do leaves the task's part pending; it has heard of the bit then if it is shown, unless it was only to
look. -/
theorem Pending.beside {liberty : Liberty} (pending : before.Pending own part timeout due heard wait)
    (keeping : before.Keeping own label (.connection (part.place timeout wait)))
    (moves : Moves liberty (· = own) before middle) (tidings : Tidings (· = own) before middle)
    (sound : middle.flush.Sound) :
    middle.flush.Pending own part timeout due (heard ∨ timeout ≠ .noWait ∧ middle.flush.Shows part) wait := by
  -- Whoever stands in line goes on to do so.
  have stays (ready : own ∈ before.agenda.ready) : own ∈ middle.flush.agenda.ready :=
    Agenda.mem_wakeAll.mpr (.inl (moves.ready own rfl ready))
  have holds (ticket : Ticket) (has : wait.Has ticket) :
      (Awaiting.connection (part.place timeout wait)).Holds part.register ticket :=
    (part.holds_place timeout wait part.register ticket).mpr ⟨rfl, has⟩
  have called {ticket : Ticket} {deadline : Option Nat} (parked : wait = .parked ticket deadline)
      (handed : (middle.flush.connection.register part.register).Hands ticket part.bit)
      (ready : own ∈ middle.flush.agenda.ready) : own ∈ middle.flush.agenda.ready ∧ (wait = .answered part.bit ∨
        ∃ ticket deadline, wait = .parked ticket deadline ∧
          (middle.flush.connection.register part.register).Hands ticket part.bit) :=
    ⟨ready, .inr ⟨ticket, deadline, parked, handed⟩⟩
  by_cases known : heard
  · -- It was heard of before, and the answer is kept for it.
    refine ⟨fun _ => ?_, fun unknown => absurd (.inl known) unknown⟩
    obtain ⟨ready, rfl | ⟨ticket, deadline, rfl, handed⟩⟩ := pending.met known
    · exact ⟨stays ready, .inl rfl⟩
    · have mine := holds ticket rfl
      exact called rfl (moves.touches.hands (keeping.apart _ _ mine) (keeping.issued mine) handed) (stays ready)
  · -- It was not heard of so far.
    rcases pending.unmet known with ⟨once, rfl, ready⟩ | ⟨lasts, alarm, ticket, rfl, listed⟩
    · refine ⟨fun news => ?_, fun _ => .inl ⟨once, rfl, stays ready⟩⟩
      rcases news with earlier | ⟨lasts, -⟩
      · exact absurd earlier known
      · exact absurd once lasts
    · have mine := holds ticket rfl
      rcases tidings _ _ ticket own part.sought (keeping.apart _ _ mine) (keeping.issued mine) listed with
        still | ⟨woken, bits, met, handed⟩
      · -- Whoever is still in the list has not been shown the bit.
        have dark : ¬middle.flush.Shows part := not_shows_of_lists sound.orderly still
        refine ⟨fun news => ?_, fun _ => .inr ⟨lasts, fun reached => ?_, ticket, rfl, still⟩⟩
        · rcases news with earlier | ⟨-, shows⟩
          · exact absurd earlier known
          · exact absurd shows dark
        · have reached : middle.agenda.reached due = true := (Agenda.reached_wakeAll _ _ _).symm.trans reached
          have deadline : (Job.await label (.connection (part.place timeout (.parked ticket due)))).deadline? = due :=
            part.deadline_place timeout _
          rcases moves.alarm own _ rfl keeping.stands (deadline.symm ▸ reached) with come | ready
          · exact stays (alarm (deadline ▸ come))
          · exact Agenda.mem_wakeAll.mpr (.inl ready)
      · -- What is handed over is the bit, which is shown.
        have met : part.condition.matched (middle.flush.connection.register part.register).bits = some bits := met
        have shows : middle.flush.Shows part := by
          rw [part.matched] at met
          split at met
          · next set => simpa [Shows, Register.isSet] using set
          · cases met
        obtain rfl : part.bit = bits := Option.some.inj ((matched_iff_shows.mp shows).symm.trans met)
        refine ⟨fun _ => called rfl handed (Agenda.mem_wakeAll.mpr (.inr woken)), fun unknown => ?_⟩
        exact absurd (.inr ⟨lasts, shows⟩) unknown

/-! ### Its own turns -/

/-- What becomes of the session when the task has taken this step of its wait. -/
def afterStep (session : Session) (own : TaskId) (label : Nat) : Progress Bool Awaiting × Connection → Session
  | (.next onward, connection) =>
    (session.mapConnection fun _ => connection).setJob own (.await label onward)
  | (.parked onward, connection) =>
    (session.mapConnection fun _ => connection).park own (.await label onward)
  | (.done answer, connection) =>
    ((session.mapConnection fun _ => connection).report label answer).finish own

/-- A turn of a wait is its next step. -/
theorem turnOfAwaiting_eq (session : Session) (own : TaskId) (label : Nat) (awaiting : Awaiting) :
    session.turnOfAwaiting own label awaiting =
      session.afterStep own label (awaiting.step session.connection session.agenda own) := by
  -- One case for each progress of the step, each handled in the same way by both.
  unfold turnOfAwaiting
  rcases awaiting.step session.connection session.agenda own with ⟨_ | _ | _, connection⟩ <;> rfl

/-- The task's own turn is the next step of its wait. -/
theorem Keeping.turned (keeping : before.Keeping own label awaiting) (head : before.agenda.ready.head? = some own)
    (turned : before.turn? = some after) : after = (((before.within []).afterStep own label
      (awaiting.step (before.within []).connection before.agenda own)).within []).flush := by
  -- The task is listed, and nobody has cancelled it.
  obtain ⟨task, rest, ready, turn⟩ := turn_of_turned turned
  obtain rfl : task = own := by simpa [ready] using head
  cases turn with
  | gone absent => cases absent.symm.trans keeping.stands
  | last found stopped =>
    obtain rfl := Option.some.inj (found.symm.trans keeping.stands)
    cases stopped
  | next found onward =>
    obtain rfl := Option.some.inj (found.symm.trans keeping.stands)
    exact congrArg (fun after => (after.within []).flush) (turnOfAwaiting_eq (before.within []) task label awaiting)

/-- A step of the wait that does not end it leaves the task at the point that it leads to. -/
theorem Keeping.go_on {connection : Connection} (keeping : before.Keeping own label awaiting) (sound : after.Sound)
    (passes : (before.within []).connection.Passes .all awaiting.Holds connection onward.Holds)
    (tasks : after.tasks = (((before.within []).mapConnection fun _ => connection).setJob own
      (.await label onward)).tasks)
    (runTask : after.runTask = before.runTask) : after.Keeping own label onward where
  sound := sound
  stands := by
    have listed : ((before.within []).mapConnection fun _ => connection).tasks.lookup own =
        some ⟨.await label awaiting, false⟩ := keeping.stands
    exact (congrArg (List.lookup own) tasks).trans (lookup_setJob listed (.await label onward))
  unhired := runTask ▸ keeping.unhired
  apart := by
    rintro name ticket holds ⟨entry, member, other, has⟩
    -- Nobody else has another job than before.
    rcases mem_setJob (tasks ▸ member) with ⟨stood, -⟩ | ⟨kept, -, rfl⟩
    · rcases passes.obtains name ticket holds with old | ⟨low, -⟩
      · exact keeping.apart name ticket old ⟨entry, stood, other, has⟩
      · rw [register_within] at low
        exact absurd (keeping.sound.issued name ticket ⟨entry, stood, id, has⟩) (Nat.not_lt_of_le low)
    · exact other rfl

/-- A step that goes on at once leaves the task at the head of the line, and nothing is reported. -/
theorem Keeping.next {connection : Connection} (keeping : before.Keeping own label awaiting)
    (head : before.agenda.ready.head? = some own) (turned : before.turn? = some after)
    (stepped : awaiting.step (before.within []).connection before.agenda own = (.next onward, connection)) :
    after.Keeping own label onward ∧ after.agenda.ready.head? = some own ∧ after.reports = before.reports ∧
      ∀ name, after.connection.register name = connection.register name := by
  have passes : (before.within []).connection.Passes .all awaiting.Holds _ _ :=
    Awaiting.step_passes (before.within []).connection before.agenda own fun _ _ => id
  have taken : Occurs (· = own) before after := .turn turned
  have sound := keeping.sound.occurs taken
  obtain rfl := keeping.turned head turned
  rw [stepped] at passes sound ⊢
  -- The task has another job, and everything else of the agenda and the tasks is the same.
  let onto := ((before.within []).mapConnection fun _ => connection).setJob own (.await label onward)
  have same : onto.agenda = before.agenda ∧ onto.runTask = before.runTask ∧ onto.reports = before.reports := by
    simp only [onto]
    rw [setJob_eq]
    exact ⟨rfl, rfl, rfl⟩
  obtain ⟨agenda, runTask, reports⟩ := same
  refine ⟨keeping.go_on sound passes rfl runTask, Agenda.head?_wakeAll ?_ _, reports, fun name => ?_⟩
  · show onto.agenda.ready.head? = some own
    exact agenda ▸ head
  · exact (register_within onto [] name).trans (congrArg (·.register name) (setJob_connection _ own _))

/-- A step that finds nothing leaves the task where it is. -/
theorem Keeping.park {connection : Connection} (keeping : before.Keeping own label awaiting)
    (head : before.agenda.ready.head? = some own) (turned : before.turn? = some after)
    (stepped : awaiting.step (before.within []).connection before.agenda own = (.parked onward, connection)) :
    after.Keeping own label onward ∧ ∀ name, after.connection.register name = connection.register name := by
  have passes : (before.within []).connection.Passes .all awaiting.Holds _ _ :=
    Awaiting.step_passes (before.within []).connection before.agenda own fun _ _ => id
  have taken : Occurs (· = own) before after := .turn turned
  have sound := keeping.sound.occurs taken
  obtain rfl := keeping.turned head turned
  rw [stepped] at passes sound ⊢
  -- The task is at the head of the line, so the turn is the step that was taken.
  let onto := ((before.within []).mapConnection fun _ => connection).park own (.await label onward)
  have same : onto.runTask = before.runTask := by
    simp only [onto, Session.park]
    rw [setJob_eq]
    rfl
  refine ⟨keeping.go_on sound passes rfl same, fun name => ?_⟩
  exact (register_within onto [] name).trans (congrArg (·.register name) (setJob_connection _ own _))

/-- The task has ended, and has reported this answer now. -/
structure Answers (before after : Session) (own : TaskId) (label : Nat) (answer : Bool) : Prop where
  gone : after.tasks.lookup own = none
  reports : after.reports = ⟨label, after.agenda.now, answer⟩ :: before.reports

/-- A step that has the answer reports it, and the task ends. -/
theorem Keeping.answers {connection : Connection} {answer : Bool} (keeping : before.Keeping own label awaiting)
    (head : before.agenda.ready.head? = some own) (turned : before.turn? = some after)
    (stepped : awaiting.step (before.within []).connection before.agenda own = (.done answer, connection)) :
    before.Answers after own label answer := by
  have now := now_turn turned
  -- The turn is that of this task, and what it came to is the step.
  obtain rfl := keeping.turned head turned
  rw [stepped] at now ⊢
  constructor
  · exact (Entries.lookup_filter_ne _ own own).trans (if_pos rfl)
  · rw [now]
    rfl

/-- What the bits show is a matter of the bits alone. -/
theorem shows_congr (same : (before.connection.register part.register).bits =
    (after.connection.register part.register).bits) : before.Shows part ↔ after.Shows part := by
  -- To show a part is to have its bit.
  rw [Shows, Shows, Register.isSet, Register.isSet, same]

/-- A step that begins a part leaves the task in that part at the head of the line, with what its register shows. -/
theorem Keeping.begins (keeping : before.Keeping own label awaiting) (part : Part) (timeout : Timeout)
    (opened : Connection) (head : before.agenda.ready.head? = some own) (turned : before.turn? = some after)
    (bits : ∀ name, (opened.register name).bits = (before.connection.register name).bits)
    (stepped : awaiting.step (before.within []).connection before.agenda own =
      (.next (.connection (part.place timeout
        (opened.await before.agenda own part.register part.condition timeout).1)),
        (opened.await before.agenda own part.register part.condition timeout).2)) :
    (∃ wait, after.Keeping own label (.connection (part.place timeout wait)) ∧
      after.Pending own part timeout (timeout.due before.agenda) (after.Shows part) wait) ∧
      after.agenda.ready.head? = some own ∧ after.reports = before.reports ∧
      ∀ other, before.Shows other ↔ after.Shows other := by
  obtain ⟨keeping', first, reports, registers⟩ := keeping.next head turned stepped
  have begun : after.connection.register part.register =
      ((opened.register part.register).wait before.agenda own part.condition timeout).2 := by
    rw [registers]
    simp [Connection.await]
  have ready : own ∈ after.agenda.ready := List.mem_of_mem_head? first
  refine ⟨⟨_, keeping', pending_wait _ before.agenda ready begun⟩, first, reports, fun other => shows_congr ?_⟩
  rw [registers]
  -- To begin a wait is no matter of the bits.
  refine (bits other.register).symm.trans (Eq.symm ?_)
  exact Connection.forall_setRegister (P := fun name register => register.bits = (opened.register name).bits)
    (fun _ => rfl) (Register.wait_bits _ _ _ _ _) other.register

/-- The call begins the wait for the network. -/
theorem Keeping.calls (keeping : before.Keeping own label (.called .connection timeout))
    (head : before.agenda.ready.head? = some own) (turned : before.turn? = some after) :
    (∃ wait, after.Keeping own label (.connection (Part.network.place timeout wait)) ∧
      after.Pending own .network timeout (timeout.due before.agenda) (after.Shows .network) wait) ∧
      after.agenda.ready.head? = some own ∧ after.reports = before.reports ∧
      ∀ other, before.Shows other ↔ after.Shows other :=
  -- The call is logged and the network waited for, as at the beginning of each part.
  keeping.begins .network timeout ((before.within []).connection.log .debug "Awaiting network connection" []) head
    turned (fun name => by rw [Connection.register_log, register_within]) rfl

/-- What a turn of the task comes to while a part of its wait is pending: it has heard of the bit and goes on to the
other part or reports that there is a connection; or it has not, and reports that there is none if it was only to look
or its deadline has come, and otherwise goes on to wait. -/
inductive Turned (before after : Session) (own : TaskId) (label : Nat) (part : Part) (timeout : Timeout)
    (due : Option Nat) (heard : Prop) (wait : Wait) : Prop where
  | crosses (known : heard) (first : part = .network)
      (begun : ∃ wait, after.Keeping own label (.connection (Part.session.place timeout wait)) ∧
        after.Pending own .session timeout (timeout.due before.agenda) (after.Shows .session) wait)
      (head : after.agenda.ready.head? = some own) (reports : after.reports = before.reports)
      (same : ∀ other, before.Shows other ↔ after.Shows other)
  | connected (known : heard) (last : part = .session) (answers : before.Answers after own label true)
  | expired (unheard : ¬heard)
      (closes : timeout = .noWait ∨ timeout ≠ .noWait ∧ before.agenda.reached due = true)
      (answers : before.Answers after own label false)
  | parked (unheard : ¬heard) (lasts : timeout ≠ .noWait)
      (keeping : after.Keeping own label (.connection (part.place timeout wait)))
      (pending : after.Pending own part timeout due heard wait)
      (same : ∀ other, before.Shows other ↔ after.Shows other)

/-- A look at a wait finds what there is to find, and is no matter of the bits. -/
theorem poll_within (session : Session) (name : RegisterName) (wait : Wait) :
    ∃ seen : Connection, (session.within []).connection.poll session.agenda name wait =
        (((session.connection.register name).poll session.agenda wait).1, seen) ∧
      seen.register name = ((session.connection.register name).poll session.agenda wait).2 ∧
      ∀ other, (seen.register other).bits = (session.connection.register other).bits := by
  -- The spans are no part of a register.
  have same (other : RegisterName) : (session.within []).connection.register other =
      session.connection.register other := register_within _ _ _
  refine ⟨((session.within []).connection.poll session.agenda name wait).2, by rw [← same]; rfl, ?_, ?_⟩
  · rw [← same]
    exact Connection.register_setRegister _ _ _
  · -- Looking clears no bits, whichever register is asked about.
    refine Connection.forall_setRegister (P := fun other register => register.bits =
      (session.connection.register other).bits) (fun other => congrArg Register.bits (same other)) ?_
    exact (Register.poll_bits _ _ _).trans (congrArg Register.bits (same name))

/-- A turn of the task ends the part that is pending as it has heard, or leaves it pending. -/
theorem Pending.turned (pending : before.Pending own part timeout due heard wait)
    (keeping : before.Keeping own label (.connection (part.place timeout wait)))
    (head : before.agenda.ready.head? = some own) (turned : before.turn? = some after) :
    before.Turned after own label part timeout due heard wait := by
  -- Everything depends on what a look at the part's register finds.
  obtain ⟨seen, polled, register, bits⟩ := poll_within before part.register wait
  rcases pending.looked (keeping.sound.orderly part.register) with
    ⟨known, found⟩ | ⟨unheard, closes, found⟩ | ⟨unheard, lasts, early, found⟩
  · -- The bit was found. The first part leads on to the second, and the second is the end.
    rw [found] at polled
    cases part with
    | network =>
      have stepped : (Awaiting.connection (.network timeout wait)).step (before.within []).connection before.agenda
          own = (.next (.connection (.session ((seen.log .debug "Awaiting cloud ready" []).await before.agenda own
            .cloud (.any Cloud.ready) timeout).1)), ((seen.log .debug "Awaiting cloud ready" []).await before.agenda
            own .cloud (.any Cloud.ready) timeout).2) := by
        have polled : (before.within []).connection.poll before.agenda .network wait = _ := polled
        simp only [Awaiting.step, ConnectionWait.poll]
        rw [polled]
        rfl
      obtain ⟨begun, first, reports, same⟩ := keeping.begins .session timeout
        (seen.log .debug "Awaiting cloud ready" []) head turned
        (fun name => by rw [Connection.register_log, bits]) stepped
      exact .crosses known rfl begun first reports same
    | session =>
      have stepped : (Awaiting.connection (.session wait)).step (before.within []).connection before.agenda own =
          (.done true, seen) := by
        have polled : (before.within []).connection.poll before.agenda .cloud wait = _ := polled
        simp only [Awaiting.step, ConnectionWait.poll]
        rw [polled]
        rfl
      exact .connected known rfl (keeping.answers head turned stepped)
  · -- The deadline has come without it.
    rw [found] at polled
    have stepped : (Awaiting.connection (part.place timeout wait)).step (before.within []).connection before.agenda
        own = (.done false, seen) := by
      cases part <;>
        (simp only [Awaiting.step, ConnectionWait.poll, Part.place, Part.register] at polled ⊢; rw [polled]; rfl)
    exact .expired unheard closes (keeping.answers head turned stepped)
  · -- Neither the bit nor the deadline has come, and the task parks.
    rw [found] at polled register
    have stepped : (Awaiting.connection (part.place timeout wait)).step (before.within []).connection before.agenda
        own = (.parked (.connection (part.place timeout wait)), seen) := by
      cases part <;>
        (simp only [Awaiting.step, ConnectionWait.poll, Part.place, Part.register] at polled ⊢; rw [polled])
    obtain ⟨keeping', registers⟩ := keeping.park head turned stepped
    refine .parked unheard lasts keeping' ⟨fun known => absurd known unheard, fun _ => .inr ⟨lasts, ?_⟩⟩
      fun other => shows_congr ((congrArg Register.bits (registers _)).trans (bits _)).symm
    -- The task's place in the list is the one that it had, and its deadline is ahead.
    rcases pending.unmet unheard with ⟨once, -⟩ | ⟨-, -, ticket, rfl, listed⟩
    · exact absurd once lasts
    · refine ⟨fun reached => ?_, ticket, rfl, by rw [registers, register]; exact listed⟩
      cases ((Agenda.reached_congr (now_turn turned) due).trans early).symm.trans reached

end Session

end Uplink
