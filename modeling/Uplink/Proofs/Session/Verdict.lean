import Uplink.Proofs.Session.Disconnect
import Uplink.Proofs.Session.Vigil
import Uplink.Proofs.Supervisor.Verdict

/-! The first bits that the supervisor sees while it waits for the session to become ready decide whether the
shadow is published. -/

namespace Uplink.Session

open Flags (Condition Register Ticket Wait)

variable {setting : Setting} {session before middle after begun last : Session} {task : TaskId}
  {run : Supervisor.Run} {due : Option Nat} {told : Option UInt32} {wait : Wait}

/-! ### What the wait has been told -/

/-- What the cloud register says to one who waits for the session to become ready: those of the bits of
interest that are set, if there are any. -/
def verdict (session : Session) : Option UInt32 :=
  Cloud.decides.matched session.connection.cloud.bits

/-- The deadline of a wait for the session to become ready that begins now. -/
def readyDue (session : Session) : Option Nat :=
  session.agenda.deadline (ConnectionSection.millis session.supervisor.config.connection.readyTimeout)

/-- The wait knows these bits and its task is awake, or it stands in the list and its task is awake once the
deadline has come. -/
def Told (session : Session) (task : TaskId) (wait : Wait) (due : Option Nat) : Option UInt32 → Prop
  | some bits => session.Awake task ∧ (wait = .answered bits ∨
      ∃ ticket deadline, wait = .parked ticket deadline ∧ session.connection.cloud.Hands ticket bits)
  | none => (session.agenda.reached due = true → session.Awake task) ∧
      ∃ ticket, wait = .parked ticket due ∧ session.connection.cloud.Lists ticket task Cloud.decides

/-- The supervisor waits for the session to become ready, and has been told this so far. -/
def Waits (session : Session) (due : Option Nat) (told : Option UInt32) : Prop :=
  ∃ task run wait, session.Runs task run ∧ run.place = .awaitingReady wait ∧ session.Told task wait due told

/-- What was told stays so while neither the cloud register nor the clock changes and the task stays awake. -/
theorem Told.keep (known : before.Told task wait due told)
    (cloud : after.connection.cloud = before.connection.cloud) (now : after.agenda.now = before.agenda.now)
    (awake : before.Awake task → after.Awake task) : after.Told task wait due told := by
  -- What was told is read off the cloud register, the clock and the line alone.
  cases told with
  | some bits =>
    unfold Told
    rw [cloud]
    exact ⟨awake known.1, known.2⟩
  | none =>
    unfold Told
    rw [cloud, Agenda.reached_congr now]
    exact ⟨fun due => awake (known.1 due), known.2⟩

/-- Writing entries in other spans is no matter of the wait. -/
theorem Told.within (known : session.Told task wait due told) (spans : List Span) :
    (session.within spans).Told task wait due told :=
  -- The spans are no part of the register or of the line.
  known.keep rfl rfl id

/-- Writing entries in other spans changes nothing that the cloud register says. -/
theorem verdict_within (session : Session) (spans : List Span) :
    (session.within spans).verdict = session.verdict := rfl

/-- Writing entries in other spans takes no time. -/
theorem readyDue_within (session : Session) (spans : List Span) :
    (session.within spans).readyDue = session.readyDue := rfl

/-- A run is in this phase only while it waits for the session to become ready. -/
theorem awaitingReady_of_phase {place : Supervisor.Place}
    (phase : place.phase = .waitCloudReady) : ∃ wait, place = .awaitingReady wait := by
  -- One case for each place; only this one belongs to the phase.
  cases place with
  | awaitingReady wait => exact ⟨wait, rfl⟩
  | calling request => cases request <;> cases phase
  | starting | cycleStart | awaitingNetwork _ | awaitingCloud _ | awaitingDrop _ | settling _ | backingOff _ =>
    cases phase

/-- In this phase the run waits for the session to become ready. -/
theorem Balances.runs (balances : session.Balances) (staffed : session.Staffed)
    (phase : session.supervisor.phase = .waitCloudReady) :
    ∃ task run wait, session.Runs task run ∧ run.place = .awaitingReady wait := by
  -- The phase is the one of the place where the run stands, and only one place has this phase.
  have here : session.supervisor.phase = session.standing.phase := Ledger.Balanced.phase balances
  rw [phase] at here
  cases stands : session.standing with
  | idle | ended => simp [stands, Standing.phase] at here
  | running run =>
    rw [stands] at here
    obtain ⟨task, runs⟩ := staffed.runs_of_standing stands
    obtain ⟨wait, place⟩ := awaitingReady_of_phase here.symm
    exact ⟨task, run, wait, runs, place⟩

/-! ### The beginning -/

/-- A step that leads to the wait for the session to become ready begins it with what the bits say. -/
theorem told_carryOn {rest : List TaskId} (head : session.agenda.ready = task :: rest)
    (ran : session.Runs task run) {stepped : Supervisor.Stepped}
    (opens : Supervisor.Opens session.agenda task stepped)
    (moves : ∀ onward wait, stepped.1 = .parked onward → onward.place ≠ .awaitingReady wait)
    {other : TaskId} {onward : Supervisor.Run} (runs : (session.carryOn task stepped).Runs other onward)
    (place : onward.place = .awaitingReady wait) :
    (session.carryOn task stepped).Told other wait (session.carryOn task stepped).readyDue
      (session.carryOn task stepped).verdict := by
  obtain ⟨rfl, onto⟩ := ran.of_carryOn runs
  have agenda : ∀ run', stepped.1 = .next run' → (session.carryOn other stepped).agenda = session.agenda :=
    fun run' next => carryOn_agenda next
  unfold Told readyDue verdict Awake
  rw [connection, carryOn_supervisor]
  obtain ⟨progress, supervisor⟩ := stepped
  cases progress with
  | next run' =>
    obtain rfl := Standing.running.inj onto
    rw [agenda run' rfl]
    -- The task keeps its place at the head of the line.
    have awake : other ∈ session.agenda.ready := head ▸ List.mem_cons_self
    have begins := opens wait place
    dsimp only at begins ⊢
    cases met : Cloud.decides.matched supervisor.connection.cloud.bits with
    | some bits =>
      rw [met] at begins
      exact ⟨.inl awake, .inl begins⟩
    | none =>
      rw [met] at begins
      exact ⟨fun _ => .inl awake, begins⟩
  -- A step that parks has begun the wait earlier.
  | parked run' =>
    obtain rfl := Standing.running.inj onto
    exact absurd place (moves run' wait rfl)
  | done error => cases onto

/-- The wait for the session to become ready begins with what the cloud register says at that moment. -/
theorem Happens.opens (happens : Happens setting before after) (staffed : before.Staffed)
    (balances : before.Balances) (closed : before.supervisor.phase ≠ .waitCloudReady)
    (opens : after.supervisor.phase = .waitCloudReady) : after.Waits after.readyDue after.verdict := by
  have staffed' := staffed.strides happens.strides
  obtain ⟨task, run, wait, runs, place⟩ := (balances.strides staffed happens.strides).runs staffed' opens
  refine ⟨task, run, wait, runs, place, ?_⟩
  -- Only a step of the run moves the phase.
  cases happens with
  | beside aside informs => exact absurd (aside.phase ▸ opens) closed
  | start idle => exact absurd opens closed
  | suspend head ran calls allowed => exact absurd opens closed
  | gone head absent => exact absurd opens closed
  | @step stepping rest earlier head ran steps =>
    let opened := before.within earlier.spans
    have moves : ∀ onward wait, (opened.supervisor.step before.agenda stepping earlier).1 = .parked onward →
        onward.place ≠ .awaitingReady wait := by
      intro onward wait parked there
      obtain rfl := Supervisor.step_parked parked
      have here : before.supervisor.phase = before.standing.phase := Ledger.Balanced.phase balances
      rw [ran.standing, Standing.phase, there] at here
      exact closed here
    have head' : opened.agenda.ready = stepping :: rest := head
    have told := told_carryOn head' (ran.within _)
      (Supervisor.step_opens opened.supervisor before.agenda stepping earlier) moves runs.of_within place
    rw [readyDue_within, verdict_within]
    exact told.within []
  -- A reply may lead to the wait as well, and it is looked at in the same turn.
  | @resume replied asking rest later earlier request head ran calls aside head' reply =>
    have moves : ∀ onward wait,
        (replied.supervisor.resume replied.agenda asking earlier request reply).1 = .parked onward →
          onward.place ≠ .awaitingReady wait :=
      fun onward wait parked => absurd parked (Supervisor.resume_ne_parked reply)
    have told := told_carryOn head' (ran.aside aside)
      (Supervisor.resume_opens replied.supervisor replied.agenda asking earlier request reply) moves
        runs.of_within place
    rw [readyDue_within, verdict_within]
    exact told.within []

/-! ### While it goes on -/

/-- A look at the wait finds what it was told, and nothing before its deadline if it was told nothing. -/
theorem Told.looked (known : session.Told task wait due told) (orderly : session.connection.cloud.Orderly) :
    (∃ bits, (session.connection.cloud.poll session.agenda wait).1 = some bits ∧
      (bits = Cloud.ready ↔ told = some Cloud.ready) ∧ (told = none → session.agenda.reached due = true)) ∨
    (told = none ∧ session.agenda.reached due = false ∧
      (session.connection.cloud.poll session.agenda wait).1 = none) := by
  -- Told something, the wait has its answer; told nothing, it stands in the list until its deadline.
  cases told with
  | some bits =>
    refine .inl ⟨bits, ?_, by simp, nofun⟩
    obtain ⟨-, rfl | ⟨ticket, deadline, rfl, handed⟩⟩ := known
    · rfl
    · exact congrArg Prod.fst (orderly.poll_handed handed)
  | none =>
    obtain ⟨-, ticket, rfl, listed⟩ := known
    by_cases reached : session.agenda.reached due = true
    · exact .inl ⟨0, congrArg Prod.fst (orderly.poll_due listed reached), by decide, fun _ => reached⟩
    · have early : session.agenda.reached due = false := by simpa using reached
      exact .inr ⟨rfl, early, congrArg Prod.fst (orderly.poll_open listed early)⟩

/-- A wait that was told nothing has nothing to be told. -/
theorem Told.or_verdict (known : session.Told task wait due told) (orderly : session.connection.cloud.Orderly) :
    told.or session.verdict = told := by
  cases told with
  | some bits => rfl
  -- The wait is still listed, so its condition is not met.
  | none =>
    obtain ⟨-, ticket, rfl, listed⟩ := known
    exact orderly.unmet _ listed rfl

/-- The event that ends a wait that was told this. -/
def ending (told : Option UInt32) : PhaseEvent :=
  if told = some Cloud.ready then .cloudReady else .readyTimedOut

/-- The phase that a wait that was told this leads to. -/
def sequel (told : Option UInt32) : Phase :=
  if told = some Cloud.ready then .connected else .resetting

/-- The wait has ended with what it was told, not before its deadline if that was nothing. -/
structure Ends (before after : Session) (due : Option Nat) (told : Option UInt32) : Prop where
  phase : after.supervisor.phase = sequel told
  events : after.supervisor.events = ending told :: before.supervisor.events
  due : told = none → after.agenda.reached due = true

/-- What goes on beside the run tells its wait what the cloud register says, if it was told nothing before. -/
theorem Told.aside {clears : Bool} (known : before.Told task wait due told) (staffed : before.Staffed)
    (runs : before.Runs task run) (place : run.place = .awaitingReady wait)
    (aside : Aside clears before after) (informs : before.Informs after)
    (orderly : after.connection.cloud.Orderly) : after.Told task wait due (told.or after.verdict) := by
  have member := Entries.mem_of_lookup runs.listed
  -- The wait is the run's own, so the others neither look after it nor give it up.
  have own : ∀ ticket, wait.Has ticket → (Job.supervise run).Holds .cloud ticket := by
    intro ticket has
    have holds : (Supervisor.Place.awaitingReady wait).Holds .cloud ticket := ⟨rfl, has⟩
    rw [← place] at holds
    exact holds
  cases told with
  | some bits =>
    obtain ⟨awake, answer⟩ := known
    refine ⟨awake.aside runs aside, answer.imp_right ?_⟩
    rintro ⟨ticket, deadline, rfl, handed⟩
    have mine := own ticket rfl
    exact ⟨ticket, deadline, rfl, aside.touches.hands (staffed.apart _ member runs.runTask _ _ mine)
      (staffed.held _ member runs.runTask _ _ mine) handed⟩
  -- So far it was told nothing, and what the others do may be the news.
  | none =>
    obtain ⟨alarm, ticket, rfl, listed⟩ := known
    have mine := own ticket rfl
    have apart := staffed.apart _ member runs.runTask _ _ mine
    have issued := staffed.held _ member runs.runTask _ _ mine
    rcases informs .cloud Cloud.decides ticket task rfl apart issued listed with still | ⟨woken, bits, met, handed⟩
    · have unmet : after.verdict = none := orderly.unmet _ still rfl
      rw [unmet]
      refine ⟨fun reached => ?_, ticket, rfl, still⟩
      have deadline : (Job.supervise run).deadline? = due := by
        simp [Job.deadline?, Supervisor.Place.deadline?, place, Wait.deadline?]
      rcases aside.alarm task _ runs.runTask runs.listed (deadline.symm ▸ reached) with earlier | ready
      · exact (alarm (deadline ▸ earlier)).aside runs aside
      · exact .inl ready
    · have told : after.verdict = some bits := met
      rw [told]
      exact ⟨.inr woken, .inr ⟨ticket, due, rfl, handed⟩⟩

/-- The step that finds no answer before the deadline leaves the wait as it was. -/
theorem Told.goes_on (known : session.Told task wait due none) (runs : session.Runs task run)
    (place : run.place = .awaitingReady wait) (early : session.agenda.reached due = false) :
    (session.carryOn task (.parked run, session.supervisor)).Waits due none := by
  -- The run parks: the register and the clock stay, and the deadline is ahead.
  let after := session.carryOn task (.parked run, session.supervisor)
  have cloud : after.connection.cloud = session.connection.cloud := by
    rw [connection, carryOn_supervisor]
    rfl
  have now : after.agenda.now = session.agenda.now := carryOn_now _ _ _
  have ahead : after.agenda.reached due = false := (Agenda.reached_congr now due).trans early
  obtain ⟨-, ticket, parked, listed⟩ := known
  refine ⟨task, run, wait, runs.carryOn rfl, place, fun reached => ?_, ticket, parked, cloud.symm ▸ listed⟩
  cases ahead.symm.trans reached

/-- A step of the run leaves its wait as it was, or ends it with what it was told. -/
theorem Told.step (known : session.Told task wait due told) (staffed : session.Staffed)
    (runs : session.Runs task run) (place : run.place = .awaitingReady wait)
    (phase : session.supervisor.phase = .waitCloudReady) :
    let after := session.carryOn task (session.supervisor.step session.agenda task run)
    (after.supervisor.phase = .waitCloudReady ∧ after.Waits due (told.or after.verdict)) ∨
      session.Ends after due told := by
  intro after
  have steps : after.supervisor = (session.supervisor.step session.agenda task run).2 := carryOn_supervisor _ _ _
  -- The step finds what the wait was told, or nothing before the deadline.
  rcases known.looked (staffed.orderly .cloud) with ⟨bits, looked, decides, reached⟩ | ⟨rfl, early, looked⟩
  · -- It was told: the step decides as it was told.
    have answered : (session.supervisor.connection.poll session.agenda .cloud wait).1 = some bits := looked
    obtain ⟨entered, noted⟩ := Supervisor.step_decides task place phase (Prod.ext answered rfl)
    rw [← steps, if_congr decides rfl rfl] at entered noted
    have now : after.agenda.now = session.agenda.now := carryOn_now _ _ _
    exact .inr ⟨entered, noted, fun nothing => (Agenda.reached_congr now due).trans (reached nothing)⟩
  · -- It was not told, so it goes on with the wait.
    have unanswered : (session.supervisor.connection.poll session.agenda .cloud wait).1 = none := looked
    have stays : after = session.carryOn task (.parked run, session.supervisor) :=
      congrArg (session.carryOn task) (Supervisor.step_waits task place unanswered)
    have kept : after.Waits due none := by
      rw [stays]
      exact known.goes_on runs place early
    have unset : after.verdict = session.verdict := by
      rw [verdict, connection, steps, Supervisor.step_waits task place unanswered]
      rfl
    have nothing : session.verdict = none := known.or_verdict (staffed.orderly .cloud)
    refine .inl ⟨?_, ?_⟩
    · rw [steps, Supervisor.step_waits task place unanswered]
      exact phase
    · rw [unset, nothing]
      exact kept

/-- What happens next tells the wait what the cloud register says, if it was told nothing before, or ends the
wait with what it was told. -/
theorem Waits.happens (waits : session.Waits due told) (staffed : session.Staffed)
    (phase : session.supervisor.phase = .waitCloudReady) (happens : Happens setting session after) :
    (after.supervisor.phase = .waitCloudReady ∧ after.Waits due (told.or after.verdict)) ∨
      session.Ends after due told := by
  obtain ⟨task, run, wait, runs, place, known⟩ := waits
  cases happens with
  | beside aside informs =>
    have orderly := aside.touches.orderly staffed.orderly .cloud
    exact .inl ⟨aside.phase.trans phase, task, run, wait, runs.aside aside, place,
      known.aside staffed runs place aside informs orderly⟩
  | start idle => cases idle.symm.trans runs.runTask
  -- The run waits for the register, so it has no call out.
  | suspend head ran calls allowed =>
    obtain rfl := Standing.running.inj (ran.standing.symm.trans runs.standing)
    cases calls.symm.trans place
  | resume head ran calls aside head' reply =>
    obtain rfl := Standing.running.inj (ran.standing.symm.trans runs.standing)
    cases calls.symm.trans place
  | gone head absent =>
    have same : told.or session.verdict = told := known.or_verdict (staffed.orderly .cloud)
    have kept : Waits { session with agenda := session.agenda.yield } due told :=
      ⟨task, run, wait, ⟨runs.runTask, runs.listed⟩, place,
        known.keep rfl rfl (.imp_left (runs.ready_yield head absent))⟩
    exact .inl ⟨phase, same.symm ▸ kept⟩
  | @step stepping rest stood head ran steps =>
    obtain rfl := Standing.running.inj (ran.standing.symm.trans runs.standing)
    obtain rfl := Option.some.inj (ran.runTask.symm.trans runs.runTask)
    -- Neither span is a matter of the wait.
    let opened := session.within stood.spans
    have told : opened.Told stepping wait due told := known.within _
    have opening : Aside true session opened := .within _
    rcases told.step (staffed.aside opening) (runs.within _) place phase with ⟨stays, found⟩ | ends
    · obtain ⟨task, run, wait, runs, place, known⟩ := found
      exact .inl ⟨stays, task, run, wait, runs.within [], place, known.within []⟩
    · exact .inr ⟨ends.phase, ends.events, ends.due⟩

/-! ### From its beginning to its end -/

/-- The wait for the session to become ready has gone on, and this is what the cloud register has said at the
first moment at which it said anything. -/
inductive Waiting (setting : Setting) (begun : Session) : Option UInt32 → Session → Prop where
  | begun (phase : begun.supervisor.phase = .waitCloudReady) : Waiting setting begun begun.verdict begun
  | next {told : Option UInt32} {session after : Session} (earlier : Waiting setting begun told session)
      (next : Next setting session after) (phase : after.supervisor.phase = .waitCloudReady) :
      Waiting setting begun (told.or after.verdict) after

/-- As long as the wait goes on the phase stays. -/
theorem Waiting.phase (waiting : Waiting setting begun told session) :
    session.supervisor.phase = .waitCloudReady := by
  -- Both ways to be waiting have it.
  cases waiting with
  | begun phase => exact phase
  | next _ _ phase => exact phase

/-- The wait begins in its phase. -/
theorem Waiting.begins (waiting : Waiting setting begun told session) :
    begun.supervisor.phase = .waitCloudReady := by
  -- Induction on what has happened.
  induction waiting with
  | begun phase => exact phase
  | next _ _ _ ih => exact ih

/-- What happens while the wait goes on is a part of what can happen. -/
theorem Waiting.path (waiting : Waiting setting begun told session) : Path setting begun session := by
  -- Induction on what has happened.
  induction waiting with
  | begun _ => exact .refl
  | next _ next _ ih => exact ih.tail next

/-- Those who move to the line know as much as before. -/
theorem Waits.flush (waits : session.Waits due told) : session.flush.Waits due told := by
  -- Waking adds to the line, and moves neither the clock nor the run.
  obtain ⟨task, run, wait, runs, place, known⟩ := waits
  refine ⟨task, run, wait, ⟨runs.runTask, runs.listed⟩, place, known.keep rfl (Agenda.wakeAll_now _ _) ?_⟩
  exact fun awake => .inl (Agenda.mem_wakeAll.mpr awake)

/-- A wait for the session to become ready is told what the cloud register says at the moment it begins. -/
theorem Reached.opens (reached : Reached setting before) (closed : before.supervisor.phase ≠ .waitCloudReady)
    (next : Next setting before begun) (opens : begun.supervisor.phase = .waitCloudReady) :
    begun.Waits begun.readyDue begun.verdict := by
  -- The wait begins in what happens, and moving those who are woken to the line takes no time.
  obtain ⟨middle, happens, rfl⟩ := next.happens reached.staffed reached.woken
  have waits := (happens.opens reached.staffed reached.balances closed opens).flush
  have due : middle.flush.readyDue = middle.readyDue := by
    simp only [readyDue, Agenda.deadline, flush, Agenda.wakeAll_now]
  exact due.symm ▸ waits

/-- What can happen next tells the wait what the cloud register says, if it was told nothing before, or ends the
wait with what it was told. -/
theorem Reached.waits (reached : Reached setting session) (waits : session.Waits due told)
    (phase : session.supervisor.phase = .waitCloudReady) (next : Next setting session after) :
    (after.supervisor.phase = .waitCloudReady ∧ after.Waits due (told.or after.verdict)) ∨
      session.Ends after due told := by
  -- It is shown for what happens first, and waking those who are called adds nothing to it.
  obtain ⟨middle, happens, rfl⟩ := next.happens reached.staffed reached.woken
  rcases waits.happens reached.staffed phase happens with ⟨stays, waits⟩ | ends
  · exact .inl ⟨stays, waits.flush⟩
  · exact .inr ⟨ends.phase, ends.events, fun nothing => by simpa [Session.flush] using ends.due nothing⟩

/-- As long as the wait goes on it knows what the cloud register has said first. -/
theorem Waiting.waits (waiting : Waiting setting begun told session) (reached : Reached setting begun)
    (waits : begun.Waits begun.readyDue begun.verdict) : session.Waits begun.readyDue told := by
  -- Induction on what has happened; a phase that stays has not been left.
  induction waiting with
  | begun _ => exact waits
  | @next told session after earlier next phase ih =>
    rcases (reached.path earlier.path).waits ih earlier.phase next with ⟨-, waits⟩ | ends
    · exact waits
    · have left : after.supervisor.phase ≠ .waitCloudReady := by
        rw [ends.phase, sequel]
        split <;> decide
      exact absurd phase left

/-- Where no task can run, a wait that goes on was told nothing, and its deadline is ahead. -/
theorem Waits.quiet (waits : session.Waits due told) (reached : Reached setting session)
    (quiet : session.turn? = none) : told = none ∧ session.agenda.reached due = false := by
  -- A wait that was told something, or whose deadline has come, has its task awake.
  obtain ⟨task, run, wait, runs, place, known⟩ := waits
  have asleep : ¬session.Awake task := by
    rintro (ready | woken)
    · simp [ready_of_quiet quiet] at ready
    · simp [reached.woken] at woken
  cases told with
  | some bits => exact absurd known.1 asleep
  | none => exact ⟨rfl, by simpa using mt known.1 asleep⟩

/-- The first that the cloud register says is the last that counts. -/
theorem Waiting.settled (waiting : Waiting setting begun told session) {bits : UInt32}
    (said : begun.verdict = some bits) : told = some bits := by
  -- Induction on what has happened.
  induction waiting with
  | begun _ => exact said
  | next _ _ _ ih => rw [ih, Option.some_or]

/-- A session that is being disconnected is not said to be ready. -/
theorem verdict_of_disconnecting (disconnecting : session.connection.isDisconnecting = true) :
    ∃ bits, session.verdict = some bits ∧ bits ≠ Cloud.ready := by
  have dropped : session.connection.cloud.bits &&& Cloud.disconnected ≠ 0 := by
    simpa [Connection.isDisconnecting, Register.isSet] using disconnecting
  -- Among the bits of interest the one of the disconnect is left as it is.
  have left : session.connection.cloud.bits &&& (Cloud.ready ||| Cloud.disconnected) &&& Cloud.disconnected =
      session.connection.cloud.bits &&& Cloud.disconnected := by
    rw [UInt32.and_assoc]
    rfl
  refine ⟨session.connection.cloud.bits &&& (Cloud.ready ||| Cloud.disconnected), ?_, fun ready => ?_⟩
  · have some : session.connection.cloud.bits &&& (Cloud.ready ||| Cloud.disconnected) ≠ 0 := by
      intro none
      rw [none, UInt32.zero_and] at left
      exact dropped left.symm
    simp [verdict, Condition.matched, some]
  · rw [ready] at left
    exact dropped left.symm

/-- The events of the cycles of a session that can be reached are conserved. -/
theorem Reached.conserved (reached : Reached setting session) :
    Ledger.Conserved session.supervisor.phase session.supervisor.events :=
  -- The ledger of a session that can be reached is balanced.
  reached.balances.booked.conserved

/-- Each shadow is published for a session that was ready, and each timeout is counted. -/
theorem Reached.decisions (reached : Reached setting session) :
    session.supervisor.requests.count .publishShadow = session.supervisor.events.count .cloudReady ∧
      session.connection.telemetry.metrics.readyTimeouts =
        .ofNat (session.supervisor.events.count .readyTimedOut) :=
  -- The ledger of a session that can be reached is balanced.
  ⟨reached.balances.publishes, reached.balances.booked.tallied.timeouts⟩

/-- In the cycle of a wait that has ended, its end is the only decision. -/
theorem Reached.ends_once {opening : Session} (reached : Reached setting opening)
    (path : Path setting opening session) (phase : session.supervisor.phase = .waitCloudReady)
    (next : Next setting session after) (ends : session.Ends after due told) (later : Path setting after last)
    (cycle : opening.supervisor.events.count .backoffElapsed = last.supervisor.events.count .backoffElapsed) :
    last.supervisor.requests.count .publishShadow =
        opening.supervisor.requests.count .publishShadow + (if ending told == .cloudReady then 1 else 0) ∧
      last.connection.telemetry.metrics.readyTimeouts =
        opening.connection.telemetry.metrics.readyTimeouts +
          .ofNat (if ending told == .readyTimedOut then 1 else 0) := by
  -- Both counts are counts of events, and the cycle has one decision at most, which is the end of this wait.
  have waited := reached.path path
  have closed := (waited.next next).path later
  have earlier := Supervisor.events_suffix (reached.history_along path)
  have onward := Supervisor.events_suffix ((waited.next next).history_along later)
  rw [ends.events] at onward
  have decides : ending told = .cloudReady ∨ ending told = .readyTimedOut := by
    unfold ending
    split
    · exact .inl rfl
    · exact .inr rfl
  have waiting : Ledger.Conserved .waitCloudReady session.supervisor.events :=
    phase ▸ waited.conserved
  obtain ⟨ready, timedOut⟩ := Ledger.decided_once reached.conserved waiting closed.conserved earlier onward
    cycle decides
  obtain ⟨published, counted⟩ := reached.decisions
  obtain ⟨published', counted'⟩ := closed.decisions
  exact ⟨by rw [published, published', ready], by rw [counted, counted', timedOut, UInt64.ofNat_add]⟩

/-- Once the wait for the session to become ready has begun, the first bits that are set of those it waits for
decide the cycle. If they say ready and nothing else, the shadow is published once in the cycle; otherwise,
and if nothing was set before the wait was ended at its deadline, it is not published, one timeout is counted and
the connection is reset. The wait goes on only while nothing is set, and a disconnect that was asked for since the
last reset makes it fail. -/
theorem Reached.shadow_follows_verdict {opening : Session} (reached : Reached setting opening)
    (path : Path setting opening before) (closed : before.supervisor.phase ≠ .waitCloudReady)
    (opens : Next setting before begun) (waiting : Waiting setting begun told session) :
    (session.turn? = none → told = none ∧ session.agenda.reached begun.readyDue = false) ∧
    (∀ after, Next setting session after → after.supervisor.phase ≠ .waitCloudReady →
      (told = none → after.agenda.reached begun.readyDue = true) ∧
      (told = some Cloud.ready → after.supervisor.phase = .connected) ∧
      (told ≠ some Cloud.ready → after.supervisor.phase = .resetting) ∧
      ∀ last, Path setting after last →
        opening.supervisor.events.count .backoffElapsed = last.supervisor.events.count .backoffElapsed →
        let publishes (session : Session) := session.supervisor.requests.count .publishShadow
        let timeouts (session : Session) := session.connection.telemetry.metrics.readyTimeouts
        (told = some Cloud.ready → publishes last = publishes opening + 1 ∧ timeouts last = timeouts opening) ∧
        (told ≠ some Cloud.ready → publishes last = publishes opening ∧ timeouts last = timeouts opening + 1)) ∧
    (∀ asked, Reached setting asked → Path setting asked begun → setting.clears = false →
      asked.connection.isDisconnecting = true →
      asked.supervisor.events.count .resetComplete = begun.supervisor.events.count .resetComplete →
      told ≠ some Cloud.ready) := by
  have started : Reached setting begun := (reached.path path).next opens
  have waits := waiting.waits started ((reached.path path).opens closed opens waiting.begins)
  have waited : Reached setting session := started.path waiting.path
  refine ⟨waits.quiet waited, fun after next ended => ?_, ?_⟩
  · -- The wait has not gone on, so it has ended with what it was told.
    have ends : session.Ends after begun.readyDue told := by
      rcases waited.waits waits waiting.phase next with ⟨still, -⟩ | ends
      · exact absurd still ended
      · exact ends
    refine ⟨ends.due, fun ready => ?_, fun other => ?_, fun last later cycle => ?_⟩
    · rw [ends.phase, sequel, if_pos ready]
    · rw [ends.phase, sequel, if_neg other]
    · -- What was told is counted once in the cycle, whatever comes later.
      obtain ⟨publishes, timeouts⟩ := reached.ends_once ((path.tail opens).trans waiting.path) waiting.phase
        next ends later cycle
      refine ⟨fun ready => ?_, fun other => ?_⟩
      · rw [ending, if_pos ready] at publishes timeouts
        exact ⟨publishes, by simpa using timeouts⟩
      · rw [ending, if_neg other] at publishes timeouts
        exact ⟨publishes, by simpa using timeouts⟩
  · intro asked reached' leads keeps disconnecting same
    -- The bit is still set when the wait begins.
    rcases reached'.asked_or_reset keeps disconnecting leads with still | reset
    · obtain ⟨bits, said, unready⟩ := verdict_of_disconnecting still
      rw [waiting.settled said]
      exact fun ready => unready (Option.some.inj ready)
    · exact absurd same (Nat.ne_of_lt reset)

/-- A session that says that it is ready at once has its shadow published, and no timeout is counted. -/
theorem ready_session_publishes :
    ∃ opening begun last : Session, begun.verdict = some Cloud.ready ∧ Path ⟨false, false⟩ begun last ∧
      last.supervisor.phase = .waitDisconnect ∧
      last.supervisor.requests.count .publishShadow = opening.supervisor.requests.count .publishShadow + 1 ∧
      last.connection.telemetry.metrics.readyTimeouts =
        opening.connection.telemetry.metrics.readyTimeouts := by
  let first : Session := ofConfig (.ofAppVersion "1.0.0") 0
  have idle : first.runTask = none := rfl
  have opened : Reached ⟨false, false⟩ _ := .start (.fresh (fresh_ofConfig _ 0)) idle
  let started : Session := (first.act .start).2
  -- The tenth turn finds the transport connected, and the eleventh finds the session ready.
  have path : Path ⟨false, false⟩ started (Timed.settle 9 started) := Path.settle ⟨false, false⟩ 9 started
  have opens : Next ⟨false, false⟩ (Timed.settle 9 started) (Timed.settle 10 started) := .settle (by decide +kernel)
  have waiting : Waiting ⟨false, false⟩ (Timed.settle 10 started) _ _ := .begun (by decide +kernel)
  have ends : Next ⟨false, false⟩ (Timed.settle 10 started) (Timed.settle 11 started) := .settle (by decide +kernel)
  have said : (Timed.settle 10 started).verdict = some Cloud.ready := by decide +kernel
  have later := Path.settle ⟨false, false⟩ 5 (Timed.settle 11 started)
  obtain ⟨-, decides, -⟩ := opened.shadow_follows_verdict path (by decide +kernel) opens waiting
  obtain ⟨-, -, -, counts⟩ := decides _ ends (by decide +kernel)
  obtain ⟨publishes, timeouts⟩ := (counts _ later (by decide +kernel)).1 said
  exact ⟨started, _, _, said, later.head ends, by decide +kernel, publishes, timeouts⟩

/-- A session that says that it is ready at the very instant of the deadline, before the supervisor takes its
turn, has its shadow published, although nothing was set before the deadline. -/
theorem ready_at_deadline_publishes :
    ∃ opening begun session last : Session, Reached ⟨false, false⟩ opening ∧
      opening.supervisor.phase ≠ .waitCloudReady ∧ Next ⟨false, false⟩ opening begun ∧
      Waiting ⟨false, false⟩ begun none session ∧ session.agenda.reached begun.readyDue = true ∧
      Path ⟨false, false⟩ session last ∧ last.agenda.now = session.agenda.now ∧
      last.supervisor.events.count .backoffElapsed = opening.supervisor.events.count .backoffElapsed ∧
      last.supervisor.requests.count .publishShadow =
        opening.supervisor.requests.count .publishShadow + 1 := by
  -- The cloud pauses for as long before each of its events as the supervisor waits for the last of them.
  let config : Config := { (.ofAppVersion "1.0.0" : Config) with connection.readyTimeout := 2 }
  let first : Session := { ofConfig config 0 with cloud := { pause := some 2000 } }
  have idle : first.runTask = none := rfl
  have fresh : first.Fresh := (fresh_ofConfig _ 0).withCloud _
  have asked : Reached ⟨false, false⟩ _ := (Reached.start (.fresh fresh) idle).settle 15
  have connecting := (asked.strike 2000 (by decide +kernel)).settle 5
  let connected : Session := (Timed.settle 5 ((Timed.settle 15 (first.act .start).2).strike 2000)).strike 4000
  have opening : Reached ⟨false, false⟩ (Timed.settle 4 connected) :=
    (connecting.strike 4000 (by decide +kernel)).settle 4
  have opens : Next ⟨false, false⟩ (Timed.settle 4 connected) (Timed.settle 5 connected) :=
    .settle (by decide +kernel)
  -- The last of the events comes at the deadline, when the supervisor has not taken its turn yet.
  have waiting : Waiting ⟨false, false⟩ (Timed.settle 5 connected) _ ((Timed.settle 6 connected).strike 6000) :=
    .next (.next (.begun (by decide +kernel)) (.settle (by decide +kernel)) (by decide +kernel))
      (.strike 6000 (by decide +kernel)) (by decide +kernel)
  have nothing : ((Timed.settle 5 connected).verdict.or (Timed.settle 6 connected).verdict).or
      ((Timed.settle 6 connected).strike 6000).verdict = none := by decide +kernel
  rw [nothing] at waiting
  exact ⟨_, _, _, _, opening, by decide +kernel, opens, waiting, by decide +kernel, .settle _ 5 _,
    by decide +kernel, by decide +kernel, by decide +kernel⟩

end Uplink.Session
