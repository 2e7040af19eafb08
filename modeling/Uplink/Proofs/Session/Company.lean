import Uplink.Proofs.Session.Joint
import Uplink.Proofs.Session.Mark

/-! Everything that can happen to a session around the tasks that nobody cancels, while the clock is kept. -/

namespace Uplink

open Flags (Condition Register Ticket Timeout)

/-! ### What a step of the supervisor tells -/

/-- The bits are as they were, and nobody has lost his place in a list or what he has in hand. -/
structure Connection.Defers (before after : Connection) : Prop where
  bits : ∀ name, (after.register name).bits = (before.register name).bits
  lists : ∀ name ticket task condition, (before.register name).Lists ticket task condition →
    (after.register name).Lists ticket task condition
  hands : ∀ name ticket bits, (before.register name).Hands ticket bits → (after.register name).Hands ticket bits

namespace Connection.Defers

variable {before after : Connection}

/-- Registers that are the same leave everybody where he is. -/
theorem of_same (same : ∀ name, after.register name = before.register name) : before.Defers after where
  -- Each field reads one register, and it is the same.
  bits := fun name => congrArg Register.bits (same name)
  lists := fun name _ _ _ listed => (same name).symm ▸ listed
  hands := fun name _ _ handed => (same name).symm ▸ handed

/-- A log entry leaves everybody where he is. -/
theorem log (defers : before.Defers after) (level : Level) (message : String) (fields : Fields) :
    before.Defers (after.log level message fields) where
  -- An entry leaves each register as it is, so the fields carry over one by one.
  bits := fun name => (congrArg Register.bits (register_log after level message fields name)).trans (defers.bits name)
  lists := fun name ticket task condition listed =>
    (register_log after level message fields name).symm ▸ defers.lists name ticket task condition listed
  hands := fun name ticket bits handed =>
    (register_log after level message fields name).symm ▸ defers.hands name ticket bits handed

/-- A wait that begins leaves everybody else where he is. -/
theorem await (defers : before.Defers after) (agenda : Agenda) (owner : TaskId) (name : RegisterName)
    (condition : Condition) (timeout : Timeout) :
    before.Defers (after.await agenda owner name condition timeout).2 where
  -- The register that is waited on gets a waiter more, and the others are the same.
  bits := forall_setRegister (P := fun other register => register.bits = (before.register other).bits)
    defers.bits ((Register.wait_bits _ _ _ _ _).trans (defers.bits name))
  lists := fun other ticket task sought listed => by
    refine forall_setRegister (P := fun here register => (before.register here).Lists ticket task sought →
      register.Lists ticket task sought) (fun here => defers.lists here ticket task sought) ?_ other listed
    exact fun stood => (defers.lists name ticket task sought stood).wait _ _ _ _
  hands := fun other ticket bits handed => by
    refine forall_setRegister (P := fun here register => (before.register here).Hands ticket bits →
      register.Hands ticket bits) (fun here => defers.hands here ticket bits) ?_ other handed
    exact fun stood => (defers.hands name ticket bits stood).wait _ _ _ _

end Connection.Defers

namespace Supervisor

/-- Moving to another phase is no matter of the registers. -/
@[simp] theorem register_advance (supervisor : Supervisor) (now : Nat) (event : PhaseEvent) (name : RegisterName) :
    (supervisor.advance now event).connection.register name = supervisor.connection.register name := by
  -- A move of the phase is logged and counted, whether it leads anywhere or not.
  unfold advance
  split
  · exact Connection.register_log _ _ _ _ _
  · simp only
    split
    · exact Connection.register_count _ _ _
    · exact (Connection.register_count _ _ _).trans (Connection.register_log _ _ _ _ _)

/-- Going on with the reply to a connect begins a wait at most. -/
theorem resume_defers (supervisor : Supervisor) (agenda : Agenda) (task : TaskId) (run : Run) {request : Request}
    (connects : request = .connectNetwork ∨ request = .connectCloud) (reply : request.Reply) :
    supervisor.connection.Defers (supervisor.resume agenda task run request reply).2.connection := by
  rcases connects with rfl | rfl
  · -- A modem that fails ends the setup, and otherwise the first cycle begins.
    refine .of_same fun name => ?_
    cases reply with
    | error error =>
      show ((supervisor.log _ _ _).advance _ _).connection.register name = _
      rw [register_advance]
      exact Connection.register_log _ _ _ _ _
    | ok value =>
      show (((supervisor.advance _ _).advance _ _).connection.log _ _ _).register name = _
      rw [Connection.register_log, register_advance, register_advance]
  · -- Whether or not the transport refused, the wait for it begins.
    have untouched : supervisor.connection.Defers supervisor.connection := .of_same fun _ => rfl
    simp only [resume, goTo, Supervisor.log, Connection.awaitCloud]
    cases reply with
    | error error => exact (((untouched.log _ _ _).log _ _ _).log _ _ _).await agenda task .cloud _ _
    | ok value => exact ((untouched.log _ _ _).log _ _ _).await agenda task .cloud _ _

end Supervisor

namespace Session

variable {spared : TaskId → Prop} {session before middle after : Session} {task own : TaskId} {rest : List TaskId}
  {run : Supervisor.Run}

/-- Whoever is told in the middle stays told as long as everybody is left where he is and nobody is put back to
sleep. -/
theorem Tidings.keep (tidings : Tidings spared before middle) (defers : middle.connection.Defers after.connection)
    (woken : middle.connection.woken ⊆ after.connection.woken) : Tidings spared before after := by
  -- Whoever was told has the answer in hand already, and nobody takes that from him.
  intro name condition ticket task sought apart issued listed
  rcases tidings name condition ticket task sought apart issued listed with still | ⟨called, answer, met, handed⟩
  · exact .inl (defers.lists name ticket task condition still)
  · exact .inr ⟨woken called, answer, (defers.bits name).symm ▸ met, defers.hands name ticket answer handed⟩

/-- In which spans the entries are written is no matter of those who are told. -/
theorem Tidings.within {opening : List Span} (tidings : Tidings spared (session.within opening) after)
    (closing : List Span) : Tidings spared session (after.within closing) := by
  -- The spans are no part of a register.
  intro name condition ticket task sought apart issued listed
  rw [register_within]
  exact tidings name condition ticket task sought apart (by simpa using issued) (by simpa using listed)

/-- A step of the supervisor that raises no bits leaves everybody waiting but itself. -/
theorem tidings_carryOn {liberty : Liberty} {stepped : Supervisor.Stepped} (mute : liberty.posts = false)
    (owned : ∀ name ticket, run.place.Holds name ticket → session.HeldBeside spared name ticket)
    (touches : session.connection.Touches liberty run.place.Holds stepped.2.connection) :
    Tidings spared session (session.carryOn task stepped) := by
  -- Whoever waits under a ticket that the run does not hold stays in the list.
  intro name condition ticket other sought apart issued listed
  rw [carryOn_connection]
  exact .inl (touches.lists mute (fun holds => apart (owned name ticket holds)) issued listed)

/-- A reply of the modem or the transport and what the supervisor does with it are heard of by the others. -/
theorem tidings_resume {replied : Session} {request : Request} (calls : run.place = .calling request)
    (reply : request.Reply) (agenda : Agenda) (tidings : Tidings spared session replied)
    (mute : request ≠ .connectNetwork → request ≠ .connectCloud → replied.connection = session.connection) :
    Tidings spared session (replied.carryOn task (replied.supervisor.resume agenda task run request reply)) := by
  have passes : replied.connection.Passes .hushed run.place.Holds
      (replied.supervisor.resume agenda task run request reply).2.connection _ :=
    Supervisor.resume_passes rfl _ _ _ (fun _ => rfl) calls reply
  by_cases connects : request = .connectNetwork ∨ request = .connectCloud
  · -- Only what comes with a connect raises bits, and the supervisor then begins a wait at most.
    have defers := replied.supervisor.resume_defers agenda task run connects reply
    refine tidings.keep ?_ fun _ => ?_
    · rw [carryOn_connection]
      exact defers
    · rw [carryOn_connection]
      exact passes.touches.woken
  · -- Without that the supervisor is the only one who does anything, and it holds nothing.
    obtain ⟨network, cloud⟩ := not_or.mp connects
    intro name condition ticket other sought apart issued listed
    rw [← mute network cloud] at issued listed
    rw [carryOn_connection]
    refine .inl (passes.touches.lists rfl (fun holds => ?_) issued listed)
    rw [calls] at holds
    exact holds.elim

/-- A turn of a run of the supervisor is heard of by the others. -/
theorem tidings_turnOfRun (ordered : ∀ name, (session.connection.register name).Orderly)
    (owned : ∀ name ticket, run.place.Holds name ticket → session.HeldBeside spared name ticket) :
    Tidings spared session (session.turnOfRun task run) := by
  unfold turnOfRun
  split
  · -- The reply may bring impulses, and those are told by the registers.
    rename_i request calls
    refine tidings_resume calls _ _ (tidings_reply ordered request) fun network cloud => ?_
    cases request with
    | connectNetwork => exact absurd rfl network
    | connectCloud => exact absurd rfl cloud
    | modemInit | registerClock | transportInit | requestPsm | enableEvents | publishShadow | disconnectCloud => rfl
  · -- A step of its own raises no bits.
    have passes : session.connection.Passes .hushed run.place.Holds
        (session.supervisor.step session.agenda task run).2.connection _ := Supervisor.step_passes rfl _ _ _ _
    exact tidings_carryOn rfl owned passes.touches

/-- The last turn of a task that was stopped leaves everybody else waiting. -/
theorem tidings_lastTurnOf (head : session.agenda.ready = task :: rest) (other : ¬spared task) {job : Job}
    (owned : ∀ name ticket, job.Holds name ticket → session.HeldBeside spared name ticket) :
    Tidings spared session (session.lastTurnOf task job) := by
  -- A supervisor that is stopped gives its own wait up; what any other task leaves behind wakes nobody.
  by_cases supervises : ∃ run, job = .supervise run
  · obtain ⟨run, rfl⟩ := supervises
    have touches : session.connection.Touches .hushed run.place.Holds (session.supervisor.abandon run).connection :=
      session.supervisor.abandon_touches run
    have gives : (session.lastTurnOf task (.supervise run)).connection =
        (session.supervisor.abandon run).connection := by
      simp only [lastTurnOf]
      split <;> rfl
    intro name condition ticket owner sought apart issued listed
    rw [gives]
    exact .inl (touches.lists rfl (fun holds => apart (owned name ticket holds)) issued listed)
  · have moves : Moves .hushed spared session (session.lastTurnOf task job) :=
      .lastTurn head other (fun run same => supervises ⟨run, same⟩) job.within_all owned
    exact tidings_of_mute moves rfl

/-! ### What can happen -/

/-- The action cancels none of the tasks that are spared. -/
def Keeps (session : Session) (spared : TaskId → Prop) (action : Action) : Prop :=
  ∀ label task, action = .cancel label → session.labelled? label = some task → ¬spared task

/-- One thing that can happen to a session in which nobody cancels a task that is spared: something is done from
outside, a task takes its turn, whatever waits for the modem or the transport gets any answer, at once or later, or
the clock moves on where no task can run, to the next deadline at most. -/
inductive Occurs (spared : TaskId → Prop) (session : Session) : Session → Prop where
  | act {action : Action} (keeps : session.Keeps spared action) : Occurs spared session (session.act action).2
  | turn {next : Session} (turned : session.turn? = some next) : Occurs spared session next
  | reply {task : TaskId} {rest : List TaskId} {run : Supervisor.Run} {request : Request}
      (head : session.agenda.ready = task :: rest)
      (listed : session.tasks.lookup task = some ⟨.supervise run, false⟩) (calls : run.place = .calling request)
      (reply : request.Reply) :
      Occurs spared session (((session.within run.spans).carryOn task
        ((session.within run.spans).supervisor.resume session.agenda task run request reply)).within []).flush
  | answer {task : TaskId} {rest : List TaskId} {envelope : Envelope} (head : session.agenda.ready = task :: rest)
      (listed : session.tasks.lookup task = some ⟨.dispatch (.delivering envelope .sending), false⟩)
      (result : Except TransportError Unit) :
      Occurs spared session (((session.within (Dispatcher.delivering envelope .sending).spans).answer task envelope
        result).within []).flush
  | suspend {task : TaskId} {rest : List TaskId} {job : Job} (head : session.agenda.ready = task :: rest)
      (listed : session.tasks.lookup task = some ⟨job, false⟩) (calls : job.Calls) :
      Occurs spared session { session with agenda := session.agenda.yield }
  | rouse {task : TaskId} {job : Job} (listed : session.tasks.lookup task = some ⟨job, false⟩)
      (calls : job.Calls) : Occurs spared session { session with agenda := session.agenda.wake task }
  | strike (instant : Nat) (quiet : session.turn? = none) (later : session.agenda.now ≤ instant)
      (shown : instant ≤ Agenda.horizon) (next : ∀ due, Timed.nextDue? session = some due → instant ≤ due) :
      Occurs spared session (session.strike instant)

/-- A session that can come about from a new device. -/
def Arises (session : Session) : Prop :=
  ∃ config messages cloud modem, Relation.ReflTransGen (Occurs fun _ => False)
    { ofConfig config messages with cloud, modem } session

/-- Names are used once, the supervisor's task is one that was named, nobody is left to wake, and every wait that is
held was issued by a register in order. -/
structure Sound (session : Session) : Prop where
  clock : session.agenda.now ≤ Agenda.horizon
  woken : session.connection.woken = []
  numbered : ∀ entry ∈ session.tasks, entry.1 < session.agenda.unused
  hired : ∀ task, session.runTask = some task → task < session.agenda.unused
  orderly : ∀ name, (session.connection.register name).Orderly
  issued : ∀ name ticket, session.HeldBeside (fun _ => False) name ticket →
    ticket < (session.connection.register name).nextTicket

/-- What is done from outside takes no time. -/
theorem now_perform (session : Session) (action : Action) :
    (session.perform action).2.agenda.now = session.agenda.now := by
  by_cases aside : action.Aside true
  · exact congrArg Mark.now (mark_perform session aside)
  · -- Only a start, a stop and a publish are left.
    cases action with
    | start | publish => rfl
    | stop =>
      simp only [perform]
      cases session.runTask with
      | none => rfl
      | some runner =>
        show (session.stop runner).agenda.now = _
        unfold stop
        split
        · rfl
        · exact Agenda.wake_now _ _
    | _ => exact absurd (by first | exact trivial | exact fun _ => rfl) aside

/-! ### What it comes to for those who are spared -/

/-- Whatever is done from outside spares those whom it does not cancel and who do not run the supervisor. -/
theorem Moves.exists_perform (fresh : ¬spared session.agenda.unused)
    (unhired : ∀ task, session.runTask = some task → ¬spared task) {action : Action}
    (keeps : session.Keeps spared action) : ∃ liberty, Moves liberty spared session (session.perform action).2 := by
  have stop {task : TaskId} (other : ¬spared task) : Moves .all spared session (session.stop task) :=
    .stop other fun entry _ _ => entry.2.job.within_all
  have other (within : action.Within .all) (steady : ∀ label, action ≠ .cancel label) :
      ∃ liberty, Moves liberty spared session (session.perform action).2 := ⟨.all, .undertake fresh within steady⟩
  -- Only two actions stop a task: one that stops the run, and one that cancels a wait. The others leave the
  -- spared tasks to themselves.
  cases action with
  | start => exact ⟨.supervisor, .start fresh⟩
  | stop =>
    simp only [Session.perform]
    cases runs : session.runTask with
    | none => exact ⟨.all, .refl session⟩
    | some task => exact ⟨.all, stop (unhired task runs)⟩
  | cancel label =>
    simp only [Session.perform]
    split
    · exact ⟨.all, .refl session⟩
    · rename_i task found
      exact ⟨.all, stop (keeps label task rfl found)⟩
  | reset name => exact other (fun _ => rfl) (by simp)
  | startDispatcher | publish | link _ | cloud _ | dateTime _ | emit _ | dropSession | emitLink _ | emitDateTime _
  | requestDisconnect | enqueue _ _ _ | closeQueue | tryReceive _ | release _ | dispatch _ | post _ _
  | connectTransport | connectModem => exact other rfl (by simp)
  | registerHandler _ | await _ _ _ | buildShadow | initTransport | disconnectTransport | send _ _ | publishStatus _
  | initModem | requestPsm _ | enableEvents | registerClock => exact other trivial (by simp)

/-- A turn of a task that is not spared is heard of by those who are. -/
theorem Sound.moves_turn (sound : session.Sound) (fresh : ¬spared session.agenda.unused)
    (idle : ∀ task, session.agenda.ready.head? = some task → ¬spared task) (turned : session.turn? = some after) :
    ∃ liberty middle, Moves liberty spared session middle ∧ Tidings spared session middle ∧ after = middle.flush := by
  -- The head of the line has ended, or is a task that was stopped, or takes its turn.
  obtain ⟨task, rest, head, turn⟩ := turn_of_turned turned
  have other : ¬spared task := idle task (by simp [head])
  have held {entry : Task} (found : session.tasks.lookup task = some entry) :
      ∀ name ticket, entry.job.Holds name ticket → session.HeldBeside spared name ticket :=
    fun name ticket has => ⟨(task, entry), Entries.mem_of_lookup found, other, has⟩
  cases turn with
  | gone absent =>
    have nobody : ({ session with agenda := session.agenda.yield } : Session).connection.woken = [] := sound.woken
    exact ⟨.all, _, .yield head other, tidings_of_same rfl, (flush_of_nobody _ nobody).symm⟩
  | @last entry found stopped =>
    obtain ⟨liberty, moves⟩ := Moves.exists_lastTurnOf head other (held found)
    exact ⟨liberty, _, moves, tidings_lastTurnOf head other (held found), rfl⟩
  | @next entry found onward =>
    let opened := session.within entry.job.spans
    have head' : opened.agenda.ready = task :: rest := head
    have owned : ∀ name ticket, entry.job.Holds name ticket → opened.HeldBeside spared name ticket := held found
    obtain ⟨liberty, moves⟩ := Moves.exists_turnOf head' other fresh owned
    -- The spans around the turn are nobody's concern.
    suffices told : Tidings spared opened (opened.turnOf task entry.job) from
      ⟨liberty, _, ((Moves.within _).trans moves).trans (.within []), told.within [], rfl⟩
    -- A run may have events come with a reply; other tasks raise bits themselves.
    by_cases supervises : ∃ run, entry.job = .supervise run
    · obtain ⟨run, job⟩ := supervises
      rw [job] at owned ⊢
      have ordered (name : RegisterName) : (opened.connection.register name).Orderly := by
        rw [register_within]
        exact sound.orderly name
      exact tidings_turnOfRun ordered owned
    · exact tidings_turn head' other (fun run same => supervises ⟨run, same⟩) entry.job.within_all owned

/-- Whatever happens while those who are spared take no turn leaves them as they were, and tells them what the bits
say. -/
theorem Occurs.moves (occurs : Occurs spared before after) (sound : before.Sound)
    (fresh : ¬spared before.agenda.unused) (unhired : ∀ task, before.runTask = some task → ¬spared task)
    (silent : ∀ task job, before.tasks.lookup task = some ⟨job, false⟩ → job.Calls → ¬spared task)
    (idle : before.turn? = some after → ∀ task, before.agenda.ready.head? = some task → ¬spared task) :
    ∃ liberty middle, Moves liberty spared before middle ∧ Tidings spared before middle ∧ after = middle.flush := by
  -- Where nobody is woken, nobody moves to the line.
  have settled {liberty : Liberty} {later : Session} (moves : Moves liberty spared before later)
      (same : later.connection = before.connection) : ∃ liberty middle, Moves liberty spared before middle ∧
        Tidings spared before middle ∧ later = middle.flush :=
    ⟨liberty, later, moves, tidings_of_same same,
      (flush_of_nobody later ((congrArg Connection.woken same).trans sound.woken)).symm⟩
  cases occurs with
  | act keeps =>
    obtain ⟨liberty, moves⟩ := Moves.exists_perform fresh unhired keeps
    exact ⟨liberty, _, moves, tidings_perform sound.orderly fresh _, rfl⟩
  | turn turned => exact sound.moves_turn fresh (idle turned) turned
  | @reply task rest run request head listed calls reply =>
    have other := silent task _ listed ⟨request, calls⟩
    let opened := before.within run.spans
    -- A run that waits for a reply holds nothing.
    have nothing : ∀ name ticket, run.place.Holds name ticket → opened.HeldBeside spared name ticket := by
      intro name ticket has
      rw [calls] at has
      exact has.elim
    have head' : opened.agenda.ready = task :: rest := head
    have resumed : Moves .supervisor spared opened
        (opened.carryOn task (opened.supervisor.resume before.agenda task run request reply)) :=
      .carryOn head' other ((Supervisor.resume_passes rfl _ _ _ (fun _ => rfl) calls reply).widen nothing)
    have told : Tidings spared opened
        (opened.carryOn task (opened.supervisor.resume before.agenda task run request reply)) :=
      tidings_resume calls reply before.agenda (tidings_of_same rfl) fun _ _ => rfl
    exact ⟨.supervisor, _, ((Moves.within _).trans resumed).trans (.within []), told.within [], rfl⟩
  -- The answer to a delivery is counted, and raises no bit.
  | @answer task rest envelope head listed result =>
    have other := silent task _ listed trivial
    have answered {liberty : Liberty} (delivers : liberty.delivers = true) : Moves liberty spared before
        (((before.within (Dispatcher.delivering envelope .sending).spans).answer task envelope result).within []) :=
      .answered other delivers envelope result
    have mute : Moves .hushed spared before _ := answered rfl
    exact ⟨.hushed, _, mute, tidings_of_mute mute rfl, rfl⟩
  -- From here on the connection is as it was.
  | suspend head listed calls =>
    have moves : Moves .all spared before { before with agenda := before.agenda.yield } :=
      .yield head (silent _ _ listed calls)
    exact settled moves rfl
  | @rouse task job listed calls =>
    have moves : Moves .all spared before { before with agenda := before.agenda.wake task } :=
      .line (fun _ _ ready => Agenda.mem_wake.mpr (.inl ready)) (Agenda.wake_now _ _)
        (Nat.le_of_eq (Agenda.wake_unused _ _).symm)
    exact settled moves rfl
  | strike instant quiet later shown next =>
    have moves : Moves .all spared before (before.strike instant) := .strike later
    exact settled moves rfl

/-- The clock stands still, or moves on where no task can run, to the next deadline at most. -/
theorem Occurs.now (occurs : Occurs spared before after) :
    after.agenda.now = before.agenda.now ∨ before.turn? = none ∧ before.agenda.now ≤ after.agenda.now ∧
      after.agenda.now ≤ Agenda.horizon ∧
      ∀ due, Timed.nextDue? before = some due → after.agenda.now ≤ due := by
  -- Only the clock moves the clock, and it moves when no task can run.
  cases occurs with
  | act keeps => exact .inl ((Agenda.wakeAll_now _ _).trans (now_perform before _))
  | turn turned => exact .inl (now_turn turned)
  | reply head listed calls reply => exact .inl ((Agenda.wakeAll_now _ _).trans (carryOn_now _ _ _))
  | answer head listed result =>
    exact .inl ((Agenda.wakeAll_now _ _).trans (congrArg Mark.now (mark_setJob _ _ _)))
  | suspend head listed calls => exact .inl rfl
  | rouse listed calls => exact .inl (Agenda.wake_now _ _)
  | strike instant quiet later shown next =>
    have now : (before.strike instant).agenda.now = instant := Agenda.wakeAll_now _ _
    rw [now]
    exact .inr ⟨quiet, later, shown, next⟩

/-- Whoever is spared, it can happen. -/
theorem Occurs.anyhow (occurs : Occurs spared before after) : Occurs (fun _ => False) before after := by
  -- Only an action asks who is spared, and here nobody is.
  cases occurs with
  | act keeps => exact .act fun _ _ _ _ => id
  | turn turned => exact .turn turned
  | reply head listed calls reply => exact .reply head listed calls reply
  | answer head listed result => exact .answer head listed result
  | suspend head listed calls => exact .suspend head listed calls
  | rouse listed calls => exact .rouse listed calls
  | strike instant quiet later shown next => exact .strike instant quiet later shown next

/-- Moving those who are to be woken to the line leaves a session in order. -/
theorem Sound.flush (numbered : ∀ entry ∈ session.tasks, entry.1 < session.agenda.unused)
    (clock : session.agenda.now ≤ Agenda.horizon)
    (hired : ∀ task, session.runTask = some task → task < session.agenda.unused)
    (orderly : ∀ name, (session.connection.register name).Orderly)
    (issued : ∀ name ticket, session.HeldBeside (fun _ => False) name ticket →
      ticket < (session.connection.register name).nextTicket) : session.flush.Sound := by
  -- Tasks may have joined the line; neither the clock nor the names in use have changed.
  have unused : session.flush.agenda.unused = session.agenda.unused := Agenda.wakeAll_unused _ _
  have now : session.flush.agenda.now = session.agenda.now := Agenda.wakeAll_now _ _
  exact {
    clock := now ▸ clock
    woken := rfl
    numbered := unused ▸ numbered
    hired := unused ▸ hired
    orderly := orderly
    issued := issued }

/-- Whatever happens leaves a session in order. -/
theorem Sound.occurs (sound : before.Sound) (occurs : Occurs spared before after) : after.Sound := by
  -- Nobody has to be spared for this.
  obtain ⟨liberty, middle, moves, -, rfl⟩ := occurs.anyhow.moves sound id (fun _ _ => id) (fun _ _ _ _ => id)
    fun _ _ _ => id
  have clock : middle.agenda.now ≤ Agenda.horizon := by
    have now : middle.flush.agenda.now = middle.agenda.now := Agenda.wakeAll_now _ _
    rw [← now]
    rcases occurs.now with still | ⟨-, -, shown, -⟩
    · exact still ▸ sound.clock
    · exact shown
  refine .flush (moves.below sound.numbered) clock (fun task runs => ?_) (moves.touches.orderly sound.orderly)
    fun name ticket held => ?_
  · rcases moves.running task runs with earlier | ⟨-, below⟩
    · exact (sound.hired task earlier).trans_le moves.unused
    · exact below
  · rcases moves.obtains held with old | ⟨-, high⟩
    · exact (sound.issued name ticket old).trans_le (moves.touches.issued name)
    · exact high

/-- A new device is in order. -/
theorem sound_ofConfig (config : Config) (messages : Nat) (cloud : Simulated.Cloud) (modem : Simulated.Modem) :
    Sound { ofConfig config messages with cloud, modem } where
  -- A new device has no tasks, and its registers have no waiters.
  clock := Nat.zero_le _
  woken := rfl
  numbered := nofun
  hired := nofun
  orderly := fun name => by cases name <;> exact Register.orderly_new _
  issued := fun name ticket held => by
    obtain ⟨entry, member, -⟩ := held
    cases member

/-- Whatever can come about is in order. -/
theorem Arises.sound (arises : session.Arises) : session.Sound := by
  obtain ⟨config, messages, cloud, modem, path⟩ := arises
  -- Induction on what has happened.
  induction path with
  | refl => exact sound_ofConfig config messages cloud modem
  | tail _ occurs ih => exact ih.occurs occurs

end Session

end Uplink
