import Uplink.Proofs.Session.Next

/-! The supervisor's own turns, and its starts and stops, spare the tasks that do not run it. -/

namespace Uplink

open Flags (Ticket)

/-- Those who may do everything. -/
abbrev Liberty.all : Liberty where
  clears := true
  counts := true
  posts := true
  delivers := true

/-- Where a wait of the run was held before, its place holds no other. -/
theorem Connection.Passes.widen {liberty : Liberty} {held wider : RegisterName → Ticket → Prop}
    {before after : Connection} {holds : RegisterName → Ticket → Prop}
    (passes : before.Passes liberty held after holds)
    (owned : ∀ name ticket, held name ticket → wider name ticket) : before.Passes liberty wider after holds where
  -- What was allowed with less is allowed with more.
  touches := Connection.Touches.refl.trans passes.touches fun name ticket has => .inl (owned name ticket has)
  obtains := fun name ticket has => (passes.obtains name ticket has).imp_left (owned name ticket)

/-- A run that is given up gives up the wait of its place alone. -/
theorem Supervisor.abandon_touches {liberty : Liberty} (supervisor : Supervisor) (run : Supervisor.Run) :
    supervisor.connection.Touches liberty run.place.Holds (supervisor.abandon run).connection := by
  -- One case for each place; most of them hold nothing.
  have untouched : supervisor.connection.Touches liberty run.place.Holds supervisor.connection := .refl
  obtain ⟨cycle, place⟩ := run
  cases place with
  | awaitingNetwork wait | awaitingCloud wait | awaitingReady wait | awaitingDrop wait =>
    exact untouched.abandon fun _ has => .inl ⟨rfl, has⟩
  | starting | calling request | cycleStart | settling due | backingOff due => exact untouched

namespace Session.Moves

variable {spared : TaskId → Prop} {session : Session} {task : TaskId} {rest : List TaskId} {run : Supervisor.Run}

/-- Another supervisor, with what its run can do to the connection, is seen by no task. -/
theorem govern {supervisor : Supervisor}
    (touches : session.connection.Touches .supervisor (session.HeldBeside spared) supervisor.connection) :
    Moves .supervisor spared session { session with supervisor } :=
  -- Beside the supervisor the session is the same.
  relist nofun touches (fun _ _ => rfl) (fun _ member => .inl member) fun entry member => .inl ⟨entry, member, rfl⟩

/-- The supervisor may be given a task that is not spared, and what became of the run before is forgotten. -/
theorem entitle (other : ¬spared task) (below : task < session.agenda.unused) (outcome : Option RunOutcome) :
    Moves .supervisor spared session { session with runTask := some task, outcome } where
  -- Whoever runs the supervisor counts, so nothing is asked of what only those who do not count leave alone.
  supervisor := nofun
  touches := .refl
  runTask := nofun
  dispatcher := fun _ => ⟨rfl, rfl⟩
  running := fun _ runs => .inr (Option.some.inj runs ▸ ⟨other, below⟩)
  ready := fun _ _ ready => ready
  later := Nat.le_refl _
  alarm := fun _ _ _ _ due => .inl due
  unused := Nat.le_refl _
  lookup := fun _ _ => rfl
  tasks := fun _ member => .inl member
  numbered := fun entry member => .inl ⟨entry, member, rfl⟩

/-- The run goes on, waits or ends after a step. -/
theorem carryOn {stepped : Supervisor.Stepped} (head : session.agenda.ready = task :: rest)
    (other : ¬spared task)
    (passes : session.connection.Passes .supervisor (session.HeldBeside spared) stepped.2.connection
      (stepped.1.Holds fun run => run.place.Holds)) :
    Moves .supervisor spared session (session.carryOn task stepped) := by
  obtain ⟨progress, supervisor⟩ := stepped
  cases progress with
  | next run => exact proceed other nofun rfl passes
  | parked run => exact pause head other nofun rfl passes
  | done error =>
    -- The task ends, and how the run ended is noted if it was the latest.
    have governed : Moves .supervisor spared session { session with supervisor } := govern passes.touches
    have ended : Moves .supervisor spared session ({ session with supervisor }.finish task) :=
      governed.trans (finish head other)
    simp only [Session.carryOn]
    split
    · exact ended.trans (unseen rfl rfl rfl rfl fun _ => ⟨rfl, rfl⟩)
    · exact ended

/-- A turn of a run of the supervisor. -/
theorem turnOfRun (head : session.agenda.ready = task :: rest) (other : ¬spared task)
    (fresh : ¬spared session.agenda.unused)
    (owned : ∀ name ticket, run.place.Holds name ticket → session.HeldBeside spared name ticket) :
    Moves .supervisor spared session (session.turnOfRun task run) := by
  unfold Session.turnOfRun
  split
  · rename_i request calls
    -- The reply comes first, and a run that waits for one holds nothing.
    have replied : Moves .supervisor spared session (session.reply request).2 := reply fresh rfl request
    obtain ⟨later, ready⟩ := session.reply_ready request
    have nothing : ∀ name ticket, run.place.Holds name ticket →
        (session.reply request).2.HeldBeside spared name ticket := by
      intro name ticket has
      rw [calls] at has
      exact has.elim
    have head' : (session.reply request).2.agenda.ready = task :: (rest ++ later) := by
      rw [ready, head]
      rfl
    exact replied.trans <|
      carryOn head' other ((Supervisor.resume_passes rfl _ _ _ (fun _ => rfl) calls _).widen nothing)
  · -- Any other place makes a step without asking for anything.
    exact carryOn head other ((Supervisor.step_passes rfl _ _ _ _).widen owned)

/-- The last turn of a run of the supervisor that was stopped gives up what the run waits for. -/
theorem lastTurnOfRun (head : session.agenda.ready = task :: rest) (other : ¬spared task)
    (owned : ∀ name ticket, run.place.Holds name ticket → session.HeldBeside spared name ticket) :
    Moves .supervisor spared session (session.lastTurnOf task (.supervise run)) := by
  -- The task gives its wait up before it ends, and how it ended is noted if it was the latest.
  have touches : session.connection.Touches .supervisor (session.HeldBeside spared)
      (session.supervisor.abandon run).connection :=
    Connection.Touches.refl.trans (session.supervisor.abandon_touches run) fun name ticket has =>
      .inl (owned name ticket has)
  have abandoned : Moves .supervisor spared session
      { session with supervisor := session.supervisor.abandon run } := govern touches
  have ended : Moves .supervisor spared session
      ({ session with supervisor := session.supervisor.abandon run }.finish task) :=
    abandoned.trans (finish head other)
  simp only [Session.lastTurnOf]
  split
  · exact ended.trans (unseen rfl rfl rfl rfl fun _ => ⟨rfl, rfl⟩)
  · exact ended

/-- A run of the supervisor is started with a task of its own. -/
theorem start (fresh : ¬spared session.agenda.unused) : Moves .supervisor spared session session.start := by
  -- The task is started first, and then named as the supervisor's.
  have spawned : Moves .supervisor spared session (session.spawn (.supervise {})).2 :=
    spawn fresh rfl fun _ _ => id
  exact spawned.trans (entitle fresh (Nat.lt_succ_self _) none)

/-- A turn of a task that is not spared, whether or not it runs the supervisor. -/
theorem anyTurn (head : session.agenda.ready = task :: rest) (other : ¬spared task)
    (fresh : ¬spared session.agenda.unused) {job : Job} (within : job.Within true false)
    (owned : ∀ name ticket, job.Holds name ticket → session.HeldBeside spared name ticket) :
    Moves .supervisor spared session (session.turnOf task job) := by
  -- A turn of a run may count; that of another task may not.
  by_cases supervises : ∃ run, job = .supervise run
  · obtain ⟨run, rfl⟩ := supervises
    exact turnOfRun head other fresh owned
  · exact turn head other (fun run same => supervises ⟨run, same⟩) within (fun _ => rfl) owned

/-- The last turn of a task that is not spared, whether or not it has run the supervisor. -/
theorem anyLastTurn (head : session.agenda.ready = task :: rest) (other : ¬spared task) {job : Job}
    (within : job.Within true false)
    (owned : ∀ name ticket, job.Holds name ticket → session.HeldBeside spared name ticket) :
    Moves .supervisor spared session (session.lastTurnOf task job) := by
  -- The last turn of a run notes the outcome; that of another task does not.
  by_cases supervises : ∃ run, job = .supervise run
  · obtain ⟨run, rfl⟩ := supervises
    exact lastTurnOfRun head other owned
  · exact lastTurn head other (fun run same => supervises ⟨run, same⟩) within owned

/-- A turn of a task that is not spared spares the others. -/
theorem exists_turnOf (head : session.agenda.ready = task :: rest) (other : ¬spared task)
    (fresh : ¬spared session.agenda.unused) {job : Job}
    (owned : ∀ name ticket, job.Holds name ticket → session.HeldBeside spared name ticket) :
    ∃ liberty, Moves liberty spared session (session.turnOf task job) := by
  -- What a run may do differs from what the others may, so each has its own liberty.
  by_cases supervises : ∃ run, job = .supervise run
  · obtain ⟨run, rfl⟩ := supervises
    exact ⟨.supervisor, .turnOfRun head other fresh owned⟩
  · exact ⟨.all, .turn head other (fun run same => supervises ⟨run, same⟩) job.within_all (fun _ => rfl) owned⟩

/-- The last turn of a task that is not spared spares the others. -/
theorem exists_lastTurnOf (head : session.agenda.ready = task :: rest) (other : ¬spared task) {job : Job}
    (owned : ∀ name ticket, job.Holds name ticket → session.HeldBeside spared name ticket) :
    ∃ liberty, Moves liberty spared session (session.lastTurnOf task job) := by
  -- What a run may do differs from what the others may, so each has its own liberty.
  by_cases supervises : ∃ run, job = .supervise run
  · obtain ⟨run, rfl⟩ := supervises
    exact ⟨.supervisor, .lastTurnOfRun head other owned⟩
  · exact ⟨.all, .lastTurn head other (fun run same => supervises ⟨run, same⟩) job.within_all owned⟩

end Session.Moves

end Uplink
