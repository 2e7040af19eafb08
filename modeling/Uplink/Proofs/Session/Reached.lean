import Uplink.Proofs.Session.Next

/-! The sessions that can be reached with one run of the supervisor, whatever happens in whatever order. -/

namespace Uplink.Session

open Flags (Register)

/-- Nothing has happened yet: no task, no waits, no bits, nobody to wake, nothing counted. -/
structure Fresh (session : Session) : Prop where
  tasks : session.tasks = []
  runTask : session.runTask = none
  phase : session.supervisor.phase = .init
  history : session.supervisor.history = []
  registers : ∀ name, ∃ text, session.connection.register name = { name := text }
  metrics : session.connection.telemetry.metrics = {}
  woken : session.connection.woken = []

/-- A session of a new device is fresh. -/
theorem fresh_ofConfig (config : Config) (messages : Nat) : (ofConfig config messages).Fresh where
  -- A new device has no tasks, an empty history, and registers without waiters.
  tasks := rfl
  runTask := rfl
  phase := rfl
  history := rfl
  registers := fun name => by cases name <;> exact ⟨_, rfl⟩
  metrics := rfl
  woken := rfl

/-- A fresh session with another cloud is fresh. -/
theorem Fresh.withCloud {session : Session} (fresh : session.Fresh) (cloud : Simulated.Cloud) :
    Fresh { session with cloud } :=
  -- A fresh session says nothing of its cloud.
  ⟨fresh.tasks, fresh.runTask, fresh.phase, fresh.history, fresh.registers, fresh.metrics, fresh.woken⟩

/-- A fresh session with another modem is fresh. -/
theorem Fresh.withModem {session : Session} (fresh : session.Fresh) (modem : Simulated.Modem) :
    Fresh { session with modem } :=
  -- A fresh session says nothing of its modem.
  ⟨fresh.tasks, fresh.runTask, fresh.phase, fresh.history, fresh.registers, fresh.metrics, fresh.woken⟩

/-- A session that can be reached from a fresh one in which the supervisor is started once. The calls of
the supervisor get any reply, at once or later. -/
inductive Reached (setting : Setting) : Session → Prop where
  | fresh {session : Session} (fresh : session.Fresh) : Reached setting session
  | start {session : Session} (reached : Reached setting session) (idle : session.runTask = none) :
      Reached setting (session.act .start).2
  | act {session : Session} (reached : Reached setting session) {action : Action}
      (aside : action.Aside setting.clears) : Reached setting (session.act action).2
  | turn {session next : Session} (reached : Reached setting session)
      (turned : session.turn? = some next) : Reached setting next
  | reply {session : Session} {task : TaskId} {rest : List TaskId} {run : Supervisor.Run} {request : Request}
      (reached : Reached setting session) (head : session.agenda.ready = task :: rest)
      (runs : session.Runs task run) (calls : run.place = .calling request) (reply : request.Reply) :
      Reached setting (((session.within run.spans).carryOn task
        ((session.within run.spans).supervisor.resume session.agenda task run request reply)).within []).flush
  | suspend {session : Session} {task : TaskId} {rest : List TaskId} {run : Supervisor.Run}
      {request : Request} (reached : Reached setting session) (head : session.agenda.ready = task :: rest)
      (runs : session.Runs task run) (calls : run.place = .calling request)
      (allowed : setting.suspends = true) :
      Reached setting { session with agenda := session.agenda.yield }
  | rouse {session : Session} {task : TaskId} {run : Supervisor.Run} {request : Request}
      (reached : Reached setting session) (runs : session.Runs task run)
      (calls : run.place = .calling request) :
      Reached setting { session with agenda := session.agenda.wake task }
  | strike {session : Session} (reached : Reached setting session) (instant : Nat)
      (later : session.agenda.now ≤ instant) : Reached setting (session.strike instant)

/-! ### Everything is put together from strides -/

variable {setting : Setting} {session : Session}

/-- In a fresh session everybody is at his work, as there is nobody. -/
theorem Fresh.staffed (fresh : session.Fresh) : session.Staffed where
  numbered := by simp [fresh.tasks]
  named := by simp [fresh.runTask]
  others := by simp [fresh.tasks]
  runner := by simp [fresh.tasks]
  orderly := by
    -- A register that is new has nobody in it.
    intro name
    obtain ⟨text, new⟩ := fresh.registers name
    exact new ▸ Register.orderly_new text
  issued := by simp [HeldBeside, fresh.tasks]
  held := by simp [fresh.tasks]
  apart := by simp [fresh.tasks]

/-- Where there is no turn, no task stands in line. -/
theorem ready_of_quiet (quiet : session.turn? = none) : session.agenda.ready = [] := by
  -- A task in line always has a turn.
  unfold turn? at quiet
  split at quiet
  · assumption
  · split at quiet
    · simp at quiet
    · split at quiet <;> simp at quiet

/-- What happens next to a session that can be reached leads to one that can be reached. -/
theorem Reached.next {after : Session} (reached : Reached setting session)
    (next : Next setting session after) : Reached setting after := by
  -- One case for each thing that can happen.
  cases next with
  | start idle => exact .start reached idle
  | act aside => exact .act reached aside
  | turn turned => exact .turn reached turned
  | reply head runs calls reply => exact .reply reached head runs calls reply
  | suspend head runs calls allowed => exact .suspend reached head runs calls allowed
  | rouse runs calls => exact .rouse reached runs calls
  | strike instant later => exact .strike reached instant later

/-- Every path leads to sessions that can be reached. -/
theorem Reached.path {last : Session} (reached : Reached setting session)
    (path : Path setting session last) : Reached setting last := by
  -- Induction on the path.
  induction path with
  | refl => exact reached
  | tail _ next ih => exact ih.next next

/-- Every session that can be reached is at the end of a path from a fresh one. -/
theorem Reached.exists_path (reached : Reached setting session) :
    ∃ first : Session, first.Fresh ∧ Path setting first session := by
  -- Induction on how the session was reached, one case for each thing that can happen.
  induction reached with
  | fresh fresh => exact ⟨_, fresh, .refl⟩
  | start _ idle ih => exact ih.imp fun _ earlier => ⟨earlier.1, earlier.2.tail (.start idle)⟩
  | act _ aside ih => exact ih.imp fun _ earlier => ⟨earlier.1, earlier.2.tail (.act aside)⟩
  | turn _ turned ih => exact ih.imp fun _ earlier => ⟨earlier.1, earlier.2.tail (.turn turned)⟩
  | reply _ head runs calls reply ih =>
    exact ih.imp fun _ earlier => ⟨earlier.1, earlier.2.tail (.reply head runs calls reply)⟩
  | suspend _ head runs calls allowed ih =>
    exact ih.imp fun _ earlier => ⟨earlier.1, earlier.2.tail (.suspend head runs calls allowed)⟩
  | rouse _ runs calls ih => exact ih.imp fun _ earlier => ⟨earlier.1, earlier.2.tail (.rouse runs calls)⟩
  | strike _ instant later ih =>
    exact ih.imp fun _ earlier => ⟨earlier.1, earlier.2.tail (.strike instant later)⟩

/-- A path from a fresh session is put together from strides, and leaves nobody to wake. -/
theorem Fresh.path {last : Session} (fresh : session.Fresh) (path : Path setting session last) :
    Strides setting session last ∧ last.connection.woken = [] := by
  -- Induction on the path; everybody is at his work before each thing that happens on it.
  induction path with
  | refl => exact ⟨.refl, fresh.woken⟩
  | tail _ next ih =>
    obtain ⟨strides, nobody⟩ := ih
    have staffed := fresh.staffed.strides strides
    exact ⟨strides.trans (next.strides staffed nobody), next.nobody staffed nobody⟩

/-- Every session that can be reached is reached by strides from a fresh one. -/
theorem Reached.strides (reached : Reached setting session) :
    ∃ first : Session, first.Fresh ∧ Strides setting first session := by
  -- The path of what can happen next is made of strides.
  obtain ⟨first, fresh, path⟩ := reached.exists_path
  exact ⟨first, fresh, (fresh.path path).1⟩

/-- Between the turns and the actions nobody is left to wake. -/
theorem Reached.woken (reached : Reached setting session) : session.connection.woken = [] := by
  -- It holds in a fresh session, and each step ends by waking whoever is called.
  obtain ⟨first, fresh, path⟩ := reached.exists_path
  exact (fresh.path path).2

/-- In a session that can be reached everybody is at his work. -/
theorem Reached.staffed (reached : Reached setting session) : session.Staffed := by
  -- It holds in a fresh session, and strides keep it.
  obtain ⟨first, fresh, strides⟩ := reached.strides
  exact fresh.staffed.strides strides

/-- Running tasks leads only to sessions that can be reached. -/
theorem Reached.settle (reached : Reached setting session) (turns : Nat) :
    Reached setting (Timed.settle turns session) :=
  -- Each of the turns is a step of what can happen.
  reached.path (.settle setting turns session)

/-- What holds of every fresh session and survives every stride holds of every session that can be reached. -/
theorem Reached.keeps {P : Session → Prop} (reached : Reached setting session)
    (first : ∀ session : Session, session.Fresh → P session)
    (stride : ∀ before after : Session, before.Staffed → P before → Stride setting before after → P after) :
    session.Staffed ∧ P session := by
  -- Induction on the strides; everybody is at his work before each of them.
  obtain ⟨start, fresh, strides⟩ := reached.strides
  refine ⟨fresh.staffed.strides strides, ?_⟩
  clear reached
  induction strides with
  | refl => exact first start fresh
  | tail earlier last ih => exact stride _ _ (fresh.staffed.strides earlier) ih last

end Uplink.Session
