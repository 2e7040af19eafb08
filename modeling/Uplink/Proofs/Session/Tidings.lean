import Uplink.Proofs.Session.Others
import Uplink.Proofs.Tells

/-! What those who wait get to hear of: whatever happens leaves a wait in the list, or hands it what the bits say
afterwards. -/

namespace Uplink

/-- Those who may do everything but raise bits. -/
abbrev Liberty.hushed : Liberty where
  clears := true
  counts := true
  posts := false
  delivers := true

namespace Session

open Flags (Condition Register Ticket)

variable {spared : TaskId → Prop} {session before after : Session} {task : TaskId} {rest : List TaskId}
  {name : RegisterName} {condition : Condition}

/-- The conditions that no event answers with bits that it clears again. -/
def Sought : RegisterName → Condition → Prop
  | .network, _ => True
  | .cloud, condition => condition = .any (Cloud.ready ||| Cloud.disconnected) ∨ condition = .any Cloud.ready
  | .dateTime, _ => False

/-- A wait that had parked before, and that is held by none but those who are spared, still stands in the list or was
handed what the bits say afterwards. -/
def Tidings (spared : TaskId → Prop) (before after : Session) : Prop :=
  ∀ name condition ticket task, Sought name condition → ¬before.HeldBeside spared name ticket →
    ticket < (before.connection.register name).nextTicket →
    (before.connection.register name).Lists ticket task condition →
    (after.connection.register name).Lists ticket task condition ∨
      task ∈ after.connection.woken ∧ ∃ bits,
        condition.matched (after.connection.register name).bits = some bits ∧
          (after.connection.register name).Hands ticket bits

/-- What tells everybody is heard of by those who are spared. -/
theorem tidings_of_tells
    (tells : ∀ name condition, Sought name condition → before.connection.Tells after.connection name condition) :
    Tidings spared before after :=
  -- Whoever is told does not have to be spared.
  fun name condition ticket task sought _ _ listed => tells name condition sought ticket task listed

/-- What leaves the connection as it is has nothing to tell. -/
theorem tidings_of_same (same : after.connection = before.connection) : Tidings spared before after :=
  -- Everybody in a list is still there.
  tidings_of_tells fun _ _ _ => (Connection.leaves_of_same (same ▸ rfl)).tells

/-- Others who raise no bits have nothing to tell. -/
theorem tidings_of_mute {liberty : Liberty} (moves : Moves liberty spared before after)
    (mute : liberty.posts = false) : Tidings spared before after :=
  -- Without a bit more nobody leaves the lists but whose wait was another's.
  fun _ _ _ _ _ apart issued listed => .inl (moves.touches.lists mute apart issued listed)

/-! ### Events -/

/-- Giving a task another job is no matter of the connection. -/
@[simp] theorem setJob_connection (session : Session) (task : TaskId) (job : Job) :
    (session.setJob task job).connection = session.connection := by
  -- A job is given among the tasks.
  rw [setJob_eq]
  rfl

/-- Stopping a task is no matter of the connection. -/
@[simp] theorem stop_connection (session : Session) (task : TaskId) :
    (session.stop task).connection = session.connection := by
  -- Stopping is noted among the tasks.
  unfold Session.stop
  split <;> rfl

/-- Writing entries in other spans is no matter of the registers. -/
@[simp] theorem register_within (session : Session) (spans : List Span) (name : RegisterName) :
    (session.within spans).connection.register name = session.connection.register name := by
  -- The spans are a part of the telemetry.
  cases name <;> rfl

/-- The modem tells those who wait for the network or the cloud as it attaches. -/
theorem tells_attached (sought : Sought name condition) (connection : Connection) (clock : Bool) :
    connection.Tells (attached clock connection) name condition := by
  -- The clock is the only register that is raised by attaching and not told of.
  refine Connection.tells_attached ?_ connection clock
  intro same
  subst same
  exact sought

/-- The events of a script are told as they come together. -/
theorem tells_script (sought : Sought name condition) (connection : Connection)
    (ordered : ∀ name, (connection.register name).Orderly) (script : Simulated.Script) (sessions : Nat) :
    connection.Tells ((script.events sessions).foldl Connection.onCloudEvent connection) name condition := by
  -- They are a matter of the cloud register, and only the last of them is not quiet.
  cases name with
  | network =>
    exact (Connection.leaves_of_same (Connection.onCloudEvents_of_ne (by simp) connection _)).tells
  | cloud =>
    rcases sought with rfl | rfl
    · exact connection.tells_onCloudEvents ordered _ (script.quiet sessions) (by decide)
    · exact connection.tells_onCloudEvents ordered _ (script.quiet sessions) (by decide)
  | dateTime => exact sought.elim

/-- An event of the cloud that the device hears of tells everybody. -/
theorem tells_emit (session : Session) (event : CloudEvent) (name : RegisterName) (condition : Condition) :
    session.connection.Tells (session.emit event).2.connection name condition := by
  -- A transport that was not set up raises nothing.
  unfold emit
  split
  · exact Connection.tells_onCloudEvent _ event
  · exact (Connection.leaves_of_same rfl).tells

/-- A link event that the device hears of tells everybody. -/
theorem tells_emitLink (session : Session) (event : LinkEvent) (name : RegisterName) (condition : Condition) :
    session.connection.Tells (session.emitLink event).2.connection name condition := by
  -- A modem that was not set up raises nothing.
  unfold emitLink
  split
  · exact Connection.tells_onLinkEvent _ event
  · exact (Connection.leaves_of_same rfl).tells

/-- A report of the clock that the device hears of tells everybody. -/
theorem tells_emitDateTime (session : Session) (isValid : Bool) (name : RegisterName) (condition : Condition) :
    session.connection.Tells (session.emitDateTime isValid).2.connection name condition := by
  -- Without a clock that was registered nothing is reported.
  unfold emitDateTime
  split
  · exact Connection.tells_onDateTime _ isValid
  · exact (Connection.leaves_of_same rfl).tells

/-! ### Replies -/

/-- A modem that is asked to connect is heard of if it attaches at once. -/
theorem tidings_connectModem (session : Session) : Tidings spared session session.connectModem.2 := by
  -- A modem that attaches later does so in a task of its own, and raises no bits now.
  unfold connectModem
  split
  rename_i result modem asked
  cases result with
  | error error => exact tidings_of_same rfl
  | ok _ =>
    simp only
    split
    · exact tidings_of_same rfl
    · split
      · exact tidings_of_tells fun _ _ sought => tells_attached sought session.connection _
      · exact tidings_of_same rfl

/-- A cloud that is asked to connect is heard of if its events come at once. -/
theorem tidings_connectTransport (ordered : ∀ name, (session.connection.register name).Orderly) :
    Tidings spared session session.connectTransport.2 := by
  -- The events are those of a script.
  have scripted : ∀ events cloud, session.cloud.connect = (.ok events, cloud) →
      ∃ sessions, events = session.cloud.script.events sessions := by
    intro events cloud connects
    simp only [Simulated.Cloud.connect] at connects
    split at connects
    · cases connects
    · split at connects
      · cases connects
      · cases connects
        exact ⟨_, rfl⟩
  unfold connectTransport
  split
  rename_i result cloud asked
  cases result with
  -- A connect that fails raises nothing.
  | error error => exact tidings_of_same rfl
  | ok events =>
    obtain ⟨sessions, rfl⟩ := scripted events cloud asked
    simp only
    split
    · exact tidings_of_tells fun _ _ sought => tells_script sought session.connection ordered _ _
    · exact tidings_of_same rfl

/-- The reply to a request is heard of if it comes with events. -/
theorem tidings_reply (ordered : ∀ name, (session.connection.register name).Orderly) (request : Request) :
    Tidings spared session (session.reply request).2 := by
  -- Two requests are answered with events; the others leave the connection as it is.
  cases request with
  | connectNetwork => exact tidings_connectModem session
  | connectCloud => exact tidings_connectTransport ordered
  | modemInit | registerClock | transportInit | requestPsm | enableEvents | publishShadow | disconnectCloud =>
    exact tidings_of_same rfl

/-! ### Turns and actions -/

/-- A turn of a task that does not run the supervisor is heard of by the others. -/
theorem tidings_turn (head : session.agenda.ready = task :: rest) (other : ¬spared task) {job : Job}
    (beside : ∀ run, job ≠ .supervise run) (within : job.Within true true)
    (owned : ∀ name ticket, job.Holds name ticket → session.HeldBeside spared name ticket) :
    Tidings spared session (session.turnOf task job) := by
  -- Only events raise bits; every other job is mute.
  have quiet : job.Mute → Tidings spared session (session.turnOf task job) := by
    intro mute
    have moves : Moves .hushed spared session (session.turnOf task job) :=
      .turn head other beside within (fun loud => absurd mute loud) owned
    exact tidings_of_mute moves rfl
  cases job with
  | supervise run => exact absurd rfl (beside run)
  | raise pause events =>
    cases events with
    | nil => exact tidings_of_same rfl
    | cons event later =>
      refine tidings_of_tells fun name condition _ => ?_
      have tells : session.connection.Tells (session.connection.onCloudEvent event) name condition :=
        session.connection.tells_onCloudEvent event
      simp only [turnOf]
      split
      · exact tells
      · rw [setJob_connection]
        exact tells
  | attach clock => exact tidings_of_tells fun _ _ sought => tells_attached sought session.connection clock
  -- The link is lost or comes back, and tells it.
  | flap interval lost =>
    refine tidings_of_tells fun name condition _ => ?_
    simp only [turnOf, turnOfFlapping, setJob_connection]
    exact (session.connection.leaves_log _ _ _).tells_of
      (tells_emitLink (session.mapConnection fun connection => connection.log .info _ []) _ name condition)
  | dispatch _ | deliver _ _ _ | await _ _ | sample _ _ | rest _ _ | resting _ _ => exact quiet trivial

/-- Something that is done from outside is heard of. -/
theorem tidings_perform (ordered : ∀ name, (session.connection.register name).Orderly)
    (fresh : ¬spared session.agenda.unused) (action : Action) :
    Tidings spared session (session.perform action).2 := by
  -- Only events and posts raise bits; every other action is mute.
  have quiet (within : action.Within .hushed) (steady : ∀ label, action ≠ .cancel label) :
      Tidings spared session (session.perform action).2 := by
    have moves : Moves .hushed spared session (session.perform action).2 := .undertake fresh within steady
    exact tidings_of_mute moves rfl
  cases action with
  | start => exact tidings_of_same rfl
  -- A task that is stopped raises nothing.
  | stop =>
    refine tidings_of_same ?_
    simp only [perform]
    cases session.runTask with
    | none => rfl
    | some runner => exact stop_connection session runner
  | cancel label =>
    refine tidings_of_same ?_
    simp only [perform]
    split
    · rfl
    · exact stop_connection session _
  -- These raise the bits of one event.
  | link event => exact tidings_of_tells fun _ _ _ => Connection.tells_onLinkEvent _ event
  | cloud event => exact tidings_of_tells fun _ _ _ => Connection.tells_onCloudEvent _ event
  | dateTime isValid => exact tidings_of_tells fun _ _ _ => Connection.tells_onDateTime _ isValid
  | emit event => exact tidings_of_tells fun name condition _ => tells_emit session event name condition
  | dropSession =>
    exact tidings_of_tells fun name condition _ =>
      tells_emit { session with cloud := session.cloud.drop } .disconnected name condition
  | emitLink event => exact tidings_of_tells fun name condition _ => tells_emitLink session event name condition
  | emitDateTime isValid =>
    exact tidings_of_tells fun name condition _ => tells_emitDateTime session isValid name condition
  | requestDisconnect => exact tidings_of_tells fun _ _ _ => Connection.tells_post _ .cloud _
  | post name mask => exact tidings_of_tells fun _ _ _ => Connection.tells_post _ name mask
  | connectTransport => exact tidings_connectTransport ordered
  | connectModem => exact tidings_connectModem session
  | reset name => exact quiet (fun _ => rfl) (by simp)
  | startDispatcher | publish | enqueue _ _ _ | closeQueue | tryReceive _ | release _ | dispatch _ =>
    exact quiet rfl (by simp)
  | registerHandler _ | await _ _ _ | buildShadow | initTransport | disconnectTransport | send _ _
  | publishStatus _ | initModem | requestPsm _ | enableEvents | registerClock => exact quiet trivial (by simp)

end Session

end Uplink
