import Uplink.Dispatcher
import Uplink.Monitor
import Uplink.Queue.Kept
import Uplink.Simulated.Cloud
import Uplink.Simulated.Modem
import Uplink.Supervisor.Run

/-!
A session: the supervisor, the dispatcher and waits of the application, run together against a
simulated modem and a simulated cloud.

Everything that runs in the background is a task with a job. Whoever changes the connection leaves
the tasks to wake in it, and they move to the agenda at the end of the turn or of the action.
-/

namespace Uplink

open Flags (Timeout Wait)

/-- What the application can wait for. -/
inductive Awaited where
  | network
  | dateTime
  /-- The network and then a ready session. -/
  | connection
  | disconnection
deriving Repr, DecidableEq

/-- Where a wait of the application stands. -/
inductive Awaiting where
  /-- It has not begun. -/
  | called (what : Awaited) (timeout : Timeout)
  | register (name : RegisterName) (wait : Wait)
  | connection (wait : ConnectionWait)
deriving Repr, DecidableEq

/-- Where the sampling of the temperature stands. -/
inductive Sampling where
  /-- It has not begun. -/
  | arriving
  /-- It waits for the date and the time. -/
  | awaiting (wait : Wait)
  /-- It is about to take the sample of this number. -/
  | taking (number : Nat)
deriving Repr, DecidableEq

/-- What a task in the background does. -/
inductive Job where
  /-- A run of the supervisor. -/
  | supervise (run : Supervisor.Run)
  | dispatch (dispatcher : Dispatcher)
  /-- Deliver one message, and report how that ended under a label. -/
  | deliver (label : Nat) (envelope : Envelope) (delivery : Delivery)
  /-- Wait, and report the answer under a label. -/
  | await (label : Nat) (awaiting : Awaiting)
  /-- Raise the first of these events, and the others later, with a pause before each. -/
  | raise (pause : Nat) (events : List CloudEvent)
  /-- Attach to the home network, and report the clock if that was asked for. -/
  | attach (clock : Bool)
  /-- Queue a temperature sample at a fixed interval, once the date and the time are known. -/
  | sample (interval : Nat) (stage : Sampling)
  /-- Lose the radio link at a fixed interval, and find it again some time later. -/
  | flap (interval : Nat) (lost : Bool)
  /-- Rest for so long, and then do something else. -/
  | rest (span : Nat) (after : Job)
  /-- Rest until the deadline. -/
  | resting (due : Option Nat) (after : Job)

/-- Raise events with a pause before each. -/
def Job.raiseLater (pause : Nat) : List CloudEvent → Job
  | [] => .raise pause []
  | events => .rest pause (.raise pause events)

/-- A task in the background. -/
structure Task where
  job : Job
  /-- Somebody has stopped it; it ends at its next turn. -/
  cancelled : Bool := false

/-- How a run of the supervisor ended. -/
inductive RunOutcome where
  | failed (error : SetupError)
  | stopped
deriving Repr, DecidableEq

/-- How a labelled task ended. -/
structure Reported where
  label : Nat
  /-- The instant of its end. -/
  instant : Nat
  answer : Bool
deriving Repr, DecidableEq

/-- The deadline that a wait has to meet. -/
def Awaiting.deadline? : Awaiting → Option Nat
  | .called _ _ => none
  | .register _ wait => wait.deadline?
  | .connection wait => wait.deadline?

/-- The deadline that a job has to meet. -/
def Job.deadline? : Job → Option Nat
  | .supervise run => run.place.deadline?
  | .dispatch dispatcher => dispatcher.deadline?
  | .deliver _ _ delivery => delivery.deadline?
  | .await _ awaiting => awaiting.deadline?
  | .sample _ (.awaiting wait) => wait.deadline?
  | .resting due _ => due
  | _ => none

/-- The state of a session. -/
structure Session where
  agenda : Agenda := {}
  /-- The tasks, those behind that were the last to set a deadline. Tasks whose deadlines come at one
  instant are woken in this order. -/
  tasks : List (TaskId × Task) := []
  supervisor : Supervisor
  cloud : Simulated.Cloud := {}
  modem : Simulated.Modem := {}
  /-- Whether location tracking is running. -/
  location : Bool := false
  flash : Option FlashInfo := none
  kept : Queue.Kept := []
  /-- The task of the latest run of the supervisor. -/
  runTask : Option TaskId := none
  /-- The task of the latest dispatcher. -/
  dispatcherTask : Option TaskId := none
  /-- Labelled tasks that have ended, the latest first. -/
  reports : List Reported := []
  /-- How the latest run ended, if it did. -/
  outcome : Option RunOutcome := none
  /-- Whether the latest dispatcher has ended. -/
  dispatcherEnded : Bool := false

namespace Session

/-- A session of a device with this configuration, with so many messages to send. -/
def ofConfig (config : Config) (messages : Nat) : Session :=
  { supervisor :=
      { config := config
        connection := { queue := .ofCapacity config.queue.capacity.toNat messages } } }

/-- What the parts of the session share. -/
def connection (session : Session) : Connection :=
  session.supervisor.connection

/-- Change what the parts of the session share. -/
def mapConnection (session : Session) (change : Connection → Connection) : Session :=
  { session with supervisor.connection := change session.supervisor.connection }

/-- The tasks that were left to wake move to the agenda. -/
def flush (session : Session) : Session :=
  { session with
    agenda := session.agenda.wakeAll session.connection.woken
    supervisor.connection.woken := [] }

/-- Start a task in the background. -/
def spawn (session : Session) (job : Job) : TaskId × Session :=
  let (task, agenda) := session.agenda.spawn
  (task, { session with agenda, tasks := session.tasks ++ [(task, { job })] })

/-- A task has another job. If that has a deadline of its own, the task goes behind the others. -/
def setJob (session : Session) (task : TaskId) (job : Job) : Session :=
  match session.tasks.lookup task with
  | none => session
  | some entry =>
    let entry' := { entry with job }
    -- Of the tasks with one deadline, the one that was the first to set it is woken first.
    if job.deadline?.isSome && job.deadline? ≠ entry.job.deadline? then
      { session with tasks := session.tasks.filter (·.1 ≠ task) ++ [(task, entry')] }
    else
      { session with
        tasks := session.tasks.map fun (other, kept) => if other = task then (other, entry') else (other, kept) }

/-- A task waits to be woken. -/
def park (session : Session) (task : TaskId) (job : Job) : Session :=
  { session.setJob task job with agenda := session.agenda.yield }

/-- A task is no more. -/
def finish (session : Session) (task : TaskId) : Session :=
  { session with
    agenda := session.agenda.yield
    tasks := session.tasks.filter (·.1 ≠ task) }

/-- Stop a task: it is woken and ends at its turn. -/
def stop (session : Session) (task : TaskId) : Session :=
  -- A task that is over cannot be stopped.
  if (session.tasks.lookup task).isNone then session
  else
    { session with
      agenda := session.agenda.wake task
      tasks := session.tasks.map fun (other, entry) =>
        if other = task then (other, { entry with cancelled := true }) else (other, entry) }

/-- Report how a labelled task ended. -/
def report (session : Session) (label : Nat) (answer : Bool) : Session :=
  { session with reports := ⟨label, session.agenda.now, answer⟩ :: session.reports }

/-- The shadow of the device as it is now. -/
def shadow (session : Session) : ShadowStatus :=
  .build session.supervisor.config.features session.cloud.accepts session.location

/-- What the transport learns about the device. -/
def enrolment (session : Session) : Simulated.Enrolment :=
  ⟨session.supervisor.config.device.appVersion, session.flash⟩

/-- The modem attaches to its home network and reports a known date and time. -/
def attached (clock : Bool) (connection : Connection) : Connection :=
  -- A modem that attaches reports its search first.
  let connection := (connection.onRegistration .searching).onRegistration .registeredHome
  if clock then connection.onDateTime true else connection

/-- Ask the modem to connect to the network. -/
def connectModem (session : Session) : Except ModemError Unit × Session :=
  let (result, modem) := session.modem.connect
  let session := { session with modem }
  match result with
  | .error error => (.error error, session)
  | .ok () =>
    -- A modem that does not attach by itself waits for registrations from outside.
    if !modem.registers then (.ok (), session)
    else
      match modem.pause with
      | none => (.ok (), session.mapConnection (attached modem.clockHandled))
      | some pause => (.ok (), (session.spawn (.rest pause (.attach modem.clockHandled))).2)

/-- Ask the transport to connect. -/
def connectTransport (session : Session) : Except TransportError Unit × Session :=
  let (result, cloud) := session.cloud.connect
  let session := { session with cloud }
  match result with
  | .error error => (.error error, session)
  | .ok events =>
    match cloud.pause with
    | none => (.ok (), session.mapConnection fun connection => events.foldl Connection.onCloudEvent connection)
    | some pause => (.ok (), (session.spawn (.raiseLater pause events)).2)

/-- Set the transport up. -/
def initTransport (session : Session) : Except TransportError Unit × Session :=
  let (result, cloud) := session.cloud.init session.enrolment
  (result, { session with cloud })

/-- Disconnect the transport. -/
def disconnectTransport (session : Session) : Except TransportError Unit × Session :=
  let (result, cloud) := session.cloud.disconnect
  (result, { session with cloud })

/-- Publish a shadow. -/
def publishStatus (session : Session) (status : ShadowStatus) : Except TransportError Unit × Session :=
  let (result, cloud) := session.cloud.publish status
  (result, { session with cloud })

/-- Hand a message to the transport. -/
def send (session : Session) (handle : Handle) (message : Message) : Except TransportError Unit × Session :=
  let (result, cloud) := session.cloud.send handle message
  (result, { session with cloud })

/-- Bring the modem up. -/
def initModem (session : Session) : Except ModemError ModemStart × Session :=
  let (result, modem) := session.modem.init
  (result, { session with modem })

/-- Ask the modem for the power saving mode. -/
def requestPsm (session : Session) (enable : Bool) : Except ModemError Unit × Session :=
  let (result, modem) := session.modem.requestPsm enable
  (result, { session with modem })

/-- Have the modem report on itself. -/
def enableEvents (session : Session) : Except ModemError Unit × Session :=
  let (result, modem) := session.modem.enableEvents
  (result, { session with modem })

/-- Have the modem's clock reach the connection. -/
def registerClock (session : Session) : Session :=
  { session with modem := session.modem.registerClock }

/-- The reply of the simulated modem or the simulated cloud to a request. -/
def reply (session : Session) : (request : Request) → request.Reply × Session
  | .modemInit => session.initModem
  | .registerClock => ((), session.registerClock)
  | .transportInit => session.initTransport
  | .requestPsm => session.requestPsm true
  | .enableEvents => session.enableEvents
  | .connectNetwork => session.connectModem
  | .connectCloud => session.connectTransport
  | .publishShadow => session.publishStatus session.shadow
  | .disconnectCloud => session.disconnectTransport

end Session

end Uplink
