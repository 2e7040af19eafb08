import Uplink.Session.Basic

/-!
Turns of a session's tasks, and the passing of its time.

A turn does the next step of the task at the head of the line. A task that has asked the modem or
the cloud for something gets the reply in the same turn, as the simulated ones answer at once.
-/

namespace Uplink

open Flags (Wait Timeout)

namespace Awaiting

/-- The answer of a wait on one register. -/
def onRegister (connection : Connection) (agenda : Agenda) (name : RegisterName) (wait : Wait) :
    Progress Bool Awaiting × Connection :=
  match connection.poll agenda name wait with
  | (none, connection) => (.parked (.register name wait), connection)
  -- Zero is what a wait says whose time has passed.
  | (some bits, connection) => (.done (bits ≠ 0), connection)

/-- One step of a wait of the application. -/
def step (connection : Connection) (agenda : Agenda) (task : TaskId) :
    Awaiting → Progress Bool Awaiting × Connection
  | .called .network timeout =>
    let (wait, connection) := connection.awaitNetwork agenda task timeout
    (.next (.register .network wait), connection)
  | .called .dateTime timeout =>
    let (wait, connection) := connection.awaitDateTime agenda task timeout
    (.next (.register .dateTime wait), connection)
  | .called .disconnection timeout =>
    let (wait, connection) := connection.awaitDisconnection agenda task timeout
    (.next (.register .cloud wait), connection)
  | .called .connection timeout =>
    let (wait, connection) := ConnectionWait.start connection agenda task timeout
    (.next (.connection wait), connection)
  | .register name wait => onRegister connection agenda name wait
  | .connection wait =>
    match wait.poll connection agenda task with
    | (.parked wait, connection) => (.parked (.connection wait), connection)
    | (.next wait, connection) => (.next (.connection wait), connection)
    | (.done answer, connection) => (.done answer, connection)

/-- Give a wait up. -/
def abandon (connection : Connection) : Awaiting → Connection
  | .called _ _ => connection
  | .register name wait => connection.abandon name wait
  | .connection wait => wait.abandon connection

end Awaiting

namespace Job

/-- The spans that the entries of a job are written in. -/
def spans : Job → List Span
  | .supervise run => run.spans
  | .dispatch dispatcher => dispatcher.spans
  | _ => []

end Job

namespace Session

/-- How long the radio link stays lost, in milliseconds. -/
def flapLength : Nat := 5000

/-- The tenths of a degree of the first sample less one. -/
def firstReading : Nat := 210

/-- A temperature in tenths of a degree, as a number with one decimal. -/
def temperature (tenths : Nat) : Value :=
  .float (toString (tenths / 10) ++ "." ++ toString (tenths % 10))

/-- The message of a temperature sample. -/
def sampleMessage (now : Nat) (number : Nat) : Message where
  id := ⟨BitVec.ofNat 128 number⟩
  createdAt := ⟨now / 1000, now % 1000 * 1000000⟩
  payload := .table
    [("appId", .str "TEMP"), ("messageType", .str "DATA"), ("data", temperature (firstReading + number))]

/-- Queue a temperature sample. -/
def takeSample (session : Session) (number : Nat) : Session :=
  let (result, connection) :=
    session.connection.enqueue (sampleMessage session.agenda.now number) number .copy
  session.mapConnection fun _ =>
    match result with
    | .ok () => connection
    -- A sample that could not be queued is not taken again.
    | .error error => connection.log .warn "Temperature sample dropped" [("error", .text error.message)]

/-- A run of the supervisor goes on, waits or ends after a step. -/
def carryOn (session : Session) (task : TaskId) : Supervisor.Stepped → Session
  | (progress, supervisor) =>
    let session := { session with supervisor }
    match progress with
    | .next run => session.setJob task (.supervise run)
    | .parked run => session.park task (.supervise run)
    | .done error =>
      let session := session.finish task
      -- Only the latest run says how the session has ended.
      if session.runTask = some task then { session with outcome := some (.failed error) } else session

/-- One turn of a run of the supervisor. -/
def turnOfRun (session : Session) (task : TaskId) (run : Supervisor.Run) : Session :=
  match run.place with
  -- The simulated modem and the simulated cloud reply before the turn is over.
  | .calling request =>
    let (reply, session) := session.reply request
    session.carryOn task (session.supervisor.resume session.agenda task run request reply)
  | _ => session.carryOn task (session.supervisor.step session.agenda task run)

/-- One turn of a dispatcher. -/
def turnOfDispatcher (session : Session) (task : TaskId) (dispatcher : Dispatcher) : Session :=
  match dispatcher with
  -- The simulated cloud answers before the turn is over.
  | .delivering envelope .sending =>
    let (result, session) := session.send envelope.handle envelope.message
    (session.mapConnection fun connection => (Delivery.resume connection envelope result).2).setJob task
      (.dispatch .idle)
  | _ =>
    let (progress, connection) := dispatcher.step session.connection session.agenda task
    let session := session.mapConnection fun _ => connection
    match progress with
    | .next dispatcher => session.setJob task (.dispatch dispatcher)
    | .parked dispatcher => session.park task (.dispatch dispatcher)
    | .done () =>
      let session := session.finish task
      { session with dispatcherEnded := session.dispatcherEnded || session.dispatcherTask = some task }

/-- One turn of the delivery of one message. -/
def turnOfDelivery (session : Session) (task : TaskId) (label : Nat) (envelope : Envelope)
    (delivery : Delivery) : Session :=
  match delivery with
  | .sending =>
    let (result, session) := session.send envelope.handle envelope.message
    let (answer, connection) := Delivery.resume session.connection envelope result
    ((session.mapConnection fun _ => connection).report label answer).finish task
  | _ =>
    let (progress, connection) := delivery.step session.connection session.agenda task envelope
    let session := session.mapConnection fun _ => connection
    match progress with
    | .next delivery => session.setJob task (.deliver label envelope delivery)
    | .parked delivery => session.park task (.deliver label envelope delivery)
    | .done answer => (session.report label answer).finish task

/-- One turn of a wait of the application. -/
def turnOfAwaiting (session : Session) (task : TaskId) (label : Nat) (awaiting : Awaiting) : Session :=
  let (progress, connection) := awaiting.step session.connection session.agenda task
  let session := session.mapConnection fun _ => connection
  match progress with
  | .next awaiting => session.setJob task (.await label awaiting)
  | .parked awaiting => session.park task (.await label awaiting)
  | .done answer => (session.report label answer).finish task

/-- One turn of the sampling of the temperature. -/
def turnOfSampling (session : Session) (task : TaskId) (interval : Nat) : Sampling → Session
  | .arriving =>
    let (wait, connection) := session.connection.awaitDateTime session.agenda task .forever
    (session.mapConnection fun _ => connection).setJob task (.sample interval (.awaiting wait))
  | .awaiting wait =>
    let (answer, connection) := session.connection.poll session.agenda .dateTime wait
    let session := session.mapConnection fun _ => connection
    match answer with
    | none => session.park task (.sample interval (.awaiting wait))
    -- Without a timeout this is the news that the time is known, and an interval later the first sample is due.
    | some _ => session.setJob task (.rest interval (.sample interval (.taking 1)))
  | .taking number =>
    (session.takeSample number).setJob task (.rest interval (.sample interval (.taking (number + 1))))

/-- A link event reaches the device, if the modem was asked to connect. -/
def emitLink (session : Session) (event : LinkEvent) : Bool × Session :=
  if session.modem.linkHandled then (true, session.mapConnection fun connection => connection.onLinkEvent event)
  else (false, session)

/-- One turn of the losing and finding of the radio link. -/
def turnOfFlapping (session : Session) (task : TaskId) (interval : Nat) (lost : Bool) : Session :=
  let text := if lost then "Simulating cellular link recovery" else "Simulating cellular link loss"
  let status := if lost then Registration.registeredHome else .searching
  let session := session.mapConnection fun connection => connection.log .info text []
  let session := (session.emitLink (.registration status)).2
  session.setJob task (.rest (if lost then interval else flapLength) (.flap interval (!lost)))

/-- One turn of a task that was not stopped. -/
def turnOf (session : Session) (task : TaskId) : Job → Session
  | .supervise run => session.turnOfRun task run
  | .dispatch dispatcher => session.turnOfDispatcher task dispatcher
  | .deliver label envelope delivery => session.turnOfDelivery task label envelope delivery
  | .await label awaiting => session.turnOfAwaiting task label awaiting
  | .raise _ [] => session.finish task
  | .raise pause (event :: events) =>
    let session := session.mapConnection fun connection => connection.onCloudEvent event
    if events.isEmpty then session.finish task else session.setJob task (.raiseLater pause events)
  | .attach clock => (session.mapConnection (attached clock)).finish task
  | .sample interval stage => session.turnOfSampling task interval stage
  | .flap interval lost => session.turnOfFlapping task interval lost
  | .rest span after => session.setJob task (.resting (session.agenda.deadline span) after)
  | .resting due after =>
    if session.agenda.reached due then session.setJob task after else session.park task (.resting due after)

/-- The last turn of a task that was stopped: what it holds or waits for is given up. -/
def lastTurnOf (session : Session) (task : TaskId) (job : Job) : Session :=
  let session := session.finish task
  -- Events, samples and losses of the link that were still to come just do not.
  match job with
  | .supervise run =>
    let session := { session with supervisor := session.supervisor.abandon run }
    if session.runTask = some task then { session with outcome := some .stopped } else session
  | .dispatch dispatcher => session.mapConnection fun connection => dispatcher.abandon connection task
  | .deliver _ envelope delivery =>
    session.mapConnection fun connection => delivery.abandon connection envelope
  | .await _ awaiting => session.mapConnection awaiting.abandon
  | .sample _ (.awaiting wait) => session.mapConnection fun connection => connection.abandon .dateTime wait
  | _ => session

/-- Entries are written in the given spans from here on. -/
def within (session : Session) (spans : List Span) : Session :=
  session.mapConnection fun connection => { connection with telemetry := connection.telemetry.within spans }

/-- One turn of the task at the head of the line. -/
def turn? (session : Session) : Option Session :=
  match session.agenda.ready with
  | [] => none
  | task :: _ =>
    match session.tasks.lookup task with
    -- A task that was woken and then ended may still stand in line.
    | none => some { session with agenda := session.agenda.yield }
    | some entry =>
      if entry.cancelled then some (session.lastTurnOf task entry.job).flush
      else some (((session.within entry.job.spans).turnOf task entry.job).within []).flush

/-- Set the clock; the tasks whose deadline has come are woken. -/
def strike (instant : Nat) (session : Session) : Session :=
  let agenda := { session.agenda with now := instant }
  let due := session.tasks.filter fun (_, entry) => agenda.reached entry.job.deadline?
  { session with agenda := agenda.wakeAll (due.map (·.1)) }

/-- A session passes its time with its tasks. -/
instance : Timed Session where
  turn? := turn?
  nextDue? session := session.agenda.nextOf (session.tasks.map fun (_, entry) => entry.job.deadline?)
  strike := strike

/-- Run every task that can run. -/
def settle (session : Session) : Session :=
  Timed.settle Timed.patience session

/-- Let time pass until an instant. -/
def runUntil (session : Session) (instant : Nat) : Session :=
  Timed.runUntil instant Timed.patience session

/-- Let so many milliseconds pass. -/
def advance (session : Session) (span : Nat) : Session :=
  session.runUntil (session.agenda.now + span)

end Session

end Uplink
