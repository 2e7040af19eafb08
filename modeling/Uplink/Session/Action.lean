import Uplink.Session.Turn

/-!
Actions: what the application, the modem and the cloud do to a session from outside, and what they
get back.

An action changes the session at once. The tasks that it wakes or starts run afterwards.
-/

namespace Uplink

open Flags (Timeout)

/-- Something done to a session from outside. -/
inductive Action where
  /-- Start a run of the supervisor. -/
  | start
  /-- Stop the latest run. -/
  | stop
  | startDispatcher
  /-- An event reaches the connection by itself, whether or not the modem or the transport was set
  up. -/
  | link (event : LinkEvent)
  | cloud (event : CloudEvent)
  | dateTime (isValid : Bool)
  /-- The cloud raises an event. -/
  | emit (event : CloudEvent)
  /-- The cloud drops the session. -/
  | dropSession
  /-- The modem raises an event. -/
  | emitLink (event : LinkEvent)
  /-- The modem's clock reports. -/
  | emitDateTime (isValid : Bool)
  | requestDisconnect
  | registerHandler (handler : Nat)
  | enqueue (handle : Handle) (message : Message) (mode : HoldMode)
  | await (label : Nat) (what : Awaited) (timeout : Timeout)
  /-- Cancel the task of a label. -/
  | cancel (label : Nat)
  | closeQueue
  | tryReceive (key : Option Nat)
  /-- Drop what is kept under a key. -/
  | release (key : Nat)
  | post (register : RegisterName) (mask : UInt32)
  | reset (register : RegisterName)
  /-- Take a message from the queue and deliver it under a label. -/
  | dispatch (label : Nat)
  | publish
  | buildShadow
  | initTransport
  | connectTransport
  | disconnectTransport
  | send (handle : Handle) (message : Message)
  | publishStatus (status : ShadowStatus)
  | initModem
  | requestPsm (enable : Bool)
  | enableEvents
  | registerClock
  | connectModem

/-- What an action gives back. -/
inductive Answer where
  | nothing
  | yesNo (answer : Bool)
  | text (text : String)
  | queue (result : Except QueueError Unit)
  | transport (result : Except TransportError Unit)
  | modem (result : Except ModemError Unit)
  | modemStart (result : Except ModemError ModemStart)
  | received (envelope : Option Envelope)
  | shadow (status : ShadowStatus)

/-- The label of a task that has one. -/
def Job.label? : Job → Option Nat
  | .await label _ => some label
  | .deliver label _ _ => some label
  | _ => none

namespace Session

/-- An event of the cloud reaches the device, if the transport was set up. -/
def emit (session : Session) (event : CloudEvent) : Bool × Session :=
  if session.cloud.isInitialized then
    (true, session.mapConnection fun connection => connection.onCloudEvent event)
  else (false, session)

/-- A report of the clock reaches the device, if that was asked for. -/
def emitDateTime (session : Session) (isValid : Bool) : Bool × Session :=
  if session.modem.clockHandled then
    (true, session.mapConnection fun connection => connection.onDateTime isValid)
  else (false, session)

/-- The task of a label that has not ended and was not stopped. -/
def labelled? (session : Session) (label : Nat) : Option TaskId :=
  (session.tasks.find? fun (_, entry) => !entry.cancelled && entry.job.label? = some label).map (·.1)

/-- Take the oldest message of the queue at once, if that is possible. -/
def tryReceive (session : Session) : Option Envelope × Session :=
  let (envelope, queue) := session.connection.queue.tryReceive
  (envelope, session.mapConnection fun connection => { connection with queue })

/-- What the session keeps, changed together with the queue that counts it. -/
def mapKept (session : Session) (change : Queue.Kept → Queue.Outgoing → Queue.Kept × Queue.Outgoing) :
    Session :=
  let (kept, queue) := change session.kept session.connection.queue
  { session.mapConnection fun connection => { connection with queue } with kept }

/-- Publish the shadow, and log and count how that went. -/
def publish (session : Session) : Bool × Session :=
  let (result, session) := session.publishStatus session.shadow
  (result.isOk, session.mapConnection fun connection => connection.notePublish result)

/-- Start a run of the supervisor. -/
def start (session : Session) : Session :=
  let (task, session) := session.spawn (.supervise {})
  { session with runTask := some task, outcome := none }

/-- Start a dispatcher. -/
def startDispatcher (session : Session) : Session :=
  let (task, session) := session.spawn (.dispatch .starting)
  { session with dispatcherTask := some task, dispatcherEnded := false }

/-- Do an action, but leave the tasks that it wakes in the connection. -/
def perform (session : Session) : Action → Answer × Session
  | .start => (.nothing, session.start)
  | .stop => (.nothing, (session.runTask.map session.stop).getD session)
  | .startDispatcher => (.nothing, session.startDispatcher)
  | .link event => (.nothing, session.mapConnection fun connection => connection.onLinkEvent event)
  | .cloud event => (.nothing, session.mapConnection fun connection => connection.onCloudEvent event)
  | .dateTime isValid => (.nothing, session.mapConnection fun connection => connection.onDateTime isValid)
  | .emit event => (session.emit event).map .yesNo id
  | .dropSession => ({ session with cloud := session.cloud.drop }.emit .disconnected).map .yesNo id
  | .emitLink event => (session.emitLink event).map .yesNo id
  | .emitDateTime isValid => (session.emitDateTime isValid).map .yesNo id
  | .requestDisconnect => (.nothing, session.mapConnection Connection.requestDisconnect)
  | .registerHandler handler =>
    (.nothing, session.mapConnection ({ · with inboundHandler := some (.deliver handler) }))
  | .enqueue handle message mode =>
    let (result, connection) := session.connection.enqueue message handle mode
    (.queue result, session.mapConnection fun _ => connection)
  | .await label what timeout => (.nothing, (session.spawn (.await label (.called what timeout))).2)
  | .cancel label =>
    match session.labelled? label with
    | none => (.yesNo false, session)
    | some task => (.yesNo true, session.stop task)
  | .closeQueue => (.nothing, session.mapConnection Connection.closeQueue)
  | .tryReceive key =>
    let (envelope, session) := session.tryReceive
    (.received envelope,
      match envelope with
      | none => session
      | some envelope => session.mapKept fun kept queue => kept.dispose queue key envelope)
  | .release key =>
    (.yesNo (session.kept.lookup key).isSome, session.mapKept fun kept queue => kept.release queue key)
  | .post name mask =>
    (.text (session.connection.register name).name,
      session.mapConnection fun connection => connection.post name mask)
  | .reset name =>
    (.text (session.connection.register name).name, session.mapConnection fun connection => connection.clear name)
  | .dispatch label =>
    let (envelope, session) := session.tryReceive
    (.received envelope,
      match envelope with
      | none => session
      | some envelope => (session.spawn (.deliver label envelope .arriving)).2)
  | .publish => session.publish.map .yesNo id
  | .buildShadow => (.shadow session.shadow, session)
  | .initTransport => session.initTransport.map .transport id
  | .connectTransport => session.connectTransport.map .transport id
  | .disconnectTransport => session.disconnectTransport.map .transport id
  | .send handle message => (session.send handle message).map .transport id
  | .publishStatus status => (session.publishStatus status).map .transport id
  | .initModem => session.initModem.map .modemStart id
  | .requestPsm enable => (session.requestPsm enable).map .modem id
  | .enableEvents => session.enableEvents.map .modem id
  | .registerClock => (.nothing, session.registerClock)
  | .connectModem => session.connectModem.map .modem id

/-- Do an action. -/
def act (session : Session) (action : Action) : Answer × Session :=
  (session.perform action).map id flush

end Session

end Uplink
