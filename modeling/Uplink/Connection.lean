import Uplink.Event
import Uplink.Flags.Register
import Uplink.Queue.Outgoing

/-!
The state that the parts of a session share: three flag registers, the queue of outgoing messages
and the handlers of what arrives.

Changes wake tasks: whoever changes the connection leaves the tasks to wake in it, in order, and the
session moves them to its agenda. Waiting for a connection is two waits one after the other, first
for the network and then for a ready session, each with the whole timeout.
-/

namespace Uplink

open Flags (Condition Timeout Wait Register)

/-- The bit of the network register that says that the modem is registered with data connectivity. -/
def Network.connected : UInt32 := 2

/-- The bit of the cloud register that says that the transport is connected. -/
def Cloud.connected : UInt32 := 2

/-- The bit of the cloud register that says that the session takes device messages. -/
def Cloud.ready : UInt32 := 4

/-- The bit of the cloud register that says that the cloud asked for the device to be added to a
user's account. -/
def Cloud.associationRequest : UInt32 := 8

/-- The bit of the cloud register that says that the session dropped or has to be dropped; only a
reset ends this. -/
def Cloud.disconnected : UInt32 := 16

/-- The bit of the date-time register that says that the modem knows the date and the time. -/
def DateTime.known : UInt32 := 2

/-- The three registers. -/
inductive RegisterName where
  | network
  | cloud
  | dateTime
deriving Repr, DecidableEq

/-- What to do with a device message from the cloud. -/
inductive InboundHandler where
  /-- Hand it to the application's handler of this number. -/
  | deliver (handler : Nat)
  /-- Only log it. -/
  | note
deriving Repr, DecidableEq

/-- What to do with a downloaded firmware image. -/
inductive FirmwareHandler where
  /-- Hand its kind to the application. -/
  | record
  /-- Only log it. -/
  | note
deriving Repr, DecidableEq

/-- A device message that was handed to the application. -/
structure Inbound where
  handler : Nat
  payload : ByteArray

/-- What the parts of a session share. -/
structure Connection where
  network : Register := { name := "network" }
  cloud : Register := { name := "cloud" }
  dateTime : Register := { name := "date_time" }
  queue : Queue.Outgoing
  inboundHandler : Option InboundHandler := none
  firmwareHandler : FirmwareHandler := .note
  telemetry : Telemetry := {}
  /-- Tasks to wake, in order. -/
  woken : List TaskId := []
  /-- Device messages handed to the application, the latest first. -/
  inbound : List Inbound := []
  /-- Kinds of downloaded firmware handed to the application, the latest first. -/
  downloads : List (Option FirmwareKind) := []

namespace Connection

/-- A register by its name. -/
def register (connection : Connection) : RegisterName → Register
  | .network => connection.network
  | .cloud => connection.cloud
  | .dateTime => connection.dateTime

/-- The connection with a register replaced. -/
def setRegister (connection : Connection) (name : RegisterName) (register : Register) : Connection :=
  match name with
  | .network => { connection with network := register }
  | .cloud => { connection with cloud := register }
  | .dateTime => { connection with dateTime := register }

/-- Write a log entry. -/
def log (connection : Connection) (level : Level) (message : String) (fields : Fields) : Connection :=
  { connection with telemetry := connection.telemetry.log level message fields }

/-- Count an event. -/
def count (connection : Connection) (event : Metrics.Count) : Connection :=
  { connection with telemetry := connection.telemetry.count event }

/-- Leave tasks to be woken. -/
def wake (connection : Connection) (tasks : List TaskId) : Connection :=
  { connection with woken := connection.woken ++ tasks }

/-- Raise bits of a register and wake the tasks that they satisfy. -/
def post (connection : Connection) (name : RegisterName) (mask : UInt32) : Connection :=
  let (register, tasks) := (connection.register name).post mask
  -- Those who are woken run later; the entry says how many they are.
  ((connection.setRegister name register).wake tasks).log .trace "Posted condition flags"
    [("flags", .text register.name), ("mask", .int mask.toNat), ("woken", .int tasks.length)]

/-- Clear a register. -/
def clear (connection : Connection) (name : RegisterName) : Connection :=
  let register := (connection.register name).reset
  -- No condition asks for a bit to be clear, so a reset wakes nobody.
  (connection.setRegister name register).log .trace "Reset condition flags" [("flags", .text register.name)]

/-- Whether the cloud transport is connected; the session may not be ready yet. -/
def isConnected (connection : Connection) : Bool :=
  connection.cloud.isSet Cloud.connected

/-- Whether the session dropped or has to be dropped, and no reset has followed. -/
def isDisconnecting (connection : Connection) : Bool :=
  connection.cloud.isSet Cloud.disconnected

/-- Have the session dropped and set up again. -/
def requestDisconnect (connection : Connection) : Connection :=
  connection.post .cloud Cloud.disconnected

/-- Clear all cloud bits together. -/
def clearCloud (connection : Connection) : Connection :=
  connection.clear .cloud

/-- Add a message to the queue without waiting. -/
def enqueue (connection : Connection) (message : Message) (handle : Handle) (mode : HoldMode) :
    Except QueueError Unit × Connection :=
  let (result, queue, tasks) := connection.queue.enqueue message handle mode
  (result,
    { connection with
      queue := queue
      -- What is noted depends on the queue as the message has found it.
      telemetry := connection.telemetry.noteEnqueue connection.queue message mode result }.wake tasks)

/-- Accept no more messages. -/
def closeQueue (connection : Connection) : Connection :=
  let (queue, tasks) := connection.queue.close
  { connection with queue }.wake tasks

/-- Drop an envelope. -/
def release (connection : Connection) (envelope : Envelope) : Connection :=
  { connection with queue := connection.queue.release envelope }

/-- Begin a wait on a register. -/
def await (connection : Connection) (agenda : Agenda) (task : TaskId) (name : RegisterName)
    (condition : Condition) (timeout : Timeout) : Wait × Connection :=
  let (wait, register) := (connection.register name).wait agenda task condition timeout
  (wait, connection.setRegister name register)

/-- Look after a wait on a register. -/
def poll (connection : Connection) (agenda : Agenda) (name : RegisterName) (wait : Wait) :
    Option UInt32 × Connection :=
  let (bits, register) := (connection.register name).poll agenda wait
  (bits, connection.setRegister name register)

/-- Give a wait on a register up. -/
def abandon (connection : Connection) (name : RegisterName) (wait : Wait) : Connection :=
  connection.setRegister name ((connection.register name).abandon wait)

/-- Begin to wait for the network. -/
def awaitNetwork (connection : Connection) (agenda : Agenda) (task : TaskId) (timeout : Timeout) :
    Wait × Connection :=
  (connection.log .debug "Awaiting network connection" []).await agenda task .network
    (.all Network.connected) timeout

/-- Begin to wait for the date and the time. -/
def awaitDateTime (connection : Connection) (agenda : Agenda) (task : TaskId) (timeout : Timeout) :
    Wait × Connection :=
  connection.await agenda task .dateTime (.any DateTime.known) timeout

/-- Begin to wait for the session to drop. -/
def awaitDisconnection (connection : Connection) (agenda : Agenda) (task : TaskId)
    (timeout : Timeout) : Wait × Connection :=
  connection.await agenda task .cloud (.any Cloud.disconnected) timeout

/-- Begin to wait for the transport to be connected. -/
def awaitCloud (connection : Connection) (agenda : Agenda) (task : TaskId) (timeout : Timeout) :
    Wait × Connection :=
  (connection.log .debug "Awaiting cloud connection" []).await agenda task .cloud
    (.any Cloud.connected) timeout

/-- Begin to wait for the session to be ready; if asked for, a dropped session ends the wait. Only
the ready bit alone counts as success. -/
def awaitReady (connection : Connection) (agenda : Agenda) (task : TaskId) (timeout : Timeout)
    (orDropped : Bool) : Wait × Connection :=
  let mask := if orDropped then Cloud.ready ||| Cloud.disconnected else Cloud.ready
  (connection.log .debug "Awaiting cloud ready" []).await agenda task .cloud (.any mask) timeout

end Connection

/-- Where a wait for a connection stands. -/
inductive ConnectionWait where
  /-- It waits for the network, and then has the same timeout for the session. -/
  | network (timeout : Timeout) (wait : Wait)
  /-- It waits for the session to be ready. -/
  | session (wait : Wait)
deriving Repr, DecidableEq

namespace ConnectionWait

/-- Begin to wait for the network and then for a ready session. -/
def start (connection : Connection) (agenda : Agenda) (task : TaskId) (timeout : Timeout) :
    ConnectionWait × Connection :=
  let (wait, connection) := connection.awaitNetwork agenda task timeout
  (.network timeout wait, connection)

/-- Look after the wait: whether there is a connection, once that is known. -/
def poll (connection : Connection) (agenda : Agenda) (task : TaskId) :
    ConnectionWait → Progress Bool ConnectionWait × Connection
  | .network timeout wait =>
    match connection.poll agenda .network wait with
    | (none, connection) => (.parked (.network timeout wait), connection)
    | (some bits, connection) =>
      -- Zero says that the timeout has passed, or that there was none to wait for.
      if bits = 0 then (.done false, connection)
      else
        -- The session gets the whole timeout, whatever the network has taken of it.
        let (wait, connection) := connection.awaitReady agenda task timeout false
        (.next (.session wait), connection)
  | .session wait =>
    match connection.poll agenda .cloud wait with
    | (none, connection) => (.parked (.session wait), connection)
    | (some bits, connection) => (.done (bits = Cloud.ready), connection)

/-- Give the wait up. -/
def abandon (connection : Connection) : ConnectionWait → Connection
  | .network _ wait => connection.abandon .network wait
  | .session wait => connection.abandon .cloud wait

/-- The deadline that the wait has to meet. -/
def deadline? : ConnectionWait → Option Nat
  | .network _ wait => wait.deadline?
  | .session wait => wait.deadline?

end ConnectionWait

end Uplink
