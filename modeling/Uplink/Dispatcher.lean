import Uplink.Connection

/-!
The dispatcher: it takes one message after the other out of the queue, waits for a connection, and
hands the message to the transport.

A message is released once the transport has answered, whatever it answered. The dispatcher stops
when the queue is closed and empty. Like the supervisor's run it is put together from steps, and
goes on with the transport's reply after it has sent a message.
-/

namespace Uplink

/-- Where the delivery of one message stands. -/
inductive Delivery where
  /-- It has not begun. -/
  | arriving
  | awaiting (wait : ConnectionWait)
  /-- The message was handed to the transport, which has not answered. -/
  | sending
deriving Repr, DecidableEq

namespace Delivery

/-- One step of a delivery that does not wait for a reply. A delivery without a connection ends
with the message dropped. -/
def step (connection : Connection) (agenda : Agenda) (task : TaskId) (envelope : Envelope) :
    Delivery → Progress Bool Delivery × Connection
  -- A message waits for as long as it takes.
  | .arriving =>
    let (wait, connection) := ConnectionWait.start connection agenda task .forever
    (.next (.awaiting wait), connection)
  | .awaiting wait =>
    match wait.poll connection agenda task with
    | (.parked wait, connection) => (.parked (.awaiting wait), connection)
    | (.next wait, connection) => (.next (.awaiting wait), connection)
    -- A wait without a timeout never comes to this.
    | (.done false, connection) => (.done false, connection.release envelope)
    | (.done true, connection) =>
      (.next .sending, connection.log .debug "Sending device message" [("owned_copy", .bool envelope.owned)])
  -- Nothing can be done before the transport has answered.
  | .sending => (.parked .sending, connection)

/-- The transport has answered: log and count the answer and release the message. -/
def resume (connection : Connection) (envelope : Envelope) : Except TransportError Unit → Bool × Connection
  | .ok () => (true, (connection.count .messageSent).release envelope)
  -- What could not be sent is not tried again.
  | .error error =>
    (false, ((connection.log .error "Failed to send device message, dropping it"
      [("error", .text error.message)]).count .messageSendFailed).release envelope)

/-- Give a delivery up: its wait is abandoned and the message is dropped. -/
def abandon (connection : Connection) (envelope : Envelope) : Delivery → Connection
  | .awaiting wait => (wait.abandon connection).release envelope
  | _ => connection.release envelope

/-- The deadline that a delivery has to meet. -/
def deadline? : Delivery → Option Nat
  | .awaiting wait => wait.deadline?
  | _ => none

end Delivery

/-- Where the dispatcher is in its program. -/
inductive Dispatcher where
  | starting
  | receiving (stage : Queue.Receiving)
  | delivering (envelope : Envelope) (delivery : Delivery)

namespace Dispatcher

/-- The span that the entries of a delivery are written in. -/
def spans : Dispatcher → List Span
  | .delivering envelope _ => [⟨"message_dispatch", [("message_id", .text envelope.message.id.render)]⟩]
  | _ => []

/-- The dispatcher is about to receive the next message. -/
def idle : Dispatcher :=
  .receiving .arriving

/-- One step of the dispatcher that does not wait for a reply. -/
def step (connection : Connection) (agenda : Agenda) (task : TaskId) :
    Dispatcher → Progress Unit Dispatcher × Connection
  | .starting => (.next idle, connection.log .info "Device message dispatcher started" [])
  | .receiving stage =>
    let (received, queue, woken) := connection.queue.step task stage
    let connection := { connection with queue }.wake woken
    match received with
    | .next stage => (.next (.receiving stage), connection)
    | .parked stage => (.parked (.receiving stage), connection)
    | .done (some envelope) => (.next (.delivering envelope .arriving), connection)
    | .done none => (.done (), connection.log .info "Device message queue closed, dispatcher stopped" [])
  | .delivering envelope delivery =>
    match delivery.step connection agenda task envelope with
    | (.parked delivery, connection) => (.parked (.delivering envelope delivery), connection)
    | (.next delivery, connection) => (.next (.delivering envelope delivery), connection)
    -- However a delivery has ended, the next message comes.
    | (.done _, connection) => (.next idle, connection)

/-- Stop at once: what the dispatcher holds or waits for is given up. -/
def abandon (connection : Connection) (task : TaskId) : Dispatcher → Connection
  | .starting => connection
  | .receiving _ =>
    let (queue, woken) := connection.queue.giveUp task
    { connection with queue }.wake woken
  | .delivering envelope delivery => delivery.abandon connection envelope

/-- The deadline that the dispatcher has to meet. -/
def deadline? : Dispatcher → Option Nat
  | .delivering _ delivery => delivery.deadline?
  | _ => none

end Dispatcher

end Uplink
