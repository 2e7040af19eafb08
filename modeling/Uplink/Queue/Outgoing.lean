import Uplink.Agenda
import Uplink.Failure
import Uplink.Journal
import Uplink.Queue.Channel
import Uplink.Queue.Custody

/-!
The queue of outgoing messages: a bounded channel that senders never wait for, with one receiver at
a time.

Receivers wait in line for the right to receive, and the one that has it waits for a message. Once
the queue is closed and its channel is empty, a receiver closes the channel and goes away with
nothing. Sending and receiving are put together from steps, each of which leaves the queue in a
state that any other step may follow.
-/

namespace Uplink.Queue

/-- The largest capacity. -/
def maxCapacity : Nat := 1024

/-- The queue with its line of receivers. -/
structure Outgoing where
  channel : Channel Envelope
  /-- Nothing more is accepted. -/
  closed : Bool := false
  custody : Custody := {}
  /-- The receiver that has the right to receive. -/
  holder : Option TaskId := none
  /-- The receivers that wait for that right, the first in line in front. -/
  line : List TaskId := []

/-- Where a receiver stands between two of its steps. -/
inductive Receiving where
  /-- It has not asked for the right to receive. -/
  | arriving
  /-- It waits for the right to receive. -/
  | inLine
  /-- It is about to look for a message. -/
  | polling
  /-- It found no message and is about to look whether the queue is closed. -/
  | checking
  /-- It found the queue closed and is about to close the channel. -/
  | closing
  /-- It has closed the channel and is about to look for a last message. -/
  | draining
deriving Repr, DecidableEq

/-- How many steps a receiver may take at most before it waits or goes away, less one. -/
def Receiving.ahead : Receiving → Nat
  | .arriving | .inLine => 4
  | .polling => 3
  | .checking => 2
  | .closing => 1
  | .draining => 0

/-- Where a receiver stands after its turn. -/
inductive Stance where
  /-- It waits to be woken at a stage. -/
  | waiting (stage : Receiving)
  /-- It went away with what it got. -/
  | gone (envelope : Option Envelope)

/-- What a receiver's step leads to; in the end it has a message or goes away without one. -/
abbrev Received := Progress (Option Envelope) Receiving

namespace Outgoing

/-- An open queue; its capacity is at least one and at most `maxCapacity`. -/
def ofCapacity (capacity : Nat) (messages : Nat) : Outgoing :=
  { channel := .empty (min (max capacity 1) maxCapacity), custody := .ofMessages messages }

/-- How many messages the queue can hold. -/
def capacity (queue : Outgoing) : Nat :=
  queue.channel.capacity

/-- How many messages the queue holds. -/
def length (queue : Outgoing) : Nat :=
  queue.channel.taken

/-- The receiver to wake when there is something to look for. -/
def listener (queue : Outgoing) : List TaskId :=
  queue.holder.toList

/-- Whether the queue refuses the message before it looks for a free slot. -/
def refusal? (queue : Outgoing) (message : Message) : Option QueueError :=
  -- An empty message is refused as such even when the queue is closed.
  if message.isNull then some .invalidArgument
  else if queue.closed then some .closed
  else none

/-- Wrap a message and send it into the channel. What is not sent is released again. The answer
holds the tasks to wake. -/
def offer (queue : Outgoing) (message : Message) (handle : Handle) (mode : HoldMode) :
    Except QueueError Unit × Outgoing × List TaskId :=
  -- The message is in custody while it is offered, even if it is not accepted in the end.
  let (envelope, custody) := queue.custody.wrap message handle mode
  match queue.channel.trySend envelope with
  | .ok channel => (.ok (), { queue with channel, custody }, queue.listener)
  | .error .full => (.error (.full queue.capacity), { queue with custody := custody.release envelope }, [])
  | .error .closed => (.error .closed, { queue with custody := custody.release envelope }, [])

/-- Add a message without waiting. The answer holds the tasks to wake. -/
def enqueue (queue : Outgoing) (message : Message) (handle : Handle) (mode : HoldMode) :
    Except QueueError Unit × Outgoing × List TaskId :=
  match queue.refusal? message with
  | some error => (.error error, queue, [])
  | none => queue.offer message handle mode

/-- Accept nothing more and wake the receiver. -/
def close (queue : Outgoing) : Outgoing × List TaskId :=
  ({ queue with closed := true }, queue.listener)

/-- The right to receive goes to the first in line, who is woken. -/
def passOn (queue : Outgoing) : Outgoing × List TaskId :=
  match queue.line with
  | [] => ({ queue with holder := none }, [])
  | next :: rest => ({ queue with holder := some next, line := rest }, [next])

/-- A receiver goes away with what it got. -/
def leave (queue : Outgoing) (envelope : Option Envelope) : Received × Outgoing × List TaskId :=
  let (queue, woken) := queue.passOn
  (.done envelope, queue, woken)

/-- One step of a receiver. The answer holds the tasks to wake. -/
def step (queue : Outgoing) (task : TaskId) : Receiving → Received × Outgoing × List TaskId
  | .arriving =>
    if queue.holder.isNone then (.next .polling, { queue with holder := some task }, [])
    else (.parked .inLine, { queue with line := queue.line ++ [task] }, [])
  | .inLine =>
    if queue.holder = some task then (.next .polling, queue, []) else (.parked .inLine, queue, [])
  -- What the channel still holds comes before the news that it is closed.
  | .polling =>
    match queue.channel.tryReceive with
    | (some envelope, channel) => { queue with channel }.leave (some envelope)
    | (none, _) => if queue.channel.closed then queue.leave none else (.next .checking, queue, [])
  -- A message or the closing of the queue leads from here back to a look for a message.
  | .checking => if queue.closed then (.next .closing, queue, []) else (.parked .polling, queue, [])
  -- After this the channel takes nothing more, so one last look finds all that there will be.
  | .closing => (.next .draining, { queue with channel := queue.channel.close }, [])
  | .draining =>
    let (envelope, channel) := queue.channel.tryReceive
    { queue with channel }.leave envelope

/-- A step that leads on at once leads nearer to the end. -/
theorem step_ahead {queue after : Outgoing} {task : TaskId} {stage next : Receiving}
    {woken : List TaskId} (stepped : queue.step task stage = (.next next, after, woken)) :
    next.ahead < stage.ahead := by
  -- Each stage leads on to one other stage at most, and the last one to none.
  cases stage with
  | arriving | inLine | checking =>
    simp only [step] at stepped
    split at stepped <;> simp only [Prod.mk.injEq, Progress.next.injEq, reduceCtorEq, false_and] at stepped
    obtain ⟨rfl, -⟩ := stepped
    decide
  | polling =>
    simp only [step, leave] at stepped
    split at stepped
    · simp at stepped
    · split at stepped <;> simp only [Prod.mk.injEq, Progress.next.injEq, reduceCtorEq, false_and] at stepped
      obtain ⟨rfl, -⟩ := stepped
      decide
  | closing =>
    simp only [step, Prod.mk.injEq, Progress.next.injEq] at stepped
    obtain ⟨rfl, -⟩ := stepped
    decide
  | draining => simp [step, leave] at stepped

/-- The steps of a receiver until it waits or goes away. The answer holds the tasks to wake. -/
def poll (queue : Outgoing) (task : TaskId) (stage : Receiving) : Stance × Outgoing × List TaskId :=
  match _stepped : queue.step task stage with
  | (.next next, after, woken) =>
    let (stance, last, later) := after.poll task next
    (stance, last, woken ++ later)
  | (.parked stage, after, woken) => (.waiting stage, after, woken)
  | (.done envelope, after, woken) => (.gone envelope, after, woken)
termination_by stage.ahead
decreasing_by exact step_ahead ‹_›

/-- A receiver gives up: it leaves the line, or passes the right to receive on. -/
def giveUp (queue : Outgoing) (task : TaskId) : Outgoing × List TaskId :=
  -- The right to receive may have come to it without its turn.
  if queue.holder = some task then queue.passOn
  else ({ queue with line := queue.line.filter (· ≠ task) }, [])

/-- Take the oldest message if there is one and nobody else has the right to receive. -/
def tryReceive (queue : Outgoing) : Option Envelope × Outgoing :=
  -- Whoever waits for a message gets the next one.
  if queue.holder.isSome then (none, queue)
  else
    let (envelope, channel) := queue.channel.tryReceive
    (envelope, { queue with channel })

/-- Drop an envelope that was received. -/
def release (queue : Outgoing) (envelope : Envelope) : Outgoing :=
  { queue with custody := queue.custody.release envelope }

end Outgoing

end Uplink.Queue

namespace Uplink

/-- Count an attempt to queue a message, and log it if it came as far as the channel. -/
def Telemetry.noteEnqueue (telemetry : Telemetry) (queue : Queue.Outgoing) (message : Message)
    (mode : HoldMode) (result : Except QueueError Unit) : Telemetry :=
  let identity : String × FieldValue := ("message_id", .text message.id.render)
  -- What was refused at once is counted, but not logged.
  let offered := if (queue.refusal? message).isSome then telemetry
    else telemetry.log .debug "Adding device message to queue" [identity, ("mode", .text mode.name)]
  match result with
  | .ok _ => offered.count .messageEnqueued
  | .error (.full capacity) =>
    (offered.count .messageRejected).log .error "Device message rejected, outgoing message queue is full"
      [identity, ("capacity", .int capacity)]
  | .error _ => offered.count .messageRejected

end Uplink
