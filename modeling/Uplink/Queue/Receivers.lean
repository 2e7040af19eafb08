import Uplink.Queue.Kept

/-!
One queue with any number of receivers in the background.

Each receiver is a task of its own. What it receives is reported with the instant of its end, and
then either dropped or kept under a key, where it takes the place of what was kept there before.
-/

namespace Uplink.Queue

/-- A receiver in the background that has not ended. -/
structure BackgroundReceiver where
  /-- What the caller knows it by. -/
  label : Nat
  /-- The key to keep the message under. -/
  keep : Option Nat
  stage : Receiving := .arriving
  /-- The caller has cancelled it. -/
  cancelled : Bool := false
deriving Repr, DecidableEq

/-- How a receiver in the background ended. -/
structure Delivery where
  label : Nat
  /-- The instant of its end. -/
  instant : Nat
  envelope : Option Envelope

/-- A queue, its receivers, what they received, the latest first, and what is kept. -/
structure Receivers where
  agenda : Agenda := {}
  queue : Outgoing
  pending : List (TaskId × BackgroundReceiver) := []
  deliveries : List Delivery := []
  kept : Kept := []
  telemetry : Telemetry := {}

namespace Receivers

/-- An open queue without receivers. -/
def ofCapacity (capacity messages : Nat) : Receivers :=
  { queue := .ofCapacity capacity messages }

/-- Drop what is kept under a key. -/
def release (receivers : Receivers) (key : Nat) : Receivers :=
  let (kept, queue) := receivers.kept.release receivers.queue key
  { receivers with kept, queue }

/-- Keep a received envelope under its key, or drop it if there is none. -/
def dispose (receivers : Receivers) (key : Option Nat) (envelope : Envelope) : Receivers :=
  let (kept, queue) := receivers.kept.dispose receivers.queue key envelope
  { receivers with kept, queue }

/-- Add a message without waiting. -/
def enqueue (receivers : Receivers) (message : Message) (handle : Handle) (mode : HoldMode) :
    Except QueueError Unit × Receivers :=
  let (result, queue, woken) := receivers.queue.enqueue message handle mode
  (result,
    { receivers with
      queue := queue
      agenda := receivers.agenda.wakeAll woken
      telemetry := receivers.telemetry.noteEnqueue receivers.queue message mode result })

/-- Accept nothing more. -/
def close (receivers : Receivers) : Receivers :=
  let (queue, woken) := receivers.queue.close
  { receivers with queue, agenda := receivers.agenda.wakeAll woken }

/-- Take the oldest message at once, if that is possible. -/
def tryReceive (receivers : Receivers) (keep : Option Nat) : Option Envelope × Receivers :=
  match receivers.queue.tryReceive with
  | (none, queue) => (none, { receivers with queue })
  | (some envelope, queue) => (some envelope, { receivers with queue }.dispose keep envelope)

/-- Start a receiver in the background. -/
def start (receivers : Receivers) (label : Nat) (keep : Option Nat) : Receivers :=
  let (task, agenda) := receivers.agenda.spawn
  { receivers with agenda, pending := receivers.pending ++ [(task, { label, keep })] }

/-- Whether a receiver of this label has not ended and was not cancelled. -/
def isPending (receivers : Receivers) (label : Nat) : Bool :=
  receivers.pending.any fun (_, receiver) => receiver.label = label && !receiver.cancelled

/-- The receiver of a task, changed. -/
def update (receivers : Receivers) (task : TaskId) (change : BackgroundReceiver → BackgroundReceiver) :
    Receivers :=
  { receivers with
    pending := receivers.pending.map fun (other, receiver) =>
      if other = task then (other, change receiver) else (other, receiver) }

/-- Cancel a receiver: its task is woken and gives up at its turn. -/
def cancel (receivers : Receivers) (label : Nat) : Receivers :=
  match receivers.pending.find? (fun (_, receiver) => receiver.label = label) with
  | none => receivers
  | some (task, _) =>
    { receivers with agenda := receivers.agenda.wake task }.update task ({ · with cancelled := true })

/-- The task of a receiver is no more. -/
def remove (receivers : Receivers) (task : TaskId) : Receivers :=
  { receivers with
    agenda := receivers.agenda.yield
    pending := receivers.pending.filter (·.1 ≠ task) }

/-- One turn of a receiver's task: it goes as far as it can at this instant. -/
def turnOf (receivers : Receivers) (task : TaskId) (receiver : BackgroundReceiver) : Receivers :=
  -- If it has the right to receive, it passes that on.
  if receiver.cancelled then
    let (queue, woken) := receivers.queue.giveUp task
    { receivers.remove task with queue, agenda := receivers.agenda.yield.wakeAll woken }
  else
    match receivers.queue.poll task receiver.stage with
    | (.waiting stage, queue, woken) =>
      { receivers with queue, agenda := receivers.agenda.yield.wakeAll woken }.update task ({ · with stage })
    | (.gone envelope, queue, woken) =>
      let receivers := { receivers.remove task with
        queue := queue
        agenda := receivers.agenda.yield.wakeAll woken
        deliveries := ⟨receiver.label, receivers.agenda.now, envelope⟩ :: receivers.deliveries }
      match envelope with
      | none => receivers
      | some envelope => receivers.dispose receiver.keep envelope

/-- One turn of the task at the head of the line. -/
def turn? (receivers : Receivers) : Option Receivers :=
  match receivers.agenda.ready with
  | [] => none
  | task :: _ =>
    match receivers.pending.lookup task with
    -- A task that was woken and then ended may still stand in line.
    | none => some { receivers with agenda := receivers.agenda.yield }
    | some receiver => some (receivers.turnOf task receiver)

/-- No receiver waits for the clock. -/
instance : Timed Receivers where
  turn? := turn?
  nextDue? _ := none
  strike instant receivers := { receivers with agenda := { receivers.agenda with now := instant } }

/-- Run every task that can run. -/
def settle (receivers : Receivers) : Receivers :=
  Timed.settle Timed.patience receivers

/-- Take the receivers that have ended since they were last taken, by label. -/
def takeDeliveries (receivers : Receivers) : List Delivery × Receivers :=
  -- Receivers of one label stay in the order in which they ended.
  (receivers.deliveries.reverse.mergeSort (fun one other => one.label ≤ other.label),
    { receivers with deliveries := [] })

end Receivers

end Uplink.Queue
