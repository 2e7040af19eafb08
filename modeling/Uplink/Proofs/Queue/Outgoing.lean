import Mathlib.Data.List.Nodup
import Uplink.Queue.Outgoing

/-! One receiver at a time: where the right to receive is, and how it goes from one receiver to the next. -/

namespace Uplink.Queue

/-- A channel is closed once. -/
theorem Channel.close_eq_self {α : Type} {channel : Channel α} (closed : channel.closed = true) :
    channel.close = channel := by
  -- Closing sets one field, which is set already.
  obtain ⟨capacity, free, items, shut⟩ := channel
  obtain rfl := closed
  rfl

/-- An item that is sent goes to the end of the channel. -/
theorem Channel.trySend_ok {α : Type} {channel after : Channel α} {item : α}
    (sent : channel.trySend item = .ok after) :
    after = { channel with free := channel.free - 1, items := channel.items ++ [item] } := by
  -- An open channel with a free place takes the item; every other case is an error.
  unfold trySend at sent
  split at sent
  · contradiction
  · split at sent
    · contradiction
    · cases sent
      rfl

/-- What is received was at the front of the channel. -/
theorem Channel.tryReceive_items {α : Type} (channel : Channel α) :
    channel.tryReceive.1.toList ++ channel.tryReceive.2.items = channel.items := by
  -- An empty channel gives nothing, and any other its first message.
  obtain ⟨capacity, free, items, shut⟩ := channel
  cases items <;> rfl

/-- The envelope that a message is queued in. -/
def envelopeOf (message : Message) (handle : Handle) (mode : HoldMode) : Envelope :=
  ⟨message, handle, mode = .copy⟩

/-- A message is wrapped in the envelope that it is queued in. -/
theorem Custody.wrap_envelope (custody : Custody) (message : Message) (handle : Handle)
    (mode : HoldMode) : (custody.wrap message handle mode).1 = envelopeOf message handle mode := by
  -- The mode decides what is done in custody, and not what is sent.
  cases mode <;> rfl

/-- What a receiver has got after a step. -/
def Received.taken : Received → List Envelope
  | .done envelope => envelope.toList
  | .next _ | .parked _ => []

/-- What a receiver has got after a turn. -/
def Stance.taken : Stance → List Envelope
  | .gone envelope => envelope.toList
  | .waiting _ => []

namespace Outgoing

variable {queue : Outgoing} {task other : TaskId}

/-- The receivers in line wait for somebody who has the right to receive, each of them at one place,
and the channel is not closed before the queue is. -/
structure InOrder (queue : Outgoing) : Prop where
  line : queue.line.Nodup
  held : queue.holder = none → queue.line = []
  apart : ∀ task, queue.holder = some task → task ∉ queue.line
  closing : queue.channel.closed = true → queue.closed = true

/-- Nobody receives from a new queue. -/
theorem inOrder_ofCapacity (capacity messages : Nat) : (ofCapacity capacity messages).InOrder := by
  -- There is no line and no holder.
  constructor <;> simp [ofCapacity, Channel.empty]

/-- The order among receivers does not depend on the messages in the channel or on who holds one. -/
theorem InOrder.congr {after : Outgoing} (order : queue.InOrder) (line : after.line = queue.line)
    (holder : after.holder = queue.holder)
    (closing : after.channel.closed = true → after.closed = true) : after.InOrder where
  -- Nothing else is asked about than the line, the holder and the two ways to be closed.
  line := line ▸ order.line
  held := by
    rw [line, holder]
    exact order.held
  apart := by
    rw [line, holder]
    exact order.apart
  closing := closing

/-! ### The line of receivers -/

/-- Passing the right to receive on changes nothing but the line and who has that right. -/
theorem passOn_eq (queue : Outgoing) :
    queue.passOn.1 = { queue with holder := queue.line.head?, line := queue.line.tail } := by
  -- With an empty line the right is free, and otherwise the first in line has it.
  obtain ⟨channel, closed, custody, holder, line⟩ := queue
  cases line <;> rfl

/-- Whoever gets the right to receive is woken. -/
theorem woken_passOn (queue : Outgoing) : queue.passOn.2 = queue.line.head?.toList := by
  -- With an empty line nobody is woken, and otherwise the first in line.
  obtain ⟨channel, closed, custody, holder, line⟩ := queue
  cases line <;> rfl

/-- The receivers are in order after the right to receive was passed on. -/
theorem InOrder.passOn (order : queue.InOrder) : queue.passOn.1.InOrder := by
  rw [passOn_eq]
  obtain ⟨line, held, apart, closing⟩ := order
  cases shape : queue.line with
  | nil => exact ⟨by simp, by simp, by simp, closing⟩
  | cons next rest =>
    rw [shape] at line
    -- The first in line stood there once.
    constructor
    · exact (List.nodup_cons.mp line).2
    · simp
    · intro task same
      cases same
      exact (List.nodup_cons.mp line).1
    · exact closing

/-- A receiver that finds the right to receive taken goes to the end of the line. -/
theorem InOrder.queueUp (order : queue.InOrder) (taken : queue.holder.isSome = true)
    (elsewhere : queue.holder ≠ some task) (absent : task ∉ queue.line) :
    { queue with line := queue.line ++ [task] : Outgoing }.InOrder where
  -- The newcomer neither has the right to receive nor stands in line.
  line := List.nodup_append.mpr ⟨order.line, List.nodup_singleton task, by
    intro name stood other last same
    subst same
    exact absent (List.mem_singleton.mp last ▸ stood)⟩
  held := by
    intro (nobody : queue.holder = none)
    rw [nobody] at taken
    contradiction
  apart := by
    intro holder held member
    rcases List.mem_append.mp member with stood | last
    · exact order.apart holder held stood
    · exact elsewhere (List.mem_singleton.mp last ▸ held)
  closing := order.closing

/-- A receiver that finds nobody with the right to receive has it. -/
theorem InOrder.hold (order : queue.InOrder) (free : queue.holder = none) (task : TaskId) :
    { queue with holder := some task : Outgoing }.InOrder where
  -- As the right was free, nobody stands in line who could hold it.
  line := order.line
  held := by simp
  apart := by simp [order.held free]
  closing := order.closing

/-- The receivers are in order after one of them gave up. -/
theorem InOrder.giveUp (order : queue.InOrder) (task : TaskId) : (queue.giveUp task).1.InOrder := by
  -- Whoever has the right to receive passes it on; everyone else leaves the line.
  unfold Outgoing.giveUp
  split
  · exact order.passOn
  · constructor
    · exact order.line.filter _
    · intro nobody
      simp [order.held nobody]
    · intro holder held member
      exact order.apart holder held (List.mem_of_mem_filter member)
    · exact order.closing

/-! ### Messages that come and go at once -/

/-- The queue after its oldest message was taken. -/
def afterOldest (queue : Outgoing) (rest : List Envelope) : Outgoing :=
  { queue with channel := { queue.channel with free := queue.channel.free + 1, items := rest } }

/-- A message that an open channel takes goes to its end, and the holder is woken. -/
theorem offer_ok {message : Message} {handle : Handle} {mode : HoldMode}
    (accepted : (queue.offer message handle mode).1 = .ok ()) :
    queue.channel.closed = false ∧ ∃ custody free, (queue.offer message handle mode).2 =
      ({ queue with
          custody := custody
          channel := { queue.channel with
            free := free, items := queue.channel.items ++ [envelopeOf message handle mode] } },
        queue.listener) := by
  simp only [offer] at accepted ⊢
  cases sent : queue.channel.trySend (queue.custody.wrap message handle mode).1 with
  | error error => cases error <;> simp [sent] at accepted
  | ok channel =>
    -- The message went into the channel in its envelope.
    have opened : queue.channel.closed = false := by
      cases shut : queue.channel.closed with
      | false => rfl
      | true => simp [Channel.trySend, shut] at sent
    have after := Channel.trySend_ok sent
    rw [Custody.wrap_envelope] at after
    refine ⟨opened, (queue.custody.wrap message handle mode).2, queue.channel.free - 1, ?_⟩
    simp only [after]

/-- A message that the channel does not take changes nothing but the custody of messages. -/
theorem offer_error {message : Message} {handle : Handle} {mode : HoldMode} {error : QueueError}
    (failed : (queue.offer message handle mode).1 = .error error) :
    ∃ custody, (queue.offer message handle mode).2 = ({ queue with custody }, []) := by
  -- Sending is the last that is done, so only the wrapping stands when it fails.
  simp only [offer] at failed ⊢
  cases sent : queue.channel.trySend (queue.custody.wrap message handle mode).1 with
  | error error => cases error <;> exact ⟨_, rfl⟩
  | ok channel => simp [sent] at failed

/-- A closed channel takes nothing. -/
theorem offer_closed (closed : queue.channel.closed = true) (message : Message) (handle : Handle)
    (mode : HoldMode) : (queue.offer message handle mode).1 = .error .closed := by
  -- A channel looks whether it is closed before anything else.
  simp [offer, Channel.trySend, closed]

/-- A message that is accepted goes to the end of the channel, and the holder is woken. -/
theorem enqueue_ok {message : Message} {handle : Handle} {mode : HoldMode}
    (accepted : (queue.enqueue message handle mode).1 = .ok ()) :
    ∃ custody free, (queue.enqueue message handle mode).2 =
      ({ queue with
          custody := custody
          channel := { queue.channel with
            free := free, items := queue.channel.items ++ [envelopeOf message handle mode] } },
        queue.listener) := by
  -- The message was neither refused by the queue nor by the channel.
  unfold enqueue at accepted ⊢
  cases refused : queue.refusal? message with
  | some error => simp [refused] at accepted
  | none =>
    simp only [refused] at accepted ⊢
    exact (offer_ok accepted).2

/-- A message that is not accepted changes nothing but the custody of messages. -/
theorem enqueue_error {message : Message} {handle : Handle} {mode : HoldMode} {error : QueueError}
    (failed : (queue.enqueue message handle mode).1 = .error error) :
    ∃ custody, (queue.enqueue message handle mode).2 = ({ queue with custody }, []) := by
  -- Whoever refuses it, neither the channel nor the line has been touched.
  unfold enqueue at failed ⊢
  cases refused : queue.refusal? message with
  | some error => exact ⟨queue.custody, rfl⟩
  | none =>
    simp only [refused] at failed ⊢
    exact offer_error failed

/-- Nothing is taken while somebody has the right to receive. -/
theorem tryReceive_held (held : queue.holder.isSome = true) : queue.tryReceive = (none, queue) := by
  -- Taking without a wait asks whether the right is free.
  simp [tryReceive, held]

/-- The oldest message is taken at once if nobody has the right to receive. -/
theorem tryReceive_free (free : queue.holder = none) :
    queue.tryReceive =
      match queue.channel.items with
      | [] => (none, queue)
      | envelope :: rest => (some envelope, queue.afterOldest rest) := by
  -- The oldest message is the head of the channel.
  obtain ⟨⟨capacity, slots, items, shut⟩, closed, custody, holder, line⟩ := queue
  obtain rfl := free
  cases items <;> rfl

/-! ### A look for a message -/

section Steps

variable {after : Outgoing} {stage next : Receiving} {woken : List TaskId}

/-- A step that leads on at once is followed by the steps from there. -/
theorem poll_next (stepped : queue.step task stage = (.next next, after, woken)) :
    queue.poll task stage =
      ((after.poll task next).1, (after.poll task next).2.1, woken ++ (after.poll task next).2.2) := by
  -- The steps of a turn are taken until one waits or goes away, and this one does neither.
  rw [poll]
  split <;> simp_all

/-- A step that waits is the last of a turn. -/
theorem poll_parked (stepped : queue.step task stage = (.parked next, after, woken)) :
    queue.poll task stage = (.waiting next, after, woken) := by
  -- The turn ends with a step that waits.
  rw [poll]
  split <;> simp_all

/-- A step that goes away is the last of a receiver. -/
theorem poll_done {envelope : Option Envelope}
    (stepped : queue.step task stage = (.done envelope, after, woken)) :
    queue.poll task stage = (.gone envelope, after, woken) := by
  -- The turn ends with a step that goes away.
  rw [poll]
  split <;> simp_all

end Steps

/-- A receiver that has the right to receive takes the oldest message. -/
theorem poll_oldest {envelope : Envelope} {rest : List Envelope}
    (holds : queue.channel.items = envelope :: rest) (task : TaskId) :
    queue.poll task .polling =
      (.gone (some envelope), (queue.afterOldest rest).passOn.1, (queue.afterOldest rest).passOn.2) := by
  -- The step takes the message and passes the right on; it is the last.
  apply poll_done
  simp [step, Channel.tryReceive, holds, leave, afterOldest]

/-- A receiver that has the right to receive goes away from a closed queue that is empty. -/
theorem poll_closed (empty : queue.channel.items = [])
    (closed : queue.closed = true) (task : TaskId) :
    queue.poll task .polling =
      (.gone none, ({ queue with channel := queue.channel.close : Outgoing }).passOn.1,
        ({ queue with channel := queue.channel.close : Outgoing }).passOn.2) := by
  cases shut : queue.channel.closed with
  | true =>
    -- The channel was closed before, so closing it again changes nothing.
    rw [Channel.close_eq_self shut]
    apply poll_done
    simp [step, Channel.tryReceive, empty, shut, leave]
  | false =>
    -- The receiver looks for a message, finds the queue closed, closes the channel and looks again.
    have looked : queue.step task .polling = (.next .checking, queue, []) := by
      simp [step, Channel.tryReceive, empty, shut]
    have checked : queue.step task .checking = (.next .closing, queue, []) := by
      simp [step, closed]
    let shutQueue : Outgoing := { queue with channel := queue.channel.close }
    have shutting : queue.step task .closing = (.next .draining, shutQueue, []) := rfl
    have drained : shutQueue.step task .draining =
        (.done none, shutQueue.passOn.1, shutQueue.passOn.2) := by
      simp [step, shutQueue, Channel.tryReceive, Channel.close, empty, leave]
    rw [poll_next looked, poll_next checked, poll_next shutting, poll_done drained]
    rfl

/-- A receiver that has the right to receive waits for a message. -/
theorem poll_open (order : queue.InOrder) (empty : queue.channel.items = [])
    (opened : queue.closed = false) (task : TaskId) :
    queue.poll task .polling = (.waiting .polling, queue, []) := by
  -- The channel of an open queue is open.
  have shut : queue.channel.closed = false := by
    by_contra shut
    have closed := order.closing (by simpa using shut)
    rw [opened] at closed
    contradiction
  -- The receiver finds nothing, sees that the queue is open, and waits.
  have looked : queue.step task .polling = (.next .checking, queue, []) := by
    simp [step, Channel.tryReceive, empty, shut]
  have checked : queue.step task .checking = (.parked .polling, queue, []) := by
    simp [step, opened]
  rw [poll_next looked, poll_parked checked]
  rfl

/-- A receiver that was given the right to receive looks for a message. -/
theorem poll_inLine_held (held : queue.holder = some task) :
    queue.poll task .inLine = queue.poll task .polling := by
  -- The first step finds the right, and the turn goes on from there.
  have stepped : queue.step task .inLine = (.next .polling, queue, []) := by
    simp [step, held]
  rw [poll_next stepped]
  rfl

/-- A receiver that was not given the right to receive yet goes on waiting for it. -/
theorem poll_inLine (elsewhere : queue.holder ≠ some task) :
    queue.poll task .inLine = (.waiting .inLine, queue, []) :=
  -- The first step does not find the right, and waits in the same place.
  poll_parked (by simp [step, elsewhere])

/-- A receiver that arrives when nobody has the right to receive looks for a message. -/
theorem poll_arriving_free (free : queue.holder = none) :
    queue.poll task .arriving = { queue with holder := some task : Outgoing }.poll task .polling := by
  -- It takes the right to receive and looks at once.
  have stepped : queue.step task .arriving =
      (.next .polling, { queue with holder := some task }, []) := by
    simp [step, free]
  rw [poll_next stepped]
  rfl

/-- A receiver that arrives while another one has the right to receive joins the line. -/
theorem poll_arriving (taken : queue.holder.isSome = true) :
    queue.poll task .arriving = (.waiting .inLine, { queue with line := queue.line ++ [task] }, []) := by
  -- The first step finds the right taken, and waits in line.
  apply poll_parked
  cases held : queue.holder with
  | none => simp [held] at taken
  | some holder => simp [step, held]

/-! ### What is taken out -/

/-- Whoever does not wait takes the oldest message or nothing. -/
theorem tryReceive_items (queue : Outgoing) :
    queue.tryReceive.1.toList ++ queue.tryReceive.2.channel.items = queue.channel.items := by
  -- Where somebody has the right, nothing is taken and nothing has changed.
  unfold tryReceive
  split
  · rfl
  · exact queue.channel.tryReceive_items

/-- Whoever gives up takes nothing out. -/
theorem giveUp_items (queue : Outgoing) (task : TaskId) :
    (queue.giveUp task).1.channel.items = queue.channel.items := by
  -- Giving up hands the right on or leaves the line; the channel is no part of either.
  unfold giveUp
  split
  · rw [passOn_eq]
  · rfl

/-- Whoever goes away leaves with what it got. -/
theorem leave_items (queue : Outgoing) (envelope : Option Envelope) :
    (queue.leave envelope).1.taken ++ (queue.leave envelope).2.1.channel.items =
      envelope.toList ++ queue.channel.items := by
  -- Passing the right on does not touch the channel.
  simp only [leave, Received.taken, passOn_eq]

/-- A step takes out what its receiver goes away with, and nothing else. -/
theorem step_items (queue : Outgoing) (task : TaskId) (stage : Receiving) :
    (queue.step task stage).1.taken ++ (queue.step task stage).2.1.channel.items = queue.channel.items := by
  -- Two stages look into the channel, and the others lead on.
  cases stage with
  | arriving | inLine | checking =>
    simp only [step]
    split <;> rfl
  | closing => rfl
  | polling =>
    simp only [step]
    split
    · rename_i envelope channel received
      rw [leave_items, ← Channel.tryReceive_items queue.channel, received]
    · split
      · exact leave_items queue none
      · rfl
  | draining =>
    simp only [step]
    rw [leave_items, Channel.tryReceive_items]

/-- A turn takes out what its receiver goes away with, and nothing else. -/
theorem poll_items (queue : Outgoing) (task : TaskId) (stage : Receiving) :
    (queue.poll task stage).1.taken ++ (queue.poll task stage).2.1.channel.items = queue.channel.items := by
  -- Only the last step of a turn goes away, and the steps before it take nothing.
  fun_induction Outgoing.poll queue task stage with
  | case1 queue stage next after woken stepped stance last later polled ih =>
    have items := queue.step_items task stage
    rw [stepped] at items
    rw [polled] at ih
    exact ih.trans items
  | case2 queue stage waiting after woken stepped =>
    have items := queue.step_items task stage
    rw [stepped] at items
    exact items
  | case3 queue stage envelope after woken stepped =>
    have items := queue.step_items task stage
    rw [stepped] at items
    exact items

end Outgoing

end Uplink.Queue
