import Mathlib.Logic.Relation
import Mathlib.Logic.Function.Basic
import Uplink.Proofs.Queue.Fifo

/-!
Senders and receivers that interleave step by step: whatever the order of their steps, nothing that was accepted
is lost to a closing.
-/

namespace Uplink.Queue

/-- A message on its way into a queue. -/
structure Parcel where
  message : Message
  handle : Handle
  mode : HoldMode

/-- A receiver between two of its steps. -/
structure Recipient where
  stage : Receiving := .arriving
  /-- It is in the middle of its turn; otherwise it sleeps. -/
  running : Bool := true
  /-- It has been woken since its turn began. -/
  called : Bool := false

/-- A queue with everybody who is in the middle of using it. -/
structure Traffic where
  queue : Outgoing
  /-- Messages that the queue has not refused and that have not been offered to its channel yet. -/
  admitted : List Parcel := []
  receivers : TaskId → Option Recipient := fun _ => none
  /-- What has passed, in order. -/
  passed : List Exchange := []

namespace Traffic

/-- Wake receivers. -/
def call (traffic : Traffic) (tasks : List TaskId) : Traffic :=
  { traffic with
    receivers := fun task => (traffic.receivers task).map fun receiver =>
      if task ∈ tasks then { receiver with called := true } else receiver }

/-- Have a receiver stand elsewhere, or nowhere. -/
def place (traffic : Traffic) (task : TaskId) (receiver : Option Recipient) : Traffic :=
  { traffic with receivers := Function.update traffic.receivers task receiver }

/-- A receiver stands where it was placed. -/
@[simp] theorem place_self (traffic : Traffic) (task : TaskId) (receiver : Option Recipient) :
    (traffic.place task receiver).receivers task = receiver := by
  -- The new place is that of the task asked for.
  simp [place]

/-- The other receivers stay where they are. -/
@[simp] theorem place_of_ne {task other : TaskId} (apart : other ≠ task) (traffic : Traffic)
    (receiver : Option Recipient) : (traffic.place task receiver).receivers other = traffic.receivers other := by
  -- The new place is that of another task.
  simp [place, apart]

/-- What an offer to the channel comes to. -/
def offered (queue : Outgoing) (parcel : Parcel) : List Exchange :=
  match (queue.offer parcel.message parcel.handle parcel.mode).1 with
  | .ok _ => [.accepted parcel.message parcel.handle parcel.mode]
  | .error _ => []

/-- Offer an admitted message to the channel; the others stay admitted. -/
def offer (traffic : Traffic) (parcel : Parcel) (others : List Parcel) : Traffic :=
  let (_, queue, woken) := traffic.queue.offer parcel.message parcel.handle parcel.mode
  { traffic with
    queue := queue
    admitted := others
    passed := traffic.passed ++ offered traffic.queue parcel }.call woken

/-- Close the queue. -/
def close (traffic : Traffic) : Traffic :=
  let (queue, woken) := traffic.queue.close
  { traffic with queue }.call woken

/-- Take the oldest message at once, if that is possible. -/
def tryReceive (traffic : Traffic) : Traffic :=
  let (envelope, queue) := traffic.queue.tryReceive
  { traffic with queue := queue, passed := traffic.passed ++ (envelope.map Exchange.taken).toList }

/-- Where a receiver stands after a step. -/
def moved (receiver : Recipient) : Received → Option Recipient
  | .next stage => some { receiver with stage }
  | .parked stage => some { receiver with stage, running := false }
  | .done _ => none

/-- What a step comes to. -/
def gone (task : TaskId) : Received → List Exchange
  | .done envelope => [.received task envelope]
  | .next _ | .parked _ => []

/-- One step of a receiver. -/
def step (traffic : Traffic) (task : TaskId) (receiver : Recipient) : Traffic :=
  let (received, queue, woken) := traffic.queue.step task receiver.stage
  { traffic.place task (moved receiver received) with
    queue := queue
    passed := traffic.passed ++ gone task received }.call woken

/-- A receiver that sleeps gives up. -/
def giveUp (traffic : Traffic) (task : TaskId) : Traffic :=
  let (queue, woken) := traffic.queue.giveUp task
  { traffic.place task none with queue := queue, passed := traffic.passed ++ [Exchange.cancelled task] }.call woken

/-- What those do who want messages: they begin their turn once they are woken, and go on step by step. -/
inductive Serves (traffic : Traffic) : Traffic → Prop where
  | rouse {task : TaskId} {receiver : Recipient} (there : traffic.receivers task = some receiver)
      (asleep : receiver.running = false) (called : receiver.called = true) :
      Serves traffic (traffic.place task (some { receiver with running := true, called := false }))
  | step {task : TaskId} {receiver : Recipient} (there : traffic.receivers task = some receiver)
      (running : receiver.running = true) : Serves traffic (traffic.step task receiver)
  | tryReceive : Serves traffic traffic.tryReceive

/-- Everything that can happen next. -/
inductive Step (traffic : Traffic) : Traffic → Prop where
  | serves {after : Traffic} (serves : Serves traffic after) : Step traffic after
  /-- The queue does not refuse a message, which is not offered to its channel before a later step. -/
  | enter (parcel : Parcel) (accepted : traffic.queue.refusal? parcel.message = none) :
      Step traffic { traffic with admitted := parcel :: traffic.admitted }
  | offer {before after : List Parcel} {parcel : Parcel}
      (admitted : traffic.admitted = before ++ parcel :: after) :
      Step traffic (traffic.offer parcel (before ++ after))
  | close : Step traffic traffic.close
  | arrive {task : TaskId} (absent : traffic.receivers task = none) : Step traffic (traffic.place task (some {}))
  /-- A turn may begin without anybody having called for it. -/
  | stir {task : TaskId} {receiver : Recipient} (there : traffic.receivers task = some receiver)
      (asleep : receiver.running = false) :
      Step traffic (traffic.place task (some { receiver with running := true }))
  | giveUp {task : TaskId} {receiver : Recipient} (there : traffic.receivers task = some receiver)
      (asleep : receiver.running = false) : Step traffic (traffic.giveUp task)

/-- What can come about from a new queue. -/
def Arises (traffic : Traffic) : Prop :=
  ∃ capacity messages, Relation.ReflTransGen Step { queue := .ofCapacity capacity messages } traffic

/-- What comes next can come about. -/
theorem Arises.next {traffic after : Traffic} (arises : traffic.Arises) (step : Step traffic after) : after.Arises := by
  -- The step is put at the end of the path.
  obtain ⟨capacity, messages, path⟩ := arises
  exact ⟨capacity, messages, path.tail step⟩

end Traffic

/-! ### Where everybody stands -/

/-- A receiver stands where the queue knows it, and sleeps only as long as there is nothing for it. -/
def Recipient.Stands (queue : Outgoing) (task : TaskId) : Option Recipient → Prop
  | none => queue.holder ≠ some task ∧ task ∉ queue.line
  | some ⟨.arriving, running, _⟩ => running = true ∧ queue.holder ≠ some task ∧ task ∉ queue.line
  | some ⟨.inLine, running, called⟩ => task ∈ queue.line ∨
      queue.holder = some task ∧ (running = true ∨ called = true)
  | some ⟨.polling, running, called⟩ => queue.holder = some task ∧
      (running = true ∨ called = true ∨ queue.channel.items = [] ∧ queue.closed = false)
  | some ⟨.checking, running, called⟩ => queue.holder = some task ∧ running = true ∧
      (called = true ∨ queue.channel.items = [])
  | some ⟨.closing, running, _⟩ => queue.holder = some task ∧ running = true ∧ queue.closed = true
  | some ⟨.draining, running, _⟩ => queue.holder = some task ∧ running = true ∧ queue.channel.closed = true

namespace Recipient.Stands

variable {queue after : Outgoing} {task : TaskId} {receiver : Option Recipient}

/-- A call does not move a receiver. -/
theorem call (stands : Stands queue task receiver) (tasks : List TaskId) :
    Stands queue task (receiver.map fun receiver =>
      if task ∈ tasks then { receiver with called := true } else receiver) := by
  by_cases listed : task ∈ tasks
  · match receiver with
    | none => exact stands
    | some ⟨stage, running, called⟩ =>
      simp only [listed, if_true, Option.map_some]
      -- Where a call is a reason to stand as one does, there is now one.
      cases stage with
      | arriving | closing | draining => exact stands
      | inLine => exact stands.imp id fun held => ⟨held.1, .inr rfl⟩
      | polling => exact ⟨stands.1, .inr (.inl rfl)⟩
      | checking => exact ⟨stands.1, stands.2.1, .inl rfl⟩
  · simpa [listed] using stands

/-- A receiver that does not have the right to receive is not concerned by what happens to the messages or to that
right, as long as it keeps its place in line. -/
theorem aside (stands : Stands queue task receiver) (apart : queue.holder ≠ some task)
    (still : after.holder ≠ some task) (line : task ∈ after.line ↔ task ∈ queue.line) :
    Stands after task receiver := by
  match receiver with
  | none => exact ⟨still, fun stood => stands.2 (line.mp stood)⟩
  | some ⟨.arriving, _, _⟩ => exact ⟨stands.1, still, fun stood => stands.2.2 (line.mp stood)⟩
  -- Whoever is in line stands there by the line, as the right is with somebody else.
  | some ⟨.inLine, _, _⟩ =>
    exact .inl (line.mpr (stands.resolve_right fun held => apart held.1))
  | some ⟨.polling, _, _⟩ | some ⟨.checking, _, _⟩ | some ⟨.closing, _, _⟩ | some ⟨.draining, _, _⟩ =>
    exact absurd stands.1 apart

/-- A receiver may be awake at any time, and a call for it may be forgotten once it is, but not over a message that
came between its look for one and its look whether the queue is closed. -/
theorem listen {stage : Receiving} {running called awake heard : Bool}
    (stands : Stands queue task (some ⟨stage, running, called⟩)) (kept : running = true → awake = true)
    (roused : called = true → awake = true ∨ heard = true)
    (calm : stage = .checking → called = true → heard = false → queue.channel.items = []) :
    Stands queue task (some ⟨stage, awake, heard⟩) := by
  -- Whoever is in a turn of its own may forget a call, since it looks at the queue once more. The one that
  -- looks whether the queue is closed has looked for messages before.
  cases stage with
  | arriving => exact ⟨kept stands.1, stands.2⟩
  | inLine => exact stands.imp id fun held => ⟨held.1, held.2.elim (.inl ∘ kept) roused⟩
  | polling =>
    refine ⟨stands.1, ?_⟩
    rcases stands.2 with up | call | idle
    · exact .inl (kept up)
    · exact (roused call).imp_right .inl
    · exact .inr (.inr idle)
  | checking =>
    refine ⟨stands.1, kept stands.2.1, ?_⟩
    cases heard with
    | true => exact .inl rfl
    | false => exact .inr (stands.2.2.elim (calm rfl · rfl) id)
  | closing | draining => exact ⟨stands.1, kept stands.2.1, stands.2.2⟩

/-- A receiver that is asleep may be roused, and whether it was called forgotten. -/
theorem rouse {receiver : Recipient} (stands : Stands queue task (some receiver))
    (asleep : receiver.running = false) (called : Bool) :
    Stands queue task (some { receiver with running := true, called }) := by
  obtain ⟨stage, _, _⟩ := receiver
  obtain rfl : _ = false := asleep
  refine stands.listen (fun _ => rfl) (fun _ => .inl rfl) fun checks => ?_
  -- Between its look for a message and its look at the queue a receiver is not asleep.
  subst checks
  cases stands.2.1

/-- A receiver is not concerned by others who join or leave the line, nor by who holds a message. -/
theorem congr (stands : Stands queue task receiver) (holder : after.holder = queue.holder)
    (line : task ∈ after.line ↔ task ∈ queue.line) (channel : after.channel = queue.channel)
    (closed : after.closed = queue.closed) : Stands after task receiver := by
  -- One case for each stage: the first ones read the line, and the others the channel and who has the right.
  match receiver with
  | none => exact ⟨by rw [holder]; exact stands.1, fun stood => stands.2 (line.mp stood)⟩
  | some ⟨.arriving, _, _⟩ =>
    exact ⟨stands.1, by rw [holder]; exact stands.2.1, fun stood => stands.2.2 (line.mp stood)⟩
  | some ⟨.inLine, _, _⟩ => exact stands.imp line.mpr fun held => ⟨holder.trans held.1, held.2⟩
  | some ⟨.polling, _, _⟩ | some ⟨.checking, _, _⟩ | some ⟨.closing, _, _⟩ | some ⟨.draining, _, _⟩ =>
    simpa [Stands, holder, channel, closed] using stands

/-- Whatever comes into the queue or closes it, those who have been called for it stand right. -/
theorem heard (stands : Stands queue task receiver) (holder : after.holder = queue.holder)
    (line : after.line = queue.line) (closed : queue.closed = true → after.closed = true)
    (shut : queue.channel.closed = true → after.channel.closed = true) :
    Stands after task (receiver.map fun receiver =>
      if task ∈ queue.listener then { receiver with called := true } else receiver) := by
  -- Only the receiver with the right to receive is called, and a call is all that changes for it.
  by_cases held : queue.holder = some task
  · have listed : task ∈ queue.listener := by simp [Outgoing.listener, held]
    obtain _ | ⟨stage, running, called⟩ := receiver
    · exact absurd held stands.1
    · simp only [listed, if_true, Option.map_some]
      cases stage with
      | arriving => exact absurd held stands.2.1
      | inLine => exact .inr ⟨holder.trans held, .inr rfl⟩
      | polling => exact ⟨holder.trans held, .inr (.inl rfl)⟩
      | checking => exact ⟨holder.trans held, stands.2.1, .inl rfl⟩
      | closing => exact ⟨holder.trans held, stands.2.1, closed stands.2.2⟩
      | draining => exact ⟨holder.trans held, stands.2.1, shut stands.2.2⟩
  · have still : Stands after task receiver := stands.aside held (holder ▸ held) (line ▸ Iff.rfl)
    exact still.call _

/-- Of those who are in line nothing else is known. -/
theorem of_line (stands : Stands queue task receiver) (apart : queue.holder ≠ some task)
    (stood : task ∈ queue.line) : ∃ running called, receiver = some ⟨.inLine, running, called⟩ := by
  -- Only those who are in line stand in the line, and whoever is past it has the right.
  match receiver with
  | none => exact absurd stood stands.2
  | some ⟨.arriving, _, _⟩ => exact absurd stood stands.2.2
  | some ⟨.inLine, running, called⟩ => exact ⟨running, called, rfl⟩
  | some ⟨.polling, _, _⟩ | some ⟨.checking, _, _⟩ | some ⟨.closing, _, _⟩ | some ⟨.draining, _, _⟩ =>
    exact absurd stands.1 apart

/-- The others stand right after somebody has passed the right to receive on. -/
theorem passOn {own : TaskId} (stands : Stands queue task receiver)
    (held : queue.holder = some own) (other : task ≠ own) :
    Stands queue.passOn.1 task (receiver.map fun receiver =>
      if task ∈ queue.passOn.2 then { receiver with called := true } else receiver) := by
  have apart : queue.holder ≠ some task := fun same => other (Option.some.inj (same.symm.trans held))
  rw [Outgoing.passOn_eq, Outgoing.woken_passOn]
  -- Either nobody is left in line, or the first in line now has the right to receive.
  cases shape : queue.line with
  | nil =>
    have stands : Stands { queue with holder := none, line := [] } task receiver :=
      stands.aside apart nofun (by simp [shape])
    simpa using stands
  | cons next rest =>
    by_cases first : task = next
    · -- The first in line gets the right to receive together with the call.
      subst first
      obtain ⟨running, called, rfl⟩ := stands.of_line apart (by simp [shape])
      simp [Stands]
    · have still : Stands { queue with holder := some next, line := rest } task receiver :=
        stands.aside apart (by simpa [eq_comm] using first) (by simp [shape, first])
      simpa [first] using still

/-- Whoever is not in line stands nowhere after passing the right to receive on. -/
theorem passed_on (absent : task ∉ queue.line) : Stands queue.passOn.1 task none := by
  -- With nobody in line the right is free, and otherwise somebody else gets it.
  rw [Outgoing.passOn_eq]
  cases shape : queue.line with
  | nil => simp [Stands]
  | cons next rest =>
    rw [shape, List.mem_cons, not_or] at absent
    exact ⟨by simpa [eq_comm] using absent.1, absent.2⟩

end Recipient.Stands

/-! ### One step of a receiver -/

/-- To look for an item does not open or close a channel. -/
theorem Channel.tryReceive_closed {α : Type} (channel : Channel α) :
    channel.tryReceive.2.closed = channel.closed := by
  -- An empty channel is handed back as it is, and of any other an item is taken.
  unfold tryReceive
  split <;> rfl

section Steps

variable {queue : Outgoing} {task other : TaskId} {receiver : Recipient}

/-- After a step of a receiver the receivers are in order. -/
theorem Outgoing.InOrder.step (order : queue.InOrder)
    (stands : Recipient.Stands queue task (some receiver)) :
    (queue.step task receiver.stage).2.1.InOrder := by
  obtain ⟨stage, running, called⟩ := receiver
  -- What is taken out of the channel leaves it as open as it was.
  have taken : { queue with channel := queue.channel.tryReceive.2 : Outgoing }.InOrder :=
    order.congr rfl rfl (by simpa only [Channel.tryReceive_closed] using order.closing)
  cases stage with
  | arriving =>
    simp only [Outgoing.step]
    split
    · rename_i free
      exact order.hold (Option.isNone_iff_eq_none.mp free) task
    · rename_i held
      exact order.queueUp (by simpa [Option.isSome_iff_ne_none] using held) stands.2.1 stands.2.2
  | inLine | checking =>
    simp only [Outgoing.step]
    split <;> exact order
  | polling =>
    simp only [Outgoing.step]
    split
    · rename_i envelope channel received
      rw [received] at taken
      exact taken.passOn
    · split
      · exact order.passOn
      · exact order
  -- Only a closed queue is closed off by its receiver.
  | closing => exact order.congr rfl rfl fun _ => stands.2.2
  | draining => exact taken.passOn

/-- No step of a receiver opens a channel. -/
theorem Outgoing.step_closed (closed : queue.channel.closed = true) (task : TaskId) (stage : Receiving) :
    (queue.step task stage).2.1.channel.closed = true := by
  have received := queue.channel.tryReceive_closed
  -- A step takes a message out, asks for the right to receive or passes it on, and none of these opens the
  -- channel.
  cases stage with
  | arriving | inLine | checking =>
    simp only [Outgoing.step]
    split <;> exact closed
  | closing => rfl
  | polling =>
    simp only [Outgoing.step, leave]
    split
    · rename_i envelope channel taken
      rw [taken] at received
      simpa [passOn_eq] using received.trans closed
    · simp [closed, passOn_eq]
  | draining => simpa [Outgoing.step, leave, passOn_eq, received] using closed

/-- A receiver goes away with nothing from a channel that is closed and empty. -/
theorem Recipient.Stands.step_none (stands : Stands queue task (some receiver))
    (left : (queue.step task receiver.stage).1 = .done none) :
    queue.channel.closed = true ∧ queue.channel.items = [] := by
  obtain ⟨stage, running, called⟩ := receiver
  -- Only two stages can go away with nothing: one that finds the channel closed and empty, and one that
  -- drains a channel that is closed already.
  cases stage with
  | arriving | inLine | checking =>
    simp only [Outgoing.step] at left
    split at left <;> contradiction
  | closing => contradiction
  | polling =>
    cases items : queue.channel.items with
    | cons envelope rest => simp [Outgoing.step, Outgoing.leave, Channel.tryReceive, items] at left
    | nil =>
      cases closed : queue.channel.closed with
      | true => exact ⟨rfl, rfl⟩
      | false => simp [Outgoing.step, Channel.tryReceive, items, closed] at left
  | draining =>
    cases items : queue.channel.items with
    | cons envelope rest => simp [Outgoing.step, Outgoing.leave, Channel.tryReceive, items] at left
    | nil => exact ⟨stands.2.2, rfl⟩

/-- A receiver stands right after a step of its own. -/
theorem Recipient.Stands.own_step (stands : Stands queue task (some receiver)) (order : queue.InOrder)
    (running : receiver.running = true) :
    Stands (queue.step task receiver.stage).2.1 task
      (Traffic.moved receiver (queue.step task receiver.stage).1) := by
  obtain ⟨stage, _, called⟩ := receiver
  obtain rfl : _ = true := running
  cases stage with
  | arriving =>
    simp only [Outgoing.step]
    split
    · exact ⟨rfl, .inl rfl⟩
    · exact .inl (List.mem_append_right _ (List.mem_singleton_self task))
  -- The right has come to it, or it waits on.
  | inLine =>
    simp only [Outgoing.step]
    split
    · rename_i held
      exact ⟨held, .inl rfl⟩
    · rename_i apart
      exact .inl (stands.resolve_right fun held => apart held.1)
  | polling =>
    -- It goes away unless there is nothing to take from an open channel.
    have absent := order.apart task stands.1
    cases items : queue.channel.items with
    | cons envelope rest =>
      simp only [Outgoing.step, Channel.tryReceive, items]
      exact passed_on absent
    | nil =>
      simp only [Outgoing.step, Channel.tryReceive, items]
      split
      · exact passed_on absent
      · exact ⟨stands.1, rfl, .inr items⟩
  | checking =>
    simp only [Outgoing.step]
    split
    · rename_i closed
      exact ⟨stands.1, rfl, closed⟩
    · rename_i opened
      -- It goes to sleep over an empty channel, or has been called since it looked.
      exact ⟨stands.1, stands.2.2.elim (fun called => .inr (.inl called))
        fun empty => .inr (.inr ⟨empty, by simpa using opened⟩)⟩
  | closing => exact ⟨stands.1, rfl, rfl⟩
  | draining => exact passed_on (order.apart task stands.1)

/-- The others stand right after a step of a receiver. -/
theorem Recipient.Stands.step {bystander : Option Recipient} (stands : Stands queue other bystander)
    (apart : other ≠ task) (own : Stands queue task (some receiver)) :
    Stands (queue.step task receiver.stage).2.1 other (bystander.map fun bystander =>
      if other ∈ (queue.step task receiver.stage).2.2 then { bystander with called := true }
      else bystander) := by
  obtain ⟨stage, running, called⟩ := receiver
  -- Whoever has the right to receive is the only one whom the messages concern.
  have elsewhere (held : queue.holder = some task) : queue.holder ≠ some other :=
    fun same => apart (Option.some.inj (same.symm.trans held))
  have left (held : queue.holder = some task) (channel : Channel Envelope) :
      Stands ({ queue with channel : Outgoing }.passOn.1) other (bystander.map fun bystander =>
        if other ∈ ({ queue with channel : Outgoing }.passOn.2) then { bystander with called := true }
        else bystander) := by
    have still : Stands { queue with channel } other bystander :=
      stands.aside (elsewhere held) (elsewhere held) Iff.rfl
    exact still.passOn held apart
  cases stage with
  | arriving =>
    simp only [Outgoing.step]
    split
    · rename_i free
      have free : queue.holder = none := Option.isNone_iff_eq_none.mp free
      have still : Stands { queue with holder := some task } other bystander :=
        stands.aside (by simp [free]) (by simpa [eq_comm] using apart) Iff.rfl
      simpa using still
    · have still : Stands { queue with line := queue.line ++ [task] } other bystander :=
        stands.congr rfl (by simp [apart]) rfl rfl
      simpa using still
  | inLine | checking =>
    simp only [Outgoing.step]
    split <;> simpa using stands
  -- If the receiver goes away, the right may come to the other one.
  | polling =>
    cases items : queue.channel.items with
    | cons envelope rest =>
      simp only [Outgoing.step, Channel.tryReceive, items]
      exact left own.1 _
    | nil =>
      simp only [Outgoing.step, Channel.tryReceive, items]
      split
      · exact left own.1 _
      · simpa using stands
  | closing =>
    have still : Stands { queue with channel := queue.channel.close } other bystander :=
      stands.aside (elsewhere own.1) (elsewhere own.1) Iff.rfl
    simpa [Outgoing.step] using still
  | draining => exact left own.1 _

end Steps

/-! ### What every run keeps -/

/-- What was delivered before is followed by what is delivered now. -/
@[simp] theorem delivered_append (trace more : List Exchange) :
    delivered (trace ++ more) = delivered trace ++ delivered more :=
  -- Deliveries are picked out of the trace one by one.
  List.filterMap_append

/-- What was accepted before is followed by what is accepted now. -/
@[simp] theorem accepted_append (trace more : List Exchange) :
    accepted (trace ++ more) = accepted trace ++ accepted more :=
  -- Acceptances are picked out of the trace one by one.
  List.filterMap_append

/-- A step delivers what its receiver goes away with. -/
@[simp] theorem delivered_gone (task : TaskId) (received : Received) :
    delivered (Traffic.gone task received) = received.taken := by
  -- Only a step that goes away with a message brings a delivery.
  match received with
  | .done none => rfl
  | .done (some envelope) => rfl
  | .next _ | .parked _ => rfl

/-- A step of a receiver accepts nothing. -/
@[simp] theorem accepted_gone (task : TaskId) (received : Received) :
    accepted (Traffic.gone task received) = [] := by
  -- What a step brings is a delivery or nothing.
  cases received <;> rfl

/-- A step that brings an exchange without a message is one that goes away with nothing. -/
theorem Traffic.eq_of_mem_gone {task other : TaskId} {received : Received}
    (brought : .received other none ∈ Traffic.gone task received) : received = .done none := by
  -- Of the steps only the one that goes away brings an exchange, and it says with what.
  cases received with
  | done envelope =>
    simp only [Traffic.gone, List.mem_singleton, Exchange.received.injEq] at brought
    rw [← brought.2]
  | next stage | parked stage => simp [Traffic.gone] at brought

/-- Everybody stands right, what was delivered and what is queued is what was accepted, and once a receiver has
gone away with nothing the channel is closed and empty. -/
structure Traffic.Sound (traffic : Traffic) : Prop where
  order : traffic.queue.InOrder
  stands : ∀ task, Recipient.Stands traffic.queue task (traffic.receivers task)
  flow : delivered traffic.passed ++ traffic.queue.channel.items = accepted traffic.passed
  final : ∀ task, .received task none ∈ traffic.passed →
    traffic.queue.channel.closed = true ∧ traffic.queue.channel.items = []

namespace Traffic

variable {traffic after : Traffic} {task : TaskId} {receiver : Recipient}

/-- A new queue has no receivers, and nothing has passed. -/
theorem sound_new (capacity messages : Nat) : Sound { queue := .ofCapacity capacity messages } where
  -- There is no receiver, no message and no trace.
  order := Outgoing.inOrder_ofCapacity capacity messages
  stands task := by simp [Recipient.Stands, Outgoing.ofCapacity]
  flow := rfl
  final := by simp

/-- Who receives is a matter of the receivers alone. -/
theorem Sound.place (sound : traffic.Sound) (stands : Recipient.Stands traffic.queue task (some receiver)) :
    (traffic.place task (some receiver)).Sound where
  -- The queue and the trace are as they were; only this task stands elsewhere.
  order := sound.order
  stands other := by
    by_cases same : other = task
    · subst same
      rw [place_self]
      exact stands
    · rw [place_of_ne same]
      exact sound.stands other
  flow := sound.flow
  final := sound.final

/-- One step of a receiver keeps everything in order. -/
theorem Sound.step (sound : traffic.Sound) (there : traffic.receivers task = some receiver)
    (running : receiver.running = true) : (traffic.step task receiver).Sound := by
  have own : Recipient.Stands traffic.queue task (some receiver) := there ▸ sound.stands task
  have items := traffic.queue.step_items task receiver.stage
  exact {
    order := sound.order.step own
    stands := by
      intro other
      by_cases same : other = task
      · subst same
        simpa [Traffic.step, Traffic.call] using (own.own_step sound.order running).call _
      · simpa [Traffic.step, Traffic.call, same] using (sound.stands other).step same own
    -- What goes away with a receiver is taken from the front.
    flow := by
      simp only [Traffic.step, call, delivered_append, accepted_append, delivered_gone, accepted_gone,
        List.append_nil, List.append_assoc, items]
      exact sound.flow
    final := by
      -- The channel stays closed, and nothing comes into it; a receiver goes away with nothing only from there.
      intro other ended
      rcases List.mem_append.mp ended with before | now
      · obtain ⟨closed, empty⟩ := sound.final other before
        rw [empty] at items
        exact ⟨Outgoing.step_closed closed task receiver.stage, (List.append_eq_nil_iff.mp items).2⟩
      · obtain ⟨closed, empty⟩ := own.step_none (eq_of_mem_gone now)
        rw [empty] at items
        exact ⟨Outgoing.step_closed closed task receiver.stage, (List.append_eq_nil_iff.mp items).2⟩ }

/-- An offer to the channel keeps everything in order. -/
theorem Sound.offer (sound : traffic.Sound) (parcel : Parcel) (others : List Parcel) :
    (traffic.offer parcel others).Sound := by
  obtain ⟨message, handle, mode⟩ := parcel
  cases result : (traffic.queue.offer message handle mode).1 with
  | error error =>
    -- Nothing has passed, and nobody is called.
    obtain ⟨custody, failed⟩ := Outgoing.offer_error result
    have unchanged : traffic.offer ⟨message, handle, mode⟩ others =
        { traffic with queue := { traffic.queue with custody }, admitted := others } := by
      simp [Traffic.offer, offered, result, failed, call]
    rw [unchanged]
    exact {
      order := sound.order.congr rfl rfl sound.order.closing
      stands := fun task => (sound.stands task).congr rfl Iff.rfl rfl rfl
      flow := sound.flow
      final := sound.final }
  | ok done =>
    -- The message goes to the end of an open channel, so nobody has gone away with nothing yet.
    obtain ⟨opened, custody, free, taken⟩ := Outgoing.offer_ok result
    have changed : traffic.offer ⟨message, handle, mode⟩ others =
        { traffic with
          queue := { traffic.queue with
            custody := custody
            channel := { traffic.queue.channel with
              free := free, items := traffic.queue.channel.items ++ [envelopeOf message handle mode] } }
          admitted := others
          passed := traffic.passed ++ [Exchange.accepted message handle mode] }.call traffic.queue.listener := by
      simp [Traffic.offer, offered, result, taken]
    rw [changed]
    exact {
      order := sound.order.congr rfl rfl sound.order.closing
      stands := fun task => (sound.stands task).heard rfl rfl id id
      flow := by
        simp only [call, delivered_append, accepted_append, ← sound.flow]
        simp [delivered, Queue.accepted]
      final := by
        intro task ended
        have closed := (sound.final task (by simpa [call] using ended)).1
        rw [opened] at closed
        contradiction }

/-- The closing of the queue keeps everything in order. -/
theorem Sound.close (sound : traffic.Sound) : traffic.close.Sound where
  -- The receivers stand as they did, and have now heard of the closing.
  order := sound.order.congr rfl rfl fun _ => rfl
  stands task := (sound.stands task).heard rfl rfl (fun _ => rfl) id
  flow := sound.flow
  final := sound.final

/-- Whoever takes a message at once keeps everything in order. -/
theorem Sound.tryReceive (sound : traffic.Sound) : traffic.tryReceive.Sound := by
  have items := traffic.queue.tryReceive_items
  have brought (envelope : Option Envelope) :
      delivered (envelope.map Exchange.taken).toList = envelope.toList ∧
        accepted (envelope.map Exchange.taken).toList = [] := by cases envelope <;> exact ⟨rfl, rfl⟩
  have flow : delivered traffic.tryReceive.passed ++ traffic.tryReceive.queue.channel.items =
      accepted traffic.tryReceive.passed := by
    simp only [Traffic.tryReceive, delivered_append, accepted_append, brought, List.append_nil,
      List.append_assoc, items]
    exact sound.flow
  cases held : traffic.queue.holder with
  | some holder =>
    -- Somebody has it, so nothing is taken.
    have nothing : traffic.queue.tryReceive = _ := Outgoing.tryReceive_held (by simp [held])
    have unchanged : traffic.tryReceive = traffic := by simp [Traffic.tryReceive, nothing]
    rwa [unchanged]
  | none =>
    -- Nobody has the right to receive, so nobody sleeps over what is taken.
    have after : traffic.tryReceive.queue =
        { traffic.queue with channel := traffic.queue.channel.tryReceive.2 } := by
      simp [Traffic.tryReceive, Outgoing.tryReceive, held]
    have shut := traffic.queue.channel.tryReceive_closed
    exact {
      order := by
        rw [after]
        exact sound.order.congr rfl rfl (by simpa only [shut] using sound.order.closing)
      stands := by
        intro task
        rw [after]
        exact (sound.stands task).aside (by simp [held]) (by simp [held]) Iff.rfl
      flow := flow
      final := by
        intro task ended
        have before : .received task none ∈ traffic.passed := by
          rcases List.mem_append.mp ended with before | now
          · exact before
          · simp [Option.mem_toList] at now
        obtain ⟨closed, empty⟩ := sound.final task before
        rw [after]
        exact ⟨shut.trans closed, by simp [Channel.tryReceive, empty]⟩ }

/-- A receiver that gives up keeps everything in order. -/
theorem Sound.giveUp (sound : traffic.Sound) (task : TaskId) : (traffic.giveUp task).Sound where
  order := sound.order.giveUp task
  stands other := by
    -- If it has the right to receive, the next in line gets that; if not, it only leaves the line.
    by_cases held : traffic.queue.holder = some task
    · have after : traffic.queue.giveUp task = traffic.queue.passOn := by simp [Outgoing.giveUp, held]
      by_cases same : other = task
      · subst same
        simpa [Traffic.giveUp, call, after] using
          Recipient.Stands.passed_on (sound.order.apart other held)
      · simpa [Traffic.giveUp, call, after, same] using (sound.stands other).passOn held same
    · have after : traffic.queue.giveUp task =
          ({ traffic.queue with line := traffic.queue.line.filter (· ≠ task) }, []) := by
        simp [Outgoing.giveUp, held]
      by_cases same : other = task
      · subst same
        simp [Traffic.giveUp, call, after, Recipient.Stands, held]
      · have still : Recipient.Stands { traffic.queue with line := traffic.queue.line.filter (· ≠ task) } other
            (traffic.receivers other) := (sound.stands other).congr rfl (by simp [same]) rfl rfl
        simpa [Traffic.giveUp, call, after, same] using still
  flow := by
    have items := traffic.queue.giveUp_items task
    simpa [Traffic.giveUp, call, items, delivered, accepted] using sound.flow
  final := by
    intro other ended
    have items := traffic.queue.giveUp_items task
    -- Giving up neither closes the channel nor takes anything out of it.
    have shut : (traffic.queue.giveUp task).1.channel.closed = traffic.queue.channel.closed := by
      unfold Outgoing.giveUp
      split
      · rw [Outgoing.passOn_eq]
      · rfl
    have before : .received other none ∈ traffic.passed := by simpa [Traffic.giveUp, call] using ended
    simpa [Traffic.giveUp, call, items, shut] using sound.final other before

/-- Whatever happens next keeps everything in order. -/
theorem Sound.next (sound : traffic.Sound) (step : Step traffic after) : after.Sound := by
  cases step with
  -- Those who receive: they begin a turn, take a step, or take without waiting.
  | serves serves =>
    cases serves with
    | rouse there asleep called => exact sound.place ((there ▸ sound.stands _).rouse asleep false)
    | step there running => exact sound.step there running
    | tryReceive => exact sound.tryReceive
  -- Everything else that can happen has a lemma, or moves one receiver.
  | enter parcel accepted => exact ⟨sound.order, sound.stands, sound.flow, sound.final⟩
  | offer admitted => exact sound.offer _ _
  | close => exact sound.close
  | arrive absent =>
    have nowhere := absent ▸ sound.stands _
    exact sound.place ⟨rfl, nowhere.1, nowhere.2⟩
  | stir there asleep => exact sound.place ((there ▸ sound.stands _).rouse asleep _)
  | giveUp there asleep => exact sound.giveUp _

end Traffic

/-! ### What is queued can be received -/

/-- How far a receiver is from the message that it would take, at most seven steps. -/
def Recipient.distance : Recipient → Nat
  | ⟨.inLine, false, _⟩ => 7
  | ⟨.inLine, true, _⟩ => 6
  | ⟨.checking, _, _⟩ => 5
  | ⟨.closing, _, _⟩ => 4
  | ⟨.draining, _, _⟩ => 3
  | ⟨.polling, false, _⟩ => 2
  | ⟨.polling, true, _⟩ => 1
  | ⟨.arriving, _, _⟩ => 0

namespace Traffic

variable {traffic later after : Traffic} {task : TaskId} {receiver nearer : Recipient}

/-- What is left to do until everything that is queued has been received. -/
def toServe (traffic : Traffic) : Nat :=
  8 * traffic.queue.channel.items.length +
    ((traffic.queue.holder.bind traffic.receivers).map Recipient.distance).getD 0

/-- Nobody is further than seven steps from a message. -/
theorem toServe_bound (traffic : Traffic) :
    traffic.toServe ≤ 8 * traffic.queue.channel.items.length + 7 := by
  -- The stages are numbered so that none is further away.
  unfold toServe
  have bound (receiver : Recipient) : receiver.distance ≤ 7 := by
    unfold Recipient.distance
    split <;> omega
  cases traffic.queue.holder.bind traffic.receivers with
  | none => simp
  | some receiver => simpa using bound receiver

/-- With a message less in the queue less is left to do. -/
theorem toServe_lt_of_items
    (fewer : later.queue.channel.items.length < traffic.queue.channel.items.length) :
    later.toServe < traffic.toServe := by
  -- A message counts for more than a receiver can ever be away.
  have bound := later.toServe_bound
  unfold toServe at *
  omega

/-- With the receiver nearer to a message less is left to do. -/
theorem toServe_lt_of_distance (items : later.queue.channel.items = traffic.queue.channel.items)
    (held : traffic.queue.holder = some task) (still : later.queue.holder = some task)
    (there : traffic.receivers task = some receiver) (moved : later.receivers task = some nearer)
    (less : nearer.distance < receiver.distance) : later.toServe < traffic.toServe := by
  -- The messages are the same, so only the way of the receiver counts.
  simp only [toServe, items, held, still, Option.bind_some, there, moved, Option.map_some, Option.getD_some]
  omega

/-- A receiver that takes the oldest message leaves fewer. -/
theorem toServe_step_lt (envelope : Option Envelope) (waiting : traffic.queue.channel.items ≠ [])
    (left : (traffic.queue.step task receiver.stage).1 = .done envelope) (sound : traffic.Sound)
    (there : traffic.receivers task = some receiver) :
    (traffic.step task receiver).toServe < traffic.toServe := by
  have items := traffic.queue.step_items task receiver.stage
  have own : Recipient.Stands traffic.queue task (some receiver) := there ▸ sound.stands task
  cases envelope with
  -- As a message is queued, nobody goes away with nothing.
  | none => exact absurd (own.step_none left).2 waiting
  -- The message that was taken is the one by which there are fewer.
  | some envelope =>
    apply toServe_lt_of_items
    rw [left] at items
    simp [Traffic.step, call, ← items, Received.taken]

/-- A receiver that goes on is nearer to a message. -/
theorem toServe_step_lt_of_moved (received : Received) {queue : Outgoing}
    (stepped : traffic.queue.step task receiver.stage = (received, queue, []))
    (moves : moved receiver received = some nearer) (there : traffic.receivers task = some receiver)
    (held : traffic.queue.holder = some task) (still : queue.holder = some task)
    (items : queue.channel.items = traffic.queue.channel.items) (less : nearer.distance < receiver.distance) :
    (traffic.step task receiver).toServe < traffic.toServe := by
  -- The step wakes nobody, so that the queue is that of the step alone.
  have after : (traffic.step task receiver).queue = queue := by simp [Traffic.step, stepped, call]
  refine toServe_lt_of_distance (by rw [after, items]) held (by rw [after, still]) there ?_ less
  simp [Traffic.step, stepped, call, moves]

/-- A receiver that begins its turn is nearer to a message. -/
theorem toServe_rouse_lt (there : traffic.receivers task = some receiver)
    (held : traffic.queue.holder = some task)
    (less : Recipient.distance { receiver with running := true, called := false } < receiver.distance) :
    (traffic.place task (some { receiver with running := true, called := false })).toServe < traffic.toServe :=
  -- The messages and the right are as they were.
  toServe_lt_of_distance rfl held held there (place_self _ _ _) less

/-- The receiver that has the right to receive can come nearer to a message that is queued. -/
theorem Sound.holder_serves (sound : traffic.Sound) (waiting : traffic.queue.channel.items ≠ [])
    (held : traffic.queue.holder = some task) (there : traffic.receivers task = some receiver) :
    ∃ later, Serves traffic later ∧ later.toServe < traffic.toServe := by
  have stands : Recipient.Stands traffic.queue task (some receiver) := there ▸ sound.stands task
  -- It takes the oldest message, or leads on to where it does; asleep it has been called.
  obtain ⟨stage, running, called⟩ := receiver
  cases stage with
  | arriving => exact absurd held stands.2.1
  | inLine =>
    cases running with
    | false =>
      have called : called = true := (stands.resolve_left (sound.order.apart task held)).2.resolve_left nofun
      exact ⟨_, .rouse there rfl called, toServe_rouse_lt there held (by simp [Recipient.distance])⟩
    | true =>
      refine ⟨_, .step there rfl, toServe_step_lt_of_moved (.next .polling) ?_ rfl there held held rfl
        (by simp [Recipient.distance])⟩
      simp [Outgoing.step, held]
  -- Asleep at this stage it has been called, as there is a message.
  | polling =>
    cases running with
    | false =>
      have called : called = true :=
        (stands.2.resolve_left nofun).resolve_right fun empty => waiting empty.1
      exact ⟨_, .rouse there rfl called, toServe_rouse_lt there held (by simp [Recipient.distance])⟩
    | true =>
      cases items : traffic.queue.channel.items with
      | nil => exact absurd items waiting
      | cons envelope rest =>
        refine ⟨_, .step there rfl, toServe_step_lt (some envelope) waiting ?_ sound there⟩
        simp [Outgoing.step, Outgoing.leave, Channel.tryReceive, items]
  -- A receiver that looks whether the queue is closed is never asleep.
  | checking =>
    obtain rfl : running = true := stands.2.1
    cases closed : traffic.queue.closed with
    | true =>
      refine ⟨_, .step there rfl, toServe_step_lt_of_moved (.next .closing) ?_ rfl there held held rfl
        (by simp [Recipient.distance])⟩
      simp [Outgoing.step, closed]
    | false =>
      refine ⟨_, .step there rfl, toServe_step_lt_of_moved (.parked .polling) ?_ rfl there held held
        rfl (by simp [Recipient.distance])⟩
      simp [Outgoing.step, closed]
  | closing =>
    obtain rfl : running = true := stands.2.1
    exact ⟨_, .step there rfl, toServe_step_lt_of_moved (.next .draining) rfl rfl there held held rfl
      (by simp [Recipient.distance])⟩
  | draining =>
    obtain rfl : running = true := stands.2.1
    exact ⟨_, .step there rfl, toServe_step_lt _ waiting rfl sound there⟩

/-- As long as a message is queued, somebody can do something that brings its receipt nearer. -/
theorem Sound.serves (sound : traffic.Sound) (waiting : traffic.queue.channel.items ≠ []) :
    ∃ later, Serves traffic later ∧ later.toServe < traffic.toServe := by
  cases held : traffic.queue.holder with
  -- Nobody has the right to receive, so a message can be taken without waiting.
  | none =>
    refine ⟨traffic.tryReceive, .tryReceive, toServe_lt_of_items ?_⟩
    cases items : traffic.queue.channel.items with
    | nil => exact absurd items waiting
    | cons envelope rest => simp [Traffic.tryReceive, Outgoing.tryReceive, held, Channel.tryReceive, items]
  -- Somebody has the right, and can go on.
  | some task =>
    have stands := sound.stands task
    cases there : traffic.receivers task with
    | none => exact absurd held (there ▸ stands).1
    | some receiver => exact sound.holder_serves waiting held there

/-- Those who want messages accept none. -/
theorem Serves.accepted (serves : Serves traffic after) : accepted after.passed = accepted traffic.passed := by
  -- None of the three ways to receive brings an acceptance.
  cases serves with
  | rouse there asleep called => rfl
  | step there running => simp [Traffic.step, call]
  | tryReceive =>
    cases taken : traffic.queue.tryReceive.1 <;> simp [Traffic.tryReceive, taken, Queue.accepted]

/-- Everything that is queued can be received by those who want messages. -/
theorem Sound.serves_all (sound : traffic.Sound) :
    ∃ later, Relation.ReflTransGen Serves traffic later ∧ delivered later.passed = accepted traffic.passed := by
  -- Induction on how much is left to do, which every such step makes less.
  induction measure : traffic.toServe using Nat.strongRecOn generalizing traffic with
  | ind size ih =>
    by_cases waiting : traffic.queue.channel.items = []
    · refine ⟨traffic, .refl, ?_⟩
      simpa [waiting] using sound.flow
    · obtain ⟨next, serves, less⟩ := sound.serves waiting
      obtain ⟨later, path, all⟩ := ih next.toServe (measure ▸ less) (sound.next (.serves serves)) rfl
      exact ⟨later, .head serves path, all.trans serves.accepted⟩

/-! ### What a closing leaves -/

/-- What arises is in order. -/
theorem Arises.sound (arises : Arises traffic) : traffic.Sound := by
  -- Induction on the path from a new queue.
  obtain ⟨capacity, messages, path⟩ := arises
  induction path with
  | refl => exact sound_new capacity messages
  | tail path step sound => exact sound.next step

/-- What follows on what is in order is in order. -/
theorem Sound.path (sound : traffic.Sound) (path : Relation.ReflTransGen Step traffic later) : later.Sound := by
  -- Induction on the path.
  induction path with
  | refl => exact sound
  | tail path step sound => exact sound.next step

/-- What has passed is followed by what passes next. -/
theorem Step.passed (step : Step traffic after) : traffic.passed ⊆ after.passed := by
  -- Each step adds to the trace at its end, or leaves it as it is.
  cases step with
  | serves serves =>
    cases serves with
    | rouse there asleep called => exact List.Subset.refl _
    | step there running => exact List.subset_append_left _ _
    | tryReceive => exact List.subset_append_left _ _
  | offer admitted | giveUp there asleep => exact List.subset_append_left _ _
  | enter parcel accepted | close | arrive absent | stir there asleep => exact List.Subset.refl _

/-- A closed channel accepts nothing, whoever was admitted before. -/
theorem Step.accepted_of_closed (closed : traffic.queue.channel.closed = true) (step : Step traffic after) :
    accepted after.passed = accepted traffic.passed := by
  cases step with
  | serves serves => exact serves.accepted
  -- An offer is the only step that could accept, and a closed channel refuses it.
  | @offer before later parcel admitted =>
    have refused := Outgoing.offer_closed closed parcel.message parcel.handle parcel.mode
    have nothing : offered traffic.queue parcel = [] := by simp [offered, refused]
    simp [Traffic.offer, call, nothing]
  | giveUp there asleep => simp [Traffic.giveUp, call, Queue.accepted]
  | enter parcel accepted | close | arrive absent | stir there asleep => rfl

/-- Once a receiver has gone away with nothing, nothing is accepted any more. -/
theorem Sound.accepted_final (sound : traffic.Sound) (ended : .received task none ∈ traffic.passed)
    (path : Relation.ReflTransGen Step traffic later) :
    .received task none ∈ later.passed ∧ accepted later.passed = accepted traffic.passed := by
  -- Induction on the path. The receiver went away on a closed channel, which stays closed.
  induction path with
  | refl => exact ⟨ended, rfl⟩
  | tail path step ih =>
    have closed := ((sound.path path).final task ih.1).1
    exact ⟨step.passed ih.1, (step.accepted_of_closed closed).trans ih.2⟩

/-- However the steps of senders, receivers and closings interleave, each message that was accepted has been
received, in order, or is queued and can still be received. Once a receiver has gone away with nothing, the channel
is closed and empty for good, every accepted message has been received, and nothing more is accepted, not even from
those whom the queue admitted before it was closed. The closing of the queue takes nothing out of it. -/
theorem accepted_outlives_closing (arises : traffic.Arises) :
    delivered traffic.passed ++ traffic.queue.channel.items = accepted traffic.passed ∧
    (∃ later, Relation.ReflTransGen Serves traffic later ∧ delivered later.passed = accepted traffic.passed) ∧
    (∀ task, .received task none ∈ traffic.passed → ∀ later, Relation.ReflTransGen Step traffic later →
      later.queue.channel.closed = true ∧ later.queue.channel.items = [] ∧
      delivered later.passed = accepted traffic.passed ∧
      ∀ message handle mode, (later.queue.offer message handle mode).1 = .error .closed) ∧
    traffic.close.queue.channel = traffic.queue.channel := by
  have sound := arises.sound
  refine ⟨sound.flow, sound.serves_all, ?_, rfl⟩
  intro task ended later path
  -- What has ended stays ended: the channel is closed and empty in every later state, so nothing flows any
  -- more.
  obtain ⟨still, same⟩ := sound.accepted_final ended path
  obtain ⟨closed, empty⟩ := (sound.path path).final task still
  have flow := (sound.path path).flow
  rw [empty, List.append_nil] at flow
  exact ⟨closed, empty, flow.trans same, Outgoing.offer_closed closed⟩

/-- A sender is admitted, the queue is closed, and the receiver sees that before the message is sent; the message
is received all the same, the next receiver goes away with nothing, and the channel takes nothing more. -/
theorem message_sent_after_closing_is_received :
    ∃ traffic : Traffic, traffic.Arises ∧ .received 1 none ∈ traffic.passed ∧
      (accepted traffic.passed).length = 1 ∧ delivered traffic.passed = accepted traffic.passed ∧
      ∀ message handle mode, (traffic.queue.offer message handle mode).1 = .error .closed := by
  -- The first receiver finds nothing, and sees the closing of the queue.
  have new : Arises { queue := .ofCapacity 1 1 } := ⟨1, 1, .refl⟩
  have looked := ((new.next (@Step.arrive _ 0 rfl)).next (.serves (@Serves.step _ 0 _ rfl rfl))).next
    (.serves (@Serves.step _ 0 _ rfl rfl))
  have admitted := looked.next (.enter ⟨⟨⟨0⟩, ⟨0, 0⟩, .bool true⟩, 0, .copy⟩ rfl)
  have checked := (admitted.next .close).next (.serves (@Serves.step _ 0 _ rfl rfl))
  -- The message comes in before the receiver closes the channel, so its last look finds it.
  have offered := checked.next (@Step.offer _ [] [] _ rfl)
  have drained := (offered.next (.serves (@Serves.step _ 0 _ rfl rfl))).next (.serves (@Serves.step _ 0 _ rfl rfl))
  have ended := ((drained.next (@Step.arrive _ 1 rfl)).next (.serves (@Serves.step _ 1 _ rfl rfl))).next
    (.serves (@Serves.step _ 1 _ rfl rfl))
  obtain ⟨-, -, all, refused⟩ := (accepted_outlives_closing ended).2.2.1 1
    (List.mem_append_right _ (List.mem_singleton_self _)) _ .refl
  exact ⟨_, ended, List.mem_append_right _ (List.mem_singleton_self _), rfl, all, refused⟩

end Traffic

end Uplink.Queue
