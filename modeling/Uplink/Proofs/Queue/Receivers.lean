import Uplink.Proofs.Agenda
import Uplink.Proofs.Entries
import Uplink.Proofs.Queue.Outgoing
import Uplink.Queue.Receivers

/-! Where the receivers of a queue stand: whoever could go on is in line for its turn. -/

namespace Uplink.Queue

/-- Where the receiver of a task stands. -/
inductive Stands (queue : Outgoing) (ready : List TaskId) (task : TaskId) : BackgroundReceiver → Prop where
  /-- It has not run yet. -/
  | arriving (keep : Option Nat) (awake : task ∈ ready) (elsewhere : queue.holder ≠ some task)
      (absent : task ∉ queue.line) : Stands queue ready task { label := task, keep }
  /-- It waits for the right to receive. -/
  | inLine (keep : Option Nat) (waits : task ∈ queue.line) :
      Stands queue ready task { label := task, keep, stage := .inLine }
  /-- It was given the right to receive and has not run since. -/
  | called (keep : Option Nat) (held : queue.holder = some task) (awake : task ∈ ready) :
      Stands queue ready task { label := task, keep, stage := .inLine }
  /-- It has the right to receive, and is in line if there is anything to look for. -/
  | holding (keep : Option Nat) (held : queue.holder = some task)
      (alert : task ∈ ready ∨ queue.channel.items = [] ∧ queue.closed = false) :
      Stands queue ready task { label := task, keep, stage := .polling }
  /-- It was cancelled and is to go. -/
  | cancelled (keep : Option Nat) (stage : Receiving) (awake : task ∈ ready) :
      Stands queue ready task { label := task, keep, stage, cancelled := true }

namespace Stands

variable {queue after : Outgoing} {ready ready' : List TaskId} {task mover : TaskId}
  {receiver : BackgroundReceiver}

/-- A receiver goes by the name of its task. -/
theorem label_eq (stands : Stands queue ready task receiver) : receiver.label = task := by
  -- Each of the ways to stand names the receiver by its task.
  cases stands <;> rfl

/-- A receiver stands where it stood as long as the line is left alone and the one who has the right
to receive is woken when there is something new to look for. -/
theorem frame (stands : Stands queue ready task receiver) (stays : task ∈ ready → task ∈ ready')
    (holder : after.holder = queue.holder) (line : after.line = queue.line)
    (alert : queue.holder = some task → task ∈ ready' ∨
      after.channel.items = queue.channel.items ∧ after.closed = queue.closed) :
    Stands after ready' task receiver := by
  -- Each place asks for the holder, the line or being awake, and only the holder looks at the
  -- messages.
  cases stands with
  | arriving keep awake elsewhere absent =>
    exact .arriving keep (stays awake) (holder ▸ elsewhere) (line ▸ absent)
  | inLine keep waits => exact .inLine keep (line ▸ waits)
  | called keep held awake => exact .called keep (holder ▸ held) (stays awake)
  | holding keep held alert' =>
    refine .holding keep (holder ▸ held) ?_
    rcases alert held with woken | ⟨items, closed⟩
    · exact .inl woken
    · rw [items, closed]
      exact alert'.imp_left stays
  | cancelled keep stage awake => exact .cancelled keep stage (stays awake)

/-- When the right to receive is passed on, one of those in line may get it, and is woken. -/
theorem passOn (stands : Stands queue ready task receiver) (stays : task ∈ ready → task ∈ ready')
    (held : queue.holder = some mover) (apart : task ≠ mover)
    (woken : ∀ next ∈ queue.passOn.2, next ∈ ready') : Stands queue.passOn.1 ready' task receiver := by
  rw [Outgoing.woken_passOn] at woken
  rw [Outgoing.passOn_eq]
  -- Another task has the right to receive so far.
  have other : queue.holder ≠ some task := by
    intro held'
    rw [held] at held'
    exact apart (Option.some.inj held').symm
  -- The head of the line changes places; whoever stands behind it moves up.
  cases stands with
  | arriving keep awake elsewhere absent =>
    refine .arriving keep (stays awake) ?_ ?_
    · intro first
      exact absent (List.mem_of_mem_head? first)
    · intro later
      exact absent (List.mem_of_mem_tail later)
  -- It is next, and has the right now, or it stands one place nearer.
  | inLine keep waits =>
    cases shape : queue.line with
    | nil => simp [shape] at waits
    | cons next rest =>
      rw [shape] at waits
      rcases List.mem_cons.mp waits with rfl | later
      · exact .called keep (by simp) (woken task (by simp [shape]))
      · exact .inLine keep (by simpa using later)
  | called keep held' awake => exact absurd held' other
  | holding keep held' alert => exact absurd held' other
  | cancelled keep stage awake => exact .cancelled keep stage (stays awake)

/-- Nobody stands elsewhere because somebody else has joined the line. -/
theorem queueUp (stands : Stands queue ready task receiver) (stays : task ∈ ready → task ∈ ready')
    (apart : task ≠ mover) :
    Stands { queue with line := queue.line ++ [mover] } ready' task receiver := by
  -- Only the place of the newcomer is a new one.
  cases stands with
  | arriving keep awake elsewhere absent =>
    exact .arriving keep (stays awake) elsewhere (by simp [absent, apart])
  | inLine keep waits => exact .inLine keep (by simp [waits])
  | called keep held awake => exact .called keep held (stays awake)
  | holding keep held alert => exact .holding keep held (alert.imp_left stays)
  | cancelled keep stage awake => exact .cancelled keep stage (stays awake)

/-- Nobody stands elsewhere because somebody else has got the right to receive that nobody had. -/
theorem hold (stands : Stands queue ready task receiver) (stays : task ∈ ready → task ∈ ready')
    (order : queue.InOrder) (free : queue.holder = none) (apart : task ≠ mover) :
    Stands { queue with holder := some mover } ready' task receiver := by
  -- Nobody stands in line for a right that nobody has.
  cases stands with
  | arriving keep awake elsewhere absent =>
    refine .arriving keep (stays awake) ?_ absent
    simpa using apart.symm
  | inLine keep waits =>
    rw [order.held free] at waits
    contradiction
  | called keep held awake | holding keep held alert =>
    rw [free] at held
    contradiction
  | cancelled keep stage awake => exact .cancelled keep stage (stays awake)

/-- Nobody stands elsewhere because somebody else has given up. -/
theorem giveUp (stands : Stands queue ready task receiver) (stays : task ∈ ready → task ∈ ready')
    (apart : task ≠ mover)
    (woken : ∀ next ∈ (queue.giveUp mover).2, next ∈ ready') :
    Stands (queue.giveUp mover).1 ready' task receiver := by
  unfold Outgoing.giveUp at woken ⊢
  split at woken
  · rename_i held
    rw [if_pos held]
    exact stands.passOn stays held apart woken
  · rename_i elsewhere
    rw [if_neg elsewhere]
    -- Only the one who gives up is taken out of the line.
    cases stands with
    | arriving keep awake elsewhere absent =>
      exact .arriving keep (stays awake) elsewhere fun member => absent (List.mem_of_mem_filter member)
    | inLine keep waits => exact .inLine keep (List.mem_filter.mpr ⟨waits, by simpa using apart⟩)
    | called keep held awake => exact .called keep held (stays awake)
    | holding keep held alert => exact .holding keep held (alert.imp_left stays)
    | cancelled keep stage awake => exact .cancelled keep stage (stays awake)

end Stands

/-- Every receiver stands where its stage says, and whoever has the right to receive or waits for it
is one of the receivers. -/
structure Consistent (queue : Outgoing) (agenda : Agenda)
    (pending : List (TaskId × BackgroundReceiver)) : Prop where
  order : queue.InOrder
  /-- Every receiver has a task of its own. -/
  names : (pending.map (·.1)).Nodup
  started : ∀ entry ∈ pending, entry.1 < agenda.unused
  stands : ∀ entry ∈ pending, Stands queue agenda.ready entry.1 entry.2
  known : ∀ task, queue.holder = some task ∨ task ∈ queue.line → task ∈ pending.map (·.1)

namespace Consistent

variable {queue after : Outgoing} {agenda agenda' : Agenda}
  {pending : List (TaskId × BackgroundReceiver)} {task : TaskId} {receiver : BackgroundReceiver}
  {rest woken : List TaskId}

/-- A new queue has no receivers. -/
theorem ofCapacity (capacity messages : Nat) (agenda : Agenda) :
    Consistent (.ofCapacity capacity messages) agenda [] where
  -- Without receivers only the order of the queue is to be shown.
  order := Outgoing.inOrder_ofCapacity capacity messages
  names := List.nodup_nil
  started := by simp
  stands := by simp
  known := by simp [Outgoing.ofCapacity]

/-- The receiver of a task that can be found is one of the receivers, and the only one of this task. -/
theorem lookup_iff (consistent : Consistent queue agenda pending) :
    pending.lookup task = some receiver ↔ (task, receiver) ∈ pending :=
  -- A search finds the first entry of a task, and the names say that there is no second.
  ⟨Entries.mem_of_lookup, Entries.lookup_of_mem consistent.names⟩

/-! ### What is done to the queue -/

/-- What comes into the queue or closes it wakes the one who has the right to receive. -/
theorem refresh (consistent : Consistent queue agenda pending) (unused : agenda'.unused = agenda.unused)
    (stays : ∀ task ∈ agenda.ready, task ∈ agenda'.ready) (holder : after.holder = queue.holder)
    (line : after.line = queue.line) (closing : after.channel.closed = true → after.closed = true)
    (alert : ∀ task, queue.holder = some task → task ∈ agenda'.ready ∨
      after.channel.items = queue.channel.items ∧ after.closed = queue.closed) :
    Consistent after agenda' pending where
  -- Nobody changes places, and the one who has the right to receive hears of anything new.
  order := consistent.order.congr line holder closing
  names := consistent.names
  started := unused ▸ consistent.started
  stands := fun entry member =>
    (consistent.stands entry member).frame (stays entry.1) holder line (alert entry.1)
  known := by
    rw [holder, line]
    exact consistent.known

/-- Adding a message. -/
theorem enqueue (consistent : Consistent queue agenda pending) (message : Message) (handle : Handle)
    (mode : HoldMode) :
    Consistent (queue.enqueue message handle mode).2.1
      (agenda.wakeAll (queue.enqueue message handle mode).2.2) pending := by
  -- An accepted message wakes the holder, and whatever is refused changes the custody at most.
  cases result : (queue.enqueue message handle mode).1 with
  | ok accepted =>
    obtain ⟨custody, free, same⟩ := Outgoing.enqueue_ok result
    rw [same]
    refine consistent.refresh (by simp) (by simp +contextual) rfl rfl consistent.order.closing ?_
    intro task held
    exact .inl (by simp [Outgoing.listener, held])
  | error error =>
    obtain ⟨custody, same⟩ := Outgoing.enqueue_error result
    rw [same]
    exact consistent.refresh rfl (fun _ => id) rfl rfl consistent.order.closing fun _ _ => .inr ⟨rfl, rfl⟩

/-- Closing the queue. -/
theorem close (consistent : Consistent queue agenda pending) :
    Consistent queue.close.1 (agenda.wakeAll queue.close.2) pending := by
  refine consistent.refresh (by simp) (by simp +contextual) rfl rfl (fun _ => rfl) ?_
  -- Whoever had the right to receive is the listener whom closing wakes.
  intro task held
  exact .inl (by simp [Outgoing.close, Outgoing.listener, held])

/-- Taking the oldest message without waiting. -/
theorem tryReceive (consistent : Consistent queue agenda pending) :
    Consistent queue.tryReceive.2 agenda pending := by
  cases held : queue.holder with
  | some holder =>
    rw [Outgoing.tryReceive_held (by simp [held])]
    exact consistent
  | none =>
    rw [Outgoing.tryReceive_free held]
    split
    · exact consistent
    · -- Nobody waits for the message that is taken.
      refine consistent.refresh rfl (fun _ => id) rfl rfl consistent.order.closing ?_
      intro task holds
      rw [held] at holds
      contradiction

/-- Only the custody of messages is another one. -/
theorem recustody (consistent : Consistent queue agenda pending) (custody : Custody) :
    Consistent { queue with custody } agenda pending :=
  -- Neither the line nor the channel has changed, so nobody stands elsewhere.
  consistent.refresh rfl (fun _ => id) rfl rfl consistent.order.closing fun _ _ => .inr ⟨rfl, rfl⟩

/-! ### What is done to a receiver -/

/-- Starting a receiver. -/
theorem start (consistent : Consistent queue agenda pending) (keep : Option Nat) :
    Consistent queue agenda.spawn.2 (pending ++ [(agenda.unused, { label := agenda.unused, keep })]) where
  order := consistent.order
  names := by
    -- The name of the new task was not used before.
    simp only [List.map_append, List.nodup_append]
    refine ⟨consistent.names, by simp, ?_⟩
    intro name member other last same
    obtain ⟨entry, kept, rfl⟩ := List.mem_map.mp member
    have used := consistent.started entry kept
    simp only [List.map_cons, List.map_nil, List.mem_singleton] at last
    rw [same, last] at used
    exact Nat.lt_irrefl _ used
  started := by
    intro entry member
    rcases List.mem_append.mp member with kept | last
    · exact Nat.lt_succ_of_lt (consistent.started entry kept)
    · obtain rfl := List.mem_singleton.mp last
      exact Nat.lt_succ_self _
  stands := by
    intro entry member
    rcases List.mem_append.mp member with kept | last
    · refine (consistent.stands entry kept).frame ?_ rfl rfl fun _ => .inr ⟨rfl, rfl⟩
      intro awake
      simp [Agenda.spawn, awake]
    · obtain rfl := List.mem_singleton.mp last
      -- Whoever has the right to receive or waits for it was started before.
      have elsewhere : ¬ (queue.holder = some agenda.unused ∨ agenda.unused ∈ queue.line) := by
        intro somewhere
        obtain ⟨entry, kept, same⟩ := List.mem_map.mp (consistent.known _ somewhere)
        have used := consistent.started entry kept
        rw [same] at used
        exact Nat.lt_irrefl _ used
      exact .arriving keep (by simp [Agenda.spawn]) (fun held => elsewhere (.inl held))
        fun stood => elsewhere (.inr stood)
  -- Nobody new has the right or stands in line.
  known := by
    intro task somewhere
    rw [List.map_append]
    exact List.mem_append_left _ (consistent.known task somewhere)

/-- A receiver that is woken and marked as cancelled. -/
theorem mark (consistent : Consistent queue agenda pending) (task : TaskId) :
    Consistent queue (agenda.wake task) (Entries.adjust task ({ · with cancelled := true }) pending) where
  -- The mark makes a receiver one that is to go, wherever it stood, and it is awake.
  order := consistent.order
  names := by
    rw [Entries.adjust_names]
    exact consistent.names
  started := by
    intro entry adjusted
    rw [Agenda.wake_unused]
    rcases Entries.mem_adjust.mp adjusted with ⟨kept, -⟩ | ⟨value, kept, rfl⟩
    · exact consistent.started entry kept
    · exact consistent.started (task, value) kept
  stands := by
    intro entry adjusted
    rcases Entries.mem_adjust.mp adjusted with ⟨kept, -⟩ | ⟨value, kept, rfl⟩
    · refine (consistent.stands entry kept).frame ?_ rfl rfl fun _ => .inr ⟨rfl, rfl⟩
      intro awake
      simp [awake]
    · obtain ⟨label, keep, stage, marked⟩ := value
      obtain rfl : label = task := (consistent.stands _ kept).label_eq
      -- Where the receiver stood makes no difference any more.
      exact .cancelled keep stage (by simp)
  known := by
    rw [Entries.adjust_names]
    exact consistent.known

/-! ### Turns -/

/-- A task that has nothing to receive any more takes its turn. -/
theorem yield (consistent : Consistent queue agenda pending) (line : agenda.ready = task :: rest)
    (ended : pending.lookup task = none) : Consistent queue agenda.yield pending := by
  -- The task at the head has no receiver, so every receiver keeps its place in line.
  refine { consistent with stands := ?_ }
  intro entry member
  have apart : entry.1 ≠ task := by
    intro same
    subst same
    rw [consistent.lookup_iff.mpr member] at ended
    contradiction
  refine (consistent.stands entry member).frame ?_ rfl rfl fun _ => .inr ⟨rfl, rfl⟩
  intro awake
  rw [line, List.mem_cons] at awake
  simpa [Agenda.yield, line] using awake.resolve_left apart

/-- Those who stood in line behind a task stand there after its turn, with those whom it has woken. -/
theorem stays_ready {other : TaskId} (line : agenda.ready = task :: rest) (apart : other ≠ task)
    (awake : other ∈ agenda.ready) (woken : List TaskId) :
    other ∈ (agenda.yield.wakeAll woken).ready := by
  -- The turn takes the task off the front of the line, and who is woken joins at the end.
  rw [line, List.mem_cons] at awake
  simp [Agenda.yield, line, awake.resolve_left apart]

/-- The receiver of the task at the head of the line goes away. -/
theorem leave (consistent : Consistent queue agenda pending) (order : after.InOrder)
    (known : ∀ other, after.holder = some other ∨ other ∈ after.line →
      other ≠ task ∧ (queue.holder = some other ∨ other ∈ queue.line))
    (stands : ∀ entry ∈ pending, entry.1 ≠ task →
      Stands after (agenda.yield.wakeAll woken).ready entry.1 entry.2) :
    Consistent after (agenda.yield.wakeAll woken) (pending.filter (·.1 ≠ task)) where
  -- Those who are left are the receivers of the other tasks.
  order := order
  names := List.Nodup.sublist (List.filter_sublist.map _) consistent.names
  started := by
    intro entry kept
    rw [Agenda.wakeAll_unused]
    exact consistent.started entry (List.mem_of_mem_filter kept)
  stands := by
    intro entry kept
    obtain ⟨stood, apart⟩ := List.mem_filter.mp kept
    exact stands entry stood (by simpa using apart)
  known := by
    intro other somewhere
    -- Whoever holds the right or waits for it did so before, and is another task.
    obtain ⟨apart, before⟩ := known other somewhere
    obtain ⟨entry, stood, rfl⟩ := List.mem_map.mp (consistent.known other before)
    exact List.mem_map_of_mem (List.mem_filter.mpr ⟨stood, by simpa using apart⟩)

/-- The receiver of a task comes to a stage. -/
theorem stay (consistent : Consistent queue agenda pending) (member : (task, receiver) ∈ pending)
    (unused : agenda'.unused = agenda.unused) (order : after.InOrder)
    (known : ∀ other, after.holder = some other ∨ other ∈ after.line →
      other = task ∨ queue.holder = some other ∨ other ∈ queue.line)
    (others : ∀ entry ∈ pending, entry.1 ≠ task → Stands after agenda'.ready entry.1 entry.2)
    {stage : Receiving} (stands : Stands after agenda'.ready task { receiver with stage }) :
    Consistent after agenda' (Entries.adjust task ({ · with stage }) pending) where
  -- One receiver changes its stage, and the others stand as has been shown for them.
  order := order
  names := by
    rw [Entries.adjust_names]
    exact consistent.names
  started := by
    intro entry adjusted
    rw [unused]
    rcases Entries.mem_adjust.mp adjusted with ⟨kept, -⟩ | ⟨value, kept, rfl⟩
    · exact consistent.started entry kept
    · exact consistent.started (task, value) kept
  stands := by
    intro entry adjusted
    rcases Entries.mem_adjust.mp adjusted with ⟨kept, apart⟩ | ⟨value, kept, rfl⟩
    · exact others entry kept apart
    · have only := (consistent.lookup_iff.mpr kept).symm.trans (consistent.lookup_iff.mpr member)
      cases only
      exact stands
  -- Whoever has the right or waits for it is this one, or was known before.
  known := by
    intro other somewhere
    rw [Entries.adjust_names]
    rcases known other somewhere with rfl | before
    · exact List.mem_map_of_mem member
    · exact consistent.known other before

end Consistent

end Uplink.Queue
