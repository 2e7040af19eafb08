import Uplink.Proofs.Queue.Receivers

/-! The turns of receivers: what each of them leads to, and that everybody stands where it should after it. -/

namespace Uplink.Queue

variable {receivers next : Receivers} {task : TaskId} {receiver : BackgroundReceiver}

namespace Receivers

/-- Dropping an envelope or keeping it changes the custody of messages and what is kept. -/
theorem dispose_eq (receivers : Receivers) (key : Option Nat) (envelope : Envelope) :
    ∃ kept custody, receivers.dispose key envelope =
      { receivers with kept := kept, queue := { receivers.queue with custody } } := by
  -- An envelope that is kept may push another one out, which is dropped in turn.
  unfold dispose Kept.dispose
  cases key with
  | none => exact ⟨_, _, rfl⟩
  | some key =>
    unfold Kept.release
    simp only
    split <;> exact ⟨_, _, rfl⟩

/-- Dropping what is kept changes the custody of messages and what is kept. -/
theorem release_eq (receivers : Receivers) (key : Nat) :
    ∃ kept custody, receivers.release key =
      { receivers with kept := kept, queue := { receivers.queue with custody } } := by
  -- An envelope is kept under the key, or there is none.
  unfold release Kept.release
  simp only
  split <;> exact ⟨_, _, rfl⟩

/-- Taking the oldest message at once. -/
theorem tryReceive_eq (receivers : Receivers) (keep : Option Nat) :
    ∃ kept custody, receivers.tryReceive keep =
      (receivers.queue.tryReceive.1,
        { receivers with kept := kept, queue := { receivers.queue.tryReceive.2 with custody } }) := by
  -- A message that is taken is dropped or kept by the one who took it.
  unfold tryReceive
  rcases receivers.queue.tryReceive with ⟨_ | envelope, queue⟩
  · exact ⟨receivers.kept, queue.custody, rfl⟩
  · obtain ⟨kept, custody, same⟩ := dispose_eq { receivers with queue } keep envelope
    exact ⟨kept, custody, by simp only [same]⟩

/-- Changing the receiver of a task. -/
theorem update_eq (receivers : Receivers) (task : TaskId)
    (change : BackgroundReceiver → BackgroundReceiver) :
    receivers.update task change =
      { receivers with pending := Entries.adjust task change receivers.pending } :=
  -- The entries are adjusted and nothing else is touched.
  rfl

/-- The last turn of a receiver that was cancelled. -/
theorem turnOf_cancelled (given : receiver.cancelled = true) :
    receivers.turnOf task receiver =
      { receivers with
        queue := (receivers.queue.giveUp task).1
        agenda := receivers.agenda.yield.wakeAll (receivers.queue.giveUp task).2
        pending := receivers.pending.filter (·.1 ≠ task) } := by
  -- A turn looks first whether the receiver was cancelled.
  simp only [turnOf, given, if_true]
  rfl

/-- A turn after which a receiver waits. -/
theorem turnOf_waiting (live : receiver.cancelled = false) {stage : Receiving} {queue : Outgoing}
    {woken : List TaskId}
    (polled : receivers.queue.poll task receiver.stage = (.waiting stage, queue, woken)) :
    receivers.turnOf task receiver =
      { receivers with
        queue := queue
        agenda := receivers.agenda.yield.wakeAll woken
        pending := Entries.adjust task ({ · with stage }) receivers.pending } := by
  -- The receiver stays among the pending ones, at the stage at which it waits.
  simp only [turnOf, live, Bool.false_eq_true, if_false, polled]
  rfl

/-- A turn after which a receiver goes away with what it got. -/
theorem turnOf_gone (live : receiver.cancelled = false) {envelope : Option Envelope} {queue : Outgoing}
    {woken : List TaskId}
    (polled : receivers.queue.poll task receiver.stage = (.gone envelope, queue, woken)) :
    ∃ kept custody, receivers.turnOf task receiver =
      { receivers with
        queue := { queue with custody }
        agenda := receivers.agenda.yield.wakeAll woken
        pending := receivers.pending.filter (·.1 ≠ task)
        deliveries := ⟨receiver.label, receivers.agenda.now, envelope⟩ :: receivers.deliveries
        kept := kept } := by
  -- What the receiver got is dropped or kept, and if it got nothing there is nothing to do.
  simp only [turnOf, live, Bool.false_eq_true, if_false, polled]
  cases envelope with
  | none => exact ⟨receivers.kept, queue.custody, rfl⟩
  | some envelope =>
    obtain ⟨kept, custody, same⟩ := dispose_eq { receivers.remove task with
      queue := queue
      agenda := receivers.agenda.yield.wakeAll woken
      deliveries := ⟨receiver.label, receivers.agenda.now, some envelope⟩ :: receivers.deliveries }
      receiver.keep envelope
    exact ⟨kept, custody, same⟩

/-- What a turn can be: nothing is left to do for the task, or it is a turn of its receiver. -/
theorem turn_cases (turned : receivers.turn? = some next) :
    ∃ task rest, receivers.agenda.ready = task :: rest ∧
      ((receivers.pending.lookup task = none ∧
          next = { receivers with agenda := receivers.agenda.yield }) ∨
        ∃ receiver, receivers.pending.lookup task = some receiver ∧
          next = receivers.turnOf task receiver) := by
  -- The line is not empty, and its head has a receiver or has none.
  unfold turn? at turned
  split at turned
  · contradiction
  · rename_i task rest line
    refine ⟨task, rest, line, ?_⟩
    split at turned
    · rename_i ended
      exact .inl ⟨ended, (Option.some.inj turned).symm⟩
    · rename_i receiver found
      exact .inr ⟨receiver, found, (Option.some.inj turned).symm⟩

/-- No task can run when nobody stands in line. -/
theorem turn_eq_none : receivers.turn? = none ↔ receivers.agenda.ready = [] := by
  -- Both sides look at the head of the line only.
  unfold turn?
  split
  · rename_i quiet
    simp [quiet]
  · rename_i line
    split <;> simp [line]

end Receivers

namespace Consistent

variable {queue after : Outgoing} {agenda : Agenda} {pending : List (TaskId × BackgroundReceiver)}
  {rest : List TaskId}

/-- The one who has the right to receive goes away and passes it on. -/
theorem passOn (consistent : Consistent queue agenda pending) (line : agenda.ready = task :: rest)
    (held : queue.holder = some task) (holder : after.holder = queue.holder)
    (others : after.line = queue.line) (closing : after.channel.closed = true → after.closed = true) :
    Consistent after.passOn.1 (agenda.yield.wakeAll after.passOn.2) (pending.filter (·.1 ≠ task)) := by
  have order := consistent.order.congr others holder closing
  have held' : after.holder = some task := holder.trans held
  apply consistent.leave order.passOn
  case known =>
    -- The next one with that right was in line, and so were those who still are.
    rw [Outgoing.passOn_eq]
    intro other somewhere
    have stood : other ∈ after.line := by
      rcases somewhere with first | later
      · exact List.mem_of_mem_head? first
      · exact List.mem_of_mem_tail later
    refine ⟨?_, .inr (others ▸ stood)⟩
    intro same
    subst same
    exact order.apart other held' stood
  case stands =>
    intro entry member apart
    -- Before the right is passed on the others stand as they did.
    have framed : Stands after agenda.ready entry.1 entry.2 := by
      refine (consistent.stands entry member).frame id holder others fun other => ?_
      rw [held] at other
      exact absurd (Option.some.inj other).symm apart
    refine framed.passOn (fun awake => stays_ready line apart awake _) held' apart ?_
    intro next woken
    simp [woken]

/-- A receiver that was cancelled gives up at its turn. -/
theorem giveUp (consistent : Consistent queue agenda pending) (line : agenda.ready = task :: rest) :
    Consistent (queue.giveUp task).1 (agenda.yield.wakeAll (queue.giveUp task).2)
      (pending.filter (·.1 ≠ task)) := by
  -- The one with the right to receive passes it on; anyone else just leaves the line.
  by_cases held : queue.holder = some task
  · have goes : queue.giveUp task = queue.passOn := if_pos held
    rw [goes]
    exact consistent.passOn line held rfl rfl consistent.order.closing
  · have order := consistent.order.giveUp task
    have stands : ∀ entry ∈ pending, entry.1 ≠ task →
        Stands (queue.giveUp task).1 (agenda.yield.wakeAll (queue.giveUp task).2).ready entry.1 entry.2 := by
      intro entry member apart
      refine (consistent.stands entry member).giveUp (fun awake => stays_ready line apart awake _) apart ?_
      intro next woken
      simp [woken]
    apply consistent.leave order _ stands
    have goes : queue.giveUp task = ({ queue with line := queue.line.filter (· ≠ task) }, []) := if_neg held
    rw [goes]
    -- Whoever is left was known before.
    intro other either
    rcases either with holds | member
    · refine ⟨?_, .inl holds⟩
      intro same
      subst same
      exact held holds
    · obtain ⟨stood, apart⟩ := List.mem_filter.mp member
      exact ⟨by simpa using apart, .inr stood⟩

/-- The one who has the right to receive looks for a message. -/
theorem polling (consistent : Consistent receivers.queue receivers.agenda receivers.pending)
    (line : receivers.agenda.ready = task :: rest) (member : (task, receiver) ∈ receivers.pending)
    (live : receiver.cancelled = false) (stage : receiver.stage = .polling)
    (held : receivers.queue.holder = some task) :
    Consistent (receivers.turnOf task receiver).queue (receivers.turnOf task receiver).agenda
      (receivers.turnOf task receiver).pending := by
  -- A receiver that looks finds a message, or a closed queue, or has to wait.
  have order := consistent.order
  cases items : receivers.queue.channel.items with
  | cons envelope rest' =>
    -- It takes the oldest message away.
    have polled := Outgoing.poll_oldest items task
    rw [← stage] at polled
    obtain ⟨kept, custody, turned⟩ := Receivers.turnOf_gone live polled
    rw [turned]
    have gone : Consistent (receivers.queue.afterOldest rest').passOn.1 _ _ :=
      consistent.passOn line held rfl rfl order.closing
    exact gone.recustody custody
  | nil =>
    cases closed : receivers.queue.closed with
    | true =>
      -- Nothing will come any more, so it goes away with nothing.
      have polled := Outgoing.poll_closed items closed task
      rw [← stage] at polled
      obtain ⟨kept, custody, turned⟩ := Receivers.turnOf_gone live polled
      rw [turned]
      have gone : Consistent
          ({ receivers.queue with channel := receivers.queue.channel.close } : Outgoing).passOn.1 _ _ :=
        consistent.passOn line held rfl rfl fun _ => closed
      exact gone.recustody custody
    | false =>
      have polled : receivers.queue.poll task receiver.stage = (.waiting .polling, receivers.queue, []) := by
        rw [stage]
        exact Outgoing.poll_open order items closed task
      rw [Receivers.turnOf_waiting live polled]
      refine consistent.stay member (receivers.agenda.yield.wakeAll_unused []) order (fun _ => .inr) ?_ ?_
      · intro entry stood apart
        refine (consistent.stands entry stood).frame ?_ rfl rfl fun _ => .inr ⟨rfl, rfl⟩
        exact fun awake => stays_ready line apart awake []
      · -- It may sleep, since there is nothing to look for.
        have stands : Stands receivers.queue receivers.agenda.ready task receiver :=
          consistent.stands _ member
        obtain ⟨label, keep, _, _⟩ := receiver
        obtain rfl := live
        obtain rfl : label = task := stands.label_eq
        exact .holding keep held (.inr ⟨items, closed⟩)

/-- A receiver that has just got the right to receive looks for a message in the same turn. -/
theorem turnOf_polling {after : Outgoing} (live : receiver.cancelled = false)
    (leads : receivers.queue.poll task receiver.stage = after.poll task .polling) :
    receivers.turnOf task receiver =
      ({ receivers with
        queue := after
        pending := Entries.adjust task ({ · with stage := .polling }) receivers.pending }).turnOf task
          { receiver with stage := .polling } := by
  -- The stage in between is overwritten, or its entry is taken out.
  unfold Receivers.turnOf
  simp only [live, Bool.false_eq_true, if_false, leads, Receivers.remove, Entries.filter_adjust]
  split
  · simp only [Receivers.update_eq, Entries.adjust_adjust]
    rfl
  · rfl

/-- A receiver that has just got the right to receive takes its turn. -/
theorem acquire (line : receivers.agenda.ready = task :: rest)
    (member : (task, receiver) ∈ receivers.pending) (live : receiver.cancelled = false) {after : Outgoing}
    (leads : receivers.queue.poll task receiver.stage = after.poll task .polling)
    (held : after.holder = some task)
    (holds : Consistent after receivers.agenda
      (Entries.adjust task ({ · with stage := .polling }) receivers.pending)) :
    Consistent (receivers.turnOf task receiver).queue (receivers.turnOf task receiver).agenda
      (receivers.turnOf task receiver).pending := by
  -- The turn is one of a receiver that has had the right to receive all along.
  rw [turnOf_polling live leads]
  have listed : (task, { receiver with stage := .polling }) ∈
      Entries.adjust task ({ · with stage := .polling }) receivers.pending :=
    Entries.mem_adjust.mpr (.inr ⟨receiver, member, rfl⟩)
  let holding : Receivers := { receivers with
    queue := after
    pending := Entries.adjust task ({ · with stage := .polling }) receivers.pending }
  have consistent : Consistent holding.queue holding.agenda holding.pending := holds
  exact consistent.polling line listed live rfl held

/-- A receiver that was not cancelled takes its turn. -/
theorem goOn (consistent : Consistent receivers.queue receivers.agenda receivers.pending)
    (line : receivers.agenda.ready = task :: rest) (member : (task, receiver) ∈ receivers.pending)
    (live : receiver.cancelled = false) :
    Consistent (receivers.turnOf task receiver).queue (receivers.turnOf task receiver).agenda
      (receivers.turnOf task receiver).pending := by
  -- The place of a receiver decides which way its turn goes.
  have order := consistent.order
  have awake : task ∈ receivers.agenda.ready := by
    simp [line]
  have stands : Stands receivers.queue receivers.agenda.ready task receiver := consistent.stands _ member
  cases stands with
  | cancelled => contradiction
  | holding keep held alert => exact consistent.polling line member rfl rfl held
  | called keep held =>
    refine acquire line member rfl (Outgoing.poll_inLine_held held) held ?_
    exact consistent.stay member rfl order (fun _ => .inr)
      (fun entry stood _ => consistent.stands entry stood) (.holding keep held (.inl awake))
  | inLine keep waits =>
    have elsewhere : receivers.queue.holder ≠ some task := fun held => order.apart task held waits
    -- The right to receive is elsewhere, so the receiver waits on.
    rw [Receivers.turnOf_waiting rfl (Outgoing.poll_inLine elsewhere)]
    refine consistent.stay member (receivers.agenda.yield.wakeAll_unused []) order (fun _ => .inr) ?_
      (.inLine keep waits)
    intro entry stood apart
    refine (consistent.stands entry stood).frame ?_ rfl rfl fun _ => .inr ⟨rfl, rfl⟩
    exact fun awake => stays_ready line apart awake []
  | arriving keep _ elsewhere absent =>
    cases holder : receivers.queue.holder with
    | none =>
      -- Nobody has the right to receive, so the newcomer takes it.
      refine acquire line member rfl (Outgoing.poll_arriving_free holder) rfl ?_
      refine consistent.stay member rfl (order.hold holder task) ?_ ?_ (.holding keep rfl (.inl awake))
      · intro other either
        rcases either with held | stood
        · exact .inl (Option.some.inj held).symm
        · exact .inr (.inr stood)
      · exact fun entry stood apart => (consistent.stands entry stood).hold id order holder apart
    | some other =>
      -- Somebody has the right to receive, so the newcomer joins the line.
      have taken : receivers.queue.holder.isSome = true := by
        simp [holder]
      rw [Receivers.turnOf_waiting rfl (Outgoing.poll_arriving taken)]
      refine consistent.stay member (receivers.agenda.yield.wakeAll_unused [])
        (order.queueUp taken elsewhere absent) ?_ ?_ (.inLine keep (by simp))
      · intro name either
        rcases either with held | stood
        · exact .inr (.inl held)
        · rcases List.mem_append.mp stood with before | last
          · exact .inr (.inr before)
          · exact .inl (List.mem_singleton.mp last)
      · intro entry stood apart
        exact (consistent.stands entry stood).queueUp (fun awake => stays_ready line apart awake []) apart

/-- The task at the head of the line takes its turn. -/
theorem turn (consistent : Consistent receivers.queue receivers.agenda receivers.pending)
    (turned : receivers.turn? = some next) : Consistent next.queue next.agenda next.pending := by
  obtain ⟨task, rest, line, ⟨ended, rfl⟩ | ⟨receiver, found, rfl⟩⟩ := Receivers.turn_cases turned
  · exact consistent.yield line ended
  -- A cancelled receiver gives up, and any other goes on.
  · cases given : receiver.cancelled with
    | true =>
      rw [Receivers.turnOf_cancelled given]
      exact consistent.giveUp line
    | false => exact consistent.goOn line (consistent.lookup_iff.mp found) given

end Consistent

end Uplink.Queue
