import Uplink.Proofs.Queue.Turns

/-! First in, first out: messages leave a queue in the order in which they were accepted, each once. -/

namespace Uplink.Queue

/-- What passes between a queue and those who use it. -/
inductive Exchange where
  /-- A message is accepted. -/
  | accepted (message : Message) (handle : Handle) (mode : HoldMode)
  /-- A message is taken without waiting. -/
  | taken (envelope : Envelope)
  /-- A receiver goes away with what it got. -/
  | received (label : Nat) (envelope : Option Envelope)
  /-- A receiver is cancelled before it has gone away. -/
  | cancelled (label : Nat)

/-- The messages that were accepted, in order, each in its envelope. -/
def accepted (trace : List Exchange) : List Envelope :=
  trace.filterMap fun
    | .accepted message handle mode => some (envelopeOf message handle mode)
    | _ => none

/-- The messages that were delivered, in order, to receivers and to those who did not wait. -/
def delivered (trace : List Exchange) : List Envelope :=
  trace.filterMap fun
    | .taken envelope => some envelope
    | .received _ envelope => envelope
    | _ => none

namespace Receivers

/-- What an attempt to add a message comes to. -/
def offered (receivers : Receivers) (message : Message) (handle : Handle) (mode : HoldMode) :
    List Exchange :=
  match (receivers.enqueue message handle mode).1 with
  | .ok _ => [.accepted message handle mode]
  | .error _ => []

/-- What an attempt to take a message comes to. -/
def grabbed (receivers : Receivers) (keep : Option Nat) : List Exchange :=
  ((receivers.tryReceive keep).1.map Exchange.taken).toList

/-- What a turn has brought: the receivers that have gone away since. -/
def gone (before after : Receivers) : List Exchange :=
  (after.deliveries.take (after.deliveries.length - before.deliveries.length)).reverse.map
    fun delivery => .received delivery.label delivery.envelope

end Receivers

/-- A run of a queue with its receivers, and what has passed. -/
inductive Run : List Exchange → Receivers → Prop where
  | ofCapacity (capacity messages : Nat) : Run [] (.ofCapacity capacity messages)
  | enqueue {trace receivers} (run : Run trace receivers) (message : Message) (handle : Handle)
      (mode : HoldMode) :
      Run (trace ++ receivers.offered message handle mode) (receivers.enqueue message handle mode).2
  | tryReceive {trace receivers} (run : Run trace receivers) (keep : Option Nat) :
      Run (trace ++ receivers.grabbed keep) (receivers.tryReceive keep).2
  /-- A receiver is known by the name of its task. -/
  | start {trace receivers} (run : Run trace receivers) (keep : Option Nat) :
      Run trace (receivers.start receivers.agenda.unused keep)
  | cancel {trace receivers label} (run : Run trace receivers)
      (pending : receivers.isPending label = true) :
      Run (trace ++ [.cancelled label]) (receivers.cancel label)
  | close {trace receivers} (run : Run trace receivers) : Run trace receivers.close
  | release {trace receivers} (run : Run trace receivers) (key : Nat) : Run trace (receivers.release key)
  | turn {trace receivers next} (run : Run trace receivers) (turned : receivers.turn? = some next) :
      Run (trace ++ receivers.gone next) next

variable {trace : List Exchange} {receivers next : Receivers} {task : TaskId}
  {receiver : BackgroundReceiver}

/-- Each of these receivers has a new name, or was there before and has kept its mark if it had one. -/
def Receivers.Accounts (receivers : Receivers) (pending : List (TaskId × BackgroundReceiver)) : Prop :=
  ∀ entry ∈ pending, receivers.agenda.unused ≤ entry.1 ∨
    ∃ before, (entry.1, before) ∈ receivers.pending ∧ (before.cancelled = true → entry.2.cancelled = true)

/-- What was delivered and what the queue holds is what was accepted, and a receiver that was
cancelled goes away with nothing. -/
structure Recorded (trace : List Exchange) (receivers : Receivers) : Prop where
  consistent : Consistent receivers.queue receivers.agenda receivers.pending
  flow : delivered trace ++ receivers.queue.channel.items = accepted trace
  /-- A receiver goes away once. -/
  ended : ∀ label envelope, .received label envelope ∈ trace →
    label < receivers.agenda.unused ∧ label ∉ receivers.pending.map (·.1)
  given : ∀ label, .cancelled label ∈ trace → label < receivers.agenda.unused ∧
    (∀ receiver, (label, receiver) ∈ receivers.pending → receiver.cancelled = true) ∧
    ∀ envelope, .received label envelope ∉ trace

namespace Recorded

/-- Nothing has passed yet. -/
theorem ofCapacity (capacity messages : Nat) : Recorded [] (.ofCapacity capacity messages) where
  -- The trace is empty, and so are the channel and the list of deliveries.
  consistent := .ofCapacity capacity messages _
  flow := rfl
  ended := by simp
  given := by simp

/-- What has to be shown of whatever is done: what comes in and goes out, which receivers are there
afterwards, which of them have gone away, and which were cancelled. -/
theorem extend (recorded : Recorded trace receivers) {more : List Exchange}
    (consistent : Consistent next.queue next.agenda next.pending)
    (unused : receivers.agenda.unused ≤ next.agenda.unused)
    (flow : delivered more ++ next.queue.channel.items = receivers.queue.channel.items ++ accepted more)
    (came : receivers.Accounts next.pending)
    (brought : ∀ label envelope, .received label envelope ∈ more →
      label ∉ next.pending.map (·.1) ∧
        ∃ receiver, (label, receiver) ∈ receivers.pending ∧ receiver.cancelled = false)
    (marked : ∀ label, .cancelled label ∈ more → label ∈ receivers.pending.map (·.1) ∧
      (∀ receiver, (label, receiver) ∈ next.pending → receiver.cancelled = true) ∧
      ∀ envelope, .received label envelope ∉ more) :
    Recorded (trace ++ more) next where
  -- Each clause splits into what has passed before and what passes now.
  consistent := consistent
  flow := by
    simp only [delivered, accepted, List.filterMap_append] at flow ⊢
    rw [List.append_assoc, flow, ← List.append_assoc]
    exact congrArg (· ++ _) recorded.flow
  ended := by
    intro label envelope member
    rcases List.mem_append.mp member with earlier | now
    · obtain ⟨early, absent⟩ := recorded.ended label envelope earlier
      refine ⟨Nat.lt_of_lt_of_le early unused, fun present => ?_⟩
      -- A receiver that is there now was there before or has a new name.
      obtain ⟨entry, stands, rfl⟩ := List.mem_map.mp present
      rcases came entry stands with new | ⟨before, stood, -⟩
      · exact Nat.not_lt.mpr new early
      · exact absent (List.mem_map.mpr ⟨_, stood, rfl⟩)
    · obtain ⟨absent, receiver, stood, -⟩ := brought label envelope now
      exact ⟨Nat.lt_of_lt_of_le (recorded.consistent.started _ stood) unused, absent⟩
  given := by
    intro label member
    rcases List.mem_append.mp member with earlier | now
    -- Whoever was cancelled before has kept the mark and has not gone away with anything.
    · obtain ⟨early, marks, nothing⟩ := recorded.given label earlier
      refine ⟨Nat.lt_of_lt_of_le early unused, ?_, ?_⟩
      · intro receiver stands
        rcases came _ stands with new | ⟨before, stood, keeps⟩
        · exact absurd early (Nat.not_lt.mpr new)
        · exact keeps (marks before stood)
      · intro envelope got
        rcases List.mem_append.mp got with then' | now
        · exact nothing envelope then'
        · obtain ⟨-, receiver, stood, live⟩ := brought label envelope now
          rw [marks receiver stood] at live
          contradiction
    -- Whoever is cancelled now is still there, so it has not gone away before.
    · obtain ⟨present, marks, nothing⟩ := marked label now
      refine ⟨?_, marks, ?_⟩
      · obtain ⟨entry, stood, rfl⟩ := List.mem_map.mp present
        exact Nat.lt_of_lt_of_le (recorded.consistent.started entry stood) unused
      · intro envelope got
        rcases List.mem_append.mp got with earlier | now
        · exact (recorded.ended label envelope earlier).2 present
        · exact nothing envelope now

/-- The receivers that are left alone are those that were there. -/
theorem came_self (receivers : Receivers) : receivers.Accounts receivers.pending :=
  -- Everybody accounts for themselves.
  fun entry member => .inr ⟨entry.2, member, id⟩

/-- What has to be shown of whatever neither brings nor takes a message. -/
theorem quietly (recorded : Recorded trace receivers)
    (consistent : Consistent next.queue next.agenda next.pending)
    (unused : receivers.agenda.unused ≤ next.agenda.unused)
    (items : next.queue.channel.items = receivers.queue.channel.items)
    (came : receivers.Accounts next.pending) :
    Recorded trace next := by
  -- Nothing passes, so the record is not any longer.
  rw [← List.append_nil trace]
  exact recorded.extend consistent unused (by simp [delivered, accepted, items]) came (by simp) (by simp)

/-- Adding a message. -/
theorem enqueue (recorded : Recorded trace receivers) (message : Message) (handle : Handle)
    (mode : HoldMode) :
    Recorded (trace ++ receivers.offered message handle mode)
      (receivers.enqueue message handle mode).2 := by
  -- An accepted message is the last of those accepted and the last in the channel.
  apply recorded.extend
  case consistent => exact recorded.consistent.enqueue message handle mode
  case unused => simp [Receivers.enqueue]
  case came => exact came_self receivers
  case flow =>
    simp only [Receivers.offered, Receivers.enqueue]
    cases result : (receivers.queue.enqueue message handle mode).1 with
    | ok _ =>
      obtain ⟨custody, free, same⟩ := Outgoing.enqueue_ok result
      simp [same, delivered, accepted]
    | error error =>
      obtain ⟨custody, same⟩ := Outgoing.enqueue_error result
      simp [same, delivered, accepted]
  all_goals
    unfold Receivers.offered
    split <;> simp

/-- Taking a message without waiting. -/
theorem tryReceive (recorded : Recorded trace receivers) (keep : Option Nat) :
    Recorded (trace ++ receivers.grabbed keep) (receivers.tryReceive keep).2 := by
  -- What is taken was at the front of the channel.
  obtain ⟨kept, custody, same⟩ := receivers.tryReceive_eq keep
  have items := receivers.queue.tryReceive_items
  simp only [Receivers.grabbed, same]
  apply recorded.extend
  case consistent => exact recorded.consistent.tryReceive.recustody custody
  case unused => exact Nat.le_refl _
  case came => exact came_self receivers
  case flow =>
    cases got : receivers.queue.tryReceive.1 <;> simpa [got, delivered, accepted] using items
  all_goals cases receivers.queue.tryReceive.1 <;> simp

/-- Starting a receiver. -/
theorem start (recorded : Recorded trace receivers) (keep : Option Nat) :
    Recorded trace (receivers.start receivers.agenda.unused keep) := by
  -- The name of the new receiver was not in use.
  refine recorded.quietly (recorded.consistent.start keep) (Nat.le_succ _) rfl ?_
  intro entry member
  rcases List.mem_append.mp member with kept | last
  · exact came_self receivers entry kept
  · obtain rfl := List.mem_singleton.mp last
    exact .inl (Nat.le_refl _)

/-- A label that is pending is the name of the task of a receiver, and cancelling it marks that
receiver. -/
theorem cancel_eq (recorded : Recorded trace receivers) {label : Nat}
    (pending : receivers.isPending label = true) :
    label ∈ receivers.pending.map (·.1) ∧ receivers.cancel label = { receivers with
      agenda := receivers.agenda.wake label
      pending := Entries.adjust label ({ · with cancelled := true }) receivers.pending } := by
  -- The search by label finds the entry of the task, since the two are the same name.
  obtain ⟨⟨task, receiver⟩, member, test⟩ := List.any_eq_true.mp pending
  have called : receiver.label = label := by
    simp only [Bool.and_eq_true, decide_eq_true_eq] at test
    exact test.1
  obtain rfl : task = label := (recorded.consistent.stands _ member).label_eq.symm.trans called
  refine ⟨List.mem_map_of_mem member, ?_⟩
  unfold Receivers.cancel
  -- The receiver that is marked is the first of that label, and the label is a name.
  split
  · rename_i missing
    have stood := List.find?_eq_none.mp missing _ member
    simp only [decide_eq_true_eq] at stood
    exact absurd called stood
  · rename_i other value found
    have same : value.label = task := by
      simpa using List.find?_some found
    have name := (recorded.consistent.stands _ (List.mem_of_find?_eq_some found)).label_eq
    obtain rfl : other = task := name.symm.trans same
    rfl

/-- Cancelling a receiver. -/
theorem cancel (recorded : Recorded trace receivers) {label : Nat}
    (pending : receivers.isPending label = true) :
    Recorded (trace ++ [.cancelled label]) (receivers.cancel label) := by
  -- The label is marked now, and nobody goes away.
  obtain ⟨present, same⟩ := recorded.cancel_eq pending
  rw [same]
  apply recorded.extend
  case consistent => exact recorded.consistent.mark label
  case unused => simp
  case flow => simp [delivered, accepted]
  case came =>
    intro entry (adjusted : entry ∈ Entries.adjust label ({ · with cancelled := true }) receivers.pending)
    -- Everybody is there whom there was before, with the mark or without.
    rcases Entries.mem_adjust.mp adjusted with ⟨kept, -⟩ | ⟨value, kept, rfl⟩
    · exact came_self receivers entry kept
    · exact .inr ⟨value, kept, fun _ => rfl⟩
  case brought => simp
  case marked =>
    intro other member
    obtain rfl : other = label := by
      simpa using member
    refine ⟨present, ?_, by simp⟩
    intro receiver (adjusted : (other, receiver) ∈
      Entries.adjust other ({ · with cancelled := true }) receivers.pending)
    -- The entry of the label that is there now is the one that was marked.
    rcases Entries.mem_adjust.mp adjusted with ⟨-, apart⟩ | ⟨value, -, changed⟩
    · exact absurd rfl apart
    · cases changed
      rfl

/-- Closing the queue. -/
theorem close (recorded : Recorded trace receivers) : Recorded trace receivers.close :=
  -- Closing takes no message and no receiver.
  recorded.quietly recorded.consistent.close (by simp [Receivers.close]) rfl (came_self receivers)

/-- Dropping what is kept. -/
theorem release (recorded : Recorded trace receivers) (key : Nat) :
    Recorded trace (receivers.release key) := by
  -- What is dropped is a copy in custody, and the queue itself goes on as it was.
  obtain ⟨kept, custody, same⟩ := receivers.release_eq key
  rw [same]
  exact recorded.quietly (recorded.consistent.recustody custody) (Nat.le_refl _) rfl (came_self receivers)

/-- Nobody has gone away if nothing was delivered. -/
theorem gone_self (same : next.deliveries = receivers.deliveries) : receivers.gone next = [] := by
  -- Those who have gone are the deliveries that are new.
  simp [Receivers.gone, same]

/-- One receiver has gone away if there is one delivery more. -/
theorem gone_cons (delivery : Delivery) (more : next.deliveries = delivery :: receivers.deliveries) :
    receivers.gone next = [.received delivery.label delivery.envelope] := by
  -- Those who have gone are the deliveries that are new, and there is one.
  simp [Receivers.gone, more]

/-- The task at the head of the line takes its turn. -/
theorem turn (recorded : Recorded trace receivers) (turned : receivers.turn? = some next) :
    Recorded (trace ++ receivers.gone next) next := by
  have consistent := recorded.consistent.turn turned
  obtain ⟨task, rest, line, ⟨ended, rfl⟩ | ⟨receiver, found, rfl⟩⟩ := Receivers.turn_cases turned
  · have nobody : receivers.gone { receivers with agenda := receivers.agenda.yield } = [] := gone_self rfl
    rw [nobody, List.append_nil]
    exact recorded.quietly consistent (Nat.le_refl _) rfl (came_self receivers)
  · have member := recorded.consistent.lookup_iff.mp found
    -- Whoever is left was there before.
    have left : receivers.Accounts (receivers.pending.filter (·.1 ≠ task)) :=
      fun entry kept => came_self receivers entry (List.mem_of_mem_filter kept)
    cases given : receiver.cancelled with
    | true =>
      -- A cancelled receiver leaves the messages where they are.
      have last : receivers.turnOf task receiver = _ := Receivers.turnOf_cancelled given
      have nobody : receivers.gone (receivers.turnOf task receiver) = [] := gone_self (by rw [last])
      rw [nobody, List.append_nil]
      rw [last] at consistent ⊢
      exact recorded.quietly consistent (by simp [Agenda.yield])
        (Outgoing.giveUp_items receivers.queue task) left
    | false =>
      have items := receivers.queue.poll_items task receiver.stage
      rcases polled : receivers.queue.poll task receiver.stage with ⟨stage | envelope, queue, woken⟩
      · rw [polled] at items
        -- The receiver waits on, with everything where it was.
        have waits : receivers.turnOf task receiver = _ := Receivers.turnOf_waiting given polled
        have nobody : receivers.gone (receivers.turnOf task receiver) = [] := gone_self (by rw [waits])
        rw [nobody, List.append_nil]
        rw [waits] at consistent ⊢
        refine recorded.quietly consistent (by simp [Agenda.yield]) items ?_
        intro entry (adjusted : entry ∈ Entries.adjust task ({ · with stage }) receivers.pending)
        rcases Entries.mem_adjust.mp adjusted with ⟨kept, -⟩ | ⟨value, kept, rfl⟩
        · exact came_self receivers entry kept
        · exact .inr ⟨value, kept, id⟩
      · -- Its receiver goes away, and what it got was at the front of the queue.
        rw [polled] at items
        obtain ⟨kept, custody, goes⟩ := Receivers.turnOf_gone given polled
        have label : receiver.label = task := (recorded.consistent.stands _ member).label_eq
        have one : receivers.gone (receivers.turnOf task receiver) = [.received task envelope] := by
          rw [goes, ← label]
          exact gone_cons ⟨receiver.label, receivers.agenda.now, envelope⟩ rfl
        rw [one]
        rw [goes] at consistent ⊢
        refine recorded.extend consistent (by simp [Agenda.yield]) ?_ left ?_ (by simp)
        · cases envelope <;> simpa [delivered, accepted, Stance.taken] using items
        · intro other got member'
          obtain ⟨rfl, rfl⟩ : other = task ∧ got = envelope := by simpa using member'
          refine ⟨?_, receiver, member, given⟩
          simp

end Recorded

/-- Along every run the record agrees with the queue and its receivers. -/
theorem Run.recorded (run : Run trace receivers) : Recorded trace receivers := by
  -- Induction on the run, one case for each thing that can be done to the queue.
  induction run with
  | ofCapacity capacity messages => exact .ofCapacity capacity messages
  | enqueue run message handle mode ih => exact ih.enqueue message handle mode
  | tryReceive run keep ih => exact ih.tryReceive keep
  | start run keep ih => exact ih.start keep
  | cancel run pending ih => exact ih.cancel pending
  | close run ih => exact ih.close
  | release run key ih => exact ih.release key
  | turn run turned ih => exact ih.turn turned

/-- Running tasks goes on with a run. -/
theorem Run.settle (run : Run trace receivers) (turns : Nat) :
    ∃ later, Run (trace ++ later) (Timed.settle turns receivers) := by
  -- Induction on the number of turns; each one that is taken goes on with the run.
  induction turns generalizing trace receivers with
  | zero => exact ⟨[], by simpa [Timed.settle] using run⟩
  | succ turns ih =>
    unfold Timed.settle
    split
    · exact ⟨[], by simpa using run⟩
    · rename_i next turned
      obtain ⟨later, longer⟩ := ih (run.turn turned)
      exact ⟨receivers.gone next ++ later, by simpa [List.append_assoc] using longer⟩

/-- A receiver that waits while no task can run waits for a message, and the queue is open. -/
theorem Consistent.empty_of_pending {queue : Outgoing} {agenda : Agenda}
    {pending : List (TaskId × BackgroundReceiver)} (consistent : Consistent queue agenda pending)
    (quiet : agenda.ready = []) (waits : pending ≠ []) :
    queue.channel.items = [] ∧ queue.closed = false := by
  -- Nobody stands in line without somebody who has the right to receive.
  obtain ⟨holder, held⟩ : ∃ holder, queue.holder = some holder := by
    obtain ⟨⟨task, receiver⟩, member⟩ := List.exists_mem_of_ne_nil pending waits
    have stands : Stands queue agenda.ready task receiver := consistent.stands _ member
    cases stands with
    | arriving keep awake | called keep held awake | cancelled keep stage awake => simp [quiet] at awake
    | holding keep held alert => exact ⟨_, held⟩
    | inLine keep stands =>
      by_contra nobody
      have free : queue.holder = none := Option.eq_none_iff_forall_ne_some.mpr fun holder held =>
        nobody ⟨holder, held⟩
      simp [consistent.order.held free] at stands
  -- The one who has the right to receive is a receiver too, and it sleeps.
  obtain ⟨⟨task, receiver⟩, member, same⟩ := List.mem_map.mp (consistent.known holder (.inl held))
  obtain rfl : task = holder := same
  have stands : Stands queue agenda.ready task receiver := consistent.stands _ member
  cases stands with
  | arriving keep awake | called keep held awake | cancelled keep stage awake => simp [quiet] at awake
  | inLine keep stands => exact absurd stands (consistent.order.apart _ held)
  | holding keep held alert => exact alert.resolve_left (by simp [quiet])

/-- Along every run the messages that were delivered, followed by those in the queue, are those that
were accepted, in order. A receiver that was cancelled gets nothing. While no task can run, a receiver
waits only for an open queue that is empty. -/
theorem Run.first_in_first_out (run : Run trace receivers) :
    delivered trace ++ receivers.queue.channel.items = accepted trace ∧
    (∀ label, .cancelled label ∈ trace → ∀ envelope, .received label envelope ∉ trace) ∧
    (receivers.turn? = none → receivers.pending ≠ [] →
      receivers.queue.channel.items = [] ∧ receivers.queue.closed = false) := by
  -- All three parts are read off the record, the last one with the places of the receivers.
  have recorded := run.recorded
  refine ⟨recorded.flow, fun label given => (recorded.given label given).2.2, ?_⟩
  intro quiet waits
  exact recorded.consistent.empty_of_pending (Receivers.turn_eq_none.mp quiet) waits

/-- A message that a cancelled receiver was woken for goes to the next one in line. -/
theorem cancelled_receiver_passes_message_on :
    let message : Message := ⟨⟨1⟩, ⟨0, 0⟩, .bool true⟩
    let envelope := envelopeOf message 0 .copy
    ∃ receivers, Run [.accepted message 0 .copy, .cancelled 0, .received 1 (some envelope)] receivers ∧
      [envelope] ++ receivers.queue.channel.items = [envelope] ∧
      (.received 0 (some envelope) ∉
        [.accepted message 0 .copy, .cancelled 0, Exchange.received 1 (some envelope)]) := by
  intro message envelope
  let fresh : Outgoing := .ofCapacity 2 1
  -- The first receiver waits for a message, and the second one for the right to receive.
  have first : fresh.poll 0 .arriving = (.waiting .polling, { fresh with holder := some 0 }, []) :=
    (Outgoing.poll_arriving_free rfl).trans
      (Outgoing.poll_open ((Outgoing.inOrder_ofCapacity 2 1).hold rfl 0) rfl rfl 0)
  have waiting : Run [] _ := .turn (.start (.start (.ofCapacity 2 1) none) none)
    (congrArg some (Receivers.turnOf_waiting rfl first))
  have lined : Run [] _ := .turn waiting
    (congrArg some (Receivers.turnOf_waiting rfl (Outgoing.poll_arriving rfl)))
  have enqueued : Run [.accepted message 0 .copy] _ := .enqueue lined message 0 .copy
  have marked : Run [.accepted message 0 .copy, .cancelled 0] _ := .cancel enqueued rfl
  let heir : BackgroundReceiver := { label := 1, keep := none, stage := .inLine }
  -- The right to receive has gone to the second receiver when the first one is out of the way.
  obtain ⟨receivers, cancelled, line, pending, held, items⟩ :
      ∃ receivers, Run [.accepted message 0 .copy, .cancelled 0] receivers ∧
        receivers.agenda.ready = [1] ∧ receivers.pending = [(1, heir)] ∧
        receivers.queue.holder = some 1 ∧ receivers.queue.channel.items = [envelope] :=
    ⟨_, .turn marked rfl, rfl, rfl, rfl, rfl⟩
  -- The second receiver is the only task left, and finds the message.
  have turned : receivers.turn? = some (receivers.turnOf 1 heir) := by
    simp [Receivers.turn?, line, pending]
  have polled : receivers.queue.poll 1 heir.stage = _ :=
    (Outgoing.poll_inLine_held held).trans (Outgoing.poll_oldest items 1)
  obtain ⟨kept, custody, goes⟩ := Receivers.turnOf_gone rfl polled
  have one : receivers.gone (receivers.turnOf 1 heir) = [.received 1 (some envelope)] := by
    rw [goes]
    exact Recorded.gone_cons ⟨1, receivers.agenda.now, some envelope⟩ rfl
  have run := cancelled.turn turned
  rw [one] at run
  obtain ⟨flow, nothing, -⟩ := run.first_in_first_out
  exact ⟨_, run, flow, nothing 0 (by simp) _⟩

end Uplink.Queue
