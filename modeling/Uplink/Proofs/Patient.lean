import Uplink.Proofs.Dispatching

/-!
What a step of the dispatcher leaves as it is: it neither opens nor closes the queue, it sets itself no deadline, and
between its look for a message and its look at the queue it wakes nobody and does not park.
-/

namespace Uplink

open Queue (Outgoing Receiving)

/-! ### Opening and closing the queue -/

namespace Queue.Outgoing

/-- Only a closing closes the queue. -/
theorem closed_step (queue : Outgoing) (task : TaskId) (stage : Receiving) :
    (queue.step task stage).2.1.closed = queue.closed := by
  -- Whoever leaves passes the right to receive on, and nothing else.
  have passed (queue : Outgoing) : queue.passOn.1.closed = queue.closed := by
    unfold passOn
    split <;> rfl
  cases stage with
  | arriving | inLine | checking =>
    simp only [step]
    split <;> rfl
  | closing => rfl
  | polling =>
    simp only [step]
    split
    · exact passed _
    · split
      · exact passed _
      · rfl
  | draining => exact passed _

/-- A message that comes does not open or close the queue. -/
theorem closed_enqueue (queue : Outgoing) (message : Message) (handle : Handle) (mode : HoldMode) :
    (queue.enqueue message handle mode).2.1.closed = queue.closed := by
  -- A queue that is closed returns the message, and an open one offers it to the channel.
  unfold enqueue
  split
  · rfl
  · simp only [offer]
    split <;> rfl

/-- A receiver wakes nobody as long as it goes on. -/
theorem woken_step_next {queue : Outgoing} {task : TaskId} {stage next : Receiving}
    (goes : (queue.step task stage).1 = .next next) : (queue.step task stage).2.2 = [] := by
  -- Somebody is woken only when the right to receive is passed on, and then the receiver goes away.
  cases stage with
  | arriving | inLine | checking =>
    simp only [step]
    split <;> rfl
  | polling =>
    simp only [step, leave] at goes ⊢
    split at goes
    · simp at goes
    · split at goes
      · simp at goes
      · rename_i opened
        simp [opened]
  | closing => rfl
  | draining => simp [step, leave] at goes

/-- No receiver parks before it has looked whether the queue is closed. -/
theorem step_ne_parked_checking (queue : Outgoing) (task : TaskId) (stage : Receiving) :
    (queue.step task stage).1 ≠ .parked .checking := by
  -- One case for each stage. Those before the look go on or wait where they are, and those after it never come
  -- back.
  cases stage with
  | arriving | inLine | checking =>
    simp only [step]
    split <;> simp
  | polling =>
    simp only [step, leave]
    split
    · simp
    · split <;> simp
  | closing | draining => simp [step, leave]

end Queue.Outgoing

/-- A step of a delivery changes nothing about the queue but who keeps what. -/
theorem Delivery.step_queue (delivery : Delivery) (connection : Connection) (agenda : Agenda) (task : TaskId)
    (envelope : Envelope) : ∃ custody,
      (delivery.step connection agenda task envelope).2.queue = { connection.queue with custody } := by
  -- A delivery that waits touches registers only; one that is given up drops its envelope, which the queue
  -- keeps the account of.
  cases delivery with
  | sending => exact ⟨_, rfl⟩
  | arriving =>
    have begins : connection.Passes .supervisor (fun _ _ => True) _ _ :=
      ConnectionWait.start_passes connection agenda task .forever
    exact ⟨_, (begins.touches.mail rfl).1⟩
  | awaiting wait =>
    have owned : ∀ name ticket, wait.Holds name ticket → (fun _ _ => True) name ticket := fun _ _ _ => trivial
    have looks : connection.Passes .supervisor (fun _ _ => True) _ _ :=
      ConnectionWait.poll_passes connection agenda task owned
    have queue := (looks.touches.mail rfl).1
    simp only [Delivery.step]
    rcases polled : wait.poll connection agenda task with ⟨progress, after⟩
    rw [polled] at queue
    cases progress with
    | next _ | parked _ => exact ⟨_, queue⟩
    | done answer =>
      cases answer with
      | true => exact ⟨_, queue⟩
      | false => exact ⟨_, congrArg (·.release envelope) queue⟩

/-- A step of the dispatcher does not open or close the queue. -/
theorem Dispatcher.closed_step (dispatcher : Dispatcher) (connection : Connection) (agenda : Agenda) (task : TaskId) :
    (dispatcher.step connection agenda task).2.queue.closed = connection.queue.closed := by
  -- Of the stages only that of the receiver and that of the delivery touch the queue, and a lemma speaks of
  -- each.
  cases dispatcher with
  | starting => rfl
  | receiving stage =>
    have closed := connection.queue.closed_step task stage
    simp only [Dispatcher.step]
    split <;> exact closed
  | delivering envelope delivery =>
    obtain ⟨custody, queue⟩ := delivery.step_queue connection agenda task envelope
    have closed := congrArg Outgoing.closed queue
    simp only [Dispatcher.step]
    rcases stepped : delivery.step connection agenda task envelope with ⟨progress, after⟩
    rw [stepped] at closed
    cases progress <;> exact closed

/-! ### Waits without a deadline -/

/-- The wait lasts until it is answered. -/
def ConnectionWait.Endless : ConnectionWait → Prop
  | .network timeout wait => timeout = .forever ∧ wait.deadline? = none
  | .session wait => wait.deadline? = none

/-- The wait of a delivery lasts until it is answered. -/
def Dispatcher.Endless : Dispatcher → Prop
  | .delivering _ (.awaiting wait) => wait.Endless
  | _ => True

/-- A wait that may last for ever has no deadline. -/
theorem Flags.Register.wait_forever (register : Register) (agenda : Agenda) (owner : TaskId)
    (condition : Flags.Condition) : (register.wait agenda owner condition .forever).1.deadline? = none := by
  -- Such a wait is answered at once or parks without a deadline.
  unfold wait
  split <;> rfl

/-- A look at a wait for a connection does not set it a deadline. -/
theorem ConnectionWait.Endless.poll {wait onward : ConnectionWait} (endless : wait.Endless) (connection : Connection)
    (agenda : Agenda) (task : TaskId)
    (goes : (wait.poll connection agenda task).1 = .next onward ∨
      (wait.poll connection agenda task).1 = .parked onward) : onward.Endless := by
  cases wait with
  | network timeout own =>
    obtain ⟨rfl, undue⟩ := endless
    simp only [ConnectionWait.poll] at goes
    split at goes
    · simp only [reduceCtorEq, Progress.parked.injEq, false_or] at goes
      exact goes ▸ ⟨rfl, undue⟩
    · split at goes
      · simp at goes
      · -- With the network there the wait for the session begins, which is given the same time.
        simp only [reduceCtorEq, Progress.next.injEq, or_false] at goes
        exact goes ▸ Flags.Register.wait_forever _ agenda task _
  | session own =>
    simp only [ConnectionWait.poll] at goes
    split at goes
    · simp only [reduceCtorEq, Progress.parked.injEq, false_or] at goes
      exact goes ▸ endless
    · simp at goes

/-- Where the dispatcher goes on, it waits until it is answered. -/
theorem Dispatcher.Endless.step {dispatcher onward : Dispatcher} (endless : dispatcher.Endless)
    (connection : Connection) (agenda : Agenda) (task : TaskId)
    (goes : (dispatcher.step connection agenda task).1 = .next onward ∨
      (dispatcher.step connection agenda task).1 = .parked onward) : onward.Endless := by
  cases dispatcher with
  | starting =>
    simp only [Dispatcher.step, Progress.next.injEq, reduceCtorEq, or_false] at goes
    exact goes ▸ trivial
  | receiving stage =>
    simp only [Dispatcher.step] at goes
    split at goes <;> simp at goes <;> subst goes <;> trivial
  | delivering envelope delivery =>
    cases delivery with
    | arriving =>
      -- The dispatcher asks for a connection without a limit of time.
      simp only [Dispatcher.step, Delivery.step, Progress.next.injEq, reduceCtorEq, or_false] at goes
      exact goes ▸ ⟨rfl, Flags.Register.wait_forever _ agenda task _⟩
    | sending =>
      simp only [Dispatcher.step, Delivery.step, Progress.parked.injEq, reduceCtorEq, false_or] at goes
      exact goes ▸ trivial
    | awaiting wait =>
      simp only [Dispatcher.step, Delivery.step] at goes
      rcases polled : wait.poll connection agenda task with ⟨progress, after⟩
      rw [polled] at goes
      cases progress with
      -- A wait for ever that goes on is one for ever.
      | next further =>
        simp only [Progress.next.injEq, reduceCtorEq, or_false] at goes
        exact goes ▸ ConnectionWait.Endless.poll endless connection agenda task (.inl (congrArg Prod.fst polled))
      | parked further =>
        simp only [Progress.parked.injEq, reduceCtorEq, false_or] at goes
        exact goes ▸ ConnectionWait.Endless.poll endless connection agenda task (.inr (congrArg Prod.fst polled))
      -- With an answer the delivery is past its wait.
      | done answer =>
        cases answer <;> simp at goes <;> subst goes <;> trivial

/-! ### Between the look for a message and the look at the queue -/

namespace Dispatcher

variable {dispatcher : Dispatcher} {connection after : Connection} {agenda : Agenda} {task : TaskId}

/-- The dispatcher wakes nobody when it has found no message. -/
theorem woken_step_checking
    (stepped : dispatcher.step connection agenda task = (.next (.receiving .checking), after)) :
    after.woken = connection.woken := by
  cases dispatcher with
  | starting => simp [step, idle] at stepped
  | receiving stage =>
    simp only [step] at stepped
    split at stepped
    · rename_i onward goes
      -- It has gone on, so nobody was woken.
      rw [← (Prod.mk.inj stepped).2, Outgoing.woken_step_next goes]
      exact List.append_nil _
    all_goals simp at stepped
  | delivering envelope delivery =>
    simp only [step, idle] at stepped
    split at stepped <;> simp at stepped

/-- The dispatcher does not park before it has looked whether the queue is closed. -/
theorem step_ne_parked_checking :
    dispatcher.step connection agenda task ≠ (.parked (.receiving .checking), after) := by
  -- Only the receiving stage comes back to this place, and there the queue has a lemma of its own.
  intro stepped
  cases dispatcher with
  | starting => simp [step] at stepped
  | receiving stage =>
    simp only [step] at stepped
    split at stepped
    · simp at stepped
    · rename_i onward parks
      obtain rfl : onward = .checking := by simpa using (Prod.mk.inj stepped).1
      exact Outgoing.step_ne_parked_checking _ _ _ parks
    all_goals simp at stepped
  | delivering envelope delivery =>
    simp only [step] at stepped
    split at stepped <;> simp at stepped

end Dispatcher

end Uplink
