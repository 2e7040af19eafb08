import Uplink.Proofs.Echoes
import Uplink.Session.Turn

/-! Two connections that differ in their journals only lead whoever works on them to the same answers. -/

namespace Uplink

open Flags (Condition Timeout Wait)

/-- Two results are the same, and what they leave is alike. -/
inductive Paired {α σ : Type} (alike : σ → σ → Prop) : α × σ → α × σ → Prop where
  | intro {answer : α} {one other : σ} (same : alike one other) : Paired alike (answer, one) (answer, other)

namespace Paired

variable {α β σ : Type} {alike : σ → σ → Prop} {one other : α × σ}

/-- The results are the same. -/
theorem answer (paired : Paired alike one other) : other.1 = one.1 := by
  -- One and the same result stands in both pairs.
  cases paired
  rfl

/-- What is left is alike. -/
theorem left (paired : Paired alike one other) : alike one.2 other.2 := by
  -- The constructor asks for no more than that what is left is alike.
  cases paired
  assumption

/-- The same made of the same results is the same. -/
theorem map (paired : Paired alike one other) (change : α → β) :
    Paired alike (change one.1, one.2) (change other.1, other.2) := by
  -- The result is the same, so what is made of it is the same too.
  cases paired with
  | intro same => exact .intro same

end Paired

/-- An attempt to queue a message counts as what came of it. -/
theorem Telemetry.noteEnqueue_metrics (telemetry : Telemetry) (queue : Queue.Outgoing) (message : Message)
    (mode : HoldMode) (result : Except QueueError Unit) :
    (telemetry.noteEnqueue queue message mode result).metrics =
      telemetry.metrics.count (if result.isOk then .messageEnqueued else .messageRejected) := by
  -- Each refusal has an entry of its own in the journal; what is counted tells them apart only from success.
  unfold noteEnqueue
  split <;> rcases result with (_ | _ | _) | _ <;> rfl

namespace Connection.Echoes

variable {one other : Connection} {extra : Nat} (echoes : one.Echoes extra other)
include echoes

/-! ### Waits and the queue -/

/-- The same register replaced in both makes no difference. -/
theorem setRegister (name : RegisterName) (register : Flags.Register) :
    (one.setRegister name register).Echoes extra (other.setRegister name register) := by
  -- The two differ in their telemetry, which no register belongs to.
  obtain ⟨telemetry, rfl, counted⟩ := echoes
  cases name <;> exact ⟨_, rfl, counted⟩

/-- The same tasks are left to be woken in both. -/
theorem wake (tasks : List TaskId) : (one.wake tasks).Echoes extra (other.wake tasks) := by
  -- Neither does the list of those who are to be woken.
  obtain ⟨telemetry, rfl, counted⟩ := echoes
  exact ⟨_, rfl, counted⟩

/-- A wait that begins begins alike. -/
theorem await (agenda : Agenda) (task : TaskId) (name : RegisterName) (condition : Condition) (timeout : Timeout) :
    Paired (Echoes extra) (one.await agenda task name condition timeout)
      (other.await agenda task name condition timeout) := by
  -- Both registers are the same, and the wait begins in them.
  unfold Connection.await
  rw [echoes.register]
  exact .intro (echoes.setRegister _ _)

/-- A wait that is looked after has the same answer. -/
theorem poll (agenda : Agenda) (name : RegisterName) (wait : Wait) :
    Paired (Echoes extra) (one.poll agenda name wait) (other.poll agenda name wait) := by
  -- Both registers are the same, so a look finds the same in them.
  unfold Connection.poll
  rw [echoes.register]
  exact .intro (echoes.setRegister _ _)

/-- A wait that is given up is given up in both. -/
theorem abandon (name : RegisterName) (wait : Wait) :
    (one.abandon name wait).Echoes extra (other.abandon name wait) := by
  -- Both registers are the same, and both lose the same wait.
  unfold Connection.abandon
  rw [echoes.register]
  exact echoes.setRegister _ _

/-- A wait for the network begins alike. -/
theorem awaitNetwork (agenda : Agenda) (task : TaskId) (timeout : Timeout) :
    Paired (Echoes extra) (one.awaitNetwork agenda task timeout) (other.awaitNetwork agenda task timeout) :=
  (echoes.log _ _ _).await _ _ _ _ _

/-- A wait for the transport begins alike. -/
theorem awaitCloud (agenda : Agenda) (task : TaskId) (timeout : Timeout) :
    Paired (Echoes extra) (one.awaitCloud agenda task timeout) (other.awaitCloud agenda task timeout) :=
  (echoes.log _ _ _).await _ _ _ _ _

/-- A wait for the session begins alike. -/
theorem awaitReady (agenda : Agenda) (task : TaskId) (timeout : Timeout) (orDropped : Bool) :
    Paired (Echoes extra) (one.awaitReady agenda task timeout orDropped)
      (other.awaitReady agenda task timeout orDropped) :=
  (echoes.log _ _ _).await _ _ _ _ _

/-- A message is added to both queues, or to neither. -/
theorem enqueue (message : Message) (handle : Handle) (mode : HoldMode) :
    Paired (Echoes extra) (one.enqueue message handle mode) (other.enqueue message handle mode) := by
  obtain ⟨telemetry, rfl, counted⟩ := echoes
  refine .intro ⟨_, rfl, ?_⟩
  have kept (queued : Bool) : (if queued then .messageEnqueued else .messageRejected : Metrics.Count) ≠ .reset := by
    cases queued <;> nofun
  -- What comes of it is a matter of the queue.
  show (telemetry.noteEnqueue _ _ _ _).metrics = (one.telemetry.noteEnqueue _ _ _ _).metrics.forcing extra
  rw [Telemetry.noteEnqueue_metrics, Telemetry.noteEnqueue_metrics, counted, Metrics.forcing_count _ (kept _)]

/-- Both queues are closed. -/
theorem closeQueue : one.closeQueue.Echoes extra other.closeQueue := by
  -- The queue is none of the telemetry, and closing it writes and counts nothing.
  obtain ⟨telemetry, rfl, counted⟩ := echoes
  exact ⟨_, rfl, counted⟩

/-- An envelope is dropped in both. -/
theorem release (envelope : Envelope) : (one.release envelope).Echoes extra (other.release envelope) := by
  -- An envelope that is dropped is a matter of the queue alone.
  obtain ⟨telemetry, rfl, counted⟩ := echoes
  exact ⟨_, rfl, counted⟩

/-- The queues are the same. -/
theorem queue : other.queue = one.queue := by
  -- Only the telemetry is different.
  obtain ⟨telemetry, rfl, -⟩ := echoes
  rfl

/-- The same tasks are left to be woken. -/
theorem woken : other.woken = one.woken := by
  -- Again only the telemetry is different.
  obtain ⟨telemetry, rfl, -⟩ := echoes
  rfl

/-- Whether the shadow was published makes no difference. -/
theorem notePublish (result : Except TransportError Unit) :
    (one.notePublish result).Echoes extra (other.notePublish result) := by
  -- The result is logged and counted in both, and neither of the counters is one that is left out.
  rcases result with error | ⟨⟨⟩⟩
  · exact (echoes.log _ _ _).count .shadowFailed nofun
  · exact (echoes.log _ _ _).count .shadowUpdated nofun

/-! ### Those who wait for a connection -/

/-- A wait for a connection that is looked after has come as far. -/
theorem pollConnection (agenda : Agenda) (task : TaskId) (wait : ConnectionWait) :
    Paired (Echoes extra) (wait.poll one agenda task) (wait.poll other agenda task) := by
  cases wait with
  -- The two looks are the same, so they may be taken as one.
  | network timeout wait =>
    have polled := echoes.poll agenda .network wait
    simp only [ConnectionWait.poll]
    generalize one.poll agenda .network wait = looked, other.poll agenda .network wait = looked' at polled
    cases polled with | @intro answer _ _ same => ?_
    cases answer with
    | none => exact .intro same
    | some bits =>
      dsimp only
      split
      · exact .intro same
      · -- With the network there the wait for the session begins, in both.
        exact (same.awaitReady agenda task timeout false).map fun wait => Progress.next (ConnectionWait.session wait)
  -- The answer to the second part ends the wait, in both.
  | session wait =>
    have polled := echoes.poll agenda .cloud wait
    simp only [ConnectionWait.poll]
    generalize one.poll agenda .cloud wait = looked, other.poll agenda .cloud wait = looked' at polled
    cases polled with | @intro answer _ _ same => ?_
    cases answer <;> exact .intro same

/-- A wait for a connection that is given up is given up in both. -/
theorem abandonConnection (wait : ConnectionWait) : (wait.abandon one).Echoes extra (wait.abandon other) := by
  -- Either stage holds one wait, on one register.
  cases wait <;> exact echoes.abandon _ _

/-- A wait for a connection begins alike. -/
theorem startConnection (agenda : Agenda) (task : TaskId) (timeout : Timeout) :
    Paired (Echoes extra) (ConnectionWait.start one agenda task timeout)
      (ConnectionWait.start other agenda task timeout) :=
  (echoes.awaitNetwork agenda task timeout).map fun wait => ConnectionWait.network timeout wait

/-- A delivery comes as far. -/
theorem stepDelivery (agenda : Agenda) (task : TaskId) (envelope : Envelope) (delivery : Delivery) :
    Paired (Echoes extra) (delivery.step one agenda task envelope) (delivery.step other agenda task envelope) := by
  -- A delivery in transit waits for a connection, and what comes of it depends on that wait alone.
  cases delivery with
  | arriving =>
    exact (echoes.startConnection agenda task .forever).map fun wait => Progress.next (Delivery.awaiting wait)
  | sending => exact .intro echoes
  | awaiting wait =>
    have polled := echoes.pollConnection agenda task wait
    simp only [Delivery.step]
    generalize wait.poll one agenda task = looked, wait.poll other agenda task = looked' at polled
    cases polled with | @intro progress _ _ same => ?_
    rcases progress with (_ | _) | _ | _
    · -- The wait was given up, has succeeded, goes on or is parked.
      exact .intro (same.release _)
    · exact .intro (same.log _ _ _)
    · exact .intro same
    · exact .intro same

/-- The transport's answer to a message makes no difference. -/
theorem resumeDelivery (envelope : Envelope) (result : Except TransportError Unit) :
    Paired (Echoes extra) (Delivery.resume one envelope result) (Delivery.resume other envelope result) := by
  -- A message that was sent is counted and dropped, and so is one that was not.
  rcases result with error | ⟨⟨⟩⟩
  · exact .intro (((echoes.log _ _ _).count .messageSendFailed nofun).release _)
  · exact .intro ((echoes.count .messageSent nofun).release _)

/-- A delivery that is given up is given up in both. -/
theorem abandonDelivery (envelope : Envelope) (delivery : Delivery) :
    (delivery.abandon one envelope).Echoes extra (delivery.abandon other envelope) := by
  -- What has begun to wait gives up its wait; the message is dropped at each stage.
  cases delivery with
  | awaiting wait => exact (echoes.abandonConnection wait).release _
  | arriving | sending => exact echoes.release _

/-- The queue replaced in both by the same makes no difference. -/
theorem setQueue (queue : Queue.Outgoing) :
    Echoes extra { one with queue } { other with queue } := by
  -- The queue stands beside the telemetry.
  obtain ⟨telemetry, rfl, counted⟩ := echoes
  exact ⟨_, rfl, counted⟩

/-- The dispatcher comes as far. -/
theorem stepDispatcher (agenda : Agenda) (task : TaskId) (dispatcher : Dispatcher) :
    Paired (Echoes extra) (dispatcher.step one agenda task) (dispatcher.step other agenda task) := by
  -- The queue is the same in both, so a step of the receiver ends in the same way.
  cases dispatcher with
  | starting => exact .intro (echoes.log _ _ _)
  | receiving stage =>
    simp only [Dispatcher.step, echoes.queue]
    have received := (echoes.setQueue (one.queue.step task stage).2.1).wake (one.queue.step task stage).2.2
    split
    · exact .intro received
    · exact .intro received
    · exact .intro received
    · exact .intro (received.log _ _ _)
  | delivering envelope delivery =>
    have stepped := echoes.stepDelivery agenda task envelope delivery
    simp only [Dispatcher.step]
    generalize delivery.step one agenda task envelope = ended,
      delivery.step other agenda task envelope = ended' at stepped
    cases stepped with | @intro progress _ _ same => ?_
    cases progress <;> exact .intro same

/-- A dispatcher that is stopped is stopped in both. -/
theorem abandonDispatcher (task : TaskId) (dispatcher : Dispatcher) :
    (dispatcher.abandon one task).Echoes extra (dispatcher.abandon other task) := by
  -- A receiver leaves the line in both queues, which are the same; whoever comes next is woken in both.
  cases dispatcher with
  | starting => exact echoes
  | receiving stage =>
    simp only [Dispatcher.abandon, echoes.queue]
    exact (echoes.setQueue _).wake _
  | delivering envelope delivery => exact echoes.abandonDelivery envelope delivery

/-- A wait of the application comes as far. -/
theorem stepAwaiting (agenda : Agenda) (task : TaskId) (awaiting : Awaiting) :
    Paired (Echoes extra) (awaiting.step one agenda task) (awaiting.step other agenda task) := by
  -- Beginning a wait and looking after it are alike in both connections, and the task goes on by the same
  -- answer.
  cases awaiting with
  | called what timeout =>
    cases what with
    | network =>
      exact (echoes.awaitNetwork agenda task timeout).map fun wait => Progress.next (Awaiting.register .network wait)
    | dateTime =>
      exact (echoes.await agenda task .dateTime _ timeout).map fun wait =>
        Progress.next (Awaiting.register .dateTime wait)
    | disconnection =>
      exact (echoes.await agenda task .cloud _ timeout).map fun wait => Progress.next (Awaiting.register .cloud wait)
    | connection =>
      exact (echoes.startConnection agenda task timeout).map fun wait => Progress.next (Awaiting.connection wait)
  | register name wait =>
    have polled := echoes.poll agenda name wait
    simp only [Awaiting.step, Awaiting.onRegister]
    generalize one.poll agenda name wait = looked, other.poll agenda name wait = looked' at polled
    cases polled with | @intro answer _ _ same => ?_
    cases answer <;> exact .intro same
  | connection wait =>
    have polled := echoes.pollConnection agenda task wait
    simp only [Awaiting.step]
    generalize wait.poll one agenda task = looked, wait.poll other agenda task = looked' at polled
    cases polled with | @intro progress _ _ same => ?_
    cases progress <;> exact .intro same

/-- A wait of the application that is given up is given up in both. -/
theorem abandonAwaiting (awaiting : Awaiting) : (awaiting.abandon one).Echoes extra (awaiting.abandon other) := by
  -- What has not begun holds nothing.
  cases awaiting with
  | called what timeout => exact echoes
  | register name wait => exact echoes.abandon name wait
  | connection wait => exact echoes.abandonConnection wait

end Connection.Echoes

end Uplink
