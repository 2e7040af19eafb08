import Uplink.Proofs.Session.Jobs

/-! Stray events: the journal's entries about events that the phase did not have. Only the supervisor could
write one. -/

namespace Uplink

open Flags (Condition Timeout Wait)

namespace Connection

variable (connection : Connection) (agenda : Agenda) (task : TaskId)

/-- How many entries say that the phase did not have an event. -/
def strays : Nat :=
  connection.telemetry.entries.countP (·.message = "Ignoring invalid phase transition")

/-! ### Nobody who works on the connection writes such an entry -/

/-- An entry with another text is about no stray event. -/
@[simp] theorem strays_log (level : Level) {text : String}
    (other : text ≠ "Ignoring invalid phase transition") (fields : Fields) :
    (connection.log level text fields).strays = connection.strays :=
  -- The entry is not among those that are counted.
  List.countP_cons_of_neg fun same => other (of_decide_eq_true same)

/-- Counting writes no entry. -/
@[simp] theorem strays_count (event : Metrics.Count) : (connection.count event).strays = connection.strays := rfl

/-- Replacing a register writes no entry. -/
@[simp] theorem strays_setRegister (name : RegisterName) (register : Flags.Register) :
    (connection.setRegister name register).strays = connection.strays := by
  -- Registers are no part of the log.
  cases name <;> rfl

/-- Leaving tasks to be woken writes no entry. -/
@[simp] theorem strays_wake (tasks : List TaskId) : (connection.wake tasks).strays = connection.strays := rfl

/-- What is raised is logged as such. -/
@[simp] theorem strays_post (name : RegisterName) (mask : UInt32) :
    (connection.post name mask).strays = connection.strays := by
  -- Raising writes an entry of its own.
  simp [post]

/-- What is cleared is logged as such. -/
@[simp] theorem strays_clear (name : RegisterName) : (connection.clear name).strays = connection.strays := by
  -- Clearing writes an entry of its own.
  simp [clear]

/-- To ask for a disconnect is to raise a bit. -/
@[simp] theorem strays_requestDisconnect : connection.requestDisconnect.strays = connection.strays :=
  -- The disconnect is one bit of the cloud register.
  strays_post _ _ _

/-- A downloaded firmware image is logged as such, if at all. -/
@[simp] theorem strays_onFirmware (kind : Option FirmwareKind) :
    (connection.onFirmware kind).strays = connection.strays := by
  -- Without a handler nothing is written.
  unfold onFirmware
  split
  · rfl
  · simp

/-- A message from the cloud is logged as such, if at all. -/
@[simp] theorem strays_onInbound (payload : ByteArray) :
    (connection.onInbound payload).strays = connection.strays := by
  -- Without a handler nothing is written; the two other cases write entries of their own.
  unfold onInbound
  split
  · rfl
  · simp
  · simp

/-- A device that was added to an account is logged as such. -/
@[simp] theorem strays_onAssociated : connection.onAssociated.strays = connection.strays := by
  -- With an open request the disconnect bit is raised behind the entry.
  unfold onAssociated
  split
  · simp
  · rfl

/-- An event of the cloud is logged as such. -/
@[simp] theorem strays_onCloudEvent (event : CloudEvent) :
    (connection.onCloudEvent event).strays = connection.strays := by
  -- One case for each event, each with entries of its own.
  cases event <;> simp [onCloudEvent]

/-- Events of the cloud are logged as such. -/
@[simp] theorem strays_onCloudEvents (events : List CloudEvent) :
    (events.foldl onCloudEvent connection).strays = connection.strays := by
  -- Induction on the events.
  induction events generalizing connection with
  | nil => rfl
  | cons event later ih => exact (ih _).trans (strays_onCloudEvent connection event)

/-- What the modem says of its registration is logged as such. -/
@[simp] theorem strays_onRegistration (status : Registration) :
    (connection.onRegistration status).strays = connection.strays := by
  -- A registered standing raises a bit, and any other clears one, with a disconnect or without.
  unfold onRegistration
  split
  · simp
  · dsimp only
    split <;> simp

/-- An event of the radio link is logged as such. -/
@[simp] theorem strays_onLinkEvent (event : LinkEvent) :
    (connection.onLinkEvent event).strays = connection.strays := by
  -- One case for each event, each with entries of its own.
  cases event <;> simp [onLinkEvent]

/-- A report of the clock is logged as such, if at all. -/
@[simp] theorem strays_onDateTime (isValid : Bool) :
    (connection.onDateTime isValid).strays = connection.strays := by
  -- Only a time that is known is written down.
  cases isValid <;> simp [onDateTime]

/-- A modem that attaches is logged as such. -/
@[simp] theorem strays_attached (clock : Bool) :
    (Session.attached clock connection).strays = connection.strays := by
  -- Attaching is heard as a registration, with a report of the clock or without.
  cases clock <;> simp [Session.attached]

/-- A message that is offered to the queue is logged as such, if at all. -/
@[simp] theorem strays_enqueue (message : Message) (handle : Handle) (mode : HoldMode) :
    (connection.enqueue message handle mode).2.strays = connection.strays := by
  -- Whether the message is offered to the channel, and what the queue says, are logged at most.
  simp only [enqueue, strays_wake]
  generalize (connection.queue.enqueue message handle mode).1 = result
  unfold strays Telemetry.noteEnqueue
  split <;> rcases result with (_ | _ | _) | _ <;> simp [Telemetry.log, Telemetry.count]

/-- A queue that is closed writes no entry. -/
@[simp] theorem strays_closeQueue : connection.closeQueue.strays = connection.strays := rfl

/-- A message that is released writes no entry. -/
@[simp] theorem strays_release (envelope : Envelope) :
    (connection.release envelope).strays = connection.strays := rfl

/-- Beginning a wait writes no entry. -/
@[simp] theorem strays_await (name : RegisterName) (condition : Condition) (timeout : Timeout) :
    (connection.await agenda task name condition timeout).2.strays = connection.strays :=
  -- Only the register changes.
  strays_setRegister _ _ _

/-- Looking after a wait writes no entry. -/
@[simp] theorem strays_poll (name : RegisterName) (wait : Wait) :
    (connection.poll agenda name wait).2.strays = connection.strays :=
  -- Only the register changes.
  strays_setRegister _ _ _

/-- Giving a wait up writes no entry. -/
@[simp] theorem strays_abandon (name : RegisterName) (wait : Wait) :
    (connection.abandon name wait).strays = connection.strays :=
  -- Only the register changes.
  strays_setRegister _ _ _

/-- Whether the shadow was published is logged as such. -/
@[simp] theorem strays_notePublish (result : Except TransportError Unit) :
    (connection.notePublish result).strays = connection.strays := by
  -- One entry for a failure, and one for a success.
  rcases result with error | ⟨⟨⟩⟩ <;> simp [notePublish]

/-- Beginning to wait for the network is logged as such. -/
@[simp] theorem strays_awaitNetwork (timeout : Timeout) :
    (connection.awaitNetwork agenda task timeout).2.strays = connection.strays := by
  -- The entry comes before the wait.
  simp [awaitNetwork]

/-- Beginning to wait for the transport is logged as such. -/
@[simp] theorem strays_awaitCloud (timeout : Timeout) :
    (connection.awaitCloud agenda task timeout).2.strays = connection.strays := by
  -- The entry comes before the wait.
  simp [awaitCloud]

/-- Beginning to wait for the session to be ready is logged as such. -/
@[simp] theorem strays_awaitReady (timeout : Timeout) (orDropped : Bool) :
    (connection.awaitReady agenda task timeout orDropped).2.strays = connection.strays := by
  -- The entry comes before the wait.
  simp [awaitReady]

/-- Beginning to wait for the session to drop writes no entry. -/
@[simp] theorem strays_awaitDisconnection (timeout : Timeout) :
    (connection.awaitDisconnection agenda task timeout).2.strays = connection.strays :=
  -- The wait is on one register, with no entry before it.
  strays_await _ _ _ _ _ _

/-- Beginning to wait for the date and the time writes no entry. -/
@[simp] theorem strays_awaitDateTime (timeout : Timeout) :
    (connection.awaitDateTime agenda task timeout).2.strays = connection.strays :=
  -- The wait is on one register, with no entry before it.
  strays_await _ _ _ _ _ _

/-! ### The parts that wait for the connection -/

/-- What is found as a wait is looked after leaves the entries as they are. -/
theorem strays_looked {name : RegisterName} {wait : Wait} {answer : Option UInt32} {after : Connection}
    (looked : connection.poll agenda name wait = (answer, after)) : after.strays = connection.strays := by
  -- Looking writes nothing, whatever it finds.
  have same := connection.strays_poll agenda name wait
  rwa [looked] at same

/-- Looking after a wait for a connection is logged as such, if at all. -/
@[simp] theorem strays_pollConnection (wait : ConnectionWait) :
    (wait.poll connection agenda task).2.strays = connection.strays := by
  cases wait with
  | network timeout wait =>
    simp only [ConnectionWait.poll]
    split
    · rename_i looked
      exact connection.strays_looked agenda looked
    · rename_i looked
      have same := connection.strays_looked agenda looked
      split
      · exact same
      · -- With the network there the wait for the session begins, and that is logged.
        exact (strays_awaitReady _ _ _ _ _).trans same
  | session wait =>
    simp only [ConnectionWait.poll]
    split <;> (rename_i looked; exact connection.strays_looked agenda looked)

/-- Giving a wait for a connection up writes no entry. -/
@[simp] theorem strays_abandonConnection (wait : ConnectionWait) :
    (wait.abandon connection).strays = connection.strays := by
  -- One case for each part, which stands on one register.
  cases wait <;> exact strays_abandon _ _ _

/-- A step of a delivery is logged as such, if at all. -/
@[simp] theorem strays_stepDelivery (envelope : Envelope) (delivery : Delivery) :
    (delivery.step connection agenda task envelope).2.strays = connection.strays := by
  cases delivery with
  | arriving => exact connection.strays_awaitNetwork agenda task .forever
  | sending => rfl
  | awaiting wait =>
    have same := connection.strays_pollConnection agenda task wait
    simp only [Delivery.step]
    -- Only a delivery that goes on to hand its message over is logged.
    split <;> rename_i polled <;> rw [polled] at same
    · exact same
    · exact same
    · exact same
    · simpa using same

/-- The transport's answer to a message is logged as such, if at all. -/
@[simp] theorem strays_resumeDelivery (envelope : Envelope) (result : Except TransportError Unit) :
    (Delivery.resume connection envelope result).2.strays = connection.strays := by
  -- One entry for a failure, and none for a success.
  rcases result with error | ⟨⟨⟩⟩ <;> simp [Delivery.resume]

/-- Giving a delivery up writes no entry. -/
@[simp] theorem strays_abandonDelivery (envelope : Envelope) (delivery : Delivery) :
    (delivery.abandon connection envelope).strays = connection.strays := by
  -- Only a delivery that waits has something to give up beside its envelope.
  cases delivery <;> simp [Delivery.abandon]

/-- A step of the dispatcher is logged as such, if at all. -/
@[simp] theorem strays_stepDispatcher (dispatcher : Dispatcher) :
    (dispatcher.step connection agenda task).2.strays = connection.strays := by
  cases dispatcher with
  | starting => simp [Dispatcher.step]
  | receiving stage =>
    simp only [Dispatcher.step]
    split
    · rfl
    · rfl
    · rfl
    · -- The end of the queue is logged.
      exact (strays_log _ _ (by decide) _).trans rfl
  | delivering envelope delivery =>
    have same := connection.strays_stepDelivery agenda task envelope delivery
    simp only [Dispatcher.step]
    split <;> rename_i stepped <;> rwa [stepped] at same

/-- Stopping the dispatcher writes no entry. -/
@[simp] theorem strays_abandonDispatcher (dispatcher : Dispatcher) :
    (dispatcher.abandon connection task).strays = connection.strays := by
  -- Only a delivery has something to give up that is not in the queue.
  cases dispatcher with
  | starting => rfl
  | receiving stage => rfl
  | delivering envelope delivery => exact strays_abandonDelivery _ _ _

/-- A step of a wait of the application is logged as such, if at all. -/
@[simp] theorem strays_stepAwaiting (awaiting : Awaiting) :
    (awaiting.step connection agenda task).2.strays = connection.strays := by
  cases awaiting with
  -- The call begins one of several waits, with an entry or without.
  | called what timeout => cases what <;> simp [Awaiting.step, ConnectionWait.start]
  | register name wait =>
    simp only [Awaiting.step, Awaiting.onRegister]
    split <;> (rename_i looked; exact connection.strays_looked agenda looked)
  -- A wait for a connection has a lemma for its own steps.
  | connection wait =>
    have same := connection.strays_pollConnection agenda task wait
    simp only [Awaiting.step]
    split <;> rename_i polled <;> rwa [polled] at same

/-- Giving a wait of the application up writes no entry. -/
@[simp] theorem strays_abandonAwaiting (awaiting : Awaiting) :
    (awaiting.abandon connection).strays = connection.strays := by
  -- Only a wait that has begun has something to give up.
  cases awaiting <;> simp [Awaiting.abandon]

end Connection

end Uplink
