import Uplink.Proofs.Session.Next
import Uplink.Proofs.Strays

/-! Whoever works in a session beside the supervisor writes no entry about a stray event. -/

namespace Uplink.Session

open Flags (Timeout Wait)

/-- Writing entries in other spans writes none. -/
@[simp] theorem strays_within (session : Session) (spans : List Span) :
    (session.within spans).connection.strays = session.connection.strays := rfl

/-- Waking tasks writes no entry. -/
@[simp] theorem strays_flush (session : Session) : session.flush.connection.strays = session.connection.strays :=
  -- Waking is a matter of the line.
  rfl

/-- A task that waits to be woken writes no entry. -/
@[simp] theorem strays_park (session : Session) (task : TaskId) (job : Job) :
    (session.park task job).connection.strays = session.connection.strays :=
  -- The tasks are no part of the connection.
  congrArg Connection.strays (setJob_connection session task job)

/-- A task that ends writes no entry. -/
@[simp] theorem strays_finish (session : Session) (task : TaskId) :
    (session.finish task).connection.strays = session.connection.strays := rfl

/-- A change of the connection that writes no such entry. -/
@[simp] theorem strays_mapConnection (session : Session) (change : Connection → Connection) :
    (session.mapConnection change).connection.strays = (change session.connection).strays := rfl

/-- A step of the supervisor leaves the entries that it has written. -/
@[simp] theorem strays_carryOn (session : Session) (task : TaskId) (stepped : Supervisor.Stepped) :
    (session.carryOn task stepped).connection.strays = stepped.2.connection.strays := by
  -- The connection after the step is that of the supervisor that has taken it.
  rw [connection, carryOn_supervisor]

/-- The modem that is asked to connect speaks of its registration at most. -/
@[simp] theorem strays_connectModem (session : Session) :
    session.connectModem.2.connection.strays = session.connection.strays := by
  unfold connectModem
  split
  rename_i result modem asked
  -- Only a modem that attaches at once is heard, and it has a lemma.
  cases result with
  | error error => rfl
  | ok _ =>
    dsimp only
    split
    · rfl
    · split
      · exact Connection.strays_attached _ _
      · rfl

/-- The transport that is asked to connect speaks of its events at most. -/
@[simp] theorem strays_connectTransport (session : Session) :
    session.connectTransport.2.connection.strays = session.connection.strays := by
  unfold connectTransport
  split
  rename_i result cloud asked
  -- Only the events that come at once are heard, and they have a lemma.
  cases result with
  | error error => rfl
  | ok events =>
    dsimp only
    split
    · exact Connection.strays_onCloudEvents _ _
    · rfl

/-- A reply of the modem or the transport is about no stray event. -/
@[simp] theorem strays_reply (session : Session) (request : Request) :
    (session.reply request).2.connection.strays = session.connection.strays := by
  -- Two requests are heard of; the others only change the modem or the cloud.
  cases request with
  | connectNetwork => exact strays_connectModem session
  | connectCloud => exact strays_connectTransport session
  | modemInit | registerClock | transportInit | requestPsm | enableEvents | publishShadow | disconnectCloud =>
    rfl

/-- An event of the cloud that the device hears of is about no stray event. -/
@[simp] theorem strays_emit (session : Session) (event : CloudEvent) :
    (session.emit event).2.connection.strays = session.connection.strays := by
  -- A transport that was not set up raises nothing.
  unfold emit
  split <;> simp

/-- A link event that the device hears of is about no stray event. -/
@[simp] theorem strays_emitLink (session : Session) (event : LinkEvent) :
    (session.emitLink event).2.connection.strays = session.connection.strays := by
  -- A modem that was not set up raises nothing.
  unfold emitLink
  split <;> simp

/-- A report of the clock that the device hears of is about no stray event. -/
@[simp] theorem strays_emitDateTime (session : Session) (isValid : Bool) :
    (session.emitDateTime isValid).2.connection.strays = session.connection.strays := by
  -- Without a clock that was registered nothing is reported.
  unfold emitDateTime
  split <;> simp

/-- A temperature sample is about no stray event. -/
@[simp] theorem strays_takeSample (session : Session) (number : Nat) :
    (session.takeSample number).connection.strays = session.connection.strays := by
  -- Queued or not, the sample is at most logged, under another name.
  unfold takeSample
  dsimp only
  split <;> simp

/-- A turn of the dispatcher speaks of no stray event. -/
theorem strays_turnOfDispatcher (session : Session) (task : TaskId) (dispatcher : Dispatcher) :
    (session.turnOfDispatcher task dispatcher).connection.strays = session.connection.strays := by
  unfold turnOfDispatcher
  split
  · simp only [setJob_connection, strays_mapConnection, Connection.strays_resumeDelivery]
    rfl
  · -- Every other step goes on at once, or parks, or ends.
    have same := session.connection.strays_stepDispatcher session.agenda task dispatcher
    rcases stepped : dispatcher.step session.connection session.agenda task with ⟨progress, connection⟩
    rw [stepped] at same
    cases progress with
    | next further => simpa using same
    | parked further => simpa using same
    | done answer => exact same

/-- A turn of a delivery speaks of no stray event. -/
theorem strays_turnOfDelivery (session : Session) (task : TaskId) (label : Nat) (envelope : Envelope)
    (delivery : Delivery) :
    (session.turnOfDelivery task label envelope delivery).connection.strays = session.connection.strays := by
  unfold turnOfDelivery
  split
  · exact Connection.strays_resumeDelivery _ _ _
  · -- The connection after the step is that of the delivery, whatever comes next.
    have same := session.connection.strays_stepDelivery session.agenda task envelope delivery
    rcases stepped : delivery.step session.connection session.agenda task envelope with ⟨progress, connection⟩
    rw [stepped] at same
    cases progress with
    | next further => simpa using same
    | parked further => simpa using same
    | done answer => exact same

/-- A turn of a wait of the application speaks of no stray event. -/
theorem strays_turnOfAwaiting (session : Session) (task : TaskId) (label : Nat) (awaiting : Awaiting) :
    (session.turnOfAwaiting task label awaiting).connection.strays = session.connection.strays := by
  unfold turnOfAwaiting
  -- The connection after the step is that of the wait, whatever comes next.
  have same := session.connection.strays_stepAwaiting session.agenda task awaiting
  rcases stepped : awaiting.step session.connection session.agenda task with ⟨progress, connection⟩
  rw [stepped] at same
  cases progress with
  | next further => simpa using same
  | parked further => simpa using same
  | done answer => exact same

/-- A turn of another task than the supervisor's speaks of no stray event. -/
theorem strays_turnOf (session : Session) (task : TaskId) {job : Job} (other : ∀ run, job ≠ .supervise run) :
    (session.turnOf task job).connection.strays = session.connection.strays := by
  -- One case for each job, and for where it stands if that makes a difference.
  cases job with
  | supervise run => exact absurd rfl (other run)
  | dispatch dispatcher => exact strays_turnOfDispatcher _ _ _
  | deliver label envelope delivery => exact strays_turnOfDelivery _ _ _ _ _
  | await label awaiting => exact strays_turnOfAwaiting _ _ _ _
  | attach clock => exact Connection.strays_attached _ _
  | raise pause events =>
    cases events with
    | nil => rfl
    | cons event later =>
      have raised := session.connection.strays_onCloudEvent event
      simp only [turnOf]
      split
      · exact raised
      · rw [setJob_connection]
        exact raised
  -- A sample waits for the time, is taken, and goes to the queue.
  | sample interval stage =>
    cases stage with
    | arriving =>
      simp only [turnOf, turnOfSampling, setJob_connection]
      exact session.connection.strays_awaitDateTime session.agenda task .forever
    | awaiting wait =>
      have looked := session.connection.strays_poll session.agenda .dateTime wait
      simp only [turnOf, turnOfSampling]
      split
      · rw [strays_park]
        exact looked
      · rw [setJob_connection]
        exact looked
    | taking number => simp [turnOf, turnOfSampling]
  | flap interval lost =>
    simp only [turnOf, turnOfFlapping, setJob_connection, strays_emitLink, strays_mapConnection]
    cases lost <;> exact Connection.strays_log _ _ (by decide) _
  | rest span later => simp [turnOf]
  | resting due later =>
    simp only [turnOf]
    split <;> simp

/-- The last turn of a task that was stopped speaks of no stray event. -/
theorem strays_lastTurnOf (session : Session) (task : TaskId) {job : Job} (other : ∀ run, job ≠ .supervise run) :
    (session.lastTurnOf task job).connection.strays = session.connection.strays := by
  -- Each job gives up what it waits for, and giving up writes nothing.
  cases job with
  | supervise run => exact absurd rfl (other run)
  | dispatch dispatcher => exact Connection.strays_abandonDispatcher _ _ _
  | deliver label envelope delivery => exact Connection.strays_abandonDelivery _ _ _
  | await label awaiting => exact Connection.strays_abandonAwaiting _ _
  | sample interval stage =>
    cases stage with
    | awaiting wait => exact session.connection.strays_abandon .dateTime wait
    | arriving | taking number => rfl
  | raise _ _ | attach _ | flap _ _ | rest _ _ | resting _ _ => rfl

/-- What is done from outside speaks of no stray event. -/
theorem strays_perform (session : Session) {action : Action} {clears : Bool} (aside : action.Aside clears) :
    (session.perform action).2.connection.strays = session.connection.strays := by
  -- What others do to the connection was seen to above; the rest writes no entry.
  cases action with
  | start | stop | publish => exact aside.elim
  | link event => exact Connection.strays_onLinkEvent _ _
  | cloud event => exact Connection.strays_onCloudEvent _ _
  | dateTime isValid => exact Connection.strays_onDateTime _ _
  | emit event => exact strays_emit _ _
  | dropSession => exact strays_emit _ _
  | emitLink event => exact strays_emitLink _ _
  | emitDateTime isValid => exact strays_emitDateTime _ _
  | requestDisconnect => exact Connection.strays_requestDisconnect _
  | enqueue handle message mode => exact Connection.strays_enqueue _ _ _ _
  | post name mask => exact Connection.strays_post _ _ _
  | reset name => exact Connection.strays_clear _ _
  | connectTransport => exact strays_connectTransport _
  | connectModem => exact strays_connectModem _
  -- Whether a task is found makes no difference.
  | cancel label =>
    simp only [perform]
    split
    · rfl
    · unfold stop
      split <;> rfl
  | tryReceive key =>
    simp only [perform]
    split <;> rfl
  | dispatch label =>
    simp only [perform]
    split <;> rfl
  | startDispatcher | closeQueue | release _ | registerHandler _ | await _ _ _ | buildShadow | initTransport
  | disconnectTransport | send _ _ | publishStatus _ | initModem | requestPsm _ | enableEvents | registerClock =>
    rfl

end Uplink.Session
