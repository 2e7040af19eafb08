import Uplink.Proofs.Session.Next

/-!
Whoever works beside the supervisor leaves the clock alone, what the run of the supervisor has come to, and
what the simulated cloud has on record of the calls that connect and disconnect the transport.
-/

namespace Uplink

/-! ### What the cloud has on record -/

namespace Simulated

/-- What a cloud has on record of the calls that connect and disconnect the transport, and the faults that are
planned for such calls. -/
structure Record where
  connects : Nat
  disconnects : Nat
  faults : List (Option TransportError)

/-- The record of a cloud. -/
def Cloud.record (cloud : Cloud) : Record :=
  ⟨cloud.connects, cloud.disconnects, cloud.disconnectFaults⟩

/-- The record after a request: a planned fault comes instead of an entry, and other requests leave none. -/
def Record.after (record : Record) : Request → Record
  | .connectCloud => { record with connects := record.connects + 1 }
  | .disconnectCloud =>
    match record.faults with
    | some _ :: later => { record with faults := later }
    | faults => { record with disconnects := record.disconnects + 1, faults := faults.drop 1 }
  | _ => record

namespace Cloud

variable (cloud : Cloud)

/-- A connect request is entered, whatever comes of it. -/
theorem record_connect : cloud.connect.2.record = cloud.record.after .connectCloud := by
  -- The entry comes first; a planned failure, no setup and a new session differ in the answer.
  simp only [connect]
  split
  · rfl
  · split <;> rfl

/-- A disconnect request is entered, unless a fault was planned for it. -/
theorem record_disconnect : cloud.disconnect.2.record = cloud.record.after .disconnectCloud := by
  -- The record plans for the same faults as the cloud; the next call may have none.
  cases planned : cloud.disconnectFaults with
  | nil => simp [disconnect, Record.after, record, planned]
  | cons fault later => cases fault <;> simp [disconnect, Record.after, record, planned]

/-- Setting the transport up leaves no entry. -/
@[simp] theorem record_init (enrolment : Enrolment) : (cloud.init enrolment).2.record = cloud.record := by
  -- Set up for the first time or again, it writes nothing down.
  unfold init
  split <;> rfl

/-- Publishing a shadow leaves no entry. -/
@[simp] theorem record_publish (status : ShadowStatus) : (cloud.publish status).2.record = cloud.record := by
  -- Planned faults of publishing are no matter of the record.
  simp only [publish]
  split
  · rfl
  · split <;> rfl

/-- Sending a message leaves no entry. -/
@[simp] theorem record_send (handle : Handle) (message : Message) :
    (cloud.send handle message).2.record = cloud.record := by
  -- Neither are those of sending.
  simp only [send]
  split
  · rfl
  · split
    · rfl
    · split <;> rfl

end Cloud

end Simulated

/-- The call of the transport that an action makes in the supervisor's stead, if it makes one. -/
def Action.transportCall? : Action → Option Request
  | .connectTransport => some .connectCloud
  | .disconnectTransport => some .disconnectCloud
  | _ => none

namespace Session

/-! ### What is left alone -/

/-- What others than the supervisor leave alone. -/
structure Mark where
  now : Nat
  outcome : Option RunOutcome
  record : Simulated.Record

/-- The clock, what the run of the supervisor has come to, and the record of the cloud. -/
def mark (session : Session) : Mark :=
  ⟨session.agenda.now, session.outcome, session.cloud.record⟩

variable (session : Session) (task : TaskId)

/-- A task that is given a job leaves the mark. -/
@[simp] theorem mark_setJob (job : Job) : (session.setJob task job).mark = session.mark := by
  -- The tasks are no part of the mark.
  rw [mark, setJob_eq]
  rfl

/-- A task that waits to be woken leaves the mark. -/
@[simp] theorem mark_park (job : Job) : (session.park task job).mark = session.mark := by
  -- The tasks and the line are no part of the mark.
  rw [mark, park, setJob_eq]
  rfl

/-- A task that ends leaves the mark. -/
@[simp] theorem mark_finish : (session.finish task).mark = session.mark := rfl

/-- A change of the connection leaves the mark. -/
@[simp] theorem mark_mapConnection (change : Connection → Connection) :
    (session.mapConnection change).mark = session.mark := rfl

/-- A report of another task leaves the mark. -/
@[simp] theorem mark_report (label : Nat) (answer : Bool) : (session.report label answer).mark = session.mark := rfl

/-- A message that is sent leaves the mark. -/
@[simp] theorem mark_send (handle : Handle) (message : Message) :
    (session.send handle message).2.mark = session.mark :=
  -- The record of the cloud is the only part of the mark that could change.
  congrArg (Mark.mk session.agenda.now session.outcome) (session.cloud.record_send handle message)

/-- The modem that is asked to connect leaves the mark. -/
@[simp] theorem mark_connectModem : session.connectModem.2.mark = session.mark := by
  -- The modem answers with an error, or attaches now, later, or not at all.
  unfold connectModem
  split
  rename_i result modem asked
  cases result with
  | error error => rfl
  | ok _ =>
    dsimp only
    split
    · rfl
    · split <;> rfl

/-- The mark with an entry of a call, if one was made. -/
def Mark.enter (mark : Mark) (call : Option Request) : Mark :=
  { mark with record := call.elim mark.record mark.record.after }

/-- The transport that is asked to connect has an entry for that in the mark. -/
theorem mark_connectTransport : session.connectTransport.2.mark = session.mark.enter (some .connectCloud) := by
  -- The events that follow reach the connection or a task of their own, and the mark shows neither.
  have entered := session.cloud.record_connect
  unfold connectTransport
  split
  rename_i result cloud asked
  rw [asked] at entered
  have marked : { session with cloud }.mark = session.mark.enter (some .connectCloud) :=
    congrArg (Mark.mk session.agenda.now session.outcome) entered
  cases result with
  | error error => exact marked
  | ok events =>
    dsimp only
    split <;> exact marked

/-- The transport that is asked to disconnect has an entry for that in the mark. -/
theorem mark_disconnectTransport :
    session.disconnectTransport.2.mark = session.mark.enter (some .disconnectCloud) :=
  -- The record of the cloud is the only part of the mark that changes.
  congrArg (Mark.mk session.agenda.now session.outcome) session.cloud.record_disconnect

/-- The transport that is set up leaves the mark. -/
theorem mark_initTransport : session.initTransport.2.mark = session.mark :=
  -- The record of the cloud is the only part of the mark that could change.
  congrArg (Mark.mk session.agenda.now session.outcome) (session.cloud.record_init session.enrolment)

/-- A shadow that is published leaves the mark. -/
theorem mark_publishStatus (status : ShadowStatus) : (session.publishStatus status).2.mark = session.mark :=
  -- The record of the cloud is the only part of the mark that could change.
  congrArg (Mark.mk session.agenda.now session.outcome) (session.cloud.record_publish status)

/-- A reply leaves the mark, but for an entry of the request. -/
theorem mark_reply (request : Request) : (session.reply request).2.mark = session.mark.enter (some request) := by
  -- One case for each request; those that the record does not list leave it as it is.
  cases request with
  | connectNetwork => exact mark_connectModem session
  | connectCloud => exact mark_connectTransport session
  | disconnectCloud => exact mark_disconnectTransport session
  | transportInit => exact mark_initTransport session
  | publishShadow => exact mark_publishStatus session _
  | modemInit | registerClock | requestPsm | enableEvents => rfl

/-- A link event that the device hears of leaves the mark. -/
@[simp] theorem mark_emitLink (event : LinkEvent) : (session.emitLink event).2.mark = session.mark := by
  -- A modem that was not set up raises nothing; otherwise the connection changes.
  unfold emitLink
  split <;> rfl

/-- A step that leads on leaves the mark. -/
theorem mark_carryOn_next {stepped : Supervisor.Stepped} {onward : Supervisor.Run}
    (leads : stepped.1 = .next onward) : (session.carryOn task stepped).mark = session.mark := by
  -- The step gives the task its next job.
  obtain ⟨progress, supervisor⟩ := stepped
  obtain rfl : progress = .next onward := leads
  exact mark_setJob _ _ _

/-- A wait leaves the mark. -/
theorem mark_carryOn_parked {stepped : Supervisor.Stepped} {run : Supervisor.Run}
    (waits : stepped.1 = .parked run) : (session.carryOn task stepped).mark = session.mark := by
  -- The step has the task wait in its place.
  obtain ⟨progress, supervisor⟩ := stepped
  obtain rfl : progress = .parked run := waits
  exact mark_park _ _ _

/-- A turn of another task leaves the mark. -/
theorem mark_turnOf {job : Job} (other : ∀ run, job ≠ .supervise run) :
    (session.turnOf task job).mark = session.mark := by
  -- One case for each job; each of its steps gives the task another job, parks it or ends it.
  cases job with
  | supervise run => exact absurd rfl (other run)
  | dispatch dispatcher =>
    simp only [turnOf, turnOfDispatcher]
    split
    · simp
    · split
      · exact mark_setJob _ _ _
      · exact mark_park _ _ _
      · rfl
  -- A message that is sent is no call of the connection cycle.
  | deliver label envelope delivery =>
    simp only [turnOf, turnOfDelivery]
    split
    · exact mark_send session envelope.handle envelope.message
    · split <;> simp
  | await label awaiting =>
    simp only [turnOf, turnOfAwaiting]
    split <;> simp
  | attach clock => rfl
  | raise pause events =>
    cases events with
    | nil => rfl
    | cons event later =>
      simp only [turnOf]
      split <;> simp
  | sample interval stage =>
    cases stage with
    | arriving => simp [turnOf, turnOfSampling]
    | awaiting wait =>
      simp only [turnOf, turnOfSampling]
      split <;> simp
    | taking number => simp [turnOf, turnOfSampling, takeSample]
  | flap interval lost =>
    simp only [turnOf, turnOfFlapping, mark_setJob, mark_emitLink]
    rfl
  | rest span later => simp [turnOf]
  | resting due later =>
    simp only [turnOf]
    split <;> simp

/-- The last turn of another task leaves the mark. -/
theorem mark_lastTurnOf {job : Job} (other : ∀ run, job ≠ .supervise run) :
    (session.lastTurnOf task job).mark = session.mark := by
  -- Only the last turn of a run notes an outcome, and this is none.
  cases job with
  | supervise run => exact absurd rfl (other run)
  | sample interval stage => cases stage <;> rfl
  | dispatch _ | deliver _ _ _ | await _ _ | raise _ _ | attach _ | flap _ _ | rest _ _ | resting _ _ => rfl

/-- What is done from outside leaves the mark, but for an entry of a call that is made in the supervisor's
stead. -/
theorem mark_perform {action : Action} {clears : Bool} (aside : action.Aside clears) :
    (session.perform action).2.mark = session.mark.enter action.transportCall? := by
  -- The clock is not set from outside, nor is how the run has ended; the record shows the calls alone.
  cases action with
  | start | stop | publish => exact aside.elim
  | emit event | dropSession =>
    simp only [perform, emit]
    split <;> rfl
  | emitLink event => exact mark_emitLink session event
  | emitDateTime isValid =>
    simp only [perform, emitDateTime]
    split <;> rfl
  | connectTransport => exact mark_connectTransport session
  | disconnectTransport => exact mark_disconnectTransport session
  | initTransport => exact mark_initTransport session
  | publishStatus status => exact mark_publishStatus session status
  | send handle message => exact mark_send session handle message
  | connectModem => exact mark_connectModem session
  | cancel label =>
    simp only [perform]
    split
    · rfl
    · unfold stop
      split
      · rfl
      · exact congrArg (Mark.mk · session.outcome session.cloud.record) (Agenda.wake_now _ _)
  | tryReceive key =>
    simp only [perform]
    split <;> rfl
  | dispatch label =>
    simp only [perform]
    split <;> rfl
  | link _ | cloud _ | dateTime _ | requestDisconnect | enqueue _ _ _ | post _ _ | reset _ | startDispatcher
  | closeQueue | release _ | registerHandler _ | await _ _ _ | buildShadow | initModem | requestPsm _ | enableEvents
  | registerClock => rfl

/-- A turn takes no time, whoever takes it. -/
theorem now_turn {session next : Session} (turned : session.turn? = some next) :
    next.agenda.now = session.agenda.now := by
  -- Waking those who are left to be woken takes none either.
  have flushed (after : Session) : after.flush.agenda.now = after.agenda.now := Agenda.wakeAll_now _ _
  obtain ⟨task, rest, -, turn⟩ := turn_of_turned turned
  cases turn with
  | gone absent => rfl
  | @last entry found stopped =>
    rw [flushed]
    -- A run may set its outcome, which is a part of the mark, but no clock.
    by_cases supervises : ∃ run, entry.job = .supervise run
    · obtain ⟨run, job⟩ := supervises
      rw [job]
      simp only [lastTurnOf]
      split <;> rfl
    · exact congrArg Mark.now (mark_lastTurnOf session task fun run same => supervises ⟨run, same⟩)
  | @next entry found onward =>
    rw [flushed]
    let opened := session.within entry.job.spans
    show (opened.turnOf task entry.job).agenda.now = opened.agenda.now
    by_cases supervises : ∃ run, entry.job = .supervise run
    · obtain ⟨run, job⟩ := supervises
      rw [job]
      simp only [turnOf, turnOfRun]
      split
      · exact (carryOn_now _ _ _).trans (congrArg Mark.now (mark_reply opened _))
      · exact carryOn_now _ _ _
    · exact congrArg Mark.now (mark_turnOf opened task fun run same => supervises ⟨run, same⟩)

end Session

end Uplink
