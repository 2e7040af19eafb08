import Uplink.Proofs.Session.Hearing
import Uplink.Proofs.Session.Next
import Uplink.Proofs.Supervisor.Alongside

/-!
Two runs of a session side by side: events that inform and events that come again change nothing, at any time, but the
journal and the count of forced disconnects.
-/

namespace Uplink

open Flags (Timeout Wait)

/-- The other session is the same, apart from the journal of its connection and so many more forced disconnects. -/
def Session.Echoes (extra : Nat) (one other : Session) : Prop :=
  ∃ connection : Connection, one.connection.Echoes extra connection ∧ other = one.mapConnection fun _ => connection

namespace Session

/-- Giving a task another job is no matter of the connection. -/
theorem setJob_mapConnection (session : Session) (change : Connection → Connection) (task : TaskId) (job : Job) :
    (session.mapConnection change).setJob task job = (session.setJob task job).mapConnection change := by
  -- A job is given by looking through the tasks, which a change of the connection leaves alone.
  have tasks : ((session.mapConnection change).setJob task job).tasks = (session.setJob task job).tasks := by
    unfold setJob
    dsimp only [mapConnection]
    split
    · rfl
    · split <;> rfl
  rw [setJob_eq, setJob_eq session, tasks]
  rfl

namespace Echoes

variable {one other : Session} {extra : Nat}

/-- A session is the same as itself. -/
theorem refl (session : Session) : Echoes 0 session session :=
  -- The connection echoes itself, and nothing was inserted.
  ⟨session.connection, .refl _, rfl⟩

variable (echoes : one.Echoes extra other) (task : TaskId)
include echoes

/-- The connections are the same, apart from their journals. -/
theorem shared : one.connection.Echoes extra other.connection := by
  -- The other session is the first one with this connection.
  obtain ⟨connection, same, rfl⟩ := echoes
  exact same

/-- Connections that are alike, put in, make no other difference. -/
theorem setConnection {more : Nat} {connection connection' : Connection} (same : connection.Echoes more connection') :
    Echoes more (one.mapConnection fun _ => connection) (other.mapConnection fun _ => connection') := by
  -- The old connection of the other session is overwritten, so it does not matter how much it was ahead.
  obtain ⟨_, -, rfl⟩ := echoes
  exact ⟨connection', same, rfl⟩

/-- The supervisors are the same, apart from their journals. -/
theorem supervisor : one.supervisor.Echoes extra other.supervisor := by
  -- A supervisor is compared by its connection, as a session is.
  obtain ⟨connection, same, rfl⟩ := echoes
  exact ⟨connection, same, rfl⟩

/-- Supervisors that are alike, put in, make no other difference. -/
theorem setSupervisor {supervisor supervisor' : Supervisor} (same : supervisor.Echoes extra supervisor') :
    Echoes extra { one with supervisor } { other with supervisor := supervisor' } := by
  -- The other supervisor is the first one with a connection of its own, and so is the other session.
  obtain ⟨_, -, rfl⟩ := echoes
  obtain ⟨connection, same, rfl⟩ := same
  exact ⟨connection, same, rfl⟩

/-- The agendas are the same. -/
theorem agenda : other.agenda = one.agenda := by
  -- The sessions differ in the connection only.
  obtain ⟨connection, -, rfl⟩ := echoes
  rfl

/-- The clouds are the same. -/
theorem cloud : other.cloud = one.cloud := by
  -- The sessions differ in the connection only.
  obtain ⟨connection, -, rfl⟩ := echoes
  rfl

/-- The modems are the same. -/
theorem modem : other.modem = one.modem := by
  -- The sessions differ in the connection only.
  obtain ⟨connection, -, rfl⟩ := echoes
  rfl

/-- The tasks are the same. -/
theorem tasks : other.tasks = one.tasks := by
  -- The sessions differ in the connection only.
  obtain ⟨connection, -, rfl⟩ := echoes
  rfl

/-- The latest run has ended in the same way, if this was its task. -/
theorem ended (outcome : Option RunOutcome) :
    Echoes extra (if one.runTask = some task then { one with outcome } else one)
      (if other.runTask = some task then { other with outcome } else other) := by
  -- Both look for the same task, so both note the outcome or neither does.
  obtain ⟨connection, same, rfl⟩ := echoes
  have latest : (one.mapConnection fun _ => connection).runTask = one.runTask := rfl
  rw [latest]
  split <;> exact ⟨connection, same, rfl⟩

/-! ### Tasks -/

/-- A task gets the same job in both. -/
theorem setJob (job : Job) : (one.setJob task job).Echoes extra (other.setJob task job) := by
  -- The job is given beside the connection, so the two changes may trade places.
  obtain ⟨connection, same, rfl⟩ := echoes
  refine ⟨connection, ?_, setJob_mapConnection one _ task job⟩
  rwa [setJob_connection]

/-- A task waits to be woken in both. -/
theorem park (job : Job) : (one.park task job).Echoes extra (other.park task job) := by
  -- The job is given in both, and both leave the line in the same way.
  obtain ⟨connection, same, given⟩ := echoes.setJob task job
  refine ⟨connection, same, ?_⟩
  unfold Session.park
  rw [echoes.agenda, given]
  rfl

/-- A task ends in both. -/
theorem finish : (one.finish task).Echoes extra (other.finish task) := by
  -- The tasks are no part of the connection.
  obtain ⟨connection, same, rfl⟩ := echoes
  exact ⟨connection, same, rfl⟩

/-- A task starts in both. -/
theorem spawn (job : Job) : Paired (Echoes extra) (one.spawn job) (other.spawn job) := by
  -- The new task gets the same name in both, since the agendas agree.
  obtain ⟨connection, same, rfl⟩ := echoes
  exact .intro ⟨connection, same, rfl⟩

/-- A task is stopped in both. -/
theorem stop : (one.stop task).Echoes extra (other.stop task) := by
  -- Both find the task or neither does, and what is noted of it is no part of the connection.
  obtain ⟨connection, same, rfl⟩ := echoes
  have tasks : (one.mapConnection fun _ => connection).tasks = one.tasks := rfl
  unfold Session.stop
  rw [tasks]
  split <;> exact ⟨connection, same, rfl⟩

/-- A task reports the same in both. -/
theorem report (label : Nat) (answer : Bool) : (one.report label answer).Echoes extra (other.report label answer) := by
  -- The reports are no part of the connection.
  obtain ⟨connection, same, rfl⟩ := echoes
  exact ⟨connection, same, rfl⟩

/-- The same tasks are woken in both. -/
theorem flush : one.flush.Echoes extra other.flush := by
  -- Whom the connection has woken is the same in both, and is taken out of both.
  obtain ⟨connection, ⟨telemetry, rfl, counted⟩, rfl⟩ := echoes
  exact ⟨_, ⟨telemetry, rfl, counted⟩, rfl⟩

/-- The spans that entries are written in make no difference. -/
theorem within (spans : List Span) : (one.within spans).Echoes extra (other.within spans) := by
  -- The spans are a part of the telemetry, which is where the two may differ.
  obtain ⟨connection, ⟨telemetry, rfl, counted⟩, rfl⟩ := echoes
  exact ⟨_, ⟨telemetry.within spans, rfl, counted⟩, rfl⟩

/-- The same tasks are woken by the clock in both. -/
theorem strike (instant : Nat) : (one.strike instant).Echoes extra (other.strike instant) := by
  -- Time passes on the agenda, and there they agree.
  obtain ⟨connection, same, rfl⟩ := echoes
  exact ⟨connection, same, rfl⟩

/-- The transport takes the same message. -/
theorem send (handle : Handle) (message : Message) :
    Paired (Echoes extra) (one.send handle message) (other.send handle message) := by
  -- The transport is no part of the connection, and answers the same.
  obtain ⟨connection, same, rfl⟩ := echoes
  exact .intro ⟨connection, same, rfl⟩

/-- A run of the supervisor goes on, waits or ends in both. -/
theorem carryOn {stepped stepped' : Supervisor.Stepped}
    (steps : Paired (Supervisor.Echoes extra) stepped stepped') :
    (one.carryOn task stepped).Echoes extra (other.carryOn task stepped') := by
  -- The two steps have come to the same progress, by which the task goes on.
  cases steps with | @intro progress _ _ same => ?_
  have taken := echoes.setSupervisor same
  cases progress with
  | next run => exact taken.setJob task _
  | parked run => exact taken.park task _
  | done error => exact (taken.finish task).ended task _

/-- One turn of a run of the supervisor that waits for no reply. -/
theorem stepRun (run : Supervisor.Run) :
    (one.carryOn task (one.supervisor.step one.agenda task run)).Echoes extra
      (other.carryOn task (other.supervisor.step other.agenda task run)) := by
  -- Both steps begin at the same agenda, from supervisors that are alike.
  rw [echoes.agenda]
  exact echoes.carryOn task (echoes.supervisor.step _ _ _)

/-- One turn of a dispatcher. -/
theorem turnOfDispatcher (dispatcher : Dispatcher) :
    (one.turnOfDispatcher task dispatcher).Echoes extra (other.turnOfDispatcher task dispatcher) := by
  unfold Session.turnOfDispatcher
  -- It sends a message, or takes a step of its own. Both are the same in the two sessions, so the answers
  -- agree and what is left is alike.
  split
  · rename_i envelope
    have sent := echoes.send envelope.handle envelope.message
    generalize one.send envelope.handle envelope.message = answered,
      other.send envelope.handle envelope.message = answered' at sent
    cases sent with | @intro result _ _ same => ?_
    exact (same.setConnection (same.shared.resumeDelivery envelope result).left).setJob task _
  · have stepped := echoes.shared.stepDispatcher one.agenda task dispatcher
    rw [echoes.agenda]
    generalize dispatcher.step one.connection one.agenda task = ended,
      dispatcher.step other.connection one.agenda task = ended' at stepped
    cases stepped with | @intro progress _ _ same => ?_
    have taken := echoes.setConnection same
    cases progress with
    | next dispatcher => exact taken.setJob task _
    | parked dispatcher => exact taken.park task _
    | done answer =>
      obtain ⟨connection, same, finished⟩ := taken.finish task
      simp only [finished]
      exact ⟨connection, same, rfl⟩

/-- One turn of the delivery of one message. -/
theorem turnOfDelivery (label : Nat) (envelope : Envelope) (delivery : Delivery) :
    (one.turnOfDelivery task label envelope delivery).Echoes extra
      (other.turnOfDelivery task label envelope delivery) := by
  unfold Session.turnOfDelivery
  -- The message is sent, or the delivery takes a step of its own.
  split
  · have sent := echoes.send envelope.handle envelope.message
    generalize one.send envelope.handle envelope.message = answered,
      other.send envelope.handle envelope.message = answered' at sent
    cases sent with | @intro result first second same => ?_
    have resumed := same.shared.resumeDelivery envelope result
    dsimp only
    generalize Delivery.resume first.connection envelope result = ended,
      Delivery.resume second.connection envelope result = ended' at resumed
    cases resumed with
    | intro left => exact ((same.setConnection left).report _ _).finish task
  · have stepped := echoes.shared.stepDelivery one.agenda task envelope delivery
    rw [echoes.agenda]
    generalize delivery.step one.connection one.agenda task envelope = ended,
      delivery.step other.connection one.agenda task envelope = ended' at stepped
    -- Whatever it came to, both have come to the same.
    cases stepped with | @intro progress _ _ same => ?_
    have taken := echoes.setConnection same
    cases progress with
    | next delivery => exact taken.setJob task _
    | parked delivery => exact taken.park task _
    | done answer => exact (taken.report _ _).finish task

/-- One turn of a wait of the application. -/
theorem turnOfAwaiting (label : Nat) (awaiting : Awaiting) :
    (one.turnOfAwaiting task label awaiting).Echoes extra (other.turnOfAwaiting task label awaiting) := by
  have stepped := echoes.shared.stepAwaiting one.agenda task awaiting
  unfold Session.turnOfAwaiting
  rw [echoes.agenda]
  -- Only what the two steps have come to matters from here, and it is the same.
  generalize awaiting.step one.connection one.agenda task = ended,
    awaiting.step other.connection one.agenda task = ended' at stepped
  cases stepped with | @intro progress _ _ same => ?_
  have taken := echoes.setConnection same
  cases progress with
  | next awaiting => exact taken.setJob task _
  | parked awaiting => exact taken.park task _
  | done answer => exact (taken.report _ _).finish task

/-- The same temperature sample is queued in both, or in neither. -/
theorem takeSample (number : Nat) : (one.takeSample number).Echoes extra (other.takeSample number) := by
  have queued := echoes.shared.enqueue (sampleMessage one.agenda.now number) number .copy
  unfold Session.takeSample
  rw [echoes.agenda]
  generalize one.connection.enqueue (sampleMessage one.agenda.now number) number .copy = ended,
    other.connection.enqueue (sampleMessage one.agenda.now number) number .copy = ended' at queued
  cases queued with | @intro result _ _ same => ?_
  -- A sample that was not queued is logged in both.
  rcases result with error | ⟨⟨⟩⟩
  · exact echoes.setConnection (same.log _ _ _)
  · exact echoes.setConnection same

/-- One turn of the sampling of the temperature. -/
theorem turnOfSampling (interval : Nat) (stage : Sampling) :
    (one.turnOfSampling task interval stage).Echoes extra (other.turnOfSampling task interval stage) := by
  -- Each stage is one operation on the connection, which is alike in both, followed by the same move of the
  -- task.
  cases stage with
  | arriving =>
    have begun := echoes.shared.await one.agenda task .dateTime (.any DateTime.known) .forever
    simp only [Session.turnOfSampling, Connection.awaitDateTime, echoes.agenda]
    generalize one.connection.await one.agenda task .dateTime (.any DateTime.known) .forever = waits,
      other.connection.await one.agenda task .dateTime (.any DateTime.known) .forever = waits' at begun
    cases begun with
    | intro same => exact (echoes.setConnection same).setJob task _
  | awaiting wait =>
    have polled := echoes.shared.poll one.agenda .dateTime wait
    simp only [Session.turnOfSampling, echoes.agenda]
    generalize one.connection.poll one.agenda .dateTime wait = looked,
      other.connection.poll one.agenda .dateTime wait = looked' at polled
    cases polled with | @intro answer _ _ same => ?_
    cases answer with
    | none => exact (echoes.setConnection same).park task _
    | some bits => exact (echoes.setConnection same).setJob task _
  | taking number => exact (echoes.takeSample number).setJob task _

/-- A run of the supervisor that is given up is given up in both. -/
theorem abandonRun (run : Supervisor.Run) :
    Echoes extra { one with supervisor := one.supervisor.abandon run }
      { other with supervisor := other.supervisor.abandon run } :=
  -- What the run has parked is given up in connections that are alike.
  echoes.setSupervisor (echoes.supervisor.abandon run)

/-- The last turn of a task that was stopped. -/
theorem lastTurnOf (job : Job) : (one.lastTurnOf task job).Echoes extra (other.lastTurnOf task job) := by
  -- What the task was waiting for is given up in both; the other jobs hold nothing.
  have ended := echoes.finish task
  cases job with
  | supervise run => exact (ended.abandonRun run).ended task _
  | dispatch dispatcher => exact ended.setConnection (ended.shared.abandonDispatcher task dispatcher)
  | deliver label envelope delivery => exact ended.setConnection (ended.shared.abandonDelivery envelope delivery)
  | await label awaiting => exact ended.setConnection (ended.shared.abandonAwaiting awaiting)
  | sample interval stage =>
    cases stage with
    | awaiting wait => exact ended.setConnection (ended.shared.abandon .dateTime wait)
    | arriving | taking number => exact ended
  | raise _ _ | attach _ | flap _ _ | rest _ _ | resting _ _ => exact ended

/-! ### Actions -/

/-- A run of the supervisor starts in both. -/
theorem start : one.start.Echoes extra other.start := by
  -- The run begins beside the connection.
  obtain ⟨connection, same, rfl⟩ := echoes
  exact ⟨connection, same, rfl⟩

/-- A dispatcher starts in both. -/
theorem startDispatcher : one.startDispatcher.Echoes extra other.startDispatcher := by
  -- The dispatcher begins beside the connection.
  obtain ⟨connection, same, rfl⟩ := echoes
  exact ⟨connection, same, rfl⟩

/-- The latest run is stopped in both. -/
theorem stopRun : ((one.runTask.map one.stop).getD one).Echoes extra ((other.runTask.map other.stop).getD other) := by
  -- The latest run has the same name in both.
  have latest : other.runTask = one.runTask := by
    obtain ⟨connection, -, rfl⟩ := echoes
    rfl
  rw [latest]
  cases one.runTask with
  | none => exact echoes
  | some task => exact echoes.stop task

/-- The same handler is registered in both. -/
theorem registerHandler (handler : Option InboundHandler) :
    Echoes extra (one.mapConnection ({ · with inboundHandler := handler }))
      (other.mapConnection ({ · with inboundHandler := handler })) := by
  -- Handlers are a field that the two connections share.
  obtain ⟨connection, ⟨telemetry, rfl, counted⟩, rfl⟩ := echoes
  exact ⟨_, ⟨telemetry, rfl, counted⟩, rfl⟩

/-- The same task has the label. -/
theorem labelled? (label : Nat) : other.labelled? label = one.labelled? label := by
  -- The labels are looked up among the tasks.
  obtain ⟨connection, -, rfl⟩ := echoes
  rfl

/-- The same message is taken out of both queues. -/
theorem tryReceive : Paired (Echoes extra) one.tryReceive other.tryReceive := by
  -- The queues are the same, so what is taken is too.
  unfold Session.tryReceive
  rw [echoes.shared.queue]
  exact .intro (echoes.setConnection (echoes.shared.setQueue _))

/-- What is kept changes together with the queue, in both. -/
theorem mapKept (change : Queue.Kept → Queue.Outgoing → Queue.Kept × Queue.Outgoing) :
    (one.mapKept change).Echoes extra (other.mapKept change) := by
  -- The queue and what is kept agree in both, and the change is given nothing else.
  obtain ⟨connection, ⟨telemetry, rfl, counted⟩, rfl⟩ := echoes
  exact ⟨_, ⟨telemetry, rfl, counted⟩, rfl⟩

/-- The same is kept. -/
theorem kept : other.kept = one.kept := by
  -- The sessions differ in the connection only.
  obtain ⟨connection, -, rfl⟩ := echoes
  rfl

/-- The same shadow is published. -/
theorem publishStatus (status : ShadowStatus) :
    Paired (Echoes extra) (one.publishStatus status) (other.publishStatus status) := by
  -- The cloud answers the same, and its answer is no part of the connection.
  obtain ⟨connection, same, rfl⟩ := echoes
  exact .intro ⟨connection, same, rfl⟩

/-- The shadow is the same. -/
theorem shadow : other.shadow = one.shadow := by
  -- The sessions differ in the connection only.
  obtain ⟨connection, -, rfl⟩ := echoes
  rfl

/-- The shadow is published in both, or in neither. -/
theorem publish : Paired (Echoes extra) one.publish other.publish := by
  -- The answer is noted in the telemetry of both.
  have published := echoes.publishStatus one.shadow
  unfold Session.publish
  rw [echoes.shadow]
  generalize one.publishStatus one.shadow = answered, other.publishStatus one.shadow = answered' at published
  cases published with
  | intro same => exact .intro (same.setConnection (same.shared.notePublish _))

/-! ### With any answer -/

/-- One turn of a task with an answer to what it has asked for; it is no answer in either, or in both. -/
theorem turnWith? (job : Job) (response : Response) :
    (one.turnWith? task job response = none ∧ other.turnWith? task job response = none) ∨
      ∃ next next', one.turnWith? task job response = some next ∧
        other.turnWith? task job response = some next' ∧ next.Echoes extra next' := by
  -- Whether an answer fits is seen from the job alone; what it leads to is alike, case by case.
  unfold Session.turnWith?
  split
  · -- The supervisor goes on with the reply to its request.
    split
    · rw [echoes.agenda]
      exact .inr ⟨_, _, rfl, rfl, echoes.carryOn task (echoes.supervisor.resume _ _ _ _ _)⟩
    · exact .inl ⟨rfl, rfl⟩
  · -- The dispatcher is about to receive the next message.
    rename_i envelope result
    have resumed := echoes.shared.resumeDelivery envelope result
    exact .inr ⟨_, _, rfl, rfl, (echoes.setConnection resumed.left).setJob task _⟩
  · -- The delivery of a single message reports how it went.
    rename_i label envelope result
    have resumed := echoes.shared.resumeDelivery envelope result
    generalize Delivery.resume one.connection envelope result = ended,
      Delivery.resume other.connection envelope result = ended' at resumed
    cases resumed with
    | intro left => exact .inr ⟨_, _, rfl, rfl, ((echoes.setConnection left).report label _).finish task⟩
  · exact .inl ⟨rfl, rfl⟩

/-- The task at the head of the line gets an answer in both, or in neither. -/
theorem respond? (response : Response) :
    (one.respond? response = none ∧ other.respond? response = none) ∨
      ∃ next next', one.respond? response = some next ∧ other.respond? response = some next' ∧
        next.Echoes extra next' := by
  -- Both sessions have the same line and the same tasks, so the same task gets the answer.
  simp only [Session.respond?, echoes.agenda, echoes.tasks]
  split
  · exact .inl ⟨rfl, rfl⟩
  · split
    · exact .inl ⟨rfl, rfl⟩
    · rename_i task rest ready found entry listed
      split
      · exact .inl ⟨rfl, rfl⟩
      · rcases (echoes.within entry.job.spans).turnWith? task entry.job response with ⟨none, none'⟩ | answers
        · exact .inl ⟨by rw [none]; rfl, by rw [none']; rfl⟩
        · obtain ⟨next, next', goes, goes', same⟩ := answers
          exact .inr ⟨_, _, by rw [goes]; rfl, by rw [goes']; rfl, (same.within []).flush⟩

/-- The task at the head of the line leaves it without an answer in both, or in neither. -/
theorem suspend? :
    (one.suspend? = none ∧ other.suspend? = none) ∨
      ∃ next next', one.suspend? = some next ∧ other.suspend? = some next' ∧ next.Echoes extra next' := by
  -- Only the line is another one afterwards, in both.
  simp only [Session.suspend?, echoes.agenda, echoes.tasks]
  split
  · exact .inl ⟨rfl, rfl⟩
  · split
    · obtain ⟨connection, same, rfl⟩ := echoes
      exact .inr ⟨_, _, rfl, rfl, connection, same, rfl⟩
    · exact .inl ⟨rfl, rfl⟩

/-- A task that has no answer yet joins the line again in both, or in neither. -/
theorem rouse? :
    (one.rouse? task = none ∧ other.rouse? task = none) ∨
      ∃ next next', one.rouse? task = some next ∧ other.rouse? task = some next' ∧ next.Echoes extra next' := by
  -- Only the line is another one afterwards, in both.
  simp only [Session.rouse?, echoes.agenda, echoes.tasks]
  split
  · obtain ⟨connection, same, rfl⟩ := echoes
    exact .inr ⟨_, _, rfl, rfl, connection, same, rfl⟩
  · exact .inl ⟨rfl, rfl⟩

/-! ### With impulses -/

/-- Apart from the connection, the modem that is asked to connect leaves the same. -/
theorem connectModem (connection : Connection) :
    other.connectModem.1 = one.connectModem.1 ∧
      other.connectModem.2.mapConnection (fun _ => connection) =
        one.connectModem.2.mapConnection fun _ => connection := by
  -- The modem answers by what it is and not by the connection, one branch for each way it goes.
  obtain ⟨_, -, rfl⟩ := echoes
  unfold Session.connectModem
  dsimp only [mapConnection]
  rcases one.modem.connect with ⟨error | ⟨⟨⟩⟩, modem⟩
  · exact ⟨rfl, rfl⟩
  · dsimp only
    split
    · exact ⟨rfl, rfl⟩
    · split <;> (dsimp only; exact ⟨rfl, rfl⟩)

/-- Apart from the connection, the transport that is asked to connect leaves the same. -/
theorem connectTransport (connection : Connection) :
    other.connectTransport.1 = one.connectTransport.1 ∧
      other.connectTransport.2.mapConnection (fun _ => connection) =
        one.connectTransport.2.mapConnection fun _ => connection := by
  -- The transport answers by what it is and not by the connection, one branch for each way it goes.
  obtain ⟨_, -, rfl⟩ := echoes
  unfold Session.connectTransport
  dsimp only [mapConnection]
  rcases one.cloud.connect with ⟨error | events, cloud⟩
  · exact ⟨rfl, rfl⟩
  · dsimp only
    split <;> exact ⟨rfl, rfl⟩

/-- Apart from the connection, a reply of the modem or the cloud is the same. -/
theorem reply (request : Request) (connection : Connection) :
    (other.reply request).1 = (one.reply request).1 ∧
      (other.reply request).2.mapConnection (fun _ => connection) =
        (one.reply request).2.mapConnection fun _ => connection := by
  -- Only connecting goes on to look at something; every other request is answered from a script.
  cases request with
  | connectNetwork => exact echoes.connectModem connection
  | connectCloud => exact echoes.connectTransport connection
  | modemInit | registerClock | transportInit | requestPsm | enableEvents | publishShadow | disconnectCloud =>
    obtain ⟨_, -, rfl⟩ := echoes
    exact ⟨rfl, rfl⟩

variable {repeats : Nat} {impulses padded : List Impulse} (inserted : Impulse.Padded repeats impulses padded)
include inserted

/-- A reply is the same with impulses inserted before it. -/
theorem replyHearing (request : Request) :
    ∃ more ≤ repeats, Paired (Echoes (extra + more)) (one.replyHearing request impulses)
      (other.replyHearing request padded) := by
  -- What is inserted comes before the reply, and the reply does not look at the connection.
  obtain ⟨more, bounded, heard⟩ := echoes.shared.hear inserted
  refine ⟨more, bounded, ?_⟩
  obtain ⟨answer, left⟩ := echoes.reply request (other.connection.hear padded)
  simp only [Session.replyHearing, answer, left]
  exact .intro ⟨_, heard, rfl⟩

/-- What is heard with impulses inserted leads to the same. -/
theorem hear : ∃ more ≤ repeats, (one.hear impulses).Echoes (extra + more) (other.hear padded) := by
  -- The impulses are heard by the connection, and by nothing else in a session.
  obtain ⟨more, bounded, heard⟩ := echoes.shared.hear inserted
  exact ⟨more, bounded, echoes.setConnection heard⟩

/-- One turn of a task with impulses inserted. -/
theorem turnOfHearing (job : Job) :
    ∃ more ≤ repeats, (one.turnOfHearing task impulses job).Echoes (extra + more)
      (other.turnOfHearing task padded job) := by
  obtain ⟨more, bounded, hears⟩ := echoes.hear inserted
  -- The impulses come first, except where the task asks the modem or the cloud for something: there they
  -- come with the answer.
  cases job with
  | supervise run =>
    obtain ⟨cycle, place⟩ := run
    cases place with
    | calling request =>
      obtain ⟨more, bounded, replies⟩ := echoes.replyHearing inserted request
      refine ⟨more, bounded, ?_⟩
      simp only [Session.turnOfHearing]
      generalize one.replyHearing request impulses = answered,
        other.replyHearing request padded = answered' at replies
      cases replies with | @intro reply _ _ same => ?_
      dsimp only
      rw [same.agenda]
      exact same.carryOn task (same.supervisor.resume _ _ _ _ _)
    | _ => exact ⟨more, bounded, hears.stepRun task _⟩
  | dispatch dispatcher => exact ⟨more, bounded, hears.turnOfDispatcher task dispatcher⟩
  | deliver label envelope delivery => exact ⟨more, bounded, hears.turnOfDelivery task label envelope delivery⟩
  | await label awaiting => exact ⟨more, bounded, hears.turnOfAwaiting task label awaiting⟩
  | sample interval stage => exact ⟨more, bounded, hears.turnOfSampling task interval stage⟩
  | attach clock => exact ⟨more, bounded, hears.finish task⟩
  -- A script with no event left is at its end.
  | raise pause events =>
    cases events with
    | nil => exact ⟨more, bounded, hears.finish task⟩
    | cons event later =>
      refine ⟨more, bounded, ?_⟩
      simp only [Session.turnOfHearing]
      split
      · exact hears.finish task
      · exact hears.setJob task _
  -- The entry comes before the impulse in both.
  | flap interval lost =>
    let text := if lost then "Simulating cellular link recovery" else "Simulating cellular link loss"
    have logged := echoes.setConnection (echoes.shared.log .info text [])
    obtain ⟨more, bounded, hears⟩ := logged.hear inserted
    exact ⟨more, bounded, hears.setJob task _⟩
  | rest span later =>
    refine ⟨more, bounded, ?_⟩
    simp only [Session.turnOfHearing, Session.turnOf, hears.agenda]
    exact hears.setJob task _
  -- Whether the rest is over is read off the agendas, which are the same.
  | resting due later =>
    refine ⟨more, bounded, ?_⟩
    simp only [Session.turnOfHearing, Session.turnOf, hears.agenda]
    split
    · exact hears.setJob task _
    · exact hears.park task _

/-- One turn of the task at the head of the line with impulses inserted; none can take one in either, or in both. -/
theorem turnHearing? :
    (one.turnHearing? impulses = none ∧ other.turnHearing? padded = none) ∨
      ∃ next next', one.turnHearing? impulses = some next ∧ other.turnHearing? padded = some next' ∧
        ∃ more ≤ repeats, next.Echoes (extra + more) next' := by
  obtain ⟨more, bounded, hears⟩ := echoes.hear inserted
  -- Both sessions have the same line and the same tasks, so the same task has its turn and does the same.
  rcases line : one.agenda.ready with _ | ⟨task, rest⟩
  · exact .inl ⟨by simp [Session.turnHearing?, line], by simp [Session.turnHearing?, echoes.agenda, line]⟩
  · cases found : one.tasks.lookup task with
    | none =>
      refine .inr ⟨{ one.hear impulses with agenda := one.agenda.yield },
        { other.hear padded with agenda := one.agenda.yield }, by simp only [Session.turnHearing?, line, found],
        by simp only [Session.turnHearing?, echoes.agenda, line, echoes.tasks, found], more, bounded, ?_⟩
      obtain ⟨connection, same, heard⟩ := hears
      exact ⟨connection, same, by rw [heard]; rfl⟩
    | some entry =>
      cases stopped : entry.cancelled with
      | true =>
        exact .inr ⟨_, _, by simp only [Session.turnHearing?, line, found, stopped, if_true],
          by simp only [Session.turnHearing?, echoes.agenda, line, echoes.tasks, found, stopped, if_true],
          more, bounded, (hears.lastTurnOf task entry.job).flush⟩
      | false =>
        -- A turn is written in the spans of its job, which are opened before and closed after.
        obtain ⟨more, bounded, turned⟩ :=
          (echoes.within entry.job.spans).turnOfHearing task inserted entry.job
        exact .inr ⟨_, _, by simp only [Session.turnHearing?, line, found, stopped, Bool.false_eq_true, if_false],
          by simp only [Session.turnHearing?, echoes.agenda, line, echoes.tasks, found, stopped, Bool.false_eq_true,
            if_false],
          more, bounded, (turned.within []).flush⟩

/-- An action with impulses inserted. -/
theorem performHearing (action : Action) :
    ∃ more ≤ repeats, Paired (Echoes (extra + more)) (one.performHearing impulses action)
      (other.performHearing padded action) := by
  obtain ⟨more, bounded, hears⟩ := echoes.hear inserted
  -- The impulses come first, except with the two requests to connect: there they come with the answer. What
  -- is left of each action is the same in both sessions.
  cases action with
  | connectModem =>
    obtain ⟨more, bounded, replies⟩ := echoes.replyHearing inserted .connectNetwork
    exact ⟨more, bounded, replies.map Answer.modem⟩
  | connectTransport =>
    obtain ⟨more, bounded, replies⟩ := echoes.replyHearing inserted .connectCloud
    exact ⟨more, bounded, replies.map Answer.transport⟩
  | link _ | cloud _ | dateTime _ => exact ⟨more, bounded, .intro hears⟩
  -- Whether an event is passed on depends on the cloud and the modem, and these are the same.
  | emit _ | emitLink _ | emitDateTime _ =>
    refine ⟨more, bounded, ?_⟩
    simp only [Session.performHearing, echoes.cloud, echoes.modem]
    exact .intro hears
  | dropSession =>
    refine ⟨more, bounded, ?_⟩
    simp only [Session.performHearing, echoes.cloud]
    obtain ⟨connection, same, heard⟩ := hears
    exact .intro ⟨connection, same, congrArg (fun session : Session => { session with cloud := one.cloud.drop }) heard⟩
  | start => exact ⟨more, bounded, .intro hears.start⟩
  | stop => exact ⟨more, bounded, .intro hears.stopRun⟩
  | startDispatcher => exact ⟨more, bounded, .intro hears.startDispatcher⟩
  | requestDisconnect => exact ⟨more, bounded, .intro (hears.setConnection (hears.shared.post .cloud _))⟩
  | registerHandler handler => exact ⟨more, bounded, .intro (hears.registerHandler _)⟩
  -- What follows is done with the queue, the tasks, the registers or the cloud, in which the two agree.
  | enqueue handle message mode =>
    have queued := hears.shared.enqueue message handle mode
    refine ⟨more, bounded, ?_⟩
    simp only [Session.performHearing, perform]
    generalize (one.hear impulses).connection.enqueue message handle mode = ended,
      (other.hear padded).connection.enqueue message handle mode = ended' at queued
    cases queued with
    | intro same => exact .intro (hears.setConnection same)
  | await label what timeout => exact ⟨more, bounded, .intro (hears.spawn _).left⟩
  | cancel label =>
    refine ⟨more, bounded, ?_⟩
    simp only [Session.performHearing, perform, hears.labelled?]
    split
    · exact .intro hears
    · exact .intro (hears.stop _)
  | closeQueue => exact ⟨more, bounded, .intro (hears.setConnection hears.shared.closeQueue)⟩
  | tryReceive key =>
    have received := hears.tryReceive
    refine ⟨more, bounded, ?_⟩
    simp only [Session.performHearing, perform]
    generalize (one.hear impulses).tryReceive = taken, (other.hear padded).tryReceive = taken' at received
    cases received with | @intro envelope _ _ same => ?_
    cases envelope with
    | none => exact .intro same
    | some envelope => exact .intro (same.mapKept _)
  | release key =>
    refine ⟨more, bounded, ?_⟩
    simp only [Session.performHearing, perform, hears.kept]
    exact .intro (hears.mapKept _)
  | post name mask =>
    refine ⟨more, bounded, ?_⟩
    simp only [Session.performHearing, perform, hears.shared.register]
    exact .intro (hears.setConnection (hears.shared.post name mask))
  | reset name =>
    refine ⟨more, bounded, ?_⟩
    simp only [Session.performHearing, perform, hears.shared.register]
    exact .intro (hears.setConnection (hears.shared.clear name))
  | dispatch label =>
    have received := hears.tryReceive
    refine ⟨more, bounded, ?_⟩
    simp only [Session.performHearing, perform]
    generalize (one.hear impulses).tryReceive = taken, (other.hear padded).tryReceive = taken' at received
    cases received with | @intro envelope _ _ same => ?_
    cases envelope with
    | none => exact .intro same
    | some envelope => exact .intro (same.spawn _).left
  | publish => exact ⟨more, bounded, hears.publish.map Answer.yesNo⟩
  | buildShadow =>
    refine ⟨more, bounded, ?_⟩
    simp only [Session.performHearing, perform, hears.shadow]
    exact .intro hears
  | send handle message => exact ⟨more, bounded, (hears.send handle message).map Answer.transport⟩
  | publishStatus status => exact ⟨more, bounded, (hears.publishStatus status).map Answer.transport⟩
  | initTransport | disconnectTransport | initModem | requestPsm _ | enableEvents | registerClock =>
    obtain ⟨connection, same, heard⟩ := hears
    refine ⟨more, bounded, ?_⟩
    simp only [Session.performHearing, perform, heard]
    exact .intro ⟨connection, same, rfl⟩

/-- A happening with impulses inserted: both go on with the same answer, or neither does. -/
theorem goOnHearing (happening : Happening) :
    (one.goOnHearing impulses happening = none ∧ other.goOnHearing padded happening = none) ∨
      ∃ answer next next', one.goOnHearing impulses happening = some (answer, next) ∧
        other.goOnHearing padded happening = some (answer, next') ∧
        ∃ more ≤ repeats, next.Echoes (extra + more) next' := by
  -- What gives nothing back leads on in both sessions, or in neither.
  have silent {more : Nat} {after after' : Option Session} (bounded : more ≤ repeats)
      (goes : (after = none ∧ after' = none) ∨
        ∃ next next', after = some next ∧ after' = some next' ∧ next.Echoes (extra + more) next') :
      (after.map (Answer.nothing, ·) = none ∧ after'.map (Answer.nothing, ·) = none) ∨
        ∃ answer next next', after.map (Answer.nothing, ·) = some (answer, next) ∧
          after'.map (Answer.nothing, ·) = some (answer, next') ∧
          ∃ more ≤ repeats, next.Echoes (extra + more) next' := by
    rcases goes with ⟨rfl, rfl⟩ | ⟨next, next', rfl, rfl, same⟩
    · exact .inl ⟨rfl, rfl⟩
    · exact .inr ⟨_, _, _, rfl, rfl, more, bounded, same⟩
  obtain ⟨more, bounded, hears⟩ := echoes.hear inserted
  -- Whoever is woken joins the line after an action as after a turn.
  cases happening with
  | act action =>
    obtain ⟨more, bounded, acts⟩ := echoes.performHearing inserted action
    simp only [Session.goOnHearing]
    generalize one.performHearing impulses action = done, other.performHearing padded action = done' at acts
    cases acts with
    | intro same => exact .inr ⟨_, _, _, rfl, rfl, more, bounded, same.flush⟩
  | turn =>
    rcases echoes.turnHearing? inserted with none | ⟨next, next', turns, turns', more, bounded, same⟩
    · exact silent bounded (.inl none)
    · exact silent bounded (.inr ⟨next, next', turns, turns', same⟩)
  -- The rest does not look at the connection.
  | respond response => exact silent bounded (hears.respond? response)
  | suspend => exact silent bounded hears.suspend?
  | rouse task => exact silent bounded (hears.rouse? task)
  | strike instant => exact .inr ⟨_, _, _, rfl, rfl, more, bounded, hears.strike instant⟩

end Echoes

/-! ### Whole runs -/

/-- Two runs of a session. Whatever happens to the one happens to the other, with the same answers of the modem and the
transport, at once or later, and there with impulses inserted where the first hears its own; and between any two
happenings others may come to the second that only inform. The number is that of the inserted impulses which say again
that the device was added to an account. -/
inductive Alongside : Nat → Session → Session → Prop where
  | start (session : Session) : Alongside 0 session session
  | both {repeats more : Nat} {one other next next' : Session} {answer answer' : Answer} {padded : List Impulse}
      (together : Alongside repeats one other) (happening : Happening)
      (inserted : Impulse.Padded more (one.heard happening) padded)
      (goes : one.goOn happening = some (answer, next))
      (follows : other.goOnHearing padded happening = some (answer', next')) : Alongside (repeats + more) next next'
  | informs {repeats : Nat} {one other : Session} {impulse : Impulse} (together : Alongside repeats one other)
      (informs : impulse.Informs) : Alongside repeats one (other.hear [impulse])

/-- Runs side by side are the same, apart from the journal and at most so many forced disconnects. -/
theorem Alongside.echoes {repeats : Nat} {one other : Session} (together : Alongside repeats one other) :
    ∃ extra ≤ repeats, one.Echoes extra other := by
  -- Induction on the two runs: what happens in both keeps them alike, and so does an impulse that only
  -- informs.
  induction together with
  | start session => exact ⟨0, Nat.le_refl 0, .refl session⟩
  | @both repeats more one other next next' answer answer' padded together happening inserted goes follows ih =>
    obtain ⟨extra, bounded, same⟩ := ih
    rw [goOn_eq] at goes
    rcases same.goOnHearing inserted happening with ⟨none, -⟩ | ⟨_, _, _, went, followed, further⟩
    · simp [none] at goes
    · obtain ⟨-, rfl⟩ := Prod.mk.inj (Option.some.inj (went.symm.trans goes))
      obtain ⟨-, rfl⟩ := Prod.mk.inj (Option.some.inj (followed.symm.trans follows))
      obtain ⟨again, counted, all⟩ := further
      exact ⟨extra + again, by omega, all⟩
  | @informs repeats one other impulse together informs ih =>
    obtain ⟨extra, bounded, same⟩ := ih
    obtain ⟨more, none, hears⟩ := same.hear (.informs informs .none)
    exact ⟨extra + more, by omega, hears⟩

/-- What comes with a happening is the same. -/
theorem Echoes.heard {one other : Session} {extra : Nat} (echoes : one.Echoes extra other) (happening : Happening) :
    other.heard happening = one.heard happening := by
  -- What an action brings is read off the action, and what a turn brings off the rest of the session.
  obtain ⟨connection, -, rfl⟩ := echoes
  cases happening with
  | act action => cases action <;> rfl
  | turn | respond _ | suspend | rouse _ | strike _ => rfl

/-- What happens to the first happens to the second as well, by itself. -/
theorem Alongside.goOn {repeats : Nat} {one other next : Session} {answer : Answer}
    (together : Alongside repeats one other) (happening : Happening)
    (goes : one.goOn happening = some (answer, next)) :
    ∃ next', other.goOn happening = some (answer, next') ∧ Alongside repeats next next' := by
  -- Nothing was inserted here, which is one way of inserting.
  obtain ⟨extra, -, same⟩ := together.echoes
  have inserted := Impulse.Padded.refl (one.heard happening)
  rcases same.goOnHearing inserted happening with ⟨none, -⟩ | ⟨_, _, next', went, followed, -⟩
  · simp [goOn_eq, none] at goes
  · rw [goOn_eq, went] at goes
    -- Both have gone on, and with the same answer.
    obtain ⟨rfl, rfl⟩ := Prod.mk.inj (Option.some.inj goes)
    exact ⟨next', by rw [goOn_eq, same.heard, followed],
      together.both happening inserted (goOn_eq one happening ▸ went) followed⟩

/-- Runs side by side stay so while time passes. -/
theorem Alongside.runUntil {repeats : Nat} {one other : Session} (together : Alongside repeats one other)
    (limit turns : Nat) :
    Alongside repeats (Timed.runUntil limit turns one) (Timed.runUntil limit turns other) := by
  -- Induction on the turns; both take one, or the clock of both comes to the same instant.
  induction turns generalizing one other with
  | zero => exact together
  | succ turns ih =>
    obtain ⟨extra, -, same⟩ := together.echoes
    have strikes (instant : Nat) : Alongside repeats (one.strike instant) (other.strike instant) := by
      obtain ⟨_, followed, next⟩ := together.goOn (.strike instant) rfl
      cases followed
      exact next
    -- The next deadline is the same in both.
    have due : Timed.nextDue? other = Timed.nextDue? one := by
      obtain ⟨connection, -, rfl⟩ := same
      rfl
    simp only [Timed.runUntil, Timed.runTo, Bool.false_eq_true, if_false, due]
    cases turned : one.turn? with
    | some next =>
      obtain ⟨next', followed, onward⟩ := together.goOn .turn (by rw [Session.goOn, turned]; rfl)
      obtain ⟨taken, turned', same⟩ := Option.map_eq_some_iff.mp followed
      obtain rfl : taken = next' := congrArg Prod.snd same
      simp only [Timed.turn?, turned, turned']
      exact ih onward
    | none =>
      -- Were there a turn in the second, there would be one in the first.
      have still : other.turn? = none := by
        rw [turn?_eq] at turned ⊢
        rw [same.heard]
        rcases same.turnHearing? (.refl (one.heard .turn)) with ⟨-, none⟩ | ⟨_, _, turns, -⟩
        · exact none
        · simp [turned] at turns
      simp only [Timed.turn?, turned, still]
      split
      · split
        · exact ih (strikes _)
        · exact strikes limit
      · exact strikes limit

/-- Redundant events are absorbed over whole runs. At every time the second of two runs side by side is the first
one, in its registers, phase, tasks and waits, with what they reported and when, in what was asked of the modem and the
transport and when, in its queue and in what was sent: only the journal differs, and the count of forced disconnects,
by at most the number of inserted impulses which say again that the device was added to an account. And whatever
happens next, both go on with the same answer, or neither does. -/
theorem redundant_events_are_absorbed {repeats : Nat} {one other : Session} (together : Alongside repeats one other) :
    (∃ extra ≤ repeats, ∃ telemetry : Telemetry,
      other = { one with supervisor.connection.telemetry := telemetry } ∧
      telemetry.metrics = { one.connection.telemetry.metrics with
        forcedDisconnects := one.connection.telemetry.metrics.forcedDisconnects + .ofNat extra }) ∧
    ∀ (happening : Happening) (more : Nat) (padded : List Impulse),
      Impulse.Padded more (one.heard happening) padded →
      (other.goOnHearing padded happening).map Prod.fst = (one.goOn happening).map Prod.fst := by
  -- The two sessions differ in the journal and the count only, and no answer is read off these.
  obtain ⟨extra, bounded, same⟩ := together.echoes
  constructor
  · obtain ⟨connection, ⟨telemetry, rfl, counted⟩, rfl⟩ := same
    exact ⟨extra, bounded, telemetry, rfl, counted⟩
  · intro happening more padded inserted
    rw [goOn_eq]
    rcases same.goOnHearing inserted happening with ⟨none, none'⟩ | ⟨_, _, _, went, followed, -⟩
    · rw [none, none']
    · rw [went, followed]
      rfl

/-- A device hears twice that it was added to an account: the second time counts as a forced disconnect once more, and
the session is dropped once all the same. -/
theorem second_association_is_absorbed :
    ∃ one other : Session, Alongside 1 one other ∧
      ((∃ extra ≤ 1, ∃ telemetry : Telemetry,
        other = { one with supervisor.connection.telemetry := telemetry } ∧
        telemetry.metrics = { one.connection.telemetry.metrics with
          forcedDisconnects := one.connection.telemetry.metrics.forcedDisconnects + .ofNat extra }) ∧
      ∀ (happening : Happening) (more : Nat) (padded : List Impulse),
        Impulse.Padded more (one.heard happening) padded →
        (other.goOnHearing padded happening).map Prod.fst = (one.goOn happening).map Prod.fst) ∧
      one.connection.telemetry.metrics.forcedDisconnects = 1 ∧
      other.connection.telemetry.metrics.forcedDisconnects = 2 ∧ other.supervisor.phase = .resetting := by
  -- The second request comes with an acknowledgement between, and the second association forces one
  -- disconnect more.
  have twice : Impulse.Padded 0 [.cloud .userAssociationRequest]
      [.cloud .userAssociationRequest, .cloud .sensorDataAck, .cloud .userAssociationRequest] :=
    .same _ [.cloud .sensorDataAck, .cloud .userAssociationRequest] (by simp [Impulse.Informs, Impulse.Repeats]) .none
  have again : Impulse.Padded 1 [.cloud .userAssociated] [.cloud .userAssociated, .cloud .userAssociated] :=
    .same _ [.cloud .userAssociated] (by simp [Impulse.Repeats]) .none
  have started := (Alongside.start (ofConfig (.ofAppVersion "1.0.0") 1)).both (.act .start) .none rfl rfl
  have informs : Impulse.Informs (.cloud .fotaStart) := trivial
  have asked := ((started.runUntil 0 30).informs informs).both
    (.act (.cloud .userAssociationRequest)) twice rfl rfl
  have added := (asked.both (.act (.cloud .userAssociated)) again rfl rfl).runUntil 0 10
  exact ⟨_, _, added, redundant_events_are_absorbed added, by decide +kernel, by decide +kernel, by decide +kernel⟩

end Session

end Uplink
