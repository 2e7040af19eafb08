import Uplink.Proofs.Connection
import Uplink.Session.Turn

/-! The waits that a job holds, and that no step of a job touches the wait of another. -/

namespace Uplink

open Flags (Condition Register Ticket Timeout Wait)

/-! ### What is held -/

/-- A wait for a connection holds the one wait that it has come to. -/
def ConnectionWait.Holds : ConnectionWait → RegisterName → Ticket → Prop
  | .network _ wait, name, ticket => name = .network ∧ wait.Has ticket
  | .session wait, name, ticket => name = .cloud ∧ wait.Has ticket

/-- A wait of the application holds nothing before it has begun. -/
def Awaiting.Holds : Awaiting → RegisterName → Ticket → Prop
  | .called _ _, _, _ => False
  | .register own wait, name, ticket => name = own ∧ wait.Has ticket
  | .connection wait, name, ticket => wait.Holds name ticket

/-- A delivery holds its wait for a connection. -/
def Delivery.Holds : Delivery → RegisterName → Ticket → Prop
  | .awaiting wait, name, ticket => wait.Holds name ticket
  | _, _, _ => False

/-- A dispatcher holds what its delivery holds; the line of receivers is no matter of registers. -/
def Dispatcher.Holds : Dispatcher → RegisterName → Ticket → Prop
  | .delivering _ delivery, name, ticket => delivery.Holds name ticket
  | _, _, _ => False

/-- A run of the supervisor holds the wait of its place. -/
def Supervisor.Place.Holds : Supervisor.Place → RegisterName → Ticket → Prop
  | .awaitingNetwork wait, name, ticket => name = .network ∧ wait.Has ticket
  | .awaitingCloud wait, name, ticket => name = .cloud ∧ wait.Has ticket
  | .awaitingReady wait, name, ticket => name = .cloud ∧ wait.Has ticket
  | .awaitingDrop wait, name, ticket => name = .cloud ∧ wait.Has ticket
  | _, _, _ => False

/-- The waits that a job holds. -/
def Job.Holds : Job → RegisterName → Ticket → Prop
  | .supervise run, name, ticket => run.place.Holds name ticket
  | .dispatch dispatcher, name, ticket => dispatcher.Holds name ticket
  | .deliver _ _ delivery, name, ticket => delivery.Holds name ticket
  | .await _ awaiting, name, ticket => awaiting.Holds name ticket
  | .sample _ (.awaiting wait), name, ticket => name = .dateTime ∧ wait.Has ticket
  | .rest _ after, name, ticket => after.Holds name ticket
  | .resting _ after, name, ticket => after.Holds name ticket
  | _, _, _ => False

/-- The job needs no more than this, now or after a rest: to run the supervisor is to count, and whoever
queues, receives or sends messages delivers. -/
def Job.Within (counts delivers : Bool) : Job → Prop
  | .supervise _ => counts = true
  | .dispatch _ | .deliver _ _ _ | .sample _ _ => delivers = true
  | .rest _ after => after.Within counts delivers
  | .resting _ after => after.Within counts delivers
  | _ => True

/-- The job is no run of the supervisor, now or after a rest. -/
abbrev Job.Aside (job : Job) : Prop :=
  job.Within false true

/-- Those who may do everything may have any job. -/
theorem Job.within_all (job : Job) : job.Within true true := by
  -- Induction on what a resting task goes on with; every other job is allowed.
  induction job with
  | rest _ _ ih | resting _ _ ih => exact ih
  | supervise _ | dispatch _ | deliver _ _ _ | sample _ _ => rfl
  | await _ _ | raise _ _ | attach _ | flap _ _ => trivial

/-- A job beside the run is no run of the supervisor. -/
theorem Job.Aside.ne_supervise {job : Job} (aside : job.Aside) (run : Supervisor.Run) :
    job ≠ .supervise run := by
  -- No run is among the jobs that go on beside one.
  intro same
  subst same
  cases aside

/-- A turn of the job raises no bits by itself. -/
def Job.Mute : Job → Prop
  | .supervise _ | .raise _ _ | .attach _ | .flap _ _ => False
  | _ => True

/-- What is held after a step by the one who goes on. -/
def Progress.Holds {α β : Type} (holds : β → RegisterName → Ticket → Prop) :
    Progress α β → RegisterName → Ticket → Prop
  | .done _, _, _ => False
  | .next stage, name, ticket => holds stage name ticket
  | .parked stage, name, ticket => holds stage name ticket

/-! ### What a step obtains -/

variable {liberty : Liberty} {held : RegisterName → Ticket → Prop} {before after : Connection}

/-- A wait that was begun after some changes holds a ticket obtained with them. -/
theorem Connection.Touches.obtains_await (touches : before.Touches liberty held after) (agenda : Agenda)
    (task : TaskId) (name : RegisterName) (condition : Condition) (timeout : Timeout) {ticket : Ticket}
    (has : (after.await agenda task name condition timeout).1.Has ticket) :
    before.Obtains held (after.await agenda task name condition timeout).2 name ticket := by
  -- The ticket is issued by the wait, so it lies between the counter before and the one after.
  obtain ⟨-, fresh⟩ := Register.wait_issues (after.register name) agenda task condition timeout
  obtain ⟨low, high⟩ := fresh ticket has
  refine .inr ⟨Nat.le_trans (touches.issued name) low, ?_⟩
  simpa [Connection.await] using high

/-- A step makes no change but those of one who holds these waits, and leads to waits that were held
or obtained. -/
structure Connection.Passes (liberty : Liberty) (held : RegisterName → Ticket → Prop)
    (before after : Connection) (holds : RegisterName → Ticket → Prop) : Prop where
  touches : before.Touches liberty held after
  obtains : ∀ name ticket, holds name ticket → before.Obtains held after name ticket

namespace Connection.Passes

/-- A step that leads to no wait has only its changes to answer for. -/
theorem free (touches : before.Touches liberty held after) :
    before.Passes liberty held after fun _ _ => False :=
  -- It holds nothing, so there is nothing to account for.
  ⟨touches, fun _ _ => False.elim⟩

/-- A step may go on with what was held. -/
theorem kept (touches : before.Touches liberty held after) {holds : RegisterName → Ticket → Prop}
    (owned : ∀ name ticket, holds name ticket → held name ticket) :
    before.Passes liberty held after holds :=
  -- What it holds is held already.
  ⟨touches, fun name ticket has => .inl (owned name ticket has)⟩

/-- A step may go on with a wait that it begins at its end. -/
theorem begun (touches : before.Touches liberty held after) (agenda : Agenda) (task : TaskId)
    (name : RegisterName) (condition : Condition) (timeout : Timeout) :
    before.Passes liberty held (after.await agenda task name condition timeout).2 fun other ticket =>
      other = name ∧ (after.await agenda task name condition timeout).1.Has ticket := by
  -- The ticket is the one that the wait has just parked under.
  refine ⟨touches.await agenda task name condition timeout, ?_⟩
  intro other ticket holds
  obtain ⟨rfl, has⟩ := holds
  exact touches.obtains_await agenda task other condition timeout has

end Connection.Passes

/-- A wait for a connection begins with a wait for the network. -/
theorem ConnectionWait.start_passes (connection : Connection) (agenda : Agenda) (task : TaskId)
    (timeout : Timeout) :
    connection.Passes liberty held (ConnectionWait.start connection agenda task timeout).2
      (ConnectionWait.start connection agenda task timeout).1.Holds :=
  -- What is logged before the wait is no matter of it.
  .begun (Connection.Touches.refl.log _ _ _) agenda task .network _ timeout

/-- A wait for a connection looks after its own wait, and may begin the one for the session. -/
theorem ConnectionWait.poll_passes (connection : Connection) (agenda : Agenda) (task : TaskId)
    {wait : ConnectionWait} (owned : ∀ name ticket, wait.Holds name ticket → held name ticket) :
    connection.Passes liberty held (wait.poll connection agenda task).2
      ((wait.poll connection agenda task).1.Holds ConnectionWait.Holds) := by
  -- The wait is for the network first and for the session then; in both it looks after its own
  -- ticket.
  cases wait with
  | network timeout wait =>
    simp only [ConnectionWait.poll]
    split
    · rename_i unanswered
      exact .kept (.of_look unanswered fun ticket has => owned _ _ ⟨rfl, has⟩) owned
    · rename_i after answered
      have looked : connection.Touches liberty held after :=
        .of_look answered fun ticket has => owned _ _ ⟨rfl, has⟩
      split
      · exact .free looked
      · exact .begun (looked.log _ _ _) agenda task .cloud _ timeout
  | session wait =>
    simp only [ConnectionWait.poll]
    split
    · rename_i unanswered
      exact .kept (.of_look unanswered fun ticket has => owned _ _ ⟨rfl, has⟩) owned
    · rename_i answered
      exact .free (.of_look answered fun ticket has => owned _ _ ⟨rfl, has⟩)

/-- Giving a wait for a connection up gives its own wait up. -/
theorem ConnectionWait.abandon_touches (touches : before.Touches liberty held after)
    {wait : ConnectionWait} (owned : ∀ name ticket, wait.Holds name ticket → held name ticket) :
    before.Touches liberty held (wait.abandon after) := by
  -- One case for each part of the wait, which stands on one register.
  cases wait with
  | network timeout wait => exact touches.abandon fun ticket has => .inl (owned _ _ ⟨rfl, has⟩)
  | session wait => exact touches.abandon fun ticket has => .inl (owned _ _ ⟨rfl, has⟩)

/-- A step of a wait of the application touches that wait alone. -/
theorem Awaiting.step_passes (connection : Connection) (agenda : Agenda) (task : TaskId)
    {awaiting : Awaiting} (owned : ∀ name ticket, awaiting.Holds name ticket → held name ticket) :
    connection.Passes liberty held (awaiting.step connection agenda task).2
      ((awaiting.step connection agenda task).1.Holds Awaiting.Holds) := by
  -- A wait that was not called yet begins one; any other looks after the one it holds.
  cases awaiting with
  | called what timeout =>
    cases what with
    | network => exact .begun (Connection.Touches.refl.log _ _ _) agenda task .network _ timeout
    | dateTime => exact .begun Connection.Touches.refl agenda task .dateTime _ timeout
    | disconnection => exact .begun Connection.Touches.refl agenda task .cloud _ timeout
    | connection => exact ConnectionWait.start_passes connection agenda task timeout
  | register name wait =>
    simp only [Awaiting.step, Awaiting.onRegister]
    split
    · rename_i unanswered
      exact .kept (.of_look unanswered fun ticket has => owned _ _ ⟨rfl, has⟩) owned
    · -- With an answer the wait holds nothing any more.
      rename_i answered
      exact .free (.of_look answered fun ticket has => owned _ _ ⟨rfl, has⟩)
  | connection wait =>
    have passes : connection.Passes liberty held _ _ :=
      ConnectionWait.poll_passes connection agenda task owned
    simp only [Awaiting.step]
    split <;> (rename_i polled; rw [polled] at passes; exact passes)

/-- Giving a wait of the application up touches that wait alone. -/
theorem Awaiting.abandon_touches {awaiting : Awaiting}
    (owned : ∀ name ticket, awaiting.Holds name ticket → held name ticket) :
    before.Touches liberty held (awaiting.abandon before) := by
  -- One case for each stage; a wait that has only been called holds no ticket.
  cases awaiting with
  | called what timeout => exact .refl
  | register name wait => exact .abandon .refl fun ticket has => .inl (owned _ _ ⟨rfl, has⟩)
  | connection wait => exact ConnectionWait.abandon_touches .refl owned

/-- A step of a delivery touches the wait of that delivery alone. -/
theorem Delivery.step_passes (allowed : liberty.delivers = true) (connection : Connection) (agenda : Agenda)
    (task : TaskId) (envelope : Envelope) {delivery : Delivery}
    (owned : ∀ name ticket, delivery.Holds name ticket → held name ticket) :
    connection.Passes liberty held (delivery.step connection agenda task envelope).2
      ((delivery.step connection agenda task envelope).1.Holds Delivery.Holds) := by
  -- Before and after its wait for a connection the delivery holds nothing.
  cases delivery with
  | arriving => exact ConnectionWait.start_passes connection agenda task .forever
  | sending => exact .free .refl
  | awaiting wait =>
    have passes : connection.Passes liberty held _ _ :=
      ConnectionWait.poll_passes connection agenda task owned
    simp only [Delivery.step]
    -- The wait goes on in two ways, and ends in two more, with a connection or without.
    split
    · rename_i polled
      rw [polled] at passes
      exact passes
    · rename_i polled
      rw [polled] at passes
      exact passes
    · rename_i polled
      rw [polled] at passes
      exact .free (passes.touches.release allowed envelope)
    · rename_i polled
      rw [polled] at passes
      exact .free (passes.touches.log _ _ _)

/-- What the transport answers is counted where the connection cycle does not count. -/
theorem Delivery.resume_touches (allowed : liberty.delivers = true) (connection : Connection)
    (envelope : Envelope) (result : Except TransportError Unit) :
    connection.Touches liberty held (Delivery.resume connection envelope result).2 := by
  -- Whoever delivers is none of the others.
  have theirs : liberty.delivers ≠ false := by simp [allowed]
  have untouched : connection.Touches liberty held connection := .refl
  -- A failure is logged and counted, and a success only counted; the envelope is dropped either way.
  cases result with
  | ok _ =>
    exact (untouched.count .messageSent (fun _ _ => rfl) fun others => absurd others theirs).release
      allowed envelope
  | error error =>
    exact ((untouched.log _ _ _).count .messageSendFailed (fun _ _ => rfl)
      fun others => absurd others theirs).release allowed envelope

/-- Giving a delivery up touches the wait of that delivery alone. -/
theorem Delivery.abandon_touches (allowed : liberty.delivers = true) (envelope : Envelope)
    {delivery : Delivery}
    (owned : ∀ name ticket, delivery.Holds name ticket → held name ticket) :
    before.Touches liberty held (delivery.abandon before envelope) := by
  -- Only a delivery that waits for the connection holds a ticket.
  cases delivery with
  | arriving | sending => exact Connection.Touches.refl.release allowed envelope
  | awaiting wait => exact (ConnectionWait.abandon_touches .refl owned).release allowed envelope

/-- A step of a dispatcher touches the wait of its delivery alone. -/
theorem Dispatcher.step_passes (allowed : liberty.delivers = true) (connection : Connection)
    (agenda : Agenda) (task : TaskId) {dispatcher : Dispatcher}
    (owned : ∀ name ticket, dispatcher.Holds name ticket → held name ticket) :
    connection.Passes liberty held (dispatcher.step connection agenda task).2
      ((dispatcher.step connection agenda task).1.Holds Dispatcher.Holds) := by
  -- A dispatcher receives a message and delivers it, by turns.
  cases dispatcher with
  | starting => exact .free (Connection.Touches.refl.log _ _ _)
  | receiving stage =>
    -- A receiver changes the queue and wakes the next one at most.
    have received : connection.Touches liberty held
        ({ connection with queue := (connection.queue.step task stage).2.1 }.wake
          (connection.queue.step task stage).2.2) :=
      (Connection.Touches.refl.queue allowed _).wake _
    simp only [Dispatcher.step]
    -- A receiver holds no wait, whatever comes of its step.
    split
    · exact .free received
    · exact .free received
    · exact .free received
    · exact .free (received.log _ _ _)
  | delivering envelope delivery =>
    have passes : connection.Passes liberty held _ _ :=
      Delivery.step_passes allowed connection agenda task envelope owned
    simp only [Dispatcher.step]
    split
    · rename_i stepped
      rw [stepped] at passes
      exact passes
    · rename_i stepped
      rw [stepped] at passes
      exact passes
    · rename_i stepped
      rw [stepped] at passes
      exact .free passes.touches

/-- Stopping a dispatcher gives up what its delivery waits for. -/
theorem Dispatcher.abandon_touches (allowed : liberty.delivers = true) (task : TaskId)
    {dispatcher : Dispatcher}
    (owned : ∀ name ticket, dispatcher.Holds name ticket → held name ticket) :
    before.Touches liberty held (dispatcher.abandon before task) := by
  -- Only a dispatcher that delivers holds a ticket; a receiver leaves the line.
  cases dispatcher with
  | starting => exact .refl
  | receiving stage => exact (Connection.Touches.refl.queue allowed _).wake _
  | delivering envelope delivery => exact Delivery.abandon_touches allowed envelope owned

/-- Whether a shadow was published is logged and counted by those who count. -/
theorem Connection.Touches.notePublish (touches : before.Touches liberty held after)
    (allowed : liberty.counts = true) (result : Except TransportError Unit) :
    before.Touches liberty held (after.notePublish result) := by
  -- Whoever counts is none of the others.
  have theirs : liberty.counts ≠ false := by simp [allowed]
  cases result with
  | error error =>
    exact (touches.log _ _ _).count .shadowFailed (fun others => absurd others theirs) fun _ _ => rfl
  | ok _ => exact (touches.log _ _ _).count .shadowUpdated (fun others => absurd others theirs) fun _ _ => rfl

end Uplink
