import Uplink.Proofs.Patient
import Uplink.Proofs.Session.Sends

/-!
A session's dispatcher among tasks that at most queue messages: whatever goes on, it is the only receiver, and it
sleeps only over an empty queue or with a message over a bit that is not set.
-/

namespace Uplink

open Flags (Register Ticket Wait)
open Queue (Outgoing)

/-! ### Tasks that at most queue messages -/

/-- The job neither takes messages out of the queue nor delivers any, now or after a rest; it may queue some. -/
def Job.Supplies : Job → Prop
  | .dispatch _ | .deliver _ _ _ => False
  | .rest _ after => after.Supplies
  | .resting _ after => after.Supplies
  | _ => True

/-- Whoever delivers nothing at most queues messages. -/
theorem Job.Within.supplies {job : Job} {counts : Bool} (within : job.Within counts false) : job.Supplies := by
  -- The job that follows a rest is a part of the one that rests.
  induction job with
  | rest _ _ ih | resting _ _ ih => exact ih within
  | dispatch _ | deliver _ _ _ | sample _ _ => cases within
  | supervise _ | await _ _ | raise _ _ | attach _ | flap _ _ => trivial

namespace Session

variable {before after session next : Session} {task own : TaskId} {rest : List TaskId} {shut : Bool}
  {dispatcher onward : Dispatcher} {connection : Connection}

/-- The dispatcher of a session in the middle of everything else: it is in its turn as long as its task stands in
line. -/
def dispatching (session : Session) (task : TaskId) : Dispatching where
  connection := session.connection
  task := task
  dispatcher := session.courier
  running := decide (task ∈ session.agenda.ready)

/-- The dispatcher's task is this one, it is not stopped and in order, and its waits are its own and have no deadline.
Every other task at most queues messages. The queue is closed if it was to be shut. -/
structure Serves (session : Session) (task : TaskId) (shut : Bool) : Prop where
  named : session.dispatcherTask = some task
  below : task < session.agenda.unused
  numbered : ∀ entry ∈ session.tasks, entry.1 < session.agenda.unused
  others : ∀ entry ∈ session.tasks, entry.1 ≠ task → entry.2.job.Supplies
  runner : ∀ entry ∈ session.tasks, entry.1 = task → ∃ dispatcher, entry.2 = ⟨.dispatch dispatcher, false⟩
  issued : ∀ name ticket, session.HeldBeside (· = task) name ticket →
    ticket < (session.connection.register name).nextTicket
  apart : ∀ name ticket, session.HeldBeside (· = task) name ticket → (session.dispatching task).Strange name ticket
  sound : (session.dispatching task).Sound
  endless : ∀ dispatcher, session.courier = some dispatcher → dispatcher.Endless
  ended : session.courier = none → session.dispatcherEnded = true
  closed : shut = true → session.connection.queue.closed = true

namespace Serves

/-- A dispatcher whose task is not listed has returned. -/
theorem courier_of_absent (serves : session.Serves task shut) (absent : session.tasks.lookup task = none) :
    session.courier = none := by
  -- The place of the dispatcher is looked up by its task.
  simp [Session.courier, serves.named, absent]

/-- A dispatcher that has not returned is found by its task. -/
theorem delivers (serves : session.Serves task shut) (there : session.courier = some dispatcher) :
    session.Delivers task dispatcher := by
  cases listed : session.tasks.lookup task with
  -- It would have returned.
  | none => cases (serves.courier_of_absent listed).symm.trans there
  -- The job of that task is a dispatcher, and it is the one that was found.
  | some entry =>
    obtain ⟨other, rfl⟩ := serves.runner _ (Entries.mem_of_lookup listed) rfl
    have found : session.Delivers task other := ⟨serves.named, listed⟩
    obtain rfl := Option.some.inj (found.courier.symm.trans there)
    exact found

/-! #### What others do -/

/-- What others do is seen in the queue only. -/
theorem beside {liberty : Liberty} (serves : before.Serves task shut) (moves : Moves liberty (· = task) before after)
    (named : after.dispatcherTask = before.dispatcherTask) (ended : after.dispatcherEnded = before.dispatcherEnded)
    (others : ∀ entry ∈ after.tasks, entry ∈ before.tasks ∨ entry.2.job.Supplies)
    (sound : Dispatching.Sound { before.dispatching task with connection := after.connection })
    (closed : before.connection.queue.closed = true → after.connection.queue.closed = true) :
    after.Serves task shut := by
  have courier : after.courier = before.courier := by
    simp only [Session.courier, named, serves.named, moves.lookup task rfl]
  constructor
  case named => exact named.trans serves.named
  case below => exact serves.below.trans_le moves.unused
  case numbered => exact moves.below serves.numbered
  case others =>
    intro entry member other
    rcases others entry member with stood | supplies
    · exact serves.others entry stood other
    · exact supplies
  -- The task of the dispatcher is none of those that moved.
  case runner =>
    intro entry member own
    exact serves.runner entry (moves.stays member own) own
  case issued =>
    intro name ticket held
    rcases moves.obtains held with old | ⟨-, high⟩
    · exact (serves.issued name ticket old).trans_le (moves.touches.issued name)
    · exact high
  case apart =>
    intro name ticket held dispatcher there
    have there : before.courier = some dispatcher := courier ▸ there
    rcases moves.obtains held with old | ⟨low, -⟩
    · exact serves.apart name ticket old dispatcher there
    · -- A ticket issued since is none that the dispatcher held before.
      exact fun holds => absurd (serves.sound.issued there holds) (Nat.not_lt_of_le low)
  case sound =>
    -- Others may only put it back in line.
    have awake : Dispatching.Sound { before.dispatching task with
        connection := { after.connection with woken := after.connection.woken }
        running := decide (task ∈ after.agenda.ready) } := by
      refine sound.listen (fun up => ?_) .inr fun _ called uncalled => absurd called uncalled
      exact decide_eq_true (moves.ready task rfl (of_decide_eq_true up))
    have same : after.dispatching task = { before.dispatching task with
        connection := after.connection
        running := decide (task ∈ after.agenda.ready) } := by
      simp only [Session.dispatching, courier]
    exact same ▸ awake
  case endless => exact courier ▸ serves.endless
  case ended => exact fun gone => ended.trans (serves.ended (courier ▸ gone))
  case closed => exact closed ∘ serves.closed

/-- A change that no other task's wait but the changing one's is a matter of leaves the dispatcher in order. -/
theorem sound_of_touches (serves : session.Serves task shut)
    (touches : session.connection.Touches .supervisor (session.HeldBeside (· = task)) connection) :
    Dispatching.Sound { session.dispatching task with connection } := by
  -- What another task holds is strange to the dispatcher.
  have strange : session.connection.Touches .supervisor (session.dispatching task).Strange connection :=
    Connection.Touches.refl.trans touches fun name ticket held => .inl (serves.apart name ticket held)
  exact serves.sound.beside strange (touches.mail rfl).1

/-- What goes on without messages leaves the dispatcher in order. -/
theorem elsewhere (serves : before.Serves task shut) (moves : Moves .supervisor (· = task) before after) :
    after.Serves task shut := by
  -- The supervisor's part leaves the queue alone, and whoever else is there supplies.
  obtain ⟨named, ended⟩ := moves.dispatcher rfl
  have queue := (moves.touches.mail rfl).1
  refine serves.beside moves named ended (fun entry member => ?_) (serves.sound_of_touches moves.touches)
    (by simp [queue])
  exact (moves.tasks entry member).imp_right fun new => new.2.1.supplies

/-- The line may change as long as the dispatcher keeps its place. -/
theorem line (serves : session.Serves task shut) {agenda : Agenda} (unused : session.agenda.unused ≤ agenda.unused)
    (ready : session.courier.isSome → task ∈ session.agenda.ready → task ∈ agenda.ready) :
    Serves { session with agenda } task shut := by
  refine { serves with
    below := serves.below.trans_le unused
    numbered := fun entry member => (serves.numbered entry member).trans_le unused
    sound := ?_ }
  -- Whether a task stands in line says nothing about a dispatcher that has returned.
  cases there : session.courier with
  | none => exact serves.sound.of_returned there _
  | some dispatcher =>
    refine serves.sound.listen (fun up => ?_) .inr fun _ called uncalled => absurd called uncalled
    exact decide_eq_true (ready (by simp [there]) (of_decide_eq_true up))

/-- Another task is given a job after a change of the connection. -/
theorem switch (serves : session.Serves task shut) (other : own ≠ task) {job : Job} (supplies : job.Supplies)
    (passes : session.connection.Passes .all (session.HeldBeside (· = task)) connection job.Holds)
    (sound : Dispatching.Sound { session.dispatching task with connection })
    (closed : session.connection.queue.closed = true → connection.queue.closed = true) :
    ((session.mapConnection fun _ => connection).setJob own job).Serves task shut := by
  -- The dispatcher's task is spared by it.
  have moves : Moves .all (· = task) session ((session.mapConnection fun _ => connection).setJob own job) :=
    .setJob other job.within_all passes
  have same := setJob_connection (session.mapConnection fun _ => connection) own job
  refine serves.beside moves (by rw [setJob_eq]; rfl) (by rw [setJob_eq]; rfl) (fun entry member => ?_) ?_ ?_
  · -- The tasks are as before but for this one, whose job supplies.
    rcases mem_setJob member with ⟨stays, -⟩ | ⟨kept, -, rfl⟩
    · exact .inl stays
    · exact .inr supplies
  · rw [same]
    exact sound
  · rw [same]
    exact closed

/-- Another task gives its place in line up. -/
theorem yield (serves : session.Serves task shut) (head : session.agenda.ready = own :: rest) (other : own ≠ task) :
    Serves { session with agenda := session.agenda.yield } task shut := by
  -- The other task leaves the front of the line, and the dispatcher stays in it if it was.
  refine serves.line (Nat.le_refl _) fun _ ready => ?_
  rw [head] at ready
  simpa [Agenda.yield, head] using (List.mem_cons.mp ready).resolve_left other.symm

/-- Another task waits after a change of the connection. -/
theorem park (serves : session.Serves task shut) (head : session.agenda.ready = own :: rest) (other : own ≠ task)
    {job : Job} (supplies : job.Supplies)
    (passes : session.connection.Passes .all (session.HeldBeside (· = task)) connection job.Holds)
    (sound : Dispatching.Sound { session.dispatching task with connection })
    (closed : session.connection.queue.closed = true → connection.queue.closed = true) :
    ((session.mapConnection fun _ => connection).park own job).Serves task shut := by
  -- The task gets its job first and leaves the line then.
  have switched := serves.switch other supplies passes sound closed
  have same : ((session.mapConnection fun _ => connection).setJob own job).agenda = session.agenda := by
    rw [setJob_eq]
    rfl
  have parked := switched.yield (same ▸ head) other
  rw [same] at parked
  exact parked

/-- Another task goes on with a job that holds what it held, and the connection is as it was. -/
theorem turnTo (serves : session.Serves task shut) (other : own ≠ task) {job : Job} (supplies : job.Supplies)
    (owned : ∀ name ticket, job.Holds name ticket → session.HeldBeside (· = task) name ticket) :
    (session.setJob own job).Serves task shut :=
  -- The connection is untouched, so the dispatcher is in order as before.
  serves.switch other supplies (.kept .refl owned) serves.sound id

/-- Queueing a sample leaves the dispatcher in order. -/
theorem takeSample (serves : session.Serves task shut) (number : Nat) :
    (session.takeSample number).Serves task shut := by
  have moves : Moves .all (· = task) session (session.takeSample number) := .takeSample rfl number
  let message := sampleMessage session.agenda.now number
  have queued := serves.sound.enqueue message number .copy
  have closed := session.connection.queue.closed_enqueue message number .copy
  -- The session queues the sample as anyone does, and touches neither the dispatcher nor its task.
  refine serves.beside moves rfl rfl (fun _ member => .inl member) ?_ fun shut => ?_
  · -- A sample that is rejected is logged, which the dispatcher knows nothing of.
    have logged (connection : Connection) (sound : Dispatching.Sound { session.dispatching task with connection })
        (fields : Fields) : Dispatching.Sound { session.dispatching task with
          connection := connection.log .warn "Temperature sample dropped" fields } :=
      sound.beside (.log .refl _ _ _ : connection.Touches .supervisor _ _) rfl
    unfold Session.takeSample
    show Dispatching.Sound { session.dispatching task with connection := _ }
    simp only
    split
    · exact queued
    · exact logged _ queued _
  · unfold Session.takeSample
    show Queue.Outgoing.closed (Connection.queue _) = true
    simp only
    split
    · exact closed.trans shut
    · exact closed.trans shut

/-- A turn of the sampling of the temperature leaves the dispatcher in order. -/
theorem turnOfSampling (serves : session.Serves task shut) (head : session.agenda.ready = own :: rest)
    (other : own ≠ task) (interval : Nat) {stage : Sampling}
    (owned : ∀ name ticket, (Job.sample interval stage).Holds name ticket →
      session.HeldBeside (· = task) name ticket) :
    (session.turnOfSampling own interval stage).Serves task shut := by
  -- Only the stage that takes a sample reaches the queue; the others wait for the clock, on a register of
  -- which the dispatcher holds nothing.
  cases stage with
  | arriving =>
    have begun : session.connection.Touches .supervisor (session.HeldBeside (· = task)) _ :=
      .await .refl session.agenda own .dateTime (.any DateTime.known) .forever
    exact serves.switch other trivial (.begun .refl session.agenda own .dateTime _ .forever)
      (serves.sound_of_touches begun) id
  | taking number => exact (serves.takeSample number).turnTo other trivial fun _ _ => False.elim
  | awaiting wait =>
    have mine : session.connection.Owns (session.HeldBeside (· = task)) .dateTime wait :=
      fun ticket has => .inl (owned _ _ ⟨rfl, has⟩)
    have looked {liberty : Liberty} : session.connection.Touches liberty (session.HeldBeside (· = task))
        (session.connection.poll session.agenda .dateTime wait).2 := .poll .refl session.agenda mine
    have sound := serves.sound_of_touches looked
    simp only [Session.turnOfSampling]
    split
    · exact serves.park head other trivial (.kept looked owned) sound id
    · exact serves.switch other trivial (.free looked) sound id

/-- A turn of another task leaves the dispatcher in order. -/
theorem turnOf (serves : session.Serves task shut) (head : session.agenda.ready = own :: rest) (other : own ≠ task)
    {job : Job} (supplies : job.Supplies)
    (owned : ∀ name ticket, job.Holds name ticket → session.HeldBeside (· = task) name ticket) :
    (session.turnOf own job).Serves task shut := by
  have fresh : ¬session.agenda.unused = task := (Nat.ne_of_lt serves.below).symm
  -- No other task receives messages, and of the other jobs only the sampling of the temperature comes near
  -- the queue.
  cases job with
  | dispatch _ | deliver _ _ _ => exact supplies.elim
  | supervise _ => exact serves.elsewhere (.anyTurn head other fresh rfl owned)
  | await _ _ | raise _ _ | attach _ | flap _ _ => exact serves.elsewhere (.anyTurn head other fresh trivial owned)
  | sample interval stage => exact serves.turnOfSampling head other interval owned
  | rest span after => exact serves.turnTo other supplies owned
  | resting due after =>
    simp only [Session.turnOf]
    split
    · exact serves.turnTo other supplies owned
    · exact serves.park head other supplies (.kept .refl owned) serves.sound id

/-- The last turn of another task leaves the dispatcher in order. -/
theorem lastTurnOf (serves : session.Serves task shut) (head : session.agenda.ready = own :: rest)
    (other : own ≠ task) {job : Job} (supplies : job.Supplies)
    (owned : ∀ name ticket, job.Holds name ticket → session.HeldBeside (· = task) name ticket) :
    (session.lastTurnOf own job).Serves task shut := by
  cases job with
  | dispatch _ | deliver _ _ _ => exact supplies.elim
  | supervise _ => exact serves.elsewhere (.anyLastTurn head other rfl owned)
  | await _ _ | raise _ _ | attach _ | flap _ _ => exact serves.elsewhere (.anyLastTurn head other trivial owned)
  | rest _ _ | resting _ _ => exact serves.elsewhere (.finish head other)
  | sample interval stage =>
    cases stage with
    | arriving | taking _ => exact serves.elsewhere (.finish head other)
    | awaiting wait =>
      -- The sampling gives its wait for the time of day up.
      have gave : Moves .supervisor (· = task) session
          ((session.mapConnection fun connection => connection.abandon .dateTime wait).finish own) :=
        .finishAfter head other (.abandon .refl fun ticket has => .inl (owned _ _ ⟨rfl, has⟩))
      exact serves.elsewhere gave

/-! #### What the dispatcher does -/

/-- What the dispatcher does leaves the other tasks as they were. -/
theorem byItself (serves : before.Serves task shut) {held : RegisterName → Ticket → Prop}
    (touches : before.connection.Touches (.others false) held after.connection)
    (named : after.dispatcherTask = before.dispatcherTask) (unused : before.agenda.unused ≤ after.agenda.unused)
    (stays : ∀ entry ∈ after.tasks, entry.1 ≠ task → entry ∈ before.tasks)
    (runner : ∀ entry ∈ after.tasks, entry.1 = task → ∃ dispatcher, entry.2 = ⟨.dispatch dispatcher, false⟩)
    (apart : ∀ name ticket, before.HeldBeside (· = task) name ticket → (after.dispatching task).Strange name ticket)
    (sound : (after.dispatching task).Sound)
    (endless : ∀ dispatcher, after.courier = some dispatcher → dispatcher.Endless)
    (ended : after.courier = none → after.dispatcherEnded = true)
    (closed : after.connection.queue.closed = before.connection.queue.closed) : after.Serves task shut := by
  -- What the others hold they held before, so it is out of the reach of the dispatcher.
  have held : ∀ name ticket, after.HeldBeside (· = task) name ticket → before.HeldBeside (· = task) name ticket := by
    rintro name ticket ⟨entry, member, other, has⟩
    exact ⟨entry, stays entry member other, other, has⟩
  constructor
  case named => exact named.trans serves.named
  case below => exact serves.below.trans_le unused
  -- Its own number was given out long ago.
  case numbered =>
    intro entry member
    by_cases mine : entry.1 = task
    · exact mine ▸ serves.below.trans_le unused
    · exact (serves.numbered entry (stays entry member mine)).trans_le unused
  case others => exact fun entry member other => serves.others entry (stays entry member other) other
  case runner => exact runner
  case issued =>
    intro name ticket has
    exact (serves.issued name ticket (held name ticket has)).trans_le (touches.issued name)
  case apart => exact fun name ticket has => apart name ticket (held name ticket has)
  case sound => exact sound
  case endless => exact endless
  case ended => exact ended
  case closed => exact fun close => closed.trans (serves.closed close)

/-- The dispatcher goes on to another point of its program, and keeps its place in line if it goes on at once. -/
theorem goOn (serves : session.Serves task shut) (delivers : session.Delivers task dispatcher) {running : Bool}
    {agenda : Agenda} (passes : session.connection.Passes (.others false) dispatcher.Holds connection onward.Holds)
    (sound : Dispatching.Sound ⟨connection, task, some onward, running⟩) (endless : onward.Endless)
    (closed : connection.queue.closed = session.connection.queue.closed)
    (unused : session.agenda.unused ≤ agenda.unused) (ready : running = true → task ∈ agenda.ready) :
    Serves { (session.mapConnection fun _ => connection).setJob task (.dispatch onward) with agenda } task shut := by
  let set := (session.mapConnection fun _ => connection).setJob task (.dispatch onward)
  let further := { set with agenda }
  have listed : (session.mapConnection fun _ => connection).Delivers task dispatcher :=
    ⟨delivers.named, delivers.listed⟩
  have goes : further.Delivers task onward := ⟨(listed.setJob onward).named, (listed.setJob onward).listed⟩
  have same : further.connection = connection := setJob_connection (session.mapConnection fun _ => connection) task _
  have named : further.dispatcherTask = session.dispatcherTask := goes.named.trans delivers.named.symm
  -- The dispatcher stands at the new point, and at no other.
  have at_onward {other : Dispatcher} (there : further.courier = some other) : other = onward :=
    Option.some.inj (there.symm.trans goes.courier)
  -- Every entry is one from before, or the dispatcher's.
  have entries {entry : TaskId × Task} (member : entry ∈ set.tasks) :
      entry ∈ session.tasks ∧ entry.1 ≠ task ∨ entry = (task, ⟨.dispatch onward, false⟩) := by
    rcases mem_setJob member with stays | ⟨kept, found, rfl⟩
    · exact .inl stays
    · obtain rfl := Option.some.inj (found.symm.trans delivers.listed)
      exact .inr rfl
  refine serves.byItself (same ▸ passes.touches) named unused (fun entry member other => ?stays)
    (fun entry member mine => ?runner) (fun name ticket has other there holds => ?apart) ?sound
    (fun other there => at_onward there ▸ endless) (fun gone => ?ended)
    ((congrArg (·.queue.closed) same).trans closed)
  case stays =>
    rcases entries member with ⟨stays, -⟩ | rfl
    · exact stays
    · exact absurd rfl other
  case runner =>
    rcases entries member with ⟨-, other⟩ | rfl
    · exact absurd mine other
    · exact ⟨onward, rfl⟩
  case apart =>
    obtain rfl := at_onward there
    -- What it holds now it held before, or the ticket was issued since.
    rcases passes.obtains name ticket holds with old | ⟨low, -⟩
    · exact serves.apart name ticket has dispatcher delivers.courier old
    · exact absurd (serves.issued name ticket has) (Nat.not_lt_of_le low)
  case sound =>
    have awake : Dispatching.Sound { connection, task, dispatcher := some onward
                                     running := decide (task ∈ agenda.ready) } :=
      sound.listen (fun up => decide_eq_true (ready up)) .inr fun _ called uncalled => absurd called uncalled
    have placed : further.dispatching task = { connection, task, dispatcher := some onward
                                               running := decide (task ∈ agenda.ready) } := by
      simp only [Session.dispatching, goes.courier, same]
      rfl
    exact placed ▸ awake
  case ended => cases gone.symm.trans goes.courier

/-- The dispatcher goes on at once to another point of its program. -/
theorem goOnAtOnce (serves : session.Serves task shut) (head : session.agenda.ready = task :: rest)
    (delivers : session.Delivers task dispatcher)
    (passes : session.connection.Passes (.others false) dispatcher.Holds connection onward.Holds)
    (sound : Dispatching.Sound ⟨connection, task, some onward, true⟩) (endless : onward.Endless)
    (closed : connection.queue.closed = session.connection.queue.closed) :
    ((session.mapConnection fun _ => connection).setJob task (.dispatch onward)).Serves task shut := by
  have goes := serves.goOn delivers passes sound endless closed (Nat.le_refl session.agenda.unused)
    fun _ => by simp [head]
  -- The agenda is as it was, since no time has passed and nobody was woken.
  have same : ((session.mapConnection fun _ => connection).setJob task (.dispatch onward)).agenda =
      session.agenda := by
    rw [setJob_eq]
    rfl
  rw [← same] at goes
  exact goes

/-- The dispatcher returns. -/
theorem retire (serves : session.Serves task shut) {held : RegisterName → Ticket → Prop}
    (touches : session.connection.Touches (.others false) held connection)
    (sound : Dispatching.Sound ⟨connection, task, none, false⟩)
    (closed : connection.queue.closed = session.connection.queue.closed) :
    Serves { (session.mapConnection fun _ => connection).finish task with dispatcherEnded := true } task shut := by
  let finished := { (session.mapConnection fun _ => connection).finish task with dispatcherEnded := true }
  have gone : finished.tasks.lookup task = none := by
    show (session.tasks.filter (·.1 ≠ task)).lookup task = none
    rw [Entries.lookup_filter_ne, if_pos rfl]
  have courier : finished.courier = none := by
    have named : finished.dispatcherTask = some task := serves.named
    simp [Session.courier, named, gone]
  have stays {entry : TaskId × Task} (member : entry ∈ finished.tasks) : entry ∈ session.tasks :=
    List.mem_of_mem_filter member
  -- With its task the dispatcher is gone from the list, so nothing is left to ask of it but what the queue
  -- holds.
  refine serves.byItself touches rfl (Nat.le_refl _) (fun entry member _ => stays member)
    (fun entry member => serves.runner entry (stays member)) (fun name ticket _ other there => ?apart) ?sound
    (fun other there => ?endless) (fun _ => rfl) closed
  case apart => cases courier.symm.trans there
  case endless => cases courier.symm.trans there
  case sound =>
    have placed : finished.dispatching task = { connection, task, dispatcher := none
                                                running := decide (task ∈ finished.agenda.ready) } := by
      simp only [Session.dispatching, courier]
      rfl
    exact placed ▸ sound.of_returned rfl _

/-- A turn in which the transport answers the dispatcher leaves it in order. -/
theorem answer (serves : session.Serves task shut) (head : session.agenda.ready = task :: rest) {envelope : Envelope}
    (delivers : session.Delivers task (.delivering envelope .sending)) :
    (session.turnOfDispatcher task (.delivering envelope .sending)).Serves task shut := by
  let sent := session.send envelope.handle envelope.message
  -- The message goes to the transport, which is no part of the dispatcher.
  have asked : sent.2.Serves task shut := serves.elsewhere (.send envelope.handle envelope.message)
  -- Taking the answer in changes no register.
  have answered : session.connection.Touches (.others false) (fun _ _ => False)
      (Delivery.resume session.connection envelope sent.1).2 :=
    Delivery.resume_touches rfl session.connection envelope sent.1
  have queue := congrArg Outgoing.closed (Delivery.resume_queue session.connection envelope sent.1)
  have there : (session.dispatching task).dispatcher = some (.delivering envelope .sending) := delivers.courier
  have running : decide (task ∈ session.agenda.ready) = true := decide_eq_true (by simp [head])
  have sound := serves.sound.answer there running sent.1
  simp only [Dispatching.answer, Session.dispatching, running] at sound
  exact asked.goOnAtOnce head ⟨delivers.named, delivers.listed⟩ (.free answered) sound trivial queue

/-- A turn in which the dispatcher takes a step leaves it in order. -/
theorem step (serves : session.Serves task shut) (head : session.agenda.ready = task :: rest)
    (delivers : session.Delivers task dispatcher) (unsent : ∀ envelope, dispatcher ≠ .delivering envelope .sending) :
    (session.turnOfDispatcher task dispatcher).Serves task shut := by
  have there : (session.dispatching task).dispatcher = some dispatcher := delivers.courier
  have running : decide (task ∈ session.agenda.ready) = true := decide_eq_true (by simp [head])
  -- A message is in transit only while its call is made, and here none is.
  have untaken : dispatcher.inTransit = [] := by
    cases dispatcher with
    | starting | receiving _ => rfl
    | delivering envelope delivery =>
      cases delivery with
      | arriving | awaiting _ => rfl
      | sending => exact absurd rfl (unsent envelope)
  -- The queue, the connection and the dispatcher make one system, in which this step is sound; what is left
  -- is where the session puts its result.
  have sound := serves.sound.step there running untaken session.agenda
  have passes : session.connection.Passes (.others false) dispatcher.Holds _ _ :=
    Dispatcher.step_passes rfl session.connection session.agenda task fun _ _ holds => holds
  have closed := dispatcher.closed_step session.connection session.agenda task
  have endless := fun onward : Dispatcher =>
    ((serves.endless dispatcher delivers.courier).step session.connection session.agenda task : _ → onward.Endless)
  rcases stepped : dispatcher.step session.connection session.agenda task with ⟨progress, connection⟩
  simp only [Dispatching.step, Session.dispatching, stepped] at sound
  rw [stepped] at passes closed endless
  -- It goes on at once, parks, or is done.
  cases progress with
  | next onward =>
    rw [turnOfDispatcher_next unsent stepped]
    rw [running] at sound
    exact serves.goOnAtOnce head delivers passes sound (endless _ (.inl rfl)) closed
  | parked onward =>
    rw [turnOfDispatcher_parked unsent stepped]
    exact serves.goOn delivers passes sound (endless _ (.inr rfl)) closed (Nat.le_refl _) fun up => by cases up
  | done answer =>
    have ends : session.turnOfDispatcher task dispatcher =
        { (session.mapConnection fun _ => connection).finish task with dispatcherEnded := true } := by
      unfold Session.turnOfDispatcher
      split
      · exact absurd rfl (unsent _)
      · rw [stepped]
        simp [mapConnection, Session.finish, serves.named]
    rw [ends]
    exact serves.retire passes.touches sound closed

/-- A turn of the dispatcher leaves it in order. -/
theorem turnOfDispatcher (serves : session.Serves task shut) (head : session.agenda.ready = task :: rest)
    (delivers : session.Delivers task dispatcher) : (session.turnOfDispatcher task dispatcher).Serves task shut := by
  -- The point at which the transport answers has a lemma of its own.
  by_cases sending : ∃ envelope, dispatcher = .delivering envelope .sending
  · obtain ⟨envelope, rfl⟩ := sending
    exact serves.answer head delivers
  · exact serves.step head delivers fun envelope same => sending ⟨envelope, same⟩

/-- After a turn of the dispatcher in which it has found no message, nobody is to be woken, and it is still in its
turn. -/
theorem turnOfDispatcher_checking (serves : session.Serves task shut) (head : session.agenda.ready = task :: rest)
    (delivers : session.Delivers task dispatcher) (nobody : session.connection.woken = [])
    (checks : (session.turnOfDispatcher task dispatcher).courier = some (.receiving .checking)) :
    (session.turnOfDispatcher task dispatcher).connection.woken = [] ∧
      (session.turnOfDispatcher task dispatcher).agenda = session.agenda := by
  have goes := (serves.turnOfDispatcher head delivers).delivers checks
  by_cases sending : ∃ envelope, dispatcher = .delivering envelope .sending
  · -- It goes on from the very beginning.
    obtain ⟨envelope, rfl⟩ := sending
    have sent : (session.send envelope.handle envelope.message).2.Delivers task (.delivering envelope .sending) :=
      ⟨delivers.named, delivers.listed⟩
    have answered : (session.turnOfDispatcher task (.delivering envelope .sending)).Delivers task .idle :=
      sent.answer _
    cases (answered.unique goes).2
  have unsent : ∀ envelope, dispatcher ≠ .delivering envelope .sending :=
    fun envelope same => sending ⟨envelope, same⟩
  rcases stepped : dispatcher.step session.connection session.agenda task with ⟨progress, connection⟩
  have listed : (session.mapConnection fun _ => connection).Delivers task dispatcher :=
    ⟨delivers.named, delivers.listed⟩
  -- It has stayed at looking for a message only if its step says so; a step that parks or returns does not.
  cases progress with
  | next onward =>
    rw [turnOfDispatcher_next unsent stepped] at goes ⊢
    obtain ⟨-, rfl⟩ := (listed.setJob onward).unique goes
    rw [setJob_connection]
    refine ⟨(Dispatcher.woken_step_checking stepped).trans nobody, ?_⟩
    rw [setJob_eq]
    rfl
  | parked onward =>
    rw [turnOfDispatcher_parked unsent stepped] at goes
    have parked : ((session.mapConnection fun _ => connection).park task (.dispatch onward)).Delivers task onward :=
      ⟨(listed.setJob onward).named, (listed.setJob onward).listed⟩
    obtain ⟨-, rfl⟩ := parked.unique goes
    exact absurd stepped Dispatcher.step_ne_parked_checking
  -- A dispatcher that is done is no longer on the list.
  | done answer => cases (turnOfDispatcher_done unsent stepped).2.symm.trans goes.listed

end Serves

/-! ### Between the turns -/

/-- Between the turns of a session nobody is left to wake, and a dispatcher that has found no message is still in its
turn. -/
structure Engaged (session : Session) (task : TaskId) (shut : Bool) : Prop where
  serves : session.Serves task shut
  nobody : session.connection.woken = []
  looks : session.courier = some (.receiving .checking) → session.agenda.ready.head? = some task

/-- Whoever is left to wake moves to the line. -/
theorem Serves.flush (serves : session.Serves task shut)
    (calm : session.courier = some (.receiving .checking) → task ∈ session.connection.woken →
      session.connection.queue.channel.items = [])
    (looks : session.courier = some (.receiving .checking) → session.agenda.ready.head? = some task) :
    session.flush.Engaged task shut := by
  have unused : session.flush.agenda.unused = session.agenda.unused := Agenda.wakeAll_unused _ _
  have registers (name : RegisterName) : session.flush.connection.register name = session.connection.register name := by
    cases name <;> rfl
  have awake : (session.flush.dispatching task).Sound := by
    refine serves.sound.listen (fun up => ?_) (fun called => .inl ?_) fun checks called _ => calm checks called
    · exact decide_eq_true (Agenda.mem_wakeAll.mpr (.inl (of_decide_eq_true up)))
    · exact decide_eq_true (Agenda.mem_wakeAll.mpr (.inr called))
  -- Only the line has grown: whoever stood in it before still stands there, and at its head.
  refine ⟨⟨serves.named, ?_, ?_, serves.others, serves.runner, ?_, serves.apart, awake, serves.endless, serves.ended,
    serves.closed⟩, rfl, fun checks => Agenda.head?_wakeAll (looks checks) _⟩
  · rw [unused]
    exact serves.below
  · rw [unused]
    exact serves.numbered
  · intro name ticket held
    rw [registers]
    exact serves.issued name ticket held

namespace Engaged

/-- A dispatcher that has found no message has not been called for one since. -/
theorem empty_of_checking (engaged : session.Engaged task shut)
    (checks : session.courier = some (.receiving .checking)) : session.connection.queue.channel.items = [] := by
  -- The receiver was not called, so only an empty channel can have brought it here.
  have stands := engaged.serves.sound.stands
  simp only [Dispatching.recipient?, Session.dispatching, checks, engaged.nobody, Option.bind_some,
    Dispatcher.recipient?, List.not_mem_nil, decide_false] at stands
  exact stands.2.2.resolve_left (by simp)

/-- Waking tasks and moving the clock leaves the dispatcher in order. -/
theorem line (engaged : session.Engaged task shut) {agenda : Agenda} (unused : session.agenda.unused ≤ agenda.unused)
    (ready : session.courier.isSome → task ∈ session.agenda.ready → task ∈ agenda.ready)
    (first : session.courier.isSome → session.agenda.ready.head? = some task → agenda.ready.head? = some task) :
    Engaged { session with agenda } task shut where
  -- Only the line and the next name are asked about, and both are given.
  serves := engaged.serves.line unused ready
  nobody := engaged.nobody
  looks checks := first (Option.isSome_of_mem checks) (engaged.looks checks)

/-- A turn of another task leaves the dispatcher in order, with everybody whom it has woken in line. -/
theorem settled (engaged : session.Engaged task shut) {liberty : Liberty}
    (head : session.agenda.ready = own :: rest) (other : own ≠ task) (serves : after.Serves task shut)
    (moves : Moves liberty (· = task) session after) : after.flush.Engaged task shut := by
  have courier : after.courier = session.courier := by
    simp only [Session.courier, serves.named, engaged.serves.named, moves.lookup task rfl]
  -- The dispatcher is not in the middle of looking for a message, as it is not first in line.
  have away : after.courier ≠ some (.receiving .checking) := by
    intro checks
    have first := engaged.looks (courier ▸ checks)
    rw [head] at first
    exact other (Option.some.inj first)
  exact serves.flush (fun checks => absurd checks away) fun checks => absurd checks away

/-- A turn leaves the dispatcher in order. -/
theorem turn (engaged : session.Engaged task shut) (turned : session.turn? = some next) : next.Engaged task shut := by
  -- The head of the line has ended, or is a task that was stopped, or is the dispatcher, or is another task.
  obtain ⟨own, rest, head, turn⟩ := turn_of_turned turned
  have serves := engaged.serves
  have held {entry : Task} (found : session.tasks.lookup own = some entry) (other : own ≠ task) :
      ∀ name ticket, entry.job.Holds name ticket → session.HeldBeside (· = task) name ticket :=
    fun name ticket has => ⟨(own, entry), Entries.mem_of_lookup found, other, has⟩
  cases turn with
  | gone absent =>
    -- A dispatcher that has a place in line has a task that is listed.
    have other : session.courier.isSome → own ≠ task := by
      rintro there rfl
      simp [serves.courier_of_absent absent] at there
    refine engaged.line (Nat.le_refl _) (fun there ready => ?_) fun there first => ?_
    · rw [head] at ready
      simpa [Agenda.yield, head] using (List.mem_cons.mp ready).resolve_left (other there).symm
    · rw [head] at first
      exact absurd (Option.some.inj first) (other there)
  | @last entry found stopped =>
    have member : (own, entry) ∈ session.tasks := Entries.mem_of_lookup found
    -- The dispatcher is not stopped.
    have other : own ≠ task := by
      intro mine
      obtain ⟨dispatcher, rfl⟩ := serves.runner _ member mine
      cases stopped
    obtain ⟨liberty, moves⟩ := Moves.exists_lastTurnOf head other (held found other)
    have last := serves.lastTurnOf head other (serves.others _ member other) (held found other)
    exact engaged.settled head other last moves
  | @next entry found onward =>
    have member : (own, entry) ∈ session.tasks := Entries.mem_of_lookup found
    let opened := session.within entry.job.spans
    have opening : opened.Serves task shut := serves.elsewhere (.within entry.job.spans)
    have head' : opened.agenda.ready = own :: rest := head
    by_cases mine : own = task
    · -- The dispatcher takes its turn.
      subst mine
      obtain ⟨dispatcher, rfl⟩ := serves.runner _ member rfl
      have delivers : opened.Delivers own dispatcher := ⟨serves.named, found⟩
      have turned := opening.turnOfDispatcher head' delivers
      have checking := opening.turnOfDispatcher_checking head' delivers engaged.nobody
      refine (turned.elsewhere (.within [])).flush (fun checks called => ?_) fun checks => ?_
      · have called : own ∈ (opened.turnOfDispatcher own dispatcher).connection.woken := called
        simp [(checking checks).1] at called
      · have same : ((opened.turnOfDispatcher own dispatcher).within []).agenda = opened.agenda := (checking checks).2
        exact (congrArg (·.ready.head?) same).trans (congrArg List.head? head')
    · -- Another task takes its turn.
      have turned := opening.turnOf head' mine (serves.others _ member mine) (held found mine)
      have fresh : ¬session.agenda.unused = task := (Nat.ne_of_lt serves.below).symm
      have moved : ∃ liberty, Moves liberty (· = task) opened (opened.turnOf own entry.job) :=
        Moves.exists_turnOf head' mine fresh (held found mine)
      obtain ⟨liberty, moves⟩ := moved
      have moves := ((Moves.within entry.job.spans).trans moves).trans (.within [])
      exact engaged.settled head mine (turned.elsewhere (.within [])) moves

/-- The clock may be set, and those whose deadline has come stand in line. -/
theorem strike (engaged : session.Engaged task shut) (instant : Nat) : (session.strike instant).Engaged task shut := by
  -- Waking adds to the line at its end, so that nobody loses his place.
  refine engaged.line (Nat.le_of_eq (Agenda.wakeAll_unused { session.agenda with now := instant } _).symm)
    (fun _ ready => ?_) fun _ first => ?_
  · exact Agenda.mem_wakeAll.mpr (.inl ready)
  · have struck : { session.agenda with now := instant }.ready.head? = some task := first
    exact Agenda.head?_wakeAll struck _

/-- Whoever lets the time of a session pass leaves the dispatcher in order. -/
theorem runTo (engaged : session.Engaged task shut) (arrived : Session → Bool) (limit turns : Nat) :
    (Timed.runTo arrived limit turns session).Engaged task shut :=
  -- Turns and strikes are all that it is made of.
  Timed.runTo_keeps (P := (Engaged · task shut)) (fun _ _ engaged turned => engaged.turn turned)
    (fun _ instant engaged => engaged.strike instant) engaged

/-! #### From outside -/

/-- What changes nothing but the other tasks leaves the dispatcher in order. -/
theorem tasks (engaged : session.Engaged task shut) {liberty : Liberty} (moves : Moves liberty (· = task) session after)
    (connection : after.connection = session.connection) (named : after.dispatcherTask = session.dispatcherTask)
    (ended : after.dispatcherEnded = session.dispatcherEnded)
    (others : ∀ entry ∈ after.tasks, entry ∈ session.tasks ∨ entry.2.job.Supplies)
    (first : session.agenda.ready.head? = some task → after.agenda.ready.head? = some task) :
    after.Engaged task shut := by
  -- The connection is the same, and so is the dispatcher in it.
  have serves : after.Serves task shut := by
    refine engaged.serves.beside moves named ended others ?_ fun shut =>
      (congrArg (·.queue.closed) connection).trans shut
    rw [connection]
    exact engaged.serves.sound
  -- It is called for a message only if it was, and stands in line if it did.
  refine ⟨serves, connection ▸ engaged.nobody, fun checks => first (engaged.looks ?_)⟩
  rw [← checks]
  simp only [Session.courier, named, engaged.serves.named, moves.lookup task rfl]

/-- A task that at most queues messages may be started. -/
theorem spawn (engaged : session.Engaged task shut) {job : Job} (supplies : job.Supplies)
    (free : ∀ name ticket, ¬job.Holds name ticket) : (session.spawn job).2.Engaged task shut := by
  -- The new task is not the dispatcher's.
  have fresh : ¬session.agenda.unused = task := (Nat.ne_of_lt engaged.serves.below).symm
  have moves : Moves .all (· = task) session (session.spawn job).2 := .spawn fresh job.within_all free
  refine engaged.tasks moves rfl rfl rfl (fun entry member => ?_) fun first => ?_
  · -- It is the only one in the list that was not there before.
    rcases mem_spawn member with stays | rfl
    · exact .inl stays
    · exact .inr supplies
  · simp [Session.spawn, Agenda.spawn, first]

/-- Another task may be stopped. -/
theorem stop (engaged : session.Engaged task shut) (other : own ≠ task) : (session.stop own).Engaged task shut := by
  have moves : Moves .all (· = task) session (session.stop own) := .stop other fun entry _ _ => entry.2.job.within_all
  -- A task that is not listed is not stopped; one that is listed is marked and woken.
  unfold Session.stop at moves ⊢
  split
  · exact engaged
  · rename_i listed
    rw [if_neg listed] at moves
    refine engaged.tasks moves rfl rfl rfl (fun entry member => ?_) fun first => Agenda.head?_wakeAll first [own]
    have marked : entry ∈ Entries.adjust own (fun entry => { entry with cancelled := true }) session.tasks := member
    rcases Entries.mem_adjust.mp marked with ⟨stays, -⟩ | ⟨kept, stood, rfl⟩
    · exact .inl stays
    · have supplies := engaged.serves.others _ stood other
      exact .inr supplies

/-- What is written to the log is no matter of the dispatcher. -/
theorem log (engaged : session.Engaged task shut) (level : Level) (message : String) (fields : Fields) :
    (session.mapConnection fun connection => connection.log level message fields).Engaged task shut where
  -- The log is no part of the queue or of a register.
  serves := engaged.serves.elsewhere (.mapConnection (.log .refl level message fields))
  nobody := engaged.nobody
  looks := engaged.looks

/-- The queue may be closed. -/
theorem closeQueue (engaged : session.Engaged task shut) :
    (session.mapConnection Connection.closeQueue).flush.Engaged task true := by
  have touches : session.connection.Touches .all (session.HeldBeside (· = task)) session.connection.closeQueue :=
    Connection.Touches.refl.closeQueue rfl
  have moves : Moves .all (· = task) session (session.mapConnection Connection.closeQueue) := .mapConnection touches
  have serves := engaged.serves.beside moves rfl rfl (fun _ member => .inl member) engaged.serves.sound.close
    fun _ => rfl
  have closed : (session.mapConnection Connection.closeQueue).Serves task true := { serves with closed := fun _ => rfl }
  -- A closing adds no message.
  exact closed.flush (fun checks _ => engaged.empty_of_checking checks) engaged.looks

/-! #### At rest -/

/-- Where no task can run, a dispatcher that is to drain the queue has returned, or waits with a message, for as long
as it takes, for a bit that is not set. -/
theorem at_rest (engaged : session.Engaged task true) (quiet : session.turn? = none) :
    session.dispatcherEnded = true ∨ ∃ envelope wait, session.Delivers task (.delivering envelope (.awaiting wait)) ∧
      wait.Endless ∧ wait.Unmet session.connection := by
  have serves := engaged.serves
  -- Nobody is in the line and nobody is to be called, which is what rest means for a dispatcher alone.
  have rests : (session.dispatching task).Quiet := by
    simp [Dispatching.Quiet, Session.dispatching, ready_of_quiet quiet, engaged.nobody]
  cases there : session.courier with
  -- A dispatcher that is not there has returned.
  | none => exact .inl (serves.ended there)
  | some dispatcher =>
    -- One that is there receives from an open queue, or waits; and this queue is closed.
    rcases serves.sound.at_rest rests there with ⟨-, -, opened⟩ | ⟨envelope, wait, rfl, unmet⟩
    · cases opened.symm.trans (serves.closed rfl)
    · exact .inr ⟨envelope, wait, serves.delivers there, serves.endless _ there, unmet⟩

end Engaged

end Session

end Uplink
