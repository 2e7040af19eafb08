import Uplink.Proofs.Session.Aside

/-! The turns of tasks, the replies to requests and the actions from outside spare all other tasks. -/

namespace Uplink

/-- An action that neither starts or stops a run nor publishes a shadow in its stead. The cloud
register may be cleared from outside only where that is allowed. -/
def Action.Aside (clears : Bool) : Action → Prop
  | .start | .stop | .publish => False
  | .reset name => name = .cloud → clears = true
  | _ => True

/-- What an action needs that neither starts nor stops a run of the supervisor: to publish a shadow in its
stead is to count, and whoever queues, receives or sends messages delivers. -/
def Action.Within (liberty : Liberty) : Action → Prop
  | .start | .stop => False
  | .publish => liberty.counts = true
  | .startDispatcher | .enqueue _ _ _ | .closeQueue | .tryReceive _ | .release _ | .dispatch _ =>
    liberty.delivers = true
  | .link _ | .cloud _ | .dateTime _ | .emit _ | .dropSession | .emitLink _ | .emitDateTime _
  | .requestDisconnect | .post _ _ | .connectTransport | .connectModem => liberty.posts = true
  | .reset name => name = .cloud → liberty.clears = true
  | _ => True

/-- An action beside the run needs no more than others may do. -/
theorem Action.Aside.within {clears : Bool} {action : Action} (aside : action.Aside clears) :
    action.Within (.others clears) := by
  -- One case for each action; the two that clear ask for leave to do so.
  cases action <;> first | exact aside | exact False.elim aside | exact rfl

namespace Session.Moves

open Flags (Register Ticket Wait)

variable {liberty : Liberty} {spared : TaskId → Prop} {session : Session} {task : TaskId}
  {rest : List TaskId}

/-! ### Turns -/

/-- A task that is not spared goes on with a job that holds what it held. -/
theorem turnTo {job : Job} (other : ¬spared task) (within : job.Within liberty.counts liberty.delivers)
    (owned : ∀ name ticket, job.Holds name ticket → session.HeldBeside spared name ticket) :
    Moves liberty spared session (session.setJob task job) :=
  -- The connection is untouched, so only what the job holds has to be accounted for.
  setJob other within (.kept .refl owned)

/-- A task that is not spared changes the connection and ends. -/
theorem finishAfter {connection : Connection} (head : session.agenda.ready = task :: rest)
    (other : ¬spared task)
    (touches : session.connection.Touches liberty (session.HeldBeside spared) connection) :
    Moves liberty spared session ((session.mapConnection fun _ => connection).finish task) := by
  -- The connection changes first, and then the task leaves.
  have shared : Moves liberty spared session (session.mapConnection fun _ => connection) :=
    mapConnection touches
  exact shared.trans (finish head other)

/-- A message that is handed to the transport is seen by no task. -/
theorem send (handle : Handle) (message : Message) :
    Moves liberty spared session (session.send handle message).2 :=
  -- The transport is no part of what the tasks see.
  unseen rfl rfl rfl rfl fun _ => ⟨rfl, rfl⟩

/-- A turn of a wait of the application. -/
theorem turnOfAwaiting (head : session.agenda.ready = task :: rest) (other : ¬spared task) (label : Nat)
    {awaiting : Awaiting}
    (owned : ∀ name ticket, awaiting.Holds name ticket → session.HeldBeside spared name ticket) :
    Moves liberty spared session (session.turnOfAwaiting task label awaiting) := by
  -- A wait goes on at once, or parks, or ends with its answer.
  have passes : session.connection.Passes liberty (session.HeldBeside spared) _ _ :=
    Awaiting.step_passes session.connection session.agenda task owned
  unfold Session.turnOfAwaiting
  rcases stepped : awaiting.step session.connection session.agenda task with ⟨progress, connection⟩
  rw [stepped] at passes
  cases progress with
  | next onward => exact setJob other trivial passes
  | parked onward => exact park head other trivial passes
  | done answer =>
    exact (finishAfter head other passes.touches).trans (unseen rfl rfl rfl rfl fun _ => ⟨rfl, rfl⟩)

/-- A turn of the delivery of one message. -/
theorem turnOfDelivery (head : session.agenda.ready = task :: rest) (other : ¬spared task)
    (allowed : liberty.delivers = true) (label : Nat) (envelope : Envelope) {delivery : Delivery}
    (owned : ∀ name ticket, delivery.Holds name ticket → session.HeldBeside spared name ticket) :
    Moves liberty spared session (session.turnOfDelivery task label envelope delivery) := by
  have passes : session.connection.Passes liberty (session.HeldBeside spared) _ _ :=
    Delivery.step_passes allowed session.connection session.agenda task envelope owned
  unfold Session.turnOfDelivery
  split
  · -- The transport answers within the turn, and the delivery ends.
    have answered : session.connection.Touches liberty (session.HeldBeside spared)
        (Delivery.resume session.connection envelope (session.send envelope.handle envelope.message).1).2 :=
      Delivery.resume_touches allowed session.connection envelope _
    exact (finishAfter head other answered).trans (unseen rfl rfl rfl rfl fun _ => ⟨rfl, rfl⟩)
  -- Every other step of a delivery goes on at once, or parks, or ends.
  · rcases stepped : delivery.step session.connection session.agenda task envelope with ⟨progress, connection⟩
    rw [stepped] at passes
    cases progress with
    | next onward => exact setJob other allowed passes
    | parked onward => exact park head other allowed passes
    | done answer =>
      exact (finishAfter head other passes.touches).trans (unseen rfl rfl rfl rfl fun _ => ⟨rfl, rfl⟩)

/-- A turn of a dispatcher. -/
theorem turnOfDispatcher (head : session.agenda.ready = task :: rest) (other : ¬spared task)
    (allowed : liberty.delivers = true) {dispatcher : Dispatcher}
    (owned : ∀ name ticket, dispatcher.Holds name ticket → session.HeldBeside spared name ticket) :
    Moves liberty spared session (session.turnOfDispatcher task dispatcher) := by
  have passes : session.connection.Passes liberty (session.HeldBeside spared) _ _ :=
    Dispatcher.step_passes allowed session.connection session.agenda task owned
  unfold Session.turnOfDispatcher
  split
  · rename_i envelope
    -- The transport answers within the turn, and the dispatcher is about to receive again.
    have answered : session.connection.Touches liberty (session.HeldBeside spared)
        (Delivery.resume session.connection envelope (session.send envelope.handle envelope.message).1).2 :=
      Delivery.resume_touches allowed session.connection envelope _
    have sent : Moves liberty spared session (session.send envelope.handle envelope.message).2 := send _ _
    exact sent.trans (setJob other allowed (.free answered))
  · rcases stepped : dispatcher.step session.connection session.agenda task with ⟨progress, connection⟩
    rw [stepped] at passes
    cases progress with
    | next onward => exact setJob other allowed passes
    | parked onward => exact park head other allowed passes
    | done answer =>
      -- A dispatcher that delivers may end as the latest one.
      have delivers : liberty.delivers ≠ false := by simp [allowed]
      exact (finishAfter head other passes.touches).trans
        (unseen rfl rfl rfl rfl fun others => absurd others delivers)

/-- Queueing a sample touches the queue alone. -/
theorem takeSample (allowed : liberty.delivers = true) (number : Nat) :
    Moves liberty spared session (session.takeSample number) := by
  -- Whether the sample was queued or rejected, only the rejection is logged.
  have queued : session.connection.Touches liberty (session.HeldBeside spared)
      (session.connection.enqueue (sampleMessage session.agenda.now number) number .copy).2 :=
    Connection.Touches.refl.enqueue _ _ _ allowed
  unfold Session.takeSample
  refine mapConnection ?_
  split
  · exact queued
  · exact queued.log _ _ _

/-- A turn of the sampling of the temperature. -/
theorem turnOfSampling (head : session.agenda.ready = task :: rest) (other : ¬spared task)
    (allowed : liberty.delivers = true) (interval : Nat) {stage : Sampling}
    (owned : ∀ name ticket, (Job.sample interval stage).Holds name ticket →
      session.HeldBeside spared name ticket) :
    Moves liberty spared session (session.turnOfSampling task interval stage) := by
  -- The sampling waits once for the time of day, and from then on it takes samples and rests.
  cases stage with
  | arriving => exact setJob other allowed (.begun .refl session.agenda task .dateTime _ .forever)
  | taking number =>
    have taken : Moves liberty spared session (session.takeSample number) := takeSample allowed number
    exact taken.trans (turnTo other allowed fun _ _ => False.elim)
  | awaiting wait =>
    have own : session.connection.Owns (session.HeldBeside spared) .dateTime wait :=
      fun ticket has => .inl (owned _ _ ⟨rfl, has⟩)
    have looked : session.connection.Touches liberty (session.HeldBeside spared)
        (session.connection.poll session.agenda .dateTime wait).2 := .poll .refl session.agenda own
    simp only [Session.turnOfSampling]
    split
    · exact park head other allowed (.kept looked owned)
    · exact setJob other allowed (.free looked)

/-- A link event reaches the device, or nothing happens. -/
theorem emitLink (allowed : liberty.posts = true) (event : LinkEvent) :
    Moves liberty spared session (session.emitLink event).2 := by
  -- Nobody hears of it before the modem was asked to connect.
  have reached : session.connection.Touches liberty (session.HeldBeside spared)
      (session.connection.onLinkEvent event) := Connection.Touches.refl.onLinkEvent event allowed
  unfold Session.emitLink
  split
  · exact onlyConnection reached rfl
  · exact refl session

/-- A turn of the losing and finding of the radio link. -/
theorem turnOfFlapping (other : ¬spared task) (allowed : liberty.posts = true) (interval : Nat)
    (lost : Bool) : Moves liberty spared session (session.turnOfFlapping task interval lost) := by
  -- It notes what it is about to do, does it, and rests.
  let text := if lost then "Simulating cellular link recovery" else "Simulating cellular link loss"
  let status := if lost then Registration.registeredHome else .searching
  have noted : Moves liberty spared session
      (session.mapConnection fun connection => connection.log .info text []) :=
    mapConnection (Connection.Touches.refl.log _ _ _)
  have linked := noted.trans (emitLink allowed (.registration status))
  exact linked.trans (turnTo other trivial fun _ _ => False.elim)

/-- The modem attaches by changes that whoever raises bits can make. -/
theorem attached (allowed : liberty.posts = true) (clock : Bool) :
    Moves liberty spared session (session.mapConnection (Session.attached clock)) := by
  -- The modem searches and registers, and may then report the time of day.
  refine mapConnection ?_
  unfold Session.attached
  have registered : session.connection.Touches liberty (session.HeldBeside spared) _ :=
    (Connection.Touches.refl.onRegistration .searching allowed).onRegistration .registeredHome allowed
  simp only
  split
  · exact registered.onDateTime true allowed
  · exact registered

/-- A turn of a task that does not run the supervisor. -/
theorem turn (head : session.agenda.ready = task :: rest) (other : ¬spared task) {job : Job}
    (beside : ∀ run, job ≠ .supervise run) (within : job.Within liberty.counts liberty.delivers)
    (loud : ¬job.Mute → liberty.posts = true)
    (owned : ∀ name ticket, job.Holds name ticket → session.HeldBeside spared name ticket) :
    Moves liberty spared session (session.turnOf task job) := by
  -- One case for each job, and its own lemma where the job is more than a step.
  cases job with
  | supervise run => exact absurd rfl (beside run)
  | dispatch dispatcher => exact turnOfDispatcher head other within owned
  | deliver label envelope delivery => exact turnOfDelivery head other within label envelope owned
  | await label awaiting => exact turnOfAwaiting head other label owned
  | sample interval stage => exact turnOfSampling head other within interval owned
  | flap interval lost => exact turnOfFlapping other (loud id) interval lost
  | attach clock => exact (attached (loud id) clock).trans (finish head other)
  | rest span after => exact turnTo other within owned
  -- A rest is over or goes on, and holds no wait of its own.
  | resting due after =>
    simp only [Session.turnOf]
    split
    · exact turnTo other within owned
    · exact park head other within (.kept .refl owned)
  | raise pause events =>
    cases events with
    | nil => exact finish head other
    | cons event later =>
      -- The event raises its bits, and the rest of the events come in later turns.
      have raised : session.connection.Touches liberty (session.HeldBeside spared)
          (session.connection.onCloudEvent event) := Connection.Touches.refl.onCloudEvent event (loud id)
      simp only [Session.turnOf]
      split
      · exact finishAfter head other raised
      · cases later with
        | nil => exact setJob other trivial (.free raised)
        | cons next others => exact setJob other trivial (.free raised)

/-- The last turn of a task that does not run the supervisor gives up what the task holds. -/
theorem lastTurn (head : session.agenda.ready = task :: rest) (other : ¬spared task) {job : Job}
    (beside : ∀ run, job ≠ .supervise run) (within : job.Within liberty.counts liberty.delivers)
    (owned : ∀ name ticket, job.Holds name ticket → session.HeldBeside spared name ticket) :
    Moves liberty spared session (session.lastTurnOf task job) := by
  -- One case for each job: whoever waits gives its wait up, and all of them end.
  cases job with
  | supervise run => exact absurd rfl (beside run)
  | dispatch dispatcher =>
    exact finishAfter head other (Dispatcher.abandon_touches within task owned)
  | deliver label envelope delivery =>
    exact finishAfter head other (Delivery.abandon_touches within envelope owned)
  | await label awaiting => exact finishAfter head other (Awaiting.abandon_touches owned)
  | sample interval stage =>
    cases stage with
    | awaiting wait =>
      exact finishAfter head other (.abandon .refl fun ticket has => .inl (owned _ _ ⟨rfl, has⟩))
    | arriving | taking number => exact finish head other
  | flap interval lost => exact finish head other
  | attach clock => exact finish head other
  | rest span after => exact finish head other
  | resting due after => exact finish head other
  | raise pause events => exact finish head other

/-! ### Replies -/

/-- The modem attaches within the request to connect, in a task of its own, or not at all. -/
theorem connectModem (fresh : ¬spared session.agenda.unused) (allowed : liberty.posts = true) :
    Moves liberty spared session session.connectModem.2 := by
  -- The modem's own state is seen by no task; what it does to the network comes now or in a new task.
  unfold Session.connectModem
  rcases session.modem.connect with ⟨result, modem⟩
  have asked : Moves liberty spared session { session with modem } :=
    unseen rfl rfl rfl rfl fun _ => ⟨rfl, rfl⟩
  cases result with
  | error error => exact asked
  | ok _ =>
    simp only
    split
    · exact asked
    · split
      · exact asked.trans (attached allowed modem.clockHandled)
      · exact asked.trans (spawn fresh trivial fun _ _ => id)

/-- The cloud's events come within the request to connect, in a task of their own, or not at all. -/
theorem connectTransport (fresh : ¬spared session.agenda.unused) (allowed : liberty.posts = true) :
    Moves liberty spared session session.connectTransport.2 := by
  unfold Session.connectTransport
  rcases session.cloud.connect with ⟨result, cloud⟩
  have asked : Moves liberty spared session { session with cloud } :=
    unseen rfl rfl rfl rfl fun _ => ⟨rfl, rfl⟩
  cases result with
  | error error => exact asked
  | ok events =>
    -- Events that come at once raise their bits within the request.
    have raised : session.connection.Touches liberty (session.HeldBeside spared)
        (events.foldl Connection.onCloudEvent session.connection) :=
      Connection.Touches.refl.onCloudEvents events allowed
    simp only
    split
    · exact share raised rfl rfl rfl rfl fun _ => ⟨rfl, rfl⟩
    · -- Without any event the task has nothing to wait for.
      cases events with
      | nil => exact asked.trans (spawn fresh trivial fun _ _ => id)
      | cons event later => exact asked.trans (spawn fresh trivial fun _ _ => id)

/-- A reply comes with changes that whoever raises bits can make. -/
theorem reply (fresh : ¬spared session.agenda.unused) (allowed : liberty.posts = true) (request : Request) :
    Moves liberty spared session (session.reply request).2 := by
  -- Only connecting changes more than the simulated modem and cloud.
  cases request with
  | connectNetwork => exact connectModem fresh allowed
  | connectCloud => exact connectTransport fresh allowed
  | modemInit | registerClock | transportInit | requestPsm | enableEvents | publishShadow |
      disconnectCloud => exact unseen rfl rfl rfl rfl fun _ => ⟨rfl, rfl⟩

/-! ### Actions -/

/-- The cloud's event reaches the device, or nothing happens. -/
theorem emit (allowed : liberty.posts = true) (event : CloudEvent) :
    Moves liberty spared session (session.emit event).2 := by
  -- Nobody hears of it before the transport was set up.
  have reached : session.connection.Touches liberty (session.HeldBeside spared)
      (session.connection.onCloudEvent event) := Connection.Touches.refl.onCloudEvent event allowed
  unfold Session.emit
  split
  · exact onlyConnection reached rfl
  · exact refl session

/-- The clock's report reaches the device, or nothing happens. -/
theorem emitDateTime (allowed : liberty.posts = true) (isValid : Bool) :
    Moves liberty spared session (session.emitDateTime isValid).2 := by
  -- Nobody hears of it before the handler was registered.
  have reached : session.connection.Touches liberty (session.HeldBeside spared)
      (session.connection.onDateTime isValid) := Connection.Touches.refl.onDateTime isValid allowed
  unfold Session.emitDateTime
  split
  · exact onlyConnection reached rfl
  · exact refl session

/-- Taking a message at once touches the queue alone. -/
theorem tryReceive (allowed : liberty.delivers = true) : Moves liberty spared session session.tryReceive.2 :=
  -- The connection is the same but for its queue.
  onlyConnection (Connection.Touches.refl.queue allowed session.connection.queue.tryReceive.2) rfl

/-- What the session keeps is a matter of the queue. -/
theorem mapKept (allowed : liberty.delivers = true)
    (change : Queue.Kept → Queue.Outgoing → Queue.Kept × Queue.Outgoing) :
    Moves liberty spared session (session.mapKept change) := by
  -- The connection is the same but for its queue, and what is kept is seen by no task.
  have queued : session.connection.Touches liberty (session.HeldBeside spared)
      { session.connection with queue := (change session.kept session.connection.queue).2 } :=
    Connection.Touches.refl.queue allowed _
  exact share queued rfl rfl rfl rfl fun _ => ⟨rfl, rfl⟩

/-- Cancelling a labelled task spares those that have no label. -/
theorem cancel (unlabelled : ∀ entry ∈ session.tasks, spared entry.1 → entry.2.job.label? = none)
    (withins : ∀ entry ∈ session.tasks, ¬spared entry.1 →
      entry.2.job.Within liberty.counts liberty.delivers) (label : Nat) :
    Moves liberty spared session (session.perform (.cancel label)).2 := by
  -- The task that bears the label is not spared, as those that are spared have none.
  simp only [Session.perform]
  split
  · exact refl session
  · rename_i task found
    obtain ⟨entry, listed, rfl⟩ := Option.map_eq_some_iff.mp found
    have member : entry ∈ session.tasks := List.mem_of_find?_eq_some listed
    have labelled : entry.2.job.label? = some label := by
      have test := List.find?_some listed
      simp only [Bool.and_eq_true, decide_eq_true_eq] at test
      exact test.2
    have other : ¬spared entry.1 := by
      intro spare
      rw [unlabelled entry member spare] at labelled
      cases labelled
    exact stop other fun kept stood same => withins kept stood (same ▸ other)

/-- An action from outside that cancels nothing spares everybody. -/
theorem undertake (fresh : ¬spared session.agenda.unused) {action : Action} (within : action.Within liberty)
    (steady : ∀ label, action ≠ .cancel label) : Moves liberty spared session (session.perform action).2 := by
  have untouched : session.connection.Touches liberty (session.HeldBeside spared) session.connection := .refl
  -- Each action is a change of the connection, a new task, or nothing that a task sees.
  cases action with
  | start | stop => exact within.elim
  | publish => exact share (untouched.notePublish within _) rfl rfl rfl rfl fun _ => ⟨rfl, rfl⟩
  | startDispatcher =>
    have spawned : Moves liberty spared session (session.spawn (.dispatch .starting)).2 :=
      spawn fresh within fun _ _ => id
    have delivers : liberty.delivers ≠ false := by simp [show liberty.delivers = true from within]
    exact spawned.trans (unseen rfl rfl rfl rfl fun others => absurd others delivers)
  | link event => exact onlyConnection (untouched.onLinkEvent event within) rfl
  | cloud event => exact onlyConnection (untouched.onCloudEvent event within) rfl
  | dateTime isValid => exact onlyConnection (untouched.onDateTime isValid within) rfl
  | emit event => exact emit within event
  | dropSession =>
    have dropped : Moves liberty spared session { session with cloud := session.cloud.drop } :=
      unseen rfl rfl rfl rfl fun _ => ⟨rfl, rfl⟩
    exact dropped.trans (emit within .disconnected)
  | emitLink event => exact emitLink within event
  | emitDateTime isValid => exact emitDateTime within isValid
  | requestDisconnect => exact onlyConnection (untouched.requestDisconnect within) rfl
  | registerHandler handler =>
    have handled : session.connection.Touches liberty (session.HeldBeside spared)
        { session.connection with inboundHandler := some (.deliver handler) } :=
      untouched.alike ⟨rfl, rfl, rfl, rfl, fun _ => rfl, fun _ => ⟨rfl, rfl⟩⟩
    exact onlyConnection handled rfl
  | enqueue handle message mode =>
    exact onlyConnection (untouched.enqueue message handle mode within) rfl
  | await label what timeout => exact spawn fresh trivial fun _ _ => id
  | cancel label => exact absurd rfl (steady label)
  | closeQueue => exact onlyConnection (untouched.closeQueue within) rfl
  -- What is done with the queue, the registers or the tasks is allowed by the liberty.
  | tryReceive key =>
    have taken : Moves liberty spared session session.tryReceive.2 := tryReceive within
    simp only [Session.perform]
    split
    · exact taken
    · exact taken.trans (mapKept within fun kept queue => kept.dispose queue key _)
  | release key => exact mapKept within fun kept queue => kept.release queue key
  | post name mask => exact onlyConnection (untouched.post name mask within) rfl
  | reset name => exact onlyConnection (untouched.clear name within) rfl
  | dispatch label =>
    have taken : Moves liberty spared session session.tryReceive.2 := tryReceive within
    simp only [Session.perform]
    split
    · exact taken
    · exact taken.trans (spawn fresh within fun _ _ => id)
  | buildShadow => exact refl session
  | connectTransport => exact connectTransport fresh within
  | connectModem => exact connectModem fresh within
  | initTransport | disconnectTransport | send | publishStatus | initModem | requestPsm | enableEvents
  | registerClock => exact unseen rfl rfl rfl rfl fun _ => ⟨rfl, rfl⟩

/-- An action from outside spares those that have no label. -/
theorem perform (fresh : ¬spared session.agenda.unused)
    (unlabelled : ∀ entry ∈ session.tasks, spared entry.1 → entry.2.job.label? = none)
    (withins : ∀ entry ∈ session.tasks, ¬spared entry.1 →
      entry.2.job.Within liberty.counts liberty.delivers)
    {action : Action} (within : action.Within liberty) :
    Moves liberty spared session (session.perform action).2 := by
  -- Only a cancellation reaches for a task by its label.
  by_cases cancels : ∃ label, action = .cancel label
  · obtain ⟨label, rfl⟩ := cancels
    exact cancel unlabelled withins label
  · exact undertake fresh within fun label same => cancels ⟨label, same⟩

/-- The clock moves on, and the tasks whose deadline has come are woken. -/
theorem strike {instant : Nat} (later : session.agenda.now ≤ instant) :
    Moves liberty spared session (session.strike instant) := by
  refine clock (fun _ _ ready => Agenda.mem_wakeAll.mpr (.inl ready)) ?_ ?_ ?_
  · exact Nat.le_trans later (Nat.le_of_eq (Agenda.wakeAll_now { session.agenda with now := instant } _).symm)
  · intro task entry _ found due
    rw [Agenda.reached_wakeAll] at due
    -- The task is listed with its job, so it is among those whose deadline has come.
    have listed : (task, entry) ∈ session.tasks := Entries.mem_of_lookup found
    refine .inr (Agenda.mem_wakeAll.mpr (.inr (List.mem_map.mpr ⟨(task, entry), ?_, rfl⟩)))
    exact List.mem_filter.mpr ⟨listed, due⟩
  · exact Nat.le_of_eq (Agenda.wakeAll_unused { session.agenda with now := instant } _).symm

/-- Writing entries in other spans spares everybody. -/
theorem within (spans : List Span) : Moves liberty spared session (session.within spans) :=
  -- The spans are no part of what the tasks wait for.
  mapConnection (.alike .refl ⟨rfl, rfl, rfl, rfl, fun _ => rfl, fun _ => ⟨rfl, rfl⟩⟩)

end Session.Moves

end Uplink
