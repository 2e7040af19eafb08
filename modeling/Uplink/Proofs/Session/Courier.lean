import Uplink.Proofs.Dispatcher
import Uplink.Proofs.Session.Supervised

/-! The dispatcher among the other tasks of a session: every message that the application queues reaches the
transport or is still on its way there, whatever else happens. -/

namespace Uplink

open Flags (Register)

/-- An action that leaves the messages to the dispatcher: it takes none out of the queue, drops none that was
taken, and starts no dispatcher. -/
def Action.Feeds : Action → Prop
  | .startDispatcher | .tryReceive _ | .release _ | .dispatch _ => False
  | _ => True

namespace Session

variable {before after session next : Session} {trace onward : List Passage} {task : TaskId} {rest : List TaskId}
  {dispatcher : Dispatcher} {connection : Connection}

/-! ### Who delivers -/

/-- The dispatcher's task is this one, and it is at this point of its program. -/
structure Delivers (session : Session) (task : TaskId) (dispatcher : Dispatcher) : Prop where
  named : session.dispatcherTask = some task
  listed : session.tasks.lookup task = some ⟨.dispatch dispatcher, false⟩

/-- Where the dispatcher is in its program, if it was started and has not returned. -/
def courier (session : Session) : Option Dispatcher :=
  match session.dispatcherTask with
  | none => none
  | some task =>
    match session.tasks.lookup task with
    | some ⟨.dispatch dispatcher, _⟩ => some dispatcher
    | _ => none

/-- The dispatcher's task runs the dispatcher and was not stopped, no other task delivers messages, the
supervisor has a task of its own, and the registers are in order. -/
structure Manned (session : Session) : Prop where
  numbered : ∀ entry ∈ session.tasks, entry.1 < session.agenda.unused
  named : ∀ task, session.dispatcherTask = some task → task < session.agenda.unused
  hired : ∀ task, session.runTask = some task → task < session.agenda.unused
  others : ∀ entry ∈ session.tasks, session.dispatcherTask ≠ some entry.1 → entry.2.job.Within true false
  runner : ∀ entry ∈ session.tasks, session.dispatcherTask = some entry.1 →
    ∃ dispatcher, entry.2 = ⟨.dispatch dispatcher, false⟩
  apart : ∀ task, session.dispatcherTask = some task → session.runTask ≠ some task
  orderly : ∀ name, (session.connection.register name).Orderly

/-- What goes on while the dispatcher does not run, and without messages. -/
abbrev Elsewhere (before after : Session) : Prop :=
  Moves .supervisor (fun task => before.dispatcherTask = some task) before after

/-- A dispatcher that is found by its task is where it is in its program. -/
theorem Delivers.courier (delivers : session.Delivers task dispatcher) : session.courier = some dispatcher := by
  -- The dispatcher is looked up by its task.
  simp [Session.courier, delivers.named, delivers.listed]

/-- Writing entries in other spans leaves the dispatcher where it is. -/
theorem Delivers.within (delivers : session.Delivers task dispatcher) (spans : List Span) :
    (session.within spans).Delivers task dispatcher :=
  -- The spans are no part of the tasks.
  ⟨delivers.named, delivers.listed⟩

namespace Manned

/-- The next task's name is not the dispatcher's. -/
theorem fresh (manned : session.Manned) : session.dispatcherTask ≠ some session.agenda.unused := by
  -- Names in use are smaller than the next one.
  intro delivers
  exact Nat.lt_irrefl _ (manned.named _ delivers)

/-- The dispatcher has no label by which it could be found. -/
theorem unlabelled (manned : session.Manned) :
    ∀ entry ∈ session.tasks, session.dispatcherTask = some entry.1 → entry.2.job.label? = none := by
  -- The job of that task is the dispatcher, and dispatchers have no label.
  intro entry member delivers
  obtain ⟨dispatcher, same⟩ := manned.runner entry member delivers
  rw [same]
  rfl

/-- What goes on elsewhere leaves everybody at his work. -/
theorem elsewhere (manned : before.Manned) (moves : Elsewhere before after) : after.Manned := by
  -- The dispatcher's task keeps its name and its entry; every other one has an old job or one without messages.
  have same := (moves.dispatcher rfl).1
  constructor
  case numbered => exact moves.below manned.numbered
  case named =>
    intro task delivers
    exact Nat.lt_of_lt_of_le (manned.named task (same ▸ delivers)) moves.unused
  case hired =>
    intro task runs
    rcases moves.running task runs with earlier | ⟨-, below⟩
    · exact Nat.lt_of_lt_of_le (manned.hired task earlier) moves.unused
    · exact below
  case others =>
    intro entry member other
    rcases moves.tasks entry member with stood | ⟨-, within, -⟩
    · exact manned.others entry stood (same ▸ other)
    · exact within
  case runner =>
    -- The entry of a task that is spared is an old one.
    intro entry member delivers
    rw [same] at delivers
    exact manned.runner entry (moves.stays member delivers) delivers
  case apart =>
    intro task delivers runs
    rw [same] at delivers
    -- The supervisor has the task from before, or one that the dispatcher does not have.
    rcases moves.running task runs with earlier | ⟨other, -⟩
    · exact manned.apart task delivers earlier
    · exact other delivers
  case orderly => exact moves.touches.orderly manned.orderly

/-- The supervisor gets any reply elsewhere. -/
theorem elsewhere_reply (manned : session.Manned) {run : Supervisor.Run} {request : Request}
    (head : session.agenda.ready = task :: rest)
    (listed : session.tasks.lookup task = some ⟨.supervise run, false⟩) (calls : run.place = .calling request)
    (reply : request.Reply) :
    Elsewhere session (((session.within run.spans).carryOn task
      ((session.within run.spans).supervisor.resume session.agenda task run request reply)).within []) := by
  -- The dispatcher's task does not run the supervisor.
  have other : session.dispatcherTask ≠ some task := by
    intro own
    obtain ⟨dispatcher, same⟩ := manned.runner _ (Entries.mem_of_lookup listed) own
    cases same
  let opened := session.within run.spans
  -- A run that waits for a reply holds nothing.
  have nothing : ∀ name ticket, run.place.Holds name ticket →
      opened.HeldBeside (fun task => opened.dispatcherTask = some task) name ticket := by
    intro name ticket has
    rw [calls] at has
    exact has.elim
  have head' : opened.agenda.ready = task :: rest := head
  have opening : Elsewhere session opened := .within run.spans
  have resumed : Elsewhere opened
      (opened.carryOn task (opened.supervisor.resume session.agenda task run request reply)) :=
    .carryOn head' other ((Supervisor.resume_passes rfl _ _ _ (fun _ => rfl) calls reply).widen nothing)
  exact (opening.trans resumed).trans (.within [])

/-- The line may change, and names may be used up. -/
theorem agenda (manned : session.Manned) {agenda : Agenda} (unused : session.agenda.unused ≤ agenda.unused) :
    Manned { session with agenda } where
  -- The names in use are below the next one still, and nothing else is asked of the agenda.
  numbered := fun entry member => Nat.lt_of_lt_of_le (manned.numbered entry member) unused
  named := fun task delivers => Nat.lt_of_lt_of_le (manned.named task delivers) unused
  hired := fun task runs => Nat.lt_of_lt_of_le (manned.hired task runs) unused
  others := manned.others
  runner := manned.runner
  apart := manned.apart
  orderly := manned.orderly

/-- The connection may change as long as its registers are in order. -/
theorem mapConnection (manned : session.Manned) (ordered : ∀ name, (connection.register name).Orderly) :
    (session.mapConnection fun _ => connection).Manned :=
  -- Of the connection only its registers are spoken of.
  { manned with orderly := ordered }

/-- The dispatcher goes on to another point of its program. -/
theorem setJob (manned : session.Manned) (delivers : session.Delivers task dispatcher) (onward : Dispatcher) :
    (session.setJob task (.dispatch onward)).Manned := by
  -- Every entry is one from before, or the dispatcher's, which was not stopped.
  have listed : ∀ entry ∈ (session.setJob task (.dispatch onward)).tasks,
      (entry ∈ session.tasks ∧ entry.1 ≠ task) ∨ entry = (task, ⟨.dispatch onward, false⟩) := by
    intro entry member
    rcases mem_setJob member with stays | ⟨kept, found, same⟩
    · exact .inl stays
    · obtain rfl := Option.some.inj (found.symm.trans delivers.listed)
      exact .inr same
  -- Its name is one of those in use.
  have below : task < session.agenda.unused :=
    manned.numbered (task, ⟨.dispatch dispatcher, false⟩) (Entries.mem_of_lookup delivers.listed)
  rw [setJob_eq]
  constructor
  case numbered =>
    intro entry member
    rcases listed entry member with ⟨stays, -⟩ | rfl
    · exact manned.numbered entry stays
    · exact below
  case others =>
    intro entry member other
    rcases listed entry member with ⟨stays, -⟩ | rfl
    · exact manned.others entry stays other
    · exact absurd delivers.named other
  case runner =>
    intro entry member mine
    rcases listed entry member with ⟨stays, -⟩ | rfl
    · exact manned.runner entry stays mine
    · exact ⟨onward, rfl⟩
  case named => exact manned.named
  case hired => exact manned.hired
  case apart => exact manned.apart
  case orderly => exact manned.orderly

/-- A task may end. -/
theorem finish (manned : session.Manned) (task : TaskId) : (session.finish task).Manned where
  -- The tasks that are left were there before.
  numbered := fun entry member => manned.numbered entry (List.mem_of_mem_filter member)
  named := manned.named
  hired := manned.hired
  others := fun entry member => manned.others entry (List.mem_of_mem_filter member)
  runner := fun entry member => manned.runner entry (List.mem_of_mem_filter member)
  apart := manned.apart
  orderly := manned.orderly

/-- A dispatcher that has just been started is at its beginning. -/
theorem startDispatcher_delivers (manned : session.Manned) :
    session.startDispatcher.Delivers session.agenda.unused .starting :=
  -- The new task is at the end of the list, under a name that nobody has.
  ⟨rfl, lookup_spawn manned.numbered (.dispatch .starting)⟩

/-- A dispatcher may be started where there has been none. -/
theorem startDispatcher (manned : session.Manned) (idle : session.dispatcherTask = none) :
    session.startDispatcher.Manned := by
  -- The dispatcher is the one new task, and the others have names of their own.
  have listed : ∀ entry ∈ session.startDispatcher.tasks,
      entry ∈ session.tasks ∨ entry = (session.agenda.unused, ⟨.dispatch .starting, false⟩) := fun _ => mem_spawn
  constructor
  case numbered =>
    intro entry member
    rcases listed entry member with stays | rfl
    · exact Nat.lt_succ_of_lt (manned.numbered entry stays)
    · exact Nat.lt_succ_self _
  case named =>
    intro task delivers
    exact Option.some.inj delivers ▸ Nat.lt_succ_self _
  case hired =>
    intro task runs
    exact Nat.lt_succ_of_lt (manned.hired task runs)
  case others =>
    intro entry member other
    rcases listed entry member with stays | rfl
    · exact manned.others entry stays (by simp [idle])
    · exact absurd rfl other
  case runner =>
    intro entry member delivers
    rcases listed entry member with stays | rfl
    -- An entry from before has another name than the new task.
    · exact absurd (Option.some.inj delivers) (Nat.ne_of_gt (manned.numbered entry stays))
    · exact ⟨.starting, rfl⟩
  case apart =>
    -- The supervisor's task was named before the new one.
    intro task delivers runs
    exact Nat.lt_irrefl _ (Option.some.inj delivers ▸ manned.hired task runs)
  case orderly => exact manned.orderly

end Manned

/-! ### What passes -/

/-- What passes in a turn of the dispatcher. The transport answers within the turn. -/
def passagesOf (session : Session) (task : TaskId) : Dispatcher → List Passage
  | .delivering envelope .sending => [.answered (session.send envelope.handle envelope.message).1.isOk]
  | dispatcher => dispatcher.passages (dispatcher.step session.connection session.agenda task).1

/-- What passes in the next turn: if it is not the dispatcher's, nothing does. -/
def passages (session : Session) : List Passage :=
  match session.agenda.ready with
  | [] => []
  | task :: _ =>
    if session.dispatcherTask = some task then
      session.courier.elim [] fun dispatcher => (session.within dispatcher.spans).passagesOf task dispatcher
    else []

/-- What passes when something is done from outside. -/
def offers (session : Session) : Action → List Passage
  | .enqueue handle message mode => session.connection.offers message handle mode
  | _ => []

/-- The dispatcher's task gets this answer for a message, and is about to receive the next one. -/
def answer (session : Session) (task : TaskId) (envelope : Envelope) (result : Except TransportError Unit) :
    Session :=
  (session.mapConnection fun connection => (Delivery.resume connection envelope result).2).setJob task
    (.dispatch .idle)

/-! ### Nothing is lost -/

/-- The dispatcher is at its work, and no message is lost. As long as none was started, nobody has the task
that the books are kept for. -/
structure Carried (trace : List Passage) (session : Session) : Prop where
  manned : session.Manned
  accounted : Accounted trace session.connection (session.dispatcherTask.getD 0) session.courier
  returned : .returned ∈ trace ↔ session.dispatcherEnded = true
  unstarted : session.dispatcherTask = none → session.dispatcherEnded = false

namespace Carried

/-- What goes on elsewhere loses no message. -/
theorem elsewhere (carried : Carried trace before) (moves : Elsewhere before after) : Carried trace after := by
  -- The dispatcher is found where it was, and the books are about what nobody else touches.
  obtain ⟨task, ended⟩ := moves.dispatcher rfl
  have courier : after.courier = before.courier := by
    unfold Session.courier
    rw [task]
    split
    · rfl
    · rename_i own delivers
      rw [moves.lookup own delivers]
  refine ⟨carried.manned.elsewhere moves, ?_, ended ▸ carried.returned, fun idle => ?_⟩
  · rw [task, courier]
    exact carried.accounted.beside moves.touches rfl
  · rw [ended]
    exact carried.unstarted (task ▸ idle)

/-- The line may change, and names may be used up. -/
theorem agenda (carried : Carried trace session) {agenda : Agenda}
    (unused : session.agenda.unused ≤ agenda.unused) : Carried trace { session with agenda } where
  -- Only who is there asks about the agenda.
  manned := carried.manned.agenda unused
  accounted := carried.accounted
  returned := carried.returned
  unstarted := carried.unstarted

/-- The connection may change with books that are in order. -/
theorem share (carried : Carried trace session) (ordered : ∀ name, (connection.register name).Orderly)
    (accounted : Accounted onward connection (session.dispatcherTask.getD 0) session.courier)
    (same : .returned ∈ onward ↔ .returned ∈ trace) : Carried onward (session.mapConnection fun _ => connection) where
  -- The tasks and the end of the dispatcher are as they were.
  manned := carried.manned.mapConnection ordered
  accounted := accounted
  returned := same.trans carried.returned
  unstarted := carried.unstarted

/-- Those who are to be woken move to the line without a message. -/
theorem flush (carried : Carried trace session) : Carried trace session.flush := by
  -- The list of those to be woken is emptied first, and it is no part of the books.
  have calm : Carried trace (session.mapConnection fun _ => { session.connection with woken := [] }) :=
    carried.share carried.manned.orderly carried.accounted.awake .rfl
  exact calm.agenda (Nat.le_of_eq (Agenda.wakeAll_unused _ _).symm)

/-- As long as the dispatcher is in its program it has not ended. -/
theorem running (carried : Carried trace session) (delivers : session.Delivers task dispatcher) :
    Accounted trace session.connection task (some dispatcher) ∧ session.dispatcherEnded = false := by
  -- Had it returned, nothing would be accounted for as running.
  have accounted := carried.accounted
  rw [delivers.courier, delivers.named] at accounted
  refine ⟨accounted, ?_⟩
  simpa [accounted.running] using carried.returned

/-- The dispatcher goes on to another point of its program with books that are in order. -/
theorem goOn (carried : Carried trace session) (delivers : session.Delivers task dispatcher)
    (ordered : ∀ name, (connection.register name).Orderly) {further : Dispatcher}
    (accounted : Accounted onward connection task (some further)) :
    Carried onward ((session.mapConnection fun _ => connection).setJob task (.dispatch further)) := by
  -- It is found at the new point, and as it has not returned before it has not returned now.
  have delivers' : (session.mapConnection fun _ => connection).Delivers task dispatcher :=
    ⟨delivers.named, delivers.listed⟩
  have unended := (carried.running delivers).2
  have goes : ((session.mapConnection fun _ => connection).setJob task (.dispatch further)).Delivers task
      further := by
    refine ⟨?_, lookup_setJob delivers'.listed (.dispatch further)⟩
    rw [setJob_eq]
    exact delivers.named
  have manned := (carried.manned.mapConnection ordered).setJob delivers' further
  refine ⟨manned, ?_, ?_, ?_⟩
  · rw [goes.courier, goes.named, setJob_connection]
    exact accounted
  -- Nothing has returned on either side.
  · rw [setJob_eq]
    simpa [unended, mapConnection] using accounted.running
  · rw [setJob_eq]
    exact carried.unstarted

/-- The dispatcher returns with books that are in order. -/
theorem retire (carried : Carried trace session) (delivers : session.Delivers task dispatcher)
    (ordered : ∀ name, (connection.register name).Orderly)
    (accounted : Accounted onward connection task none) (returned : .returned ∈ onward) :
    Carried onward { (session.mapConnection fun _ => connection).finish task with dispatcherEnded := true } := by
  -- Its task is not listed any longer, so the dispatcher is nowhere in its program.
  have gone : (session.tasks.filter (·.1 ≠ task)).lookup task = none := by
    rw [Entries.lookup_filter_ne, if_pos rfl]
  let finished := { (session.mapConnection fun _ => connection).finish task with dispatcherEnded := true }
  have named : finished.dispatcherTask = some task := delivers.named
  have courier : finished.courier = none := by
    have absent : finished.tasks.lookup task = none := gone
    simp [Session.courier, named, absent]
  have manned := (carried.manned.mapConnection ordered).finish task
  refine ⟨{ manned with }, ?_, ⟨fun _ => rfl, fun _ => returned⟩, fun idle => ?_⟩
  · have kept : Accounted onward finished.connection (finished.dispatcherTask.getD 0) finished.courier := by
      rw [courier, named]
      exact accounted
    exact kept
  · have none : session.dispatcherTask = none := idle
    exact absurd (none.symm.trans delivers.named) nofun

/-- The answer of the transport is counted, and the dispatcher is about to receive the next message. -/
theorem answer (carried : Carried trace session) {envelope : Envelope}
    (delivers : session.Delivers task (.delivering envelope .sending)) (result : Except TransportError Unit) :
    Carried (trace ++ [.answered result.isOk]) (session.answer task envelope result) := by
  -- Taking the answer in changes the counters, and no register.
  have resumed : session.connection.Touches (.others false) (fun _ _ => False)
      (Delivery.resume session.connection envelope result).2 :=
    Delivery.resume_touches rfl session.connection envelope result
  exact carried.goOn delivers (resumed.orderly carried.manned.orderly) ((carried.running delivers).1.answer result)

/-- A turn of the dispatcher loses no message. -/
theorem turnOfDispatcher (carried : Carried trace session) (delivers : session.Delivers task dispatcher) :
    Carried (trace ++ session.passagesOf task dispatcher) (session.turnOfDispatcher task dispatcher) := by
  unfold passagesOf
  split
  · -- The transport answers within the turn.
    rename_i envelope
    have sent : Carried trace (session.send envelope.handle envelope.message).2 :=
      carried.elsewhere (.send envelope.handle envelope.message)
    exact sent.answer ⟨delivers.named, delivers.listed⟩ _
  · -- Every other step goes on at once, or parks, or ends.
    rename_i unsent
    unfold Session.turnOfDispatcher
    split
    · exact absurd rfl (unsent _)
    have accounted := (carried.running delivers).1.step carried.manned.orderly session.agenda
    have own : ∀ name ticket, dispatcher.Holds name ticket → (fun _ _ => True) name ticket :=
      fun _ _ _ => trivial
    have passes : session.connection.Passes (.others false) (fun _ _ => True) _ _ :=
      Dispatcher.step_passes rfl session.connection session.agenda task own
    have ordered := passes.touches.orderly carried.manned.orderly
    rcases stepped : dispatcher.step session.connection session.agenda task with ⟨progress, connection⟩
    rw [stepped] at accounted ordered
    cases progress with
    | next further => exact carried.goOn delivers ordered accounted
    | parked further =>
      refine (carried.goOn delivers ordered accounted).agenda (Nat.le_of_eq ?_)
      rw [setJob_eq]
      rfl
    | done answer =>
      -- What passes in the last step is the return.
      have returned : .returned ∈ trace ++ dispatcher.passages (.done answer) := by
        rw [Dispatcher.passages_of_done (congrArg Prod.fst stepped)]
        simp
      have retired := carried.retire delivers ordered accounted returned
      simpa [mapConnection, Session.finish, delivers.named] using retired

/-- A turn of any task loses no message. -/
theorem turn (carried : Carried trace session) (turned : session.turn? = some next) :
    Carried (trace ++ session.passages) next := by
  -- The head of the line has ended, or is a task that was stopped, or is the dispatcher, or is another task.
  have manned := carried.manned
  obtain ⟨task, rest, head, turn⟩ := turn_of_turned turned
  have nothing (other : session.dispatcherTask ≠ some task) : trace ++ session.passages = trace := by
    simp [passages, head, other]
  have held {entry : Task} (found : session.tasks.lookup task = some entry)
      (other : session.dispatcherTask ≠ some task) : ∀ name ticket, entry.job.Holds name ticket →
        session.HeldBeside (fun task => session.dispatcherTask = some task) name ticket :=
    fun name ticket has => ⟨(task, entry), Entries.mem_of_lookup found, other, has⟩
  cases turn with
  | gone absent =>
    -- A task that has ended is not the dispatcher's, or the dispatcher has returned.
    have silent : trace ++ session.passages = trace := by
      by_cases own : session.dispatcherTask = some task
      · have ended : session.courier = none := by simp [Session.courier, own, absent]
        simp [passages, head, ended]
      · exact nothing own
    rw [silent]
    exact carried.agenda (Nat.le_refl _)
  | @last entry found stopped =>
    have member : (task, entry) ∈ session.tasks := Entries.mem_of_lookup found
    -- The dispatcher is not stopped.
    have other : session.dispatcherTask ≠ some task := by
      intro own
      obtain ⟨dispatcher, rfl⟩ := manned.runner _ member own
      cases stopped
    rw [nothing other]
    have last : Elsewhere session (session.lastTurnOf task entry.job) :=
      .anyLastTurn head other (manned.others _ member other) (held found other)
    exact (carried.elsewhere last).flush
  | @next entry found onward =>
    have member : (task, entry) ∈ session.tasks := Entries.mem_of_lookup found
    let opened := session.within entry.job.spans
    have opening : Carried trace opened := carried.elsewhere (.within entry.job.spans)
    have head' : opened.agenda.ready = task :: rest := head
    by_cases own : session.dispatcherTask = some task
    · -- The dispatcher takes its turn.
      obtain ⟨dispatcher, rfl⟩ := manned.runner _ member own
      have delivers : session.Delivers task dispatcher := ⟨own, found⟩
      have passage : session.passages = opened.passagesOf task dispatcher := by
        simp only [passages, head, own, delivers.courier, if_true]
        rfl
      rw [passage]
      exact ((opening.turnOfDispatcher (delivers.within _)).elsewhere (.within [])).flush
    · -- Another task takes its turn; what it holds is held beside the dispatcher.
      rw [nothing own]
      have turns : Elsewhere opened (opened.turnOf task entry.job) :=
        .anyTurn head' own manned.fresh (manned.others _ member own) (held found own)
      exact ((opening.elsewhere turns).elsewhere (.within [])).flush

/-- A call of the supervisor may get any reply. -/
theorem reply (carried : Carried trace session) {run : Supervisor.Run} {request : Request}
    (head : session.agenda.ready = task :: rest)
    (listed : session.tasks.lookup task = some ⟨.supervise run, false⟩) (calls : run.place = .calling request)
    (reply : request.Reply) :
    Carried trace (((session.within run.spans).carryOn task
      ((session.within run.spans).supervisor.resume session.agenda task run request reply)).within []).flush :=
  -- The supervisor is no dispatcher, so its turn is elsewhere.
  (carried.elsewhere (carried.manned.elsewhere_reply head listed calls reply)).flush

/-- A dispatcher may be started where there has been none. -/
theorem startDispatcher (carried : Carried trace session) (idle : session.dispatcherTask = none) :
    Carried trace session.startDispatcher := by
  -- No dispatcher has returned yet, so the books go on with the new one.
  have unended := carried.unstarted idle
  have unreturned : .returned ∉ trace := by simpa [unended] using carried.returned
  have absent : session.courier = none := by simp [Session.courier, idle]
  have accounted := carried.accounted
  rw [absent] at accounted
  refine ⟨carried.manned.startDispatcher idle, ?_, ?_, fun _ => rfl⟩
  · rw [carried.manned.startDispatcher_delivers.courier]
    exact accounted.begin unreturned _
  · simpa [Session.startDispatcher] using unreturned

/-- An action from outside that leaves the messages to the dispatcher loses none. -/
theorem perform (carried : Carried trace session) {action : Action} (feeds : action.Feeds) :
    Carried (trace ++ session.offers action) (session.perform action).2 := by
  have manned := carried.manned
  have withins : ∀ entry ∈ session.tasks, session.dispatcherTask ≠ some entry.1 →
      entry.2.job.Within true false := manned.others
  -- An action without a message goes on elsewhere.
  have quiet (moves : Elsewhere session (session.perform action).2) (silent : session.offers action = []) :
      Carried (trace ++ session.offers action) (session.perform action).2 := by
    rw [silent, List.append_nil]
    exact carried.elsewhere moves
  have beside (within : action.Within .supervisor) : Elsewhere session (session.perform action).2 :=
    .perform manned.fresh manned.unlabelled withins within
  cases action with
  | startDispatcher | tryReceive _ | release _ | dispatch _ => exact feeds.elim
  | enqueue handle message mode =>
    -- The message is accepted or not; either way no dispatcher returns.
    have touches : session.connection.Touches (.others false) (fun _ _ => False)
      (session.connection.enqueue message handle mode).2 := Connection.Touches.refl.enqueue message handle mode rfl
    have same : .returned ∈ trace ++ session.connection.offers message handle mode ↔ .returned ∈ trace := by
      simp [Connection.returned_not_mem_offers]
    exact carried.share (touches.orderly manned.orderly) (carried.accounted.enqueue message handle mode) same
  | closeQueue =>
    -- Closing the queue passes nothing.
    have touches : session.connection.Touches (.others false) (fun _ _ => False) session.connection.closeQueue :=
      Connection.Touches.refl.closeQueue rfl
    have closed := carried.share (touches.orderly manned.orderly) carried.accounted.close .rfl
    rwa [← List.append_nil trace] at closed
  | start => exact quiet (.start manned.fresh) rfl
  | stop =>
    -- The supervisor's task is not the dispatcher's.
    refine quiet ?_ rfl
    cases runs : session.runTask with
    | none =>
      simp only [Session.perform, runs]
      exact .refl session
    | some task =>
      have other : session.dispatcherTask ≠ some task := fun own => manned.apart task own runs
      simp only [Session.perform, runs]
      exact .stop other fun entry member same => manned.others entry member (same ▸ other)
  | publish | link _ | cloud _ | dateTime _ | emit _ | dropSession | emitLink _ | emitDateTime _
  | requestDisconnect | post _ _ | connectTransport | connectModem => exact quiet (beside rfl) rfl
  | reset name => exact quiet (beside fun _ => rfl) rfl
  | registerHandler _ | await _ _ _ | cancel _ | buildShadow | initTransport | disconnectTransport | send _ _
  | publishStatus _ | initModem | requestPsm _ | enableEvents | registerClock => exact quiet (beside trivial) rfl

end Carried

end Session

end Uplink
