import Uplink.Proofs.Booked
import Uplink.Proofs.Session.Connects
import Uplink.Proofs.Session.Dispatch

/-! The supervisor and the dispatcher together, with everything that can happen around them, and what each thing
that happens means for the dispatcher. -/

namespace Uplink

open Flags (Covers Ticket)

/-- Those who may do everything but clear the cloud register and deliver messages. -/
abbrev Liberty.keeper : Liberty where
  clears := false
  counts := true
  posts := true
  delivers := false

/-- Those who may do everything but raise bits and deliver messages. -/
abbrev Liberty.cleaner : Liberty where
  clears := true
  counts := true
  posts := false
  delivers := false

/-! ### The supervisor's steps -/

/-- A step of the run raises no bit that it clears again. -/
theorem Supervisor.step_straight (supervisor : Supervisor) (agenda : Agenda) (task : TaskId) (run : Run) :
    supervisor.connection.Straight (supervisor.step agenda task run).2.connection := by
  -- A run keeps all bits while it takes a step, so it clears none that it has raised.
  have passes : supervisor.connection.Passes .keeper run.place.Holds
      (supervisor.step agenda task run).2.connection _ := step_passes rfl supervisor agenda task run
  exact passes.touches.straight fun _ => rfl

/-- Going on with a reply raises no bit that it clears again. -/
theorem Supervisor.resume_straight (supervisor : Supervisor) (agenda : Agenda) (task : TaskId) {run : Run}
    {request : Request} (calls : run.place = .calling request) (reply : request.Reply) :
    supervisor.connection.Straight (supervisor.resume agenda task run request reply).2.connection := by
  -- Only the reply to a disconnect clears the register.
  by_cases disconnects : request = .disconnectCloud
  · have passes : supervisor.connection.Passes .cleaner run.place.Holds
        (supervisor.resume agenda task run request reply).2.connection _ :=
      resume_passes rfl supervisor agenda task (fun _ => rfl) calls reply
    exact passes.touches.straight nofun
  · have passes : supervisor.connection.Passes .keeper run.place.Holds
        (supervisor.resume agenda task run request reply).2.connection _ :=
      resume_passes rfl supervisor agenda task (fun same => absurd same disconnects) calls reply
    exact passes.touches.straight fun _ => rfl

namespace Session

variable {session before middle after : Session} {task : TaskId} {rest : List TaskId} {run : Supervisor.Run}
  {dispatcher : Dispatcher} {trace : List Passage}

/-- The connection after a step of the run is the supervisor's. -/
theorem carryOn_connection (session : Session) (task : TaskId) (stepped : Supervisor.Stepped) :
    (session.carryOn task stepped).connection = stepped.2.connection :=
  -- The connection is a part of the supervisor.
  congrArg Supervisor.connection (carryOn_supervisor session task stepped)

/-- Nobody waits for the spans that entries are written in. -/
theorem alike_within {spans : List Span} (liberty : Liberty) :
    session.connection.Alike liberty (session.within spans).connection :=
  -- The spans are no part of what is waited for.
  ⟨rfl, rfl, rfl, rfl, fun _ => rfl, fun _ => ⟨rfl, rfl⟩⟩

/-- A turn of the run raises no bit that it clears again. -/
theorem turnOfRun_straight (session : Session) (task : TaskId) (run : Supervisor.Run) :
    session.connection.Straight (session.turnOfRun task run).connection := by
  unfold Session.turnOfRun
  split
  · rename_i request calls
    rw [carryOn_connection]
    by_cases disconnects : request = .disconnectCloud
    · -- The transport's disconnect is no matter of the connection.
      subst disconnects
      exact Supervisor.resume_straight (session.reply .disconnectCloud).2.supervisor _ _ calls _
    · have replied : Moves .keeper (fun _ => False) session (session.reply request).2 := .reply id rfl request
      have resumed (reply : request.Reply) : (session.reply request).2.connection.Passes .keeper run.place.Holds
          ((session.reply request).2.supervisor.resume (session.reply request).2.agenda task run request
            reply).2.connection _ :=
        Supervisor.resume_passes rfl _ _ task (fun same => absurd same disconnects) calls reply
      -- A run that calls holds no wait.
      have nothing : ∀ name ticket, run.place.Holds name ticket → session.connection.Obtains
          (session.HeldBeside fun _ => False) (session.reply request).2.connection name ticket := by
        intro name ticket has
        rw [calls] at has
        exact has.elim
      exact (replied.touches.trans (resumed _).touches nothing).straight fun _ => rfl
  · rw [carryOn_connection]
    exact session.supervisor.step_straight session.agenda task run

/-! ### What can happen next -/

/-- One thing that can happen to a session while the supervisor is started once at most, one dispatcher alone takes
messages out of the queue, and nobody but the supervisor clears the cloud register. Whatever waits for the modem or
the transport gets any answer, at once or later. -/
inductive Joint (session : Session) : Session → Prop where
  | start (idle : session.runTask = none) : Joint session (session.act .start).2
  | dispatcher (idle : session.dispatcherTask = none) : Joint session (session.act .startDispatcher).2
  | act {action : Action} (aside : action.Aside false) (feeds : action.Feeds) :
      Joint session (session.act action).2
  | turn {next : Session} (turned : session.turn? = some next) : Joint session next
  | answer {task : TaskId} {rest : List TaskId} {envelope : Envelope} (head : session.agenda.ready = task :: rest)
      (delivers : session.Delivers task (.delivering envelope .sending)) (result : Except TransportError Unit) :
      Joint session (((session.within (Dispatcher.delivering envelope .sending).spans).answer task envelope
        result).within []).flush
  | reply {task : TaskId} {rest : List TaskId} {run : Supervisor.Run} {request : Request}
      (head : session.agenda.ready = task :: rest) (runs : session.Runs task run)
      (calls : run.place = .calling request) (reply : request.Reply) :
      Joint session (((session.within run.spans).carryOn task
        ((session.within run.spans).supervisor.resume session.agenda task run request reply)).within []).flush
  | suspend {task : TaskId} {rest : List TaskId} {job : Job} (head : session.agenda.ready = task :: rest)
      (listed : session.tasks.lookup task = some ⟨job, false⟩) (calls : job.Calls) :
      Joint session { session with agenda := session.agenda.yield }
  | rouse {task : TaskId} {job : Job} (listed : session.tasks.lookup task = some ⟨job, false⟩)
      (calls : job.Calls) : Joint session { session with agenda := session.agenda.wake task }
  | strike (instant : Nat) (later : session.agenda.now ≤ instant) : Joint session (session.strike instant)

/-- Whatever the two do together leads on where one dispatcher alone takes messages. -/
theorem Joint.dispatched (joint : Joint before after) (dispatched : Dispatched trace before) :
    ∃ onward, Dispatched onward after := by
  -- One case for each way to go on, with a lemma for each.
  cases joint with
  | start idle => exact ⟨_, dispatched.act (show Action.Feeds .start from trivial)⟩
  | dispatcher idle => exact ⟨_, dispatched.dispatcher idle⟩
  | act aside feeds => exact ⟨_, dispatched.act feeds⟩
  | turn turned => exact ⟨_, dispatched.turn turned⟩
  | answer head delivers result => exact ⟨_, dispatched.answer head delivers result⟩
  | reply head runs calls reply => exact ⟨_, dispatched.reply head runs.listed calls reply⟩
  | suspend head listed calls => exact ⟨_, dispatched.suspend head listed calls⟩
  | rouse listed calls => exact ⟨_, dispatched.rouse listed calls⟩
  | strike instant later => exact ⟨_, dispatched.strike instant later⟩

/-- A task that runs the supervisor runs the one that was started. -/
theorem Staffed.runs_of_listed (staffed : session.Staffed)
    (listed : session.tasks.lookup task = some ⟨.supervise run, false⟩) : session.Runs task run := by
  -- The tasks beside the supervisor's have no run.
  refine ⟨?_, listed⟩
  by_contra other
  exact (staffed.others _ (Entries.mem_of_lookup listed) other).ne_supervise run rfl

/-- A task that delivers messages does not run the supervisor. -/
theorem Staffed.ne_runTask (staffed : session.Staffed)
    (listed : session.tasks.lookup task = some ⟨.dispatch dispatcher, false⟩) : session.runTask ≠ some task := by
  -- The supervisor's task has a run, and this one has a dispatcher.
  intro runs
  obtain ⟨_, same⟩ := staffed.runner _ (Entries.mem_of_lookup listed) runs
  cases same

/-- An answer of the transport to the dispatcher spares every other task. -/
theorem Moves.answered {liberty : Liberty} {spared : TaskId → Prop} (other : ¬spared task)
    (delivers : liberty.delivers = true) (envelope : Envelope) (result : Except TransportError Unit) :
    Moves liberty spared session (((session.within (Dispatcher.delivering envelope .sending).spans).answer task
      envelope result).within []) := by
  let opened := session.within (Dispatcher.delivering envelope .sending).spans
  -- Taking the answer in touches only what a delivery may.
  have resumed : opened.connection.Touches liberty (opened.HeldBeside spared)
      (Delivery.resume opened.connection envelope result).2 := Delivery.resume_touches delivers _ envelope result
  have answered : Moves liberty spared opened (opened.answer task envelope result) :=
    setJob other delivers (.free resumed)
  -- It is done in the spans of the dispatcher, which are opened before and closed after.
  exact ((within _).trans answered).trans (within [])

/-- What the two do together is something beside the run, or a step of it. -/
theorem Joint.happens (joint : Joint before after) (staffed : before.Staffed)
    (nobody : before.connection.woken = []) :
    ∃ middle, Happens ⟨true, false⟩ before middle ∧ after = middle.flush := by
  -- What the dispatcher's calls add to the things that can happen is something beside the run.
  have beside {later : Session} (aside : Aside false before later)
      (mute : Moves (.mute false) (fun task => before.runTask = some task) before later) :
      Happens ⟨true, false⟩ before later := .beside aside (informs_of_mute false mute)
  cases joint with
  | start idle => exact Next.happens staffed nobody (.start idle)
  | dispatcher idle =>
    have aside : Action.Aside false .startDispatcher := trivial
    exact Next.happens staffed nobody (.act aside)
  | act aside feeds => exact Next.happens staffed nobody (.act aside)
  | turn turned => exact Next.happens staffed nobody (.turn turned)
  | reply head runs calls reply => exact Next.happens staffed nobody (.reply head runs calls reply)
  | strike instant later => exact Next.happens staffed nobody (.strike instant later)
  | answer head delivers result =>
    have other := staffed.ne_runTask delivers.listed
    exact ⟨_, beside (.answered other rfl _ _) (.answered other rfl _ _), rfl⟩
  -- A call that is suspended may be the supervisor's or the dispatcher's.
  | @suspend task rest job head listed calls =>
    cases job with
    | supervise run =>
      obtain ⟨request, calling⟩ := calls
      exact Next.happens staffed nobody (.suspend head (staffed.runs_of_listed listed) calling rfl)
    | dispatch dispatcher =>
      have other := staffed.ne_runTask listed
      exact (beside (.yield head other) (.yield head other)).settled nobody
    | _ => exact calls.elim
  | @rouse task job listed calls =>
    cases job with
    | supervise run =>
      obtain ⟨request, calling⟩ := calls
      exact Next.happens staffed nobody (.rouse (staffed.runs_of_listed listed) calling)
    | dispatch dispatcher =>
      have woken {liberty : Liberty} : Moves liberty (fun task => before.runTask = some task) before
          { before with agenda := before.agenda.wake task } :=
        .line (fun _ _ ready => Agenda.mem_wake.mpr (.inl ready)) (Agenda.wake_now _ _)
          (Nat.le_of_eq (Agenda.wake_unused _ _).symm)
      exact (beside woken woken).settled nobody
    | _ => exact calls.elim

/-! ### In concert -/

/-- Everybody is at his work, the supervisor and the dispatcher, and nobody is left to wake. -/
structure InConcert (session : Session) : Prop where
  staffed : session.Staffed
  balances : session.Balances
  woken : session.connection.woken = []
  dispatched : ∃ trace, Dispatched trace session

/-- Whatever happens to the two leaves everybody at his work. -/
theorem InConcert.joint (concert : before.InConcert) (joint : Joint before after) : after.InConcert := by
  -- It is shown for what happens first; waking those who are called is a stride more.
  obtain ⟨trace, dispatched⟩ := concert.dispatched
  obtain ⟨middle, happens, rfl⟩ := joint.happens concert.staffed concert.woken
  have strides : Strides ⟨true, false⟩ before middle.flush := happens.strides.tail (.flush middle)
  exact ⟨concert.staffed.strides strides, concert.balances.strides concert.staffed strides, rfl,
    joint.dispatched dispatched⟩

/-- Whatever happens to the two keeps every bit of the cloud register unless it is a reset. -/
theorem InConcert.keeps_or_resets (concert : before.InConcert) (joint : Joint before after) :
    Covers after.connection.cloud.bits before.connection.cloud.bits ∨ before.Resets after := by
  -- It is shown for what happens first, and waking those who are called clears no bit.
  obtain ⟨middle, happens, rfl⟩ := joint.happens concert.staffed concert.woken
  exact (happens.keeps concert.balances rfl).imp_right Resets.flush

/-- The dispatcher and the line of tasks are in order. -/
theorem InConcert.manned (concert : session.InConcert) : session.Manned := by
  -- The course of the dispatcher carries it along.
  obtain ⟨trace, dispatched⟩ := concert.dispatched
  exact dispatched.carried.manned

/-! ### What it means for the dispatcher -/

/-- What happens leaves the dispatcher where it is, and its task in line if it stands there. -/
structure Spares (before after : Session) : Prop where
  named : after.dispatcherTask = before.dispatcherTask
  lookup : ∀ task, before.dispatcherTask = some task → after.tasks.lookup task = before.tasks.lookup task
  ready : ∀ task dispatcher, before.Delivers task dispatcher → task ∈ before.agenda.ready →
    task ∈ after.agenda.ready
  straight : before.connection.Straight after.connection

/-- What goes on elsewhere spares the dispatcher, as long as no bit is raised and cleared at once. -/
theorem Spares.of_elsewhere (moves : Elsewhere before after)
    (straight : before.connection.Straight after.connection) : before.Spares after :=
  -- The dispatcher's task is among those that are spared.
  ⟨(moves.dispatcher rfl).1, moves.lookup, fun task _ delivers => moves.ready task delivers.named, straight⟩

/-- Those who clear nothing spare the dispatcher. -/
theorem Moves.spares (moves : Moves .keeper (fun task => before.dispatcherTask = some task) before after) :
    before.Spares after :=
  -- Where nobody clears, no bit is raised and cleared at once.
  ⟨(moves.dispatcher rfl).1, moves.lookup, fun task _ delivers => moves.ready task delivers.named,
    moves.touches.straight fun _ => rfl⟩

/-- A dispatcher that is spared is still where it was. -/
theorem Spares.delivers (spares : before.Spares after) :
    after.Delivers task dispatcher ↔ before.Delivers task dispatcher := by
  -- The name and the job are the same before and after, which reads in both directions.
  constructor
  · intro delivers
    have named := spares.named.symm.trans delivers.named
    exact ⟨named, (spares.lookup task named).symm.trans delivers.listed⟩
  · intro delivers
    exact ⟨spares.named.trans delivers.named, (spares.lookup task delivers.named).trans delivers.listed⟩

/-- What happens as far as the dispatcher goes, before those who are to be woken move to the line. -/
inductive Meets (before : Session) : Session → Prop where
  | starts (idle : before.dispatcherTask = none) : Meets before before.startDispatcher
  | beside {after : Session} (spares : before.Spares after) : Meets before after
  | turn {task : TaskId} {rest : List TaskId} {dispatcher : Dispatcher}
      (head : before.agenda.ready = task :: rest) (delivers : before.Delivers task dispatcher) :
      Meets before (((before.within dispatcher.spans).turnOfDispatcher task dispatcher).within [])
  | answer {task : TaskId} {envelope : Envelope} (delivers : before.Delivers task (.delivering envelope .sending))
      (result : Except TransportError Unit) :
      Meets before (((before.within (Dispatcher.delivering envelope .sending).spans).answer task envelope
        result).within [])
  | suspend {task : TaskId} {envelope : Envelope} (delivers : before.Delivers task (.delivering envelope .sending)) :
      Meets before { before with agenda := before.agenda.yield }

/-- Where nobody is to be woken, moving those who are to the line does nothing. -/
theorem Meets.settled (meets : before.Meets after) (nobody : after.connection.woken = []) :
    ∃ middle, before.Meets middle ∧ after = middle.flush :=
  -- The middle is the end itself.
  ⟨after, meets, (flush_of_nobody after nobody).symm⟩

/-- An action from outside that leaves the messages to the dispatcher spares it. -/
theorem InConcert.spares_perform (concert : before.InConcert) {action : Action} (aside : action.Aside false)
    (feeds : action.Feeds) : before.Spares (before.perform action).2 := by
  have manned := concert.manned
  -- Only the queue is a matter of the dispatcher's, and no register is.
  have share {connection : Connection} (straight : before.connection.Straight connection) :
      before.Spares (before.mapConnection fun _ => connection) :=
    ⟨rfl, fun _ _ => rfl, fun _ _ _ => id, straight⟩
  have keeper (within : action.Within .keeper) : before.Spares (before.perform action).2 :=
    Moves.spares (.perform manned.fresh manned.unlabelled manned.others within)
  cases action with
  | start | stop | publish => exact aside.elim
  | startDispatcher | tryReceive _ | release _ | dispatch _ => exact feeds.elim
  | enqueue handle message mode =>
    have touches : before.connection.Touches (.others false) (fun _ _ => False)
      (before.connection.enqueue message handle mode).2 := Connection.Touches.refl.enqueue message handle mode rfl
    exact share (touches.straight fun _ => rfl)
  | closeQueue =>
    have touches : before.connection.Touches (.others false) (fun _ _ => False) before.connection.closeQueue :=
      Connection.Touches.refl.closeQueue rfl
    exact share (touches.straight fun _ => rfl)
  -- Bits may be raised by these, and none is cleared.
  | link _ | cloud _ | dateTime _ | emit _ | dropSession | emitLink _ | emitDateTime _ | requestDisconnect
  | post _ _ | connectTransport | connectModem => exact keeper rfl
  | reset name => exact keeper aside
  | registerHandler _ | await _ _ _ | cancel _ | buildShadow | initTransport | disconnectTransport | send _ _
  | publishStatus _ | initModem | requestPsm _ | enableEvents | registerClock => exact keeper trivial

/-- Only the dispatcher's task runs the dispatcher. -/
theorem Manned.delivers_of_listed (manned : session.Manned)
    (listed : session.tasks.lookup task = some ⟨.dispatch dispatcher, false⟩) :
    session.Delivers task dispatcher := by
  -- The tasks beside the dispatcher's deliver nothing.
  refine ⟨?_, listed⟩
  by_contra other
  cases manned.others _ (Entries.mem_of_lookup listed) other

/-- A turn of any task is the dispatcher's or spares it. -/
theorem InConcert.meets_turn (concert : before.InConcert) (turned : before.turn? = some after) :
    ∃ middle, before.Meets middle ∧ after = middle.flush := by
  -- The head of the line has ended, or is a task that was stopped, or is the dispatcher, or is another task.
  have manned := concert.manned
  obtain ⟨task, rest, head, turn⟩ := turn_of_turned turned
  have held {entry : Task} (found : before.tasks.lookup task = some entry)
      (other : before.dispatcherTask ≠ some task) : ∀ name ticket, entry.job.Holds name ticket →
        before.HeldBeside (fun task => before.dispatcherTask = some task) name ticket :=
    fun name ticket has => ⟨(task, entry), Entries.mem_of_lookup found, other, has⟩
  cases turn with
  | gone absent =>
    have spares : before.Spares { before with agenda := before.agenda.yield } := by
      refine ⟨rfl, fun _ _ => rfl, fun own dispatcher delivers ready => ?_, .refl _⟩
      -- The task that leaves the line is not listed any longer, and the dispatcher is.
      have apart : own ≠ task := by
        rintro rfl
        cases absent.symm.trans delivers.listed
      rw [head] at ready
      simpa [Agenda.yield, head] using (List.mem_cons.mp ready).resolve_left apart
    exact (Meets.beside spares).settled concert.woken
  | @last entry found stopped =>
    have member : (task, entry) ∈ before.tasks := Entries.mem_of_lookup found
    -- Neither the dispatcher nor the supervisor is stopped.
    have other : before.dispatcherTask ≠ some task := by
      intro own
      obtain ⟨dispatcher, rfl⟩ := manned.runner _ member own
      cases stopped
    have idle : before.runTask ≠ some task := by
      intro runs
      obtain ⟨run, rfl⟩ := concert.staffed.runner _ member runs
      cases stopped
    have beside := (concert.staffed.others _ member idle).ne_supervise
    have last : Moves .keeper (fun task => before.dispatcherTask = some task) before
        (before.lastTurnOf task entry.job) :=
      .lastTurn head other beside (manned.others _ member other) (held found other)
    exact ⟨_, .beside last.spares, rfl⟩
  -- The others take their turn in the spans of their job, which are nobody's concern.
  | @next entry found onward =>
    have member : (task, entry) ∈ before.tasks := Entries.mem_of_lookup found
    obtain ⟨job, cancelled⟩ := entry
    cases onward
    let opened := before.within job.spans
    have head' : opened.agenda.ready = task :: rest := head
    by_cases own : before.dispatcherTask = some task
    · obtain ⟨dispatcher, same⟩ := manned.runner _ member own
      cases same
      exact ⟨_, .turn head ⟨own, found⟩, rfl⟩
    · refine ⟨_, .beside ?_, rfl⟩
      have whole (liberty : Liberty) (moves : Moves liberty (fun task => before.dispatcherTask = some task) opened
          (opened.turnOf task job)) : Moves liberty (fun task => before.dispatcherTask = some task) before
          ((opened.turnOf task job).within []) := ((Moves.within job.spans).trans moves).trans (.within [])
      have within := manned.others _ member own
      by_cases supervises : ∃ run, job = .supervise run
      · -- The supervisor may clear the register, but raises nothing then.
        obtain ⟨run, rfl⟩ := supervises
        have turns : Elsewhere opened (opened.turnOf task (.supervise run)) :=
          .turnOfRun head' own manned.fresh (held found own)
        exact .of_elsewhere (whole _ turns)
          ((opened.turnOfRun_straight task run).within alike_within alike_within)
      · exact Moves.spares <| whole _ <|
          .turn head' own (fun run same => supervises ⟨run, same⟩) within (fun _ => rfl) (held found own)

/-- Whatever happens to the two is a matter of the dispatcher's or spares it. -/
theorem InConcert.meets (concert : before.InConcert) (joint : Joint before after) :
    ∃ middle, before.Meets middle ∧ after = middle.flush := by
  -- Where nothing is posted nobody is to be woken, and the last flush does nothing.
  have manned := concert.manned
  cases joint with
  | start idle => exact ⟨_, .beside (.of_elsewhere (.start manned.fresh) (.refl _)), rfl⟩
  | dispatcher idle => exact ⟨_, .starts idle, rfl⟩
  | act aside feeds => exact ⟨_, .beside (concert.spares_perform aside feeds), rfl⟩
  | turn turned => exact concert.meets_turn turned
  | answer head delivers result => exact ⟨_, .answer delivers result, rfl⟩
  | @reply task rest run request head runs calls reply =>
    -- A reply raises bits or clears them, and never both.
    let opened := before.within run.spans
    have resumed : opened.connection.Straight (opened.carryOn task
        (opened.supervisor.resume before.agenda task run request reply)).connection := by
      rw [carryOn_connection]
      exact Supervisor.resume_straight opened.supervisor before.agenda task calls reply
    exact ⟨_, .beside (.of_elsewhere (manned.elsewhere_reply head runs.listed calls reply)
      (resumed.within alike_within alike_within)), rfl⟩
  | @suspend task rest job head listed calls =>
    cases job with
    | supervise run =>
      have other : before.dispatcherTask ≠ some task := by
        intro own
        obtain ⟨dispatcher, same⟩ := manned.runner _ (Entries.mem_of_lookup listed) own
        cases same
      exact (Meets.beside (Moves.spares (.yield head other))).settled concert.woken
    | dispatch dispatcher =>
      cases dispatcher with
      | delivering envelope delivery =>
        cases delivery with
        | sending => exact (Meets.suspend (manned.delivers_of_listed listed)).settled concert.woken
        | _ => exact calls.elim
      | _ => exact calls.elim
    | _ => exact calls.elim
  -- A task that is roused joins the line behind everybody.
  | @rouse task job listed calls =>
    refine (Meets.beside (Moves.spares (.line (fun _ _ ready => ?_) (Agenda.wake_now _ _) ?_))).settled concert.woken
    · exact Agenda.mem_wake.mpr (.inl ready)
    · exact Nat.le_of_eq (Agenda.wake_unused _ _).symm
  | strike instant later => exact (Meets.beside (Moves.spares (.strike later))).settled concert.woken

end Session

end Uplink
