import Mathlib.Logic.Relation
import Uplink.Proofs.Session.Strides
import Uplink.Proofs.Session.Tidings

/-! What can happen next to a session: one thing at a time, and what of it the supervisor gets to see. -/

namespace Uplink

/-- Those who may do everything beside the run but raise bits. -/
abbrev Liberty.mute (clears : Bool) : Liberty where
  clears := clears
  counts := false
  posts := false
  delivers := true

namespace Session

open Flags (Condition Register Ticket)

/-- One thing that can happen to a session while the supervisor is started once at most: it is started,
something else is done from outside, a task takes its turn, a call of the supervisor gets any reply, now or
later, or time passes. -/
inductive Next (setting : Setting) (session : Session) : Session → Prop where
  | start (idle : session.runTask = none) : Next setting session (session.act .start).2
  | act {action : Action} (aside : action.Aside setting.clears) : Next setting session (session.act action).2
  | turn {next : Session} (turned : session.turn? = some next) : Next setting session next
  | reply {task : TaskId} {rest : List TaskId} {run : Supervisor.Run} {request : Request}
      (head : session.agenda.ready = task :: rest) (runs : session.Runs task run)
      (calls : run.place = .calling request) (reply : request.Reply) :
      Next setting session (((session.within run.spans).carryOn task
        ((session.within run.spans).supervisor.resume session.agenda task run request reply)).within []).flush
  | suspend {task : TaskId} {rest : List TaskId} {run : Supervisor.Run} {request : Request}
      (head : session.agenda.ready = task :: rest) (runs : session.Runs task run)
      (calls : run.place = .calling request) (allowed : setting.suspends = true) :
      Next setting session { session with agenda := session.agenda.yield }
  | rouse {task : TaskId} {run : Supervisor.Run} {request : Request} (runs : session.Runs task run)
      (calls : run.place = .calling request) :
      Next setting session { session with agenda := session.agenda.wake task }
  | strike (instant : Nat) (later : session.agenda.now ≤ instant) :
      Next setting session (session.strike instant)

/-- Things that can happen one after the other. -/
abbrev Path (setting : Setting) : Session → Session → Prop :=
  Relation.ReflTransGen (Next setting)

variable {setting : Setting} {session before after : Session} {task : TaskId} {rest : List TaskId}

/-- A reply adds tasks behind the others at most. -/
theorem reply_ready (session : Session) (request : Request) :
    ∃ later, (session.reply request).2.agenda.ready = session.agenda.ready ++ later := by
  -- A task of its own is started for events that take their time; nothing else touches the line.
  cases request with
  | connectNetwork =>
    simp only [reply, connectModem]
    split
    · exact ⟨[], (List.append_nil _).symm⟩
    · split
      · exact ⟨[], (List.append_nil _).symm⟩
      · split
        · exact ⟨[], (List.append_nil _).symm⟩
        · exact ⟨[session.agenda.unused], rfl⟩
  -- The same for the events of the cloud.
  | connectCloud =>
    simp only [reply, connectTransport]
    split
    · exact ⟨[], (List.append_nil _).symm⟩
    · split
      · exact ⟨[], (List.append_nil _).symm⟩
      · exact ⟨[session.agenda.unused], rfl⟩
  | modemInit | registerClock | transportInit | requestPsm | enableEvents | publishShadow |
      disconnectCloud => exact ⟨[], (List.append_nil _).symm⟩

/-- Where the supervisor's task stays at its point, it is still there after what goes on beside it. -/
theorem Runs.aside {clears : Bool} {after : Session} {task : TaskId} {run : Supervisor.Run}
    (runs : session.Runs task run) (aside : Aside clears session after) : after.Runs task run :=
  -- The supervisor's task is spared by what goes on beside it.
  ⟨(aside.runTask rfl).trans runs.runTask, (aside.lookup task runs.runTask).trans runs.listed⟩

/-- A run that is found after what goes on beside it was there before. -/
theorem Runs.of_aside {clears : Bool} {after : Session} {task : TaskId} {run : Supervisor.Run}
    (runs : after.Runs task run) (aside : Aside clears session after) : session.Runs task run := by
  -- The supervisor's task is spared by what goes on beside it.
  have runTask := (aside.runTask rfl).symm.trans runs.runTask
  exact ⟨runTask, (aside.lookup task runTask).symm.trans runs.listed⟩

/-- Writing entries in other spans leaves the run where it is. -/
theorem Runs.within {task : TaskId} {run : Supervisor.Run} (runs : session.Runs task run)
    (spans : List Span) : (session.within spans).Runs task run :=
  -- The spans are no part of the tasks.
  ⟨runs.runTask, runs.listed⟩

/-- A run that is found among entries of other spans was there before. -/
theorem Runs.of_within {task : TaskId} {run : Supervisor.Run} {spans : List Span}
    (runs : (session.within spans).Runs task run) : session.Runs task run :=
  -- The spans are no part of the tasks.
  ⟨runs.runTask, runs.listed⟩

/-! ### What the supervisor's waits are told -/

/-- The conditions of a cycle of the connection that more bits could answer otherwise. -/
def Watched : RegisterName → Condition → Prop
  | .network, _ => True
  | .cloud, condition => condition = .any (Cloud.ready ||| Cloud.disconnected)
  | .dateTime, _ => False

/-- A wait of the run that had parked before still stands in the list, or was handed what the bits say
afterwards. -/
def Informs (before after : Session) : Prop :=
  ∀ name condition ticket task, Watched name condition → ¬before.HeldAside name ticket →
    ticket < (before.connection.register name).nextTicket →
    (before.connection.register name).Lists ticket task condition →
    (after.connection.register name).Lists ticket task condition ∨
      task ∈ after.connection.woken ∧ ∃ bits,
        condition.matched (after.connection.register name).bits = some bits ∧
          (after.connection.register name).Hands ticket bits

/-- The conditions of a cycle are among those that no event answers in passing. -/
theorem Watched.sought {name : RegisterName} {condition : Condition} (watched : Watched name condition) :
    Sought name condition := by
  -- On the network any condition is sought; on the other registers the watched ones are.
  cases name with
  | network => exact trivial
  | cloud => exact .inl watched
  | dateTime => exact watched

/-- What the supervisor's task gets to hear of informs the run. -/
theorem Tidings.informs (tidings : Tidings (fun task => before.runTask = some task) before after) :
    before.Informs after :=
  -- It is told of more conditions than a cycle watches.
  fun name condition ticket task watched => tidings name condition ticket task watched.sought

/-- What leaves the connection as it is has nothing to tell. -/
theorem informs_of_same (same : after.connection = before.connection) : before.Informs after :=
  -- The registers are the same, so there is nothing to be told.
  (tidings_of_same same).informs

/-- Others who raise no bits have nothing to tell. -/
theorem informs_of_mute (clears : Bool)
    (moves : Moves (.mute clears) (fun task => before.runTask = some task) before after) :
    before.Informs after :=
  -- Without a bit more there is nothing to be told.
  (tidings_of_mute moves rfl).informs

/-! ### What happens next -/

/-- What happens next as far as the run goes, before those who are to be woken move to the line. -/
inductive Happens (setting : Setting) (before : Session) : Session → Prop where
  | beside {after : Session} (aside : Aside setting.clears before after) (informs : before.Informs after) :
      Happens setting before after
  | start (idle : before.runTask = none) : Happens setting before before.start
  | step {task : TaskId} {rest : List TaskId} {run : Supervisor.Run}
      (head : before.agenda.ready = task :: rest) (runs : before.Runs task run)
      (steps : ∀ request, run.place ≠ .calling request) :
      Happens setting before (((before.within run.spans).carryOn task
        ((before.within run.spans).supervisor.step before.agenda task run)).within [])
  | resume {replied : Session} {task : TaskId} {rest later : List TaskId} {run : Supervisor.Run}
      {request : Request} (head : before.agenda.ready = task :: rest) (runs : before.Runs task run)
      (calls : run.place = .calling request) (aside : Aside setting.clears before replied)
      (head' : replied.agenda.ready = task :: later) (reply : request.Reply) :
      Happens setting before ((replied.carryOn task
        (replied.supervisor.resume replied.agenda task run request reply)).within [])
  | suspend {task : TaskId} {rest : List TaskId} {run : Supervisor.Run} {request : Request}
      (head : before.agenda.ready = task :: rest) (runs : before.Runs task run)
      (calls : run.place = .calling request) (allowed : setting.suspends = true) :
      Happens setting before { before with agenda := before.agenda.yield }
  | gone {task : TaskId} {rest : List TaskId} (head : before.agenda.ready = task :: rest)
      (absent : before.tasks.lookup task = none) :
      Happens setting before { before with agenda := before.agenda.yield }

/-- Where nobody is to be woken, nobody moves to the line. -/
theorem flush_of_nobody (session : Session) (nobody : session.connection.woken = []) :
    session.flush = session := by
  -- Both the line and the list of those to be woken are as they were.
  have same : session.agenda.wakeAll session.connection.woken = session.agenda := by
    rw [nobody]
    rfl
  unfold flush
  rw [same, ← nobody]
  rfl

/-- Whatever happens without leaving anybody to wake is all that happens next. -/
theorem Happens.settled (happens : Happens setting before after) (nobody : after.connection.woken = []) :
    ∃ middle, Happens setting before middle ∧ after = middle.flush :=
  -- The middle is the end itself.
  ⟨after, happens, (flush_of_nobody after nobody).symm⟩

/-- A turn is a step of the run, with the reply if it waits for one, or goes on beside the run. -/
theorem happens_turn (staffed : before.Staffed) (nobody : before.connection.woken = [])
    (turned : before.turn? = some after) :
    ∃ middle, Happens setting before middle ∧ after = middle.flush := by
  -- The head of the line has ended, or is a task that was stopped, or runs the supervisor, or is another task.
  obtain ⟨task, rest, head, turn⟩ := turn_of_turned turned
  have held {entry : Task} (found : before.tasks.lookup task = some entry) (own : before.runTask ≠ some task) :
      ∀ name ticket, entry.job.Holds name ticket → before.HeldAside name ticket :=
    fun name ticket has => ⟨(task, entry), Entries.mem_of_lookup found, own, has⟩
  cases turn with
  | gone absent => exact (Happens.gone head absent).settled nobody
  | @last entry found stopped =>
    have member : (task, entry) ∈ before.tasks := Entries.mem_of_lookup found
    -- The supervisor is not stopped.
    have own : before.runTask ≠ some task := by
      intro own
      obtain ⟨run, rfl⟩ := staffed.runner _ member own
      cases stopped
    have job : entry.job.Aside := staffed.others _ member own
    refine ⟨_, .beside (.lastTurn head own job.ne_supervise job (held found own)) ?_, rfl⟩
    exact informs_of_mute false (.lastTurn head own job.ne_supervise job (held found own))
  | @next entry found onward =>
    have member : (task, entry) ∈ before.tasks := Entries.mem_of_lookup found
    let opened := before.within entry.job.spans
    have opening : Aside setting.clears before opened := .within entry.job.spans
    have head' : opened.agenda.ready = task :: rest := head
    by_cases own : before.runTask = some task
    · -- The supervisor takes its turn, and gets its reply first if it waits for one.
      obtain ⟨run, rfl⟩ := staffed.runner _ member own
      have runs : before.Runs task run := ⟨own, found⟩
      refine ⟨(opened.turnOfRun task run).within [], ?_, rfl⟩
      unfold turnOfRun
      split
      · rename_i request calls
        have replied : Aside setting.clears opened (opened.reply request).2 :=
          .reply (staffed.aside opening).fresh rfl request
        obtain ⟨later, ready⟩ := opened.reply_ready request
        have head' : (opened.reply request).2.agenda.ready = task :: (rest ++ later) := by
          rw [ready]
          exact congrArg (· ++ later) head
        exact .resume head runs calls (opening.trans replied) head' _
      · rename_i steps
        exact .step head runs steps
    · -- Another task takes its turn; what it holds is held beside the run.
      have job : entry.job.Aside := staffed.others _ member own
      have turns : Aside setting.clears opened (opened.turnOf task entry.job) :=
        .turn head' own job.ne_supervise job (fun _ => rfl) (held found own)
      have closing : Moves (.others setting.clears) (fun task => before.runTask = some task)
        (opened.turnOf task entry.job) ((opened.turnOf task entry.job).within []) := .within []
      refine ⟨_, .beside ((opening.trans turns).trans closing) ?_, rfl⟩
      -- Neither span is a matter of the registers.
      intro name condition ticket kept watched apart issued listed
      have told : Tidings (fun task => before.runTask = some task) opened (opened.turnOf task entry.job) :=
        tidings_turn head' own job.ne_supervise entry.job.within_all (held found own)
      rw [register_within]
      exact told name condition ticket kept watched.sought apart (by simpa [opened] using issued)
        (by simpa [opened] using listed)

/-- What happens next is something beside the run, or a step of it. -/
theorem Next.happens (staffed : before.Staffed) (nobody : before.connection.woken = [])
    (next : Next setting before after) : ∃ middle, Happens setting before middle ∧ after = middle.flush := by
  -- One case for each thing that can happen; where nobody is woken the last flush does nothing.
  cases next with
  | start idle => exact ⟨_, .start idle, rfl⟩
  | act aside =>
    refine ⟨_, .beside ?_ (tidings_perform staffed.orderly staffed.fresh _).informs, rfl⟩
    exact .perform staffed.fresh staffed.unlabelled staffed.others aside.within
  | turn turned => exact happens_turn staffed nobody turned
  | @reply task rest run request head runs calls reply =>
    refine ⟨_, .resume head runs calls (.within run.spans) head reply, rfl⟩
  | suspend head runs calls allowed =>
    exact (Happens.suspend head runs calls allowed).settled nobody
  | rouse runs calls =>
    refine (Happens.beside (.line (fun _ _ ready => ?_) (Agenda.wake_now _ _) ?_) (informs_of_same rfl)).settled
      nobody
    · exact Agenda.mem_wake.mpr (.inl ready)
    · exact Nat.le_of_eq (Agenda.wake_unused _ _).symm
  | strike instant later =>
    exact (Happens.beside (.strike later) (informs_of_same rfl)).settled nobody

/-- What happens next is put together from strides. -/
theorem Happens.strides (happens : Happens setting before after) : Strides setting before after := by
  -- A step of the run stands between the opening and the closing of its spans.
  cases happens with
  | beside aside informs => exact Strides.refl.tail (.aside aside)
  | start idle => exact Strides.refl.tail (.start idle)
  | @step task rest run head runs steps =>
    have opened : Strides setting before (before.within run.spans) := Strides.refl.tail (.aside (.within _))
    have head' : (before.within run.spans).agenda.ready = task :: rest := head
    exact (opened.tail (.step head' (runs.within _) steps)).tail (.aside (.within []))
  | resume head runs calls aside head' reply =>
    have replied := Strides.refl.tail (.aside aside)
    exact (replied.tail (.resume head' (runs.aside aside) calls reply)).tail (.aside (.within []))
  | suspend head runs calls allowed => exact Strides.refl.tail (.suspend head runs calls allowed)
  | gone head absent => exact Strides.refl.tail (.gone head absent)

/-- What can happen next is put together from strides. -/
theorem Next.strides (next : Next setting before after) (staffed : before.Staffed)
    (nobody : before.connection.woken = []) : Strides setting before after := by
  -- It is shown for what happens first; waking those who are called is a stride more.
  obtain ⟨middle, happens, rfl⟩ := next.happens staffed nobody
  exact happens.strides.tail (.flush middle)

/-- Tasks that run are a part of what can happen. -/
theorem Path.settle (setting : Setting) (turns : Nat) (session : Session) :
    Path setting session (Timed.settle turns session) := by
  -- Induction on the number of turns.
  induction turns generalizing session with
  | zero => exact .refl
  | succ turns ih =>
    cases turned : session.turn? with
    | none =>
      rw [Timed.settle_of_quiet turned]
    | some next =>
      rw [Timed.settle_of_turn turned]
      exact .head (.turn turned) (ih next)

/-- As long as a task can run, one turn more is one thing more that happens. -/
theorem Next.settle {turns : Nat} (busy : (Timed.settle turns session).turn?.isSome) :
    Next setting (Timed.settle turns session) (Timed.settle (turns + 1) session) := by
  -- Induction on the number of turns, the first of which comes first.
  induction turns generalizing session with
  | zero =>
    obtain ⟨next, turned⟩ := Option.isSome_iff_exists.mp busy
    rw [Timed.settle_of_turn turned]
    exact .turn turned
  | succ turns ih =>
    cases first : session.turn? with
    | none =>
      rw [Timed.settle_of_quiet first, first] at busy
      cases busy
    | some second =>
      rw [Timed.settle_of_turn first] at busy ⊢
      rw [Timed.settle_of_turn first]
      exact ih busy

/-- Between the things that can happen nobody is left to wake. -/
theorem Next.nobody (next : Next setting before after) (staffed : before.Staffed)
    (nobody : before.connection.woken = []) : after.connection.woken = [] := by
  -- Whatever happens, those who are to be woken move to the line in the end.
  obtain ⟨middle, -, rfl⟩ := next.happens staffed nobody
  rfl

end Session

end Uplink
