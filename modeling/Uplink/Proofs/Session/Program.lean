import Uplink.Proofs.Session.Disconnect
import Uplink.Proofs.Session.Mark
import Uplink.Proofs.Session.Strays
import Uplink.Proofs.Session.Vigil
import Uplink.Proofs.Supervisor.Program

/-! What can happen next to a session, as far as the program of its supervisor goes, and which reply it hears. -/

namespace Uplink

/-- A reply that the supervisor has got to a request. -/
structure Heard where
  request : Request
  reply : request.Reply

/-- What went wrong in the setup, if the reply says so. -/
def Heard.failure? (heard : Heard) : Option SetupError :=
  heard.request.failure? heard.reply

namespace Session

variable {setting : Setting} {session before middle after : Session} {heard : Option Heard} {task : TaskId}
  {rest : List TaskId} {run : Supervisor.Run}

/-- The reply that the supervisor gets in the next turn, if it is its turn and it waits for one. -/
def heard? (session : Session) : Option Heard :=
  match session.agenda.ready with
  | [] => none
  | task :: _ =>
    match session.tasks.lookup task with
    | some ⟨.supervise run, false⟩ =>
      match run.place with
      | .calling request => some ⟨request, ((session.within run.spans).reply request).1⟩
      | _ => none
    | _ => none

/-- One thing that can happen, and the reply that the supervisor hears in it. -/
inductive Hears (setting : Setting) (session : Session) : Option Heard → Session → Prop where
  | start (idle : session.runTask = none) : Hears setting session none (session.act .start).2
  | act {action : Action} (aside : action.Aside setting.clears) :
      Hears setting session none (session.act action).2
  | turn {next : Session} (turned : session.turn? = some next) : Hears setting session session.heard? next
  | reply {task : TaskId} {rest : List TaskId} {run : Supervisor.Run} {request : Request}
      (head : session.agenda.ready = task :: rest) (runs : session.Runs task run)
      (calls : run.place = .calling request) (reply : request.Reply) :
      Hears setting session (some ⟨request, reply⟩) (((session.within run.spans).carryOn task
        ((session.within run.spans).supervisor.resume session.agenda task run request reply)).within []).flush
  | suspend {task : TaskId} {rest : List TaskId} {run : Supervisor.Run} {request : Request}
      (head : session.agenda.ready = task :: rest) (runs : session.Runs task run)
      (calls : run.place = .calling request) (allowed : setting.suspends = true) :
      Hears setting session none { session with agenda := session.agenda.yield }
  | rouse {task : TaskId} {run : Supervisor.Run} {request : Request} (runs : session.Runs task run)
      (calls : run.place = .calling request) :
      Hears setting session none { session with agenda := session.agenda.wake task }
  | strike (instant : Nat) (later : session.agenda.now ≤ instant) :
      Hears setting session none (session.strike instant)

/-- Whatever happens, the supervisor hears a reply in it or none. -/
theorem Next.hears (next : Next setting before after) : ∃ heard, Hears setting before heard after := by
  -- Only a reply is heard; everything else that can happen is heard as none.
  cases next with
  | start idle => exact ⟨_, .start idle⟩
  | act aside => exact ⟨_, .act aside⟩
  | turn turned => exact ⟨_, .turn turned⟩
  | reply head runs calls reply => exact ⟨_, .reply head runs calls reply⟩
  | suspend head runs calls allowed => exact ⟨_, .suspend head runs calls allowed⟩
  | rouse runs calls => exact ⟨_, .rouse runs calls⟩
  | strike instant later => exact ⟨_, .strike instant later⟩

/-- What is heard is a part of what can happen. -/
theorem Hears.next (hears : Hears setting before heard after) : Next setting before after := by
  -- Each way to hear something is one of the ways to go on.
  cases hears with
  | start idle => exact .start idle
  | act aside => exact .act aside
  | turn turned => exact .turn turned
  | reply head runs calls reply => exact .reply head runs calls reply
  | suspend head runs calls allowed => exact .suspend head runs calls allowed
  | rouse runs calls => exact .rouse runs calls
  | strike instant later => exact .strike instant later

/-- What happens next as far as the program goes: something beside the run, a step of the run, or a reply to it. -/
inductive Proceeds (setting : Setting) (before : Session) : Option Heard → Session → Prop where
  | beside {after : Session} (aside : Aside setting.clears before after)
      (quiet : after.connection.strays = before.connection.strays) (pending : after.outcome = before.outcome) :
      Proceeds setting before none after.flush
  | starts (idle : before.runTask = none) : Proceeds setting before none before.start.flush
  | waits {after : Session} {task : TaskId} {rest : List TaskId} {run : Supervisor.Run}
      (head : before.agenda.ready = task :: rest) (runs : before.Runs task run)
      (steps : ∀ request, run.place ≠ .calling request) (early : before.agenda.reached run.place.deadline? = false)
      (runs' : after.Runs task run) (now : after.agenda.now = before.agenda.now)
      (did : Supervisor.Did before.agenda.now [] before.supervisor after.supervisor)
      (pending : after.outcome = before.outcome) : Proceeds setting before none after
  | steps {after : Session} {task : TaskId} {rest : List TaskId} {run onward : Supervisor.Run} {deeds : List Deed}
      (head : before.agenda.ready = task :: rest) (runs : before.Runs task run)
      (steps : Supervisor.Steps before.supervisor.config before.connection.cloud before.agenda run.place deeds
        onward.place)
      (runs' : after.Runs task onward) (awake : task ∈ after.agenda.ready)
      (now : after.agenda.now = before.agenda.now)
      (did : Supervisor.Did before.agenda.now deeds before.supervisor after.supervisor)
      (pending : after.outcome = before.outcome) : Proceeds setting before none after
  | resumes {replied after : Session} {task : TaskId} {rest : List TaskId} {run onward : Supervisor.Run}
      {request : Request} {reply : request.Reply} {deeds : List Deed}
      (head : before.agenda.ready = task :: rest) (runs : before.Runs task run)
      (calls : run.place = .calling request) (aside : Aside setting.clears before replied)
      (sound : request.failure? reply = none)
      (resumes : Supervisor.Resumes before.supervisor.config replied.agenda request reply deeds onward.place)
      (runs' : after.Runs task onward) (awake : task ∈ after.agenda.ready)
      (now : after.agenda.now = replied.agenda.now)
      (did : Supervisor.Did replied.agenda.now deeds before.supervisor after.supervisor)
      (pending : after.outcome = before.outcome) : Proceeds setting before (some ⟨request, reply⟩) after
  | fails {after : Session} {task : TaskId} {rest : List TaskId} {run : Supervisor.Run}
      {request : Request} {reply : request.Reply} {error : SetupError}
      (head : before.agenda.ready = task :: rest) (runs : before.Runs task run)
      (calls : run.place = .calling request) (fault : request.failure? reply = some error)
      (ended : after.standing = .ended) (outcome : after.outcome = some (.failed error))
      (did : Supervisor.Did after.agenda.now [.moved .setupFailed] before.supervisor after.supervisor) :
      Proceeds setting before (some ⟨request, reply⟩) after
  | suspends {task : TaskId} {rest : List TaskId} {run : Supervisor.Run}
      (head : before.agenda.ready = task :: rest) (runs : before.Runs task run) (held : Suspended setting run) :
      Proceeds setting before none { before with agenda := before.agenda.yield }
  | gone {task : TaskId} {rest : List TaskId} (head : before.agenda.ready = task :: rest)
      (absent : before.tasks.lookup task = none) :
      Proceeds setting before none { before with agenda := before.agenda.yield }

/-- A step that leads on at once leaves its task at the head of the line. -/
theorem ready_carryOn (session : Session) {onward : Supervisor.Run} {stepped : Supervisor.Stepped}
    (head : session.agenda.ready = task :: rest) (leads : stepped.1 = .next onward) :
    task ∈ ((session.carryOn task stepped).within []).flush.agenda.ready := by
  -- The step keeps the line, and waking only adds to it.
  refine Agenda.mem_wakeAll.mpr (.inl ?_)
  have same : ((session.carryOn task stepped).within []).agenda = session.agenda := carryOn_agenda leads
  rw [same, head]
  exact List.mem_cons_self

/-- A step of the run takes no time. -/
theorem carryOn_flush_now (session : Session) (task : TaskId) (stepped : Supervisor.Stepped) :
    ((session.carryOn task stepped).within []).flush.agenda.now = session.agenda.now := by
  -- Neither the step nor the waking moves the clock.
  simp only [flush, Agenda.wakeAll_now]
  exact carryOn_now session task stepped

/-- What the supervisor has done in a step is what it has done in the session. -/
theorem did_carryOn (session : Session) (task : TaskId) {stepped : Supervisor.Stepped} {now : Nat}
    {deeds : List Deed} {earlier : Supervisor} (did : Supervisor.Did now deeds earlier stepped.2) :
    Supervisor.Did now deeds earlier ((session.carryOn task stepped).within []).flush.supervisor := by
  -- The session after the step has the supervisor after it, but for those who are to be woken.
  let after := ((session.carryOn task stepped).within []).flush
  have same : after.supervisor = { stepped.2 with connection := after.connection } := by
    simp only [after, flush, within, mapConnection, connection]
    rw [carryOn_supervisor]
  have strays : after.connection.strays = stepped.2.connection.strays := strays_carryOn session task stepped
  rw [show ((session.carryOn task stepped).within []).flush.supervisor = _ from same]
  exact did.share strays

/-- A step of the run follows the program, or waits. -/
theorem proceeds_step (balances : before.Balances) (head : before.agenda.ready = task :: rest)
    (runs : before.Runs task run) (steps : ∀ request, run.place ≠ .calling request) :
    Proceeds setting before none (((before.within run.spans).carryOn task
      ((before.within run.spans).supervisor.step before.agenda task run)).within []).flush := by
  let opened := before.within run.spans
  have opens : opened.Runs task run := runs.within _
  have here : opened.supervisor.phase = run.place.phase := balances.phase_of_runs runs
  let stepped := opened.supervisor.step before.agenda task run
  let after := ((opened.carryOn task stepped).within []).flush
  have now : after.agenda.now = before.agenda.now := carryOn_flush_now opened task stepped
  have onto {onward : Supervisor.Run} (leads : .after stepped.1 = Standing.running onward) : after.Runs task onward :=
    ⟨(opens.carryOn leads).runTask, (opens.carryOn leads).listed⟩
  -- The spans that are open are none of its deeds.
  have done {deeds : List Deed} (did : Supervisor.Did before.agenda.now deeds opened.supervisor stepped.2) :
      Supervisor.Did before.agenda.now deeds before.supervisor after.supervisor :=
    did_carryOn opened task (did.since (strays_within before run.spans))
  -- A step that is taken too early changes nothing, and any other one leads on.
  rcases Supervisor.step_follows before.agenda task here steps with
    ⟨waits, early⟩ | ⟨deeds, onward, leads, follows, did⟩
  · have parked : .after stepped.1 = Standing.running run := by
      simp only [stepped, waits]
      rfl
    have same : stepped.2 = opened.supervisor := congrArg Prod.snd waits
    have idle : Supervisor.Did before.agenda.now [] opened.supervisor stepped.2 := by
      rw [same]
      exact .nothing _ _
    exact .waits head runs steps early (onto parked) now (done idle)
      (congrArg Mark.outcome (mark_carryOn_parked opened task (congrArg Prod.fst waits)))
  · have next : .after stepped.1 = Standing.running onward := by
      simp only [stepped, leads]
      rfl
    exact .steps head runs follows (onto next) (ready_carryOn opened head leads) now (done did)
      (congrArg Mark.outcome (mark_carryOn_next opened task leads))

/-- With a reply the run follows the program, or ends as the setup has failed. -/
theorem proceeds_resume {replied : Session} {later : List TaskId} {request : Request} (balances : before.Balances)
    (head : before.agenda.ready = task :: rest) (runs : before.Runs task run)
    (calls : run.place = .calling request) (aside : Aside setting.clears before replied)
    (quiet : replied.connection.strays = before.connection.strays) (pending : replied.outcome = before.outcome)
    (head' : replied.agenda.ready = task :: later) (reply : request.Reply) :
    Proceeds setting before (some ⟨request, reply⟩) ((replied.carryOn task
      (replied.supervisor.resume replied.agenda task run request reply)).within []).flush := by
  have runs' : replied.Runs task run := runs.aside aside
  have here : replied.supervisor.phase = run.place.phase := aside.phase.trans (balances.phase_of_runs runs)
  let stepped := replied.supervisor.resume replied.agenda task run request reply
  let after := ((replied.carryOn task stepped).within []).flush
  have now : after.agenda.now = replied.agenda.now := carryOn_flush_now replied task stepped
  -- What goes on beside the run is no deed of it.
  have done {deeds : List Deed} (did : Supervisor.Did replied.agenda.now deeds replied.supervisor stepped.2) :
      Supervisor.Did replied.agenda.now deeds before.supervisor after.supervisor := by
    have kept := aside.supervisor rfl
    rw [kept] at did
    exact did_carryOn replied task (did.since quiet)
  -- A failed setup ends the run, and after any other reply it is at the head of the line still.
  rcases Supervisor.resume_follows replied.agenda task calls here reply with
    ⟨error, fault, ends, did⟩ | ⟨sound, deeds, onward, leads, follows, did⟩
  · -- The outcome of the session is set by the run that is the current one, as this one is.
    have last : .after stepped.1 = Standing.ended := by
      simp only [stepped, ends]
      rfl
    refine .fails head runs calls fault ?_ ?_ (now ▸ done did)
    · exact (standing_carryOn runs').trans last
    · have same : stepped = (.done error, stepped.2) := Prod.ext ends rfl
      have failed : (replied.carryOn task (.done error, stepped.2)).outcome = some (.failed error) := by
        have latest : ({ replied with supervisor := stepped.2 }.finish task).runTask = some task := runs'.runTask
        simp only [carryOn, latest, if_true]
      rw [← same] at failed
      exact failed
  · have next : .after stepped.1 = Standing.running onward := by
      simp only [stepped, leads]
      rfl
    have config : replied.supervisor.config = before.supervisor.config := by rw [aside.supervisor rfl]
    have awake : task ∈ after.agenda.ready := ready_carryOn replied head' leads
    refine .resumes head runs calls aside sound (config ▸ follows) ?_ awake now (done did)
      ((congrArg Mark.outcome (mark_carryOn_next replied task leads)).trans pending)
    exact ⟨(runs'.carryOn next).runTask, (runs'.carryOn next).listed⟩

/-- In a turn the run follows its program, and hears the reply to what it has asked for. -/
theorem proceeds_turn (staffed : before.Staffed) (balances : before.Balances)
    (turned : before.turn? = some after) : Proceeds setting before before.heard? after := by
  -- The head of the line has ended, or is a task that was stopped, or runs the supervisor, or is another task.
  obtain ⟨task, rest, head, turn⟩ := turn_of_turned turned
  have held {entry : Task} (found : before.tasks.lookup task = some entry) (own : before.runTask ≠ some task) :
      ∀ name ticket, entry.job.Holds name ticket → before.HeldAside name ticket :=
    fun name ticket has => ⟨(task, entry), Entries.mem_of_lookup found, own, has⟩
  -- Only the supervisor hears replies.
  have silent {entry : Task} (found : before.tasks.lookup task = some entry)
      (other : ∀ run, entry ≠ ⟨.supervise run, false⟩) : before.heard? = none := by
    simp only [heard?, head, found]
    split
    · rename_i run same
      exact absurd (Option.some.inj same) (other run)
    · rfl
  cases turn with
  | gone absent =>
    have none : before.heard? = none := by simp [heard?, head, absent]
    rw [none]
    exact .gone head absent
  | @last entry found stopped =>
    have member : (task, entry) ∈ before.tasks := Entries.mem_of_lookup found
    -- The supervisor is not stopped.
    have own : before.runTask ≠ some task := by
      intro own
      obtain ⟨run, rfl⟩ := staffed.runner _ member own
      cases stopped
    have job : entry.job.Aside := staffed.others _ member own
    rw [silent found fun run same => by simp [same] at stopped]
    exact .beside (.lastTurn head own job.ne_supervise job (held found own))
      (strays_lastTurnOf _ _ job.ne_supervise) (congrArg Mark.outcome (mark_lastTurnOf _ _ job.ne_supervise))
  | @next entry found onward =>
    have member : (task, entry) ∈ before.tasks := Entries.mem_of_lookup found
    let opened := before.within entry.job.spans
    have opening : Aside setting.clears before opened := .within entry.job.spans
    have head' : opened.agenda.ready = task :: rest := head
    by_cases own : before.runTask = some task
    · -- The supervisor takes its turn, and gets its reply first if it waits for one.
      obtain ⟨run, rfl⟩ := staffed.runner _ member own
      have runs : before.Runs task run := ⟨own, found⟩
      have turns : opened.turnOf task (.supervise run) = opened.turnOfRun task run := rfl
      cases calls : run.place with
      | calling request =>
        have heard : before.heard? = some ⟨request, (opened.reply request).1⟩ := by
          simp only [heard?, head, found, calls]
          rfl
        have replied : Aside setting.clears opened (opened.reply request).2 :=
          .reply (staffed.aside opening).fresh rfl request
        obtain ⟨later, ready⟩ := opened.reply_ready request
        have head'' : (opened.reply request).2.agenda.ready = task :: (rest ++ later) := by
          rw [ready]
          exact congrArg (· ++ later) head
        have proceeds := proceeds_resume balances head runs calls (opening.trans replied)
          (strays_reply opened request) (congrArg Mark.outcome (mark_reply opened request)) head''
          (opened.reply request).1
        simp only [turnOfRun, calls] at turns
        rw [← turns] at proceeds
        exact heard ▸ proceeds
      | starting | cycleStart | awaitingNetwork wait | awaitingCloud wait | awaitingReady wait | awaitingDrop wait
      | settling due | backingOff due =>
        -- At any other place there is nobody to answer.
        have steps : ∀ request, run.place ≠ .calling request := fun request => by simp [calls]
        have none : before.heard? = Option.none := by simp only [heard?, head, found, calls]
        have proceeds : Proceeds setting before Option.none
            ((opened.carryOn task (opened.supervisor.step opened.agenda task run)).within []).flush :=
          proceeds_step balances head runs steps
        simp only [turnOfRun, calls] at turns
        rw [← turns] at proceeds
        exact none ▸ proceeds
    · -- Another task takes its turn; what it holds is held beside the run.
      have job : entry.job.Aside := staffed.others _ member own
      have turns : Aside setting.clears opened (opened.turnOf task entry.job) :=
        .turn head' own job.ne_supervise job (fun _ => rfl) (held found own)
      have closing : Moves (.others setting.clears) (fun task => before.runTask = some task)
        (opened.turnOf task entry.job) ((opened.turnOf task entry.job).within []) := .within []
      rw [silent found fun run same => job.ne_supervise run (by rw [same])]
      exact .beside ((opening.trans turns).trans closing) (strays_turnOf _ _ job.ne_supervise)
        (congrArg Mark.outcome (mark_turnOf opened task job.ne_supervise))

/-- Whatever happens, the run follows its program. -/
theorem Hears.proceeds (hears : Hears setting before heard after) (staffed : before.Staffed)
    (nobody : before.connection.woken = []) (balances : before.Balances) :
    Proceeds setting before heard after := by
  -- One case for each thing that can happen; where nobody is woken the last flush does nothing.
  have besides {after : Session} (aside : Aside setting.clears before after)
      (same : after.connection = before.connection) (pending : after.outcome = before.outcome) :
      Proceeds setting before none after := by
    rw [← flush_of_nobody after (same ▸ nobody)]
    exact .beside aside (congrArg Connection.strays same) pending
  cases hears with
  | start idle => exact .starts idle
  | act aside =>
    exact .beside (.perform staffed.fresh staffed.unlabelled staffed.others aside.within) (strays_perform _ aside)
      (congrArg Mark.outcome (mark_perform _ aside))
  | turn turned => exact proceeds_turn staffed balances turned
  -- A call that was suspended has its reply at its next turn.
  | @reply task rest run request head runs calls reply =>
    exact proceeds_resume balances head runs calls (.within run.spans) rfl rfl head reply
  | suspend head runs calls allowed => exact .suspends head runs ⟨allowed, _, calls⟩
  | strike instant later => exact besides (.strike later) rfl rfl
  | rouse runs calls =>
    refine besides (.line (fun _ _ ready => ?_) (Agenda.wake_now _ _) ?_) rfl rfl
    · exact Agenda.mem_wake.mpr (.inl ready)
    · exact Nat.le_of_eq (Agenda.wake_unused _ _).symm

/-- What happens next to a session that can be reached follows the program. -/
theorem Reached.proceeds (reached : Reached setting before) (hears : Hears setting before heard after) :
    Proceeds setting before heard after :=
  -- Everybody is at his work in a session that can be reached.
  hears.proceeds reached.staffed reached.woken reached.balances

/-- Whatever happens, the supervisor does something at one instant, if anything, and keeps to the table. -/
theorem Proceeds.did (proceeds : Proceeds setting before heard after) :
    ∃ now deeds, Supervisor.Did now deeds before.supervisor after.supervisor := by
  cases proceeds with
  | @beside middle aside quiet pending =>
    -- Others change nothing of the supervisor but its connection.
    have kept : middle.flush.supervisor =
        { before.supervisor with connection := middle.flush.connection } := by
      simp only [flush, connection]
      rw [aside.supervisor rfl]
    refine ⟨0, [], ?_⟩
    rw [kept]
    exact (Supervisor.Did.nothing 0 _).share quiet
  | starts idle => exact ⟨0, [], (Supervisor.Did.nothing 0 _).share rfl⟩
  | waits _ _ _ _ _ _ did _ => exact ⟨_, _, did⟩
  | steps _ _ _ _ _ _ did _ => exact ⟨_, _, did⟩
  | resumes _ _ _ _ _ _ _ _ _ did _ => exact ⟨_, _, did⟩
  | fails _ _ _ _ _ _ did => exact ⟨_, _, did⟩
  | suspends _ _ _ => exact ⟨0, [], .nothing 0 _⟩
  | gone _ _ => exact ⟨0, [], .nothing 0 _⟩

/-- What happens next changes the supervisor only by what it does at one instant. -/
theorem Reached.did (reached : Reached setting before) (next : Next setting before after) :
    ∃ now deeds, Supervisor.Did now deeds before.supervisor after.supervisor := by
  -- It is read off the way in which the program proceeds.
  obtain ⟨heard, hears⟩ := next.hears
  exact (reached.proceeds hears).did

end Session

end Uplink
