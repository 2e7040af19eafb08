import Uplink.Proofs.Session.Others
import Uplink.Proofs.Supervisor.Steps

/-! Strides: the least that can happen to a session as far as its supervisor goes, and what they all keep. -/

namespace Uplink

open Flags (Register Ticket Wait)

/-- What can happen around the supervisor. -/
structure Setting where
  /-- A call of the modem or the transport may take time, in which other tasks run. -/
  suspends : Bool
  /-- Others than the supervisor may clear the cloud register. -/
  clears : Bool

/-- How far the one run of the supervisor has come. -/
inductive Standing where
  /-- It has not been started. -/
  | idle
  | running (run : Supervisor.Run)
  /-- It has ended, as the setup failed. -/
  | ended

/-- How far the run has come after a step. -/
def Standing.after : Progress SetupError Supervisor.Run → Standing
  | .next run => .running run
  | .parked run => .running run
  | .done _ => .ended

namespace Session

/-- The supervisor's task is this one, and its run is at this point. -/
structure Runs (session : Session) (task : TaskId) (run : Supervisor.Run) : Prop where
  runTask : session.runTask = some task
  listed : session.tasks.lookup task = some ⟨.supervise run, false⟩

/-- How far the run of the supervisor has come. -/
def standing (session : Session) : Standing :=
  match session.runTask with
  | none => .idle
  | some task =>
    match session.tasks.lookup task with
    | some ⟨.supervise run, _⟩ => .running run
    | _ => .ended

/-! ### Strides -/

/-- The least that can happen to a session, as far as the supervisor goes. -/
inductive Stride (setting : Setting) : Session → Session → Prop where
  | aside {before after : Session} (aside : Aside setting.clears before after) : Stride setting before after
  | flush (session : Session) : Stride setting session session.flush
  | start {session : Session} (idle : session.runTask = none) : Stride setting session session.start
  | step {session : Session} {task : TaskId} {rest : List TaskId} {run : Supervisor.Run}
      (head : session.agenda.ready = task :: rest) (runs : session.Runs task run)
      (steps : ∀ request, run.place ≠ .calling request) :
      Stride setting session (session.carryOn task (session.supervisor.step session.agenda task run))
  | resume {session : Session} {task : TaskId} {rest : List TaskId} {run : Supervisor.Run} {request : Request}
      (head : session.agenda.ready = task :: rest) (runs : session.Runs task run)
      (calls : run.place = .calling request) (reply : request.Reply) :
      Stride setting session
        (session.carryOn task (session.supervisor.resume session.agenda task run request reply))
  | suspend {session : Session} {task : TaskId} {rest : List TaskId} {run : Supervisor.Run}
      {request : Request} (head : session.agenda.ready = task :: rest) (runs : session.Runs task run)
      (calls : run.place = .calling request) (allowed : setting.suspends = true) :
      Stride setting session { session with agenda := session.agenda.yield }
  | gone {session : Session} {task : TaskId} {rest : List TaskId} (head : session.agenda.ready = task :: rest)
      (absent : session.tasks.lookup task = none) :
      Stride setting session { session with agenda := session.agenda.yield }

/-- Strides one after the other. -/
inductive Strides (setting : Setting) (first : Session) : Session → Prop where
  | refl : Strides setting first first
  | tail {before after : Session} (earlier : Strides setting first before)
      (stride : Stride setting before after) : Strides setting first after

/-- Strides follow on strides. -/
theorem Strides.trans {setting : Setting} {first middle last : Session}
    (earlier : Strides setting first middle) (later : Strides setting middle last) :
    Strides setting first last := by
  -- Induction on the later strides.
  induction later with
  | refl => exact earlier
  | tail _ stride ih => exact ih.tail stride

/-! ### What a step of the supervisor changes -/

variable {setting : Setting} {session : Session} {task : TaskId} {run : Supervisor.Run}
  {stepped : Supervisor.Stepped}

/-- The session has the supervisor after its step. -/
@[simp] theorem carryOn_supervisor (session : Session) (task : TaskId) (stepped : Supervisor.Stepped) :
    (session.carryOn task stepped).supervisor = stepped.2 := by
  -- Giving the task its next job changes the list of tasks alone.
  obtain ⟨progress, supervisor⟩ := stepped
  cases progress with
  | next run => simp only [carryOn]; rw [setJob_eq]
  | parked run => simp only [carryOn, park]; rw [setJob_eq]
  | done error =>
    simp only [carryOn]
    split <;> rfl

/-- A step of the supervisor leaves its task its name. -/
@[simp] theorem carryOn_runTask (session : Session) (task : TaskId) (stepped : Supervisor.Stepped) :
    (session.carryOn task stepped).runTask = session.runTask := by
  -- The name of the task is kept when it ends, too.
  obtain ⟨progress, supervisor⟩ := stepped
  cases progress with
  | next run => simp only [carryOn]; rw [setJob_eq]
  | parked run => simp only [carryOn, park]; rw [setJob_eq]
  | done error =>
    simp only [carryOn]
    split <;> rfl

/-- A step of the supervisor names no task. -/
@[simp] theorem carryOn_unused (session : Session) (task : TaskId) (stepped : Supervisor.Stepped) :
    (session.carryOn task stepped).agenda.unused = session.agenda.unused := by
  -- The task goes on under its own name or ends.
  obtain ⟨progress, supervisor⟩ := stepped
  cases progress with
  | next run => simp only [carryOn]; rw [setJob_eq]
  | parked run => rfl
  | done error =>
    simp only [carryOn]
    split <;> rfl

/-- A step of the supervisor takes no time. -/
@[simp] theorem carryOn_now (session : Session) (task : TaskId) (stepped : Supervisor.Stepped) :
    (session.carryOn task stepped).agenda.now = session.agenda.now := by
  -- The line may lose its head, and the clock stands still.
  obtain ⟨progress, supervisor⟩ := stepped
  cases progress with
  | next run => simp only [carryOn]; rw [setJob_eq]
  | parked run => rfl
  | done error =>
    simp only [carryOn]
    split <;> rfl

/-- A step that leads on at once leaves the line as it is. -/
theorem carryOn_agenda (next : stepped.1 = .next run) :
    (session.carryOn task stepped).agenda = session.agenda := by
  -- Only a wait and an end leave the line.
  obtain ⟨progress, supervisor⟩ := stepped
  cases next
  simp only [carryOn]
  rw [setJob_eq]

/-- After a step of the supervisor the other tasks are those from before, and its own is at the point
that the step led to. -/
theorem mem_carryOn (runs : session.Runs task run) {entry : TaskId × Task}
    (member : entry ∈ (session.carryOn task stepped).tasks) :
    (entry ∈ session.tasks ∧ entry.1 ≠ task) ∨
      ∃ onward, Standing.after stepped.1 = .running onward ∧ entry = (task, ⟨.supervise onward, false⟩) := by
  obtain ⟨progress, supervisor⟩ := stepped
  -- The task that is found is the run, which was not stopped.
  have own : ∀ onward, entry ∈ ({ session with supervisor }.setJob task (.supervise onward)).tasks →
      (entry ∈ session.tasks ∧ entry.1 ≠ task) ∨ entry = (task, ⟨.supervise onward, false⟩) := by
    intro onward listed
    rcases mem_setJob listed with stays | ⟨kept, found, same⟩
    · exact .inl stays
    · have old : kept = ⟨.supervise run, false⟩ := Option.some.inj (found.symm.trans runs.listed)
      subst old
      exact .inr same
  cases progress with
  | next onward => exact (own onward member).imp_right fun same => ⟨onward, rfl, same⟩
  | parked onward => exact (own onward member).imp_right fun same => ⟨onward, rfl, same⟩
  -- A run that is done is taken off the list.
  | done error =>
    have stays : entry ∈ session.tasks.filter (·.1 ≠ task) := by
      simp only [carryOn] at member
      split at member <;> exact member
    have apart := List.mem_filter.mp stays
    exact .inl ⟨apart.1, by simpa using apart.2⟩

/-- After a step of the supervisor its run is at the point that the step led to. -/
theorem standing_carryOn (runs : session.Runs task run) :
    (session.carryOn task stepped).standing = .after stepped.1 := by
  -- The task is found with the run that the step led to, or is not found any longer.
  obtain ⟨progress, supervisor⟩ := stepped
  have own : ∀ onward, ({ session with supervisor }.setJob task (.supervise onward)).tasks.lookup task =
      some ⟨.supervise onward, false⟩ := by
    intro onward
    have listed : { session with supervisor }.tasks.lookup task = some ⟨.supervise run, false⟩ := runs.listed
    exact lookup_setJob listed (.supervise onward)
  unfold standing
  rw [carryOn_runTask, runs.runTask]
  cases progress with
  | next onward => simp only [carryOn, own onward, Standing.after]
  | parked onward => simp only [carryOn, park, own onward, Standing.after]
  -- A run that is done is not found any longer.
  | done error =>
    have gone : (session.carryOn task (.done error, supervisor)).tasks.lookup task = none := by
      have filtered : (session.tasks.filter (·.1 ≠ task)).lookup task = none := by
        rw [Entries.lookup_filter_ne, if_pos rfl]
      simp only [carryOn]
      split <;> exact filtered
    simp only [gone, Standing.after]

/-- A run that is found by its task is how far the supervisor has come. -/
theorem Runs.standing (runs : session.Runs task run) : session.standing = .running run := by
  -- The run is looked up by its task.
  simp [Session.standing, runs.runTask, runs.listed]

/-- A run that is found after a step of the supervisor is the one that has made the step. -/
theorem Runs.of_carryOn (ran : session.Runs task run) {other : TaskId} {onward : Supervisor.Run}
    (runs : (session.carryOn task stepped).Runs other onward) :
    other = task ∧ .after stepped.1 = Standing.running onward := by
  -- Its task is the supervisor's before and after, and a task has one job.
  have same := runs.runTask
  rw [carryOn_runTask, ran.runTask] at same
  exact ⟨(Option.some.inj same).symm, (standing_carryOn ran).symm.trans runs.standing⟩

/-! ### Everybody stays at his work -/

/-- A step of the supervisor leaves everybody at his work. -/
theorem Staffed.carryOn (staffed : session.Staffed) (runs : session.Runs task run)
    (passes : session.connection.Passes .supervisor run.place.Holds stepped.2.connection
      (stepped.1.Holds fun run => run.place.Holds)) : (session.carryOn task stepped).Staffed := by
  have own : (task, (⟨.supervise run, false⟩ : Task)) ∈ session.tasks := Entries.mem_of_lookup runs.listed
  have connection : (session.carryOn task stepped).connection = stepped.2.connection :=
    congrArg Supervisor.connection (carryOn_supervisor session task stepped)
  -- The tasks beside the run are those from before, and so are their waits.
  have beside : ∀ entry ∈ (session.carryOn task stepped).tasks, session.runTask ≠ some entry.1 →
      entry ∈ session.tasks := by
    intro entry member other
    rcases mem_carryOn runs member with ⟨stays, -⟩ | ⟨onward, -, rfl⟩
    · exact stays
    · exact absurd runs.runTask other
  have heldAside : ∀ name ticket, (session.carryOn task stepped).HeldAside name ticket →
      session.HeldAside name ticket := by
    intro name ticket held
    obtain ⟨entry, member, other, has⟩ := held
    rw [carryOn_runTask] at other
    exact ⟨entry, beside entry member other, other, has⟩
  -- The run holds what its place held or what it has obtained by the step.
  have ran : ∀ entry ∈ (session.carryOn task stepped).tasks, session.runTask = some entry.1 →
      ∃ onward, entry = (task, ⟨.supervise onward, false⟩) ∧ ∀ name ticket, onward.place.Holds name ticket →
        session.connection.Obtains run.place.Holds stepped.2.connection name ticket := by
    intro entry member runs'
    rcases mem_carryOn runs member with ⟨-, apart⟩ | ⟨onward, after, rfl⟩
    · exact absurd (Option.some.inj (runs'.symm.trans runs.runTask)) apart
    · refine ⟨onward, rfl, fun name ticket has => passes.obtains name ticket ?_⟩
      cases progress : stepped.1 with
      | done error => simp [progress, Standing.after] at after
      | next run' =>
        simp only [progress, Standing.after, Standing.running.injEq] at after
        exact after ▸ has
      | parked run' =>
        simp only [progress, Standing.after, Standing.running.injEq] at after
        exact after ▸ has
  -- The run held its waits before, and nobody else held them.
  have held := staffed.held _ own runs.runTask
  have apart := staffed.apart _ own runs.runTask
  constructor
  -- No number is given out in this step.
  case numbered =>
    intro entry member
    rw [carryOn_unused]
    rcases mem_carryOn runs member with ⟨stays, -⟩ | ⟨onward, -, rfl⟩
    · exact staffed.numbered entry stays
    · exact staffed.numbered (task, ⟨.supervise run, false⟩) own
  case named =>
    intro name
    rw [carryOn_runTask, carryOn_unused]
    exact staffed.named name
  -- The others are those from before.
  case others =>
    intro entry member other
    rw [carryOn_runTask] at other
    exact staffed.others entry (beside entry member other) other
  case runner =>
    intro entry member runs'
    rw [carryOn_runTask] at runs'
    obtain ⟨onward, rfl, -⟩ := ran entry member runs'
    exact ⟨onward, rfl⟩
  case orderly => exact connection ▸ passes.touches.orderly staffed.orderly
  case issued =>
    intro name ticket has
    rw [connection]
    have old := staffed.issued name ticket (heldAside name ticket has)
    exact Nat.lt_of_lt_of_le old (passes.touches.issued name)
  case held =>
    intro entry member runs' name ticket has
    rw [carryOn_runTask] at runs'
    rw [connection]
    obtain ⟨onward, rfl, obtains⟩ := ran entry member runs'
    rcases obtains name ticket has with old | ⟨-, high⟩
    · exact Nat.lt_of_lt_of_le (held name ticket old) (passes.touches.issued name)
    · exact high
  case apart =>
    intro entry member runs' name ticket has other
    rw [carryOn_runTask] at runs'
    obtain ⟨onward, rfl, obtains⟩ := ran entry member runs'
    rcases obtains name ticket has with old | ⟨low, -⟩
    · exact apart name ticket old (heldAside name ticket other)
    · -- Nobody held a ticket that was issued by this step.
      exact absurd (staffed.issued name ticket (heldAside name ticket other)) (Nat.not_lt_of_le low)

/-- A supervisor whose run stands somewhere has a task for it. -/
theorem Staffed.runs_of_standing (staffed : session.Staffed) (stands : session.standing = .running run) :
    ∃ task, session.Runs task run := by
  -- The task is listed, and it is not cancelled, since the supervisor is not stopped.
  unfold standing at stands
  split at stands
  · simp at stands
  · rename_i task runTask
    split at stands
    · rename_i found
      obtain rfl := Standing.running.inj stands
      obtain ⟨_, same⟩ := staffed.runner _ (Entries.mem_of_lookup found) runTask
      cases same
      exact ⟨task, runTask, found⟩
    · simp at stands

/-- A run that was just started stands at its beginning. -/
theorem Staffed.start_runs (staffed : session.Staffed) : session.start.Runs session.agenda.unused {} :=
  -- The new task is at the end of the list, under a name that nobody has.
  ⟨rfl, lookup_spawn staffed.numbered (.supervise {})⟩

/-- The start of the one run leaves everybody at his work. -/
theorem Staffed.start (staffed : session.Staffed) (idle : session.runTask = none) :
    session.start.Staffed := by
  -- The run is the one new task, and the others have names of their own.
  have listed : ∀ entry ∈ session.start.tasks,
      entry ∈ session.tasks ∨ entry = (session.agenda.unused, ⟨.supervise {}, false⟩) := fun _ => mem_spawn
  have old : ∀ entry ∈ session.start.tasks, session.start.runTask ≠ some entry.1 → entry ∈ session.tasks := by
    intro entry member other
    rcases listed entry member with stays | rfl
    · exact stays
    · exact absurd rfl other
  -- The name of the run was not in use.
  have new : ∀ entry ∈ session.start.tasks, session.start.runTask = some entry.1 →
      entry = (session.agenda.unused, ⟨.supervise {}, false⟩) := by
    intro entry member runs
    rcases listed entry member with stays | same
    · exact absurd (Option.some.inj runs) (Nat.ne_of_gt (staffed.numbered entry stays))
    · exact same
  have heldAside : ∀ name ticket, session.start.HeldAside name ticket → session.HeldAside name ticket := by
    intro name ticket held
    obtain ⟨entry, member, other, has⟩ := held
    exact ⟨entry, old entry member other, by simp [idle], has⟩
  constructor
  case numbered =>
    intro entry member
    rcases listed entry member with stays | rfl
    · exact Nat.lt_succ_of_lt (staffed.numbered entry stays)
    · exact Nat.lt_succ_self _
  case named =>
    intro task runs
    exact Option.some.inj runs ▸ Nat.lt_succ_self _
  case others =>
    intro entry member other
    exact staffed.others entry (old entry member other) (by simp [idle])
  case runner =>
    intro entry member runs
    exact ⟨{}, congrArg Prod.snd (new entry member runs)⟩
  case orderly => exact staffed.orderly
  case issued => exact fun name ticket has => staffed.issued name ticket (heldAside name ticket has)
  -- At the start it holds no wait.
  case held =>
    intro entry member runs name ticket has
    rw [new entry member runs] at has
    exact has.elim
  case apart =>
    intro entry member runs name ticket has
    rw [new entry member runs] at has
    exact has.elim

/-- Every stride leaves everybody at his work. -/
theorem Staffed.stride {after : Session} (staffed : session.Staffed) (stride : Stride setting session after) :
    after.Staffed := by
  cases stride with
  | aside aside => exact staffed.aside aside
  | start idle => exact staffed.start idle
  | step head runs steps => exact staffed.carryOn runs (Supervisor.step_passes rfl _ _ _ _)
  | resume head runs calls reply =>
    exact staffed.carryOn runs (Supervisor.resume_passes rfl _ _ _ (fun _ => rfl) calls reply)
  -- Nobody's waits change while a call is out.
  | suspend head runs calls allowed => exact { staffed with }
  | gone head absent => exact { staffed with }
  | flush =>
    -- Only the line of tasks and the list of those to wake are others now.
    have unused : session.flush.agenda.unused = session.agenda.unused := Agenda.wakeAll_unused _ _
    exact {
      numbered := fun entry member => unused ▸ staffed.numbered entry member
      named := fun task runs => unused ▸ staffed.named task runs
      others := staffed.others
      runner := staffed.runner
      orderly := staffed.orderly
      issued := staffed.issued
      held := staffed.held
      apart := staffed.apart }

/-- Strides leave everybody at his work. -/
theorem Staffed.strides {after : Session} (staffed : session.Staffed)
    (strides : Strides setting session after) : after.Staffed := by
  -- Induction on the strides.
  induction strides with
  | refl => exact staffed
  | tail _ stride ih => exact ih.stride stride

end Session

end Uplink
