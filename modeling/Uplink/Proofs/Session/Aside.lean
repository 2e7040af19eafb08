import Uplink.Proofs.Session.Jobs
import Uplink.Session.Action

/-! What goes on beside a task, such as the run of the supervisor: what it leaves as it was, and what it can
change. -/

namespace Uplink.Session

open Flags (Register Ticket Wait)

/-! ### Giving a task another job -/

/-- Giving a task another job changes nothing but the list of tasks. -/
theorem setJob_eq (session : Session) (task : TaskId) (job : Job) :
    session.setJob task job = { session with tasks := (session.setJob task job).tasks } := by
  -- Each branch replaces the list of tasks or leaves the session alone.
  unfold setJob
  split
  · rfl
  · simp only
    split <;> rfl

/-- After a task was given a job, the others are those from before, and the task has the job. -/
theorem mem_setJob {session : Session} {task : TaskId} {job : Job} {entry : TaskId × Task}
    (member : entry ∈ (session.setJob task job).tasks) :
    (entry ∈ session.tasks ∧ entry.1 ≠ task) ∨
      ∃ kept, session.tasks.lookup task = some kept ∧ entry = (task, { kept with job }) := by
  unfold setJob at member
  -- A job with a deadline of its own sends the task to the end of the list; any other leaves it at
  -- its place.
  split at member
  · -- A task that is not listed is given nothing.
    rename_i absent
    refine .inl ⟨member, fun same => ?_⟩
    have missing := List.lookup_eq_none_iff.mp absent entry member
    simp [same] at missing
  · rename_i kept found
    simp only at member
    split at member
    · rcases List.mem_append.mp member with stays | new
      · have apart := List.mem_filter.mp stays
        exact .inl ⟨apart.1, by simpa using apart.2⟩
      · exact .inr ⟨kept, found, List.mem_singleton.mp new⟩
    · have adjusted : entry ∈ Entries.adjust task (fun _ => { kept with job }) session.tasks := member
      rcases Entries.mem_adjust.mp adjusted with stays | ⟨value, -, rfl⟩
      · exact .inl stays
      · exact .inr ⟨kept, found, rfl⟩

/-- Giving a task another job leaves what is found under other names alone. -/
theorem lookup_setJob_of_ne {task other : TaskId} (apart : other ≠ task) (session : Session) (job : Job) :
    (session.setJob task job).tasks.lookup other = session.tasks.lookup other := by
  -- Whether the task goes to the end of the list or keeps its place, the other names are passed
  -- over alike.
  unfold setJob
  split
  · rfl
  · rename_i kept found
    simp only
    split
    · have away : ([(task, { kept with job })] : List (TaskId × Task)).lookup other = none := by
        rw [Entries.lookup_cons_of_ne apart]
        rfl
      rw [List.lookup_append, Entries.lookup_filter_ne, if_neg apart, away, Option.or_none]
    · exact Entries.lookup_adjust_of_ne apart (fun _ => { kept with job }) session.tasks

/-- A listed task that was given a job is found with it. -/
theorem lookup_setJob {session : Session} {task : TaskId} {kept : Task}
    (found : session.tasks.lookup task = some kept) (job : Job) :
    (session.setJob task job).tasks.lookup task = some { kept with job } := by
  -- At the end of the list or at its old place, the entry is the only one of this name.
  unfold setJob
  rw [found]
  simp only
  split
  · rw [List.lookup_append, Entries.lookup_filter_ne, if_pos rfl]
    simp
  · have kind : ∀ entry : TaskId × Task,
        (if entry.1 = task then (entry.1, { kept with job }) else (entry.1, entry.2)).1 = entry.1 := by
      intro entry
      split <;> rfl
    refine (Entries.lookup_map kind session.tasks task).trans ?_
    simp [found]

/-! ### Starting a task -/

/-- A task that is new is listed behind those from before. -/
theorem mem_spawn {session : Session} {job : Job} {entry : TaskId × Task}
    (member : entry ∈ (session.spawn job).2.tasks) :
    entry ∈ session.tasks ∨ entry = (session.agenda.unused, ⟨job, false⟩) :=
  -- It is appended to the list.
  (List.mem_append.mp member).imp_right List.mem_singleton.mp

/-- A task that is new is found under its name. -/
theorem lookup_spawn {session : Session} (numbered : ∀ entry ∈ session.tasks, entry.1 < session.agenda.unused)
    (job : Job) : (session.spawn job).2.tasks.lookup session.agenda.unused = some ⟨job, false⟩ := by
  -- The name is a new one, so the search passes every other task by.
  have absent : session.tasks.lookup session.agenda.unused = none :=
    Entries.lookup_eq_none fun entry member => Nat.ne_of_lt (numbered entry member)
  have new : ([(session.agenda.unused, ⟨job, false⟩)] : List (TaskId × Task)).lookup
      session.agenda.unused = some ⟨job, false⟩ := by simp
  refine List.lookup_append.trans ?_
  rw [absent, new]
  rfl

/-! ### Turns -/

/-- What becomes of a session when the task at the head of the line takes its turn. -/
inductive Turn (session : Session) (task : TaskId) : Session → Prop where
  /-- The task has ended. -/
  | gone (absent : session.tasks.lookup task = none) :
      Turn session task { session with agenda := session.agenda.yield }
  /-- Somebody has stopped the task. -/
  | last {entry : Task} (found : session.tasks.lookup task = some entry) (stopped : entry.cancelled = true) :
      Turn session task (session.lastTurnOf task entry.job).flush
  | next {entry : Task} (found : session.tasks.lookup task = some entry) (onward : entry.cancelled = false) :
      Turn session task (((session.within entry.job.spans).turnOf task entry.job).within []).flush

/-- The task at the head of the line takes the turn. -/
theorem turn_of_turned {session next : Session} (turned : session.turn? = some next) :
    ∃ task rest, session.agenda.ready = task :: rest ∧ session.Turn task next := by
  -- Each branch of the turn is one of the three cases.
  unfold turn? at turned
  split at turned
  · cases turned
  · rename_i task rest head
    refine ⟨task, rest, head, ?_⟩
    split at turned
    · rename_i absent
      cases turned
      exact .gone absent
    · rename_i entry found
      split at turned
      · rename_i stopped
        cases turned
        exact .last found stopped
      · rename_i onward
        cases turned
        exact .next found (by simpa using onward)

/-! ### What is done beside a task -/

/-- A wait that a task other than those that are spared holds. -/
def HeldBeside (session : Session) (spared : TaskId → Prop) (name : RegisterName) (ticket : Ticket) : Prop :=
  ∃ entry ∈ session.tasks, ¬spared entry.1 ∧ entry.2.job.Holds name ticket

/-- What others do at this liberty leaves the tasks that are spared as they were: their jobs, their waits
and their places in the line, which they join when their deadline comes. Those who do not count leave the
supervisor alone but for the connection, and the name of its task; those who do not deliver leave the name of
the dispatcher's task, and whether it has ended. The supervisor gets no task that is spared. -/
structure Moves (liberty : Liberty) (spared : TaskId → Prop) (before after : Session) : Prop where
  supervisor : liberty.counts = false →
    after.supervisor = { before.supervisor with connection := after.connection }
  touches : before.connection.Touches liberty (before.HeldBeside spared) after.connection
  runTask : liberty.counts = false → after.runTask = before.runTask
  dispatcher : liberty.delivers = false →
    after.dispatcherTask = before.dispatcherTask ∧ after.dispatcherEnded = before.dispatcherEnded
  running : ∀ task, after.runTask = some task →
    before.runTask = some task ∨ ¬spared task ∧ task < after.agenda.unused
  ready : ∀ task, spared task → task ∈ before.agenda.ready → task ∈ after.agenda.ready
  later : before.agenda.now ≤ after.agenda.now
  alarm : ∀ task entry, spared task → before.tasks.lookup task = some entry →
    after.agenda.reached entry.job.deadline? = true →
      before.agenda.reached entry.job.deadline? = true ∨ task ∈ after.agenda.ready
  unused : before.agenda.unused ≤ after.agenda.unused
  lookup : ∀ task, spared task → after.tasks.lookup task = before.tasks.lookup task
  tasks : ∀ entry ∈ after.tasks, entry ∈ before.tasks ∨
    ¬spared entry.1 ∧ entry.2.job.Within liberty.counts liberty.delivers ∧
      ∀ name ticket, entry.2.job.Holds name ticket →
        before.connection.Obtains (before.HeldBeside spared) after.connection name ticket
  numbered : ∀ entry ∈ after.tasks, (∃ kept ∈ before.tasks, kept.1 = entry.1) ∨ entry.1 < after.agenda.unused

namespace Moves

variable {liberty : Liberty} {spared : TaskId → Prop} {before middle after : Session}

/-- What is held beside the spared tasks afterwards was held beside them before or obtained since. -/
theorem obtains (moves : Moves liberty spared before after) {name : RegisterName} {ticket : Ticket}
    (held : after.HeldBeside spared name ticket) :
    before.connection.Obtains (before.HeldBeside spared) after.connection name ticket := by
  -- A task that is not spared has an old entry, or one that came with what it obtained.
  obtain ⟨entry, member, other, has⟩ := held
  rcases moves.tasks entry member with stood | ⟨-, -, obtained⟩
  · exact .inl ⟨entry, stood, other, has⟩
  · exact obtained name ticket has

/-- A task that is spared is listed as it was before. -/
theorem stays (moves : Moves liberty spared before after) {entry : TaskId × Task} (member : entry ∈ after.tasks)
    (spare : spared entry.1) : entry ∈ before.tasks := by
  -- What has changed in the list belongs to tasks that are not spared.
  rcases moves.tasks entry member with stood | ⟨other, -, -⟩
  · exact stood
  · exact absurd spare other

/-- New tasks have new names. -/
theorem below (moves : Moves liberty spared before after)
    (numbered : ∀ entry ∈ before.tasks, entry.1 < before.agenda.unused) :
    ∀ entry ∈ after.tasks, entry.1 < after.agenda.unused := by
  -- A name was there before, or is one of those that have been given out since.
  intro entry member
  rcases moves.numbered entry member with ⟨kept, stood, same⟩ | below
  · exact same ▸ Nat.lt_of_lt_of_le (numbered kept stood) moves.unused
  · exact below

/-- What spares some tasks twice spares them once. -/
theorem trans (first : Moves liberty spared before middle) (second : Moves liberty spared middle after) :
    Moves liberty spared before after := by
  -- What was obtained in either part was obtained in the whole.
  have obtained : ∀ name ticket,
      middle.connection.Obtains (middle.HeldBeside spared) after.connection name ticket →
        before.connection.Obtains (before.HeldBeside spared) after.connection name ticket := by
    intro name ticket held
    have growth := second.touches.issued name
    rcases held with old | ⟨low, high⟩
    · rcases first.obtains old with older | ⟨low, high⟩
      · exact .inl older
      · exact .inr ⟨low, Nat.lt_of_lt_of_le high growth⟩
    · exact .inr ⟨Nat.le_trans (first.touches.issued name) low, high⟩
  constructor
  case supervisor =>
    intro others
    rw [second.supervisor others, first.supervisor others]
  case touches =>
    exact first.touches.trans second.touches fun name ticket held => first.obtains held
  case runTask => exact fun others => (second.runTask others).trans (first.runTask others)
  case dispatcher =>
    intro others
    exact ⟨(second.dispatcher others).1.trans (first.dispatcher others).1,
      (second.dispatcher others).2.trans (first.dispatcher others).2⟩
  case running =>
    intro task runs
    rcases second.running task runs with earlier | late
    · rcases first.running task earlier with older | ⟨other, below⟩
      · exact .inl older
      · exact .inr ⟨other, Nat.lt_of_lt_of_le below second.unused⟩
    · exact .inr late
  case ready => exact fun task spare ready => second.ready task spare (first.ready task spare ready)
  case later => exact Nat.le_trans first.later second.later
  -- A deadline that has come in the middle has come before, or has called its task.
  case alarm =>
    intro task entry spare found due
    have found' := (first.lookup task spare).trans found
    rcases second.alarm task entry spare found' due with come | ready
    · exact (first.alarm task entry spare found come).imp_right (second.ready task spare)
    · exact .inr ready
  case unused => exact Nat.le_trans first.unused second.unused
  case lookup => exact fun task spare => (second.lookup task spare).trans (first.lookup task spare)
  case tasks =>
    intro entry member
    rcases second.tasks entry member with stood | ⟨other, within, holds⟩
    · rcases first.tasks entry stood with old | ⟨other, within, holds⟩
      · exact .inl old
      · refine .inr ⟨other, within, fun name ticket has => ?_⟩
        -- A wait that was obtained in the first part is held in the middle.
        have held : middle.HeldBeside spared name ticket := ⟨entry, stood, other, has⟩
        exact obtained name ticket (.inl held)
    · exact .inr ⟨other, within, fun name ticket has => obtained name ticket (holds name ticket has)⟩
  case numbered =>
    intro entry member
    rcases second.numbered entry member with ⟨kept, stood, same⟩ | below
    · rcases first.numbered kept stood with old | below
      · exact .inl (same ▸ old)
      · exact .inr (Nat.lt_of_lt_of_le (same ▸ below) second.unused)
    · exact .inr below

/-- A change of the connection spares everybody, if it is one of those that a part can make. -/
theorem share (touches : before.connection.Touches liberty (before.HeldBeside spared) after.connection)
    (supervisor : after.supervisor = { before.supervisor with connection := after.connection })
    (agenda : after.agenda = before.agenda) (tasks : after.tasks = before.tasks)
    (runTask : after.runTask = before.runTask)
    (dispatcher : liberty.delivers = false → after.dispatcherTask = before.dispatcherTask ∧
      after.dispatcherEnded = before.dispatcherEnded) :
    Moves liberty spared before after where
  -- Everything that `Moves` asks about beside the connection is the same.
  supervisor := fun _ => supervisor
  touches := touches
  runTask := fun _ => runTask
  dispatcher := dispatcher
  running := fun _ runs => .inl (runTask ▸ runs)
  ready := fun _ _ ready => agenda ▸ ready
  later := Nat.le_of_eq (agenda ▸ rfl)
  alarm := fun _ _ _ _ due => .inl (agenda ▸ due)
  unused := Nat.le_of_eq (agenda ▸ rfl)
  lookup := fun _ _ => tasks ▸ rfl
  tasks := fun _ member => .inl (tasks ▸ member)
  numbered := fun entry member => .inl ⟨entry, tasks ▸ member, rfl⟩

/-- What neither the supervisor nor a task sees spares everybody. -/
theorem unseen (supervisor : after.supervisor = before.supervisor) (agenda : after.agenda = before.agenda)
    (tasks : after.tasks = before.tasks) (runTask : after.runTask = before.runTask)
    (dispatcher : liberty.delivers = false → after.dispatcherTask = before.dispatcherTask ∧
      after.dispatcherEnded = before.dispatcherEnded) :
    Moves liberty spared before after := by
  -- The connection is a part of the supervisor, so it is the same as well.
  have same : after.connection = before.connection := congrArg Supervisor.connection supervisor
  refine share ?_ ?_ agenda tasks runTask dispatcher
  · rw [same]
    exact .refl
  · rw [same, supervisor]
    rfl

/-- Nothing at all spares everybody. -/
theorem refl (session : Session) : Moves liberty spared session session :=
  -- Nothing has been touched, so nothing has been touched that is spared.
  unseen rfl rfl rfl rfl fun _ => ⟨rfl, rfl⟩

/-- A change of the connection alone. -/
theorem mapConnection {session : Session} {change : Connection → Connection}
    (touches : session.connection.Touches liberty (session.HeldBeside spared) (change session.connection)) :
    Moves liberty spared session (session.mapConnection change) :=
  -- The session around the connection is the same.
  share touches rfl rfl rfl rfl fun _ => ⟨rfl, rfl⟩

/-- What comes to a change of the connection alone. -/
theorem onlyConnection {connection : Connection}
    (touches : before.connection.Touches liberty (before.HeldBeside spared) connection)
    (only : after = before.mapConnection fun _ => connection) : Moves liberty spared before after := by
  -- The change is that of the connection alone.
  rw [only]
  exact mapConnection touches

/-- Time may pass, and tasks may join the line; whoever is spared does so when its deadline comes. -/
theorem clock {session : Session} {agenda : Agenda}
    (ready : ∀ task, spared task → task ∈ session.agenda.ready → task ∈ agenda.ready)
    (later : session.agenda.now ≤ agenda.now)
    (alarm : ∀ task entry, spared task → session.tasks.lookup task = some entry →
      agenda.reached entry.job.deadline? = true →
        session.agenda.reached entry.job.deadline? = true ∨ task ∈ agenda.ready)
    (unused : session.agenda.unused ≤ agenda.unused) : Moves liberty spared session { session with agenda } where
  -- Beside the agenda the session is the same, and the clock has run on.
  supervisor := fun _ => rfl
  touches := .refl
  runTask := fun _ => rfl
  dispatcher := fun _ => ⟨rfl, rfl⟩
  running := fun _ => .inl
  ready := ready
  later := later
  alarm := alarm
  unused := unused
  lookup := fun _ _ => rfl
  tasks := fun _ member => .inl member
  numbered := fun entry member => .inl ⟨entry, member, rfl⟩

/-- Tasks may join the line, and names may be used up, while the clock stands still. -/
theorem line {session : Session} {agenda : Agenda}
    (ready : ∀ task, spared task → task ∈ session.agenda.ready → task ∈ agenda.ready)
    (now : agenda.now = session.agenda.now) (unused : session.agenda.unused ≤ agenda.unused) :
    Moves liberty spared session { session with agenda } :=
  -- No deadline has come, as the clock shows what it showed.
  clock ready (Nat.le_of_eq now.symm)
    (fun _ entry _ _ due => .inl (Agenda.reached_congr now entry.job.deadline? ▸ due)) unused

/-! ### Tasks -/

variable {session : Session} {task : TaskId} {rest : List TaskId}

/-- A task that is not spared waits: those that are spared keep their places in the line. -/
theorem yield (head : session.agenda.ready = task :: rest) (other : ¬spared task) :
    Moves liberty spared session { session with agenda := session.agenda.yield } := by
  -- The head of the line that goes away is not spared.
  refine line (fun runner spare ready => ?_) rfl (Nat.le_refl _)
  rw [head] at ready
  rcases List.mem_cons.mp ready with rfl | later
  · exact absurd spare other
  · simpa [Agenda.yield, head] using later

/-- The tasks may be changed as long as the spared ones stay and the others hold what they may; only those
who count may change more of the supervisor than the connection. -/
theorem relist {supervisor : Supervisor} {tasks : List (TaskId × Task)}
    (alone : liberty.counts = false →
      supervisor = { session.supervisor with connection := supervisor.connection })
    (touches : session.connection.Touches liberty (session.HeldBeside spared) supervisor.connection)
    (lookup : ∀ runner, spared runner → tasks.lookup runner = session.tasks.lookup runner)
    (listed : ∀ entry ∈ tasks, entry ∈ session.tasks ∨
      ¬spared entry.1 ∧ entry.2.job.Within liberty.counts liberty.delivers ∧
        ∀ name ticket, entry.2.job.Holds name ticket →
          session.connection.Obtains (session.HeldBeside spared) supervisor.connection name ticket)
    (numbered : ∀ entry ∈ tasks,
      (∃ kept ∈ session.tasks, kept.1 = entry.1) ∨ entry.1 < session.agenda.unused) :
    Moves liberty spared session { session with supervisor, tasks } where
  -- Beside the supervisor and the tasks the session is the same.
  supervisor := alone
  touches := touches
  runTask := fun _ => rfl
  dispatcher := fun _ => ⟨rfl, rfl⟩
  running := fun _ => .inl
  ready := fun _ _ ready => ready
  later := Nat.le_refl _
  alarm := fun _ _ _ _ due => .inl due
  unused := Nat.le_refl _
  lookup := lookup
  tasks := listed
  numbered := numbered

/-- The tasks alone may be changed as long as the spared ones stay and the others hold what they held. -/
theorem reorder {tasks : List (TaskId × Task)}
    (lookup : ∀ runner, spared runner → tasks.lookup runner = session.tasks.lookup runner)
    (listed : ∀ entry ∈ tasks, entry ∈ session.tasks ∨
      ¬spared entry.1 ∧ entry.2.job.Within liberty.counts liberty.delivers ∧
        ∀ name ticket, entry.2.job.Holds name ticket → session.HeldBeside spared name ticket)
    (numbered : ∀ entry ∈ tasks,
      (∃ kept ∈ session.tasks, kept.1 = entry.1) ∨ entry.1 < session.agenda.unused) :
    Moves liberty spared session { session with tasks } := by
  -- The supervisor is untouched, so what a task holds is what was held.
  refine relist (fun _ => rfl) .refl lookup (fun entry member => ?_) numbered
  rcases listed entry member with stood | ⟨other, within, holds⟩
  · exact .inl stood
  · exact .inr ⟨other, within, fun name ticket has => .inl (holds name ticket has)⟩

/-- A task that is not spared goes on with another job after a step that it may take. -/
theorem proceed {supervisor : Supervisor} {job : Job} (other : ¬spared task)
    (alone : liberty.counts = false →
      supervisor = { session.supervisor with connection := supervisor.connection })
    (within : job.Within liberty.counts liberty.delivers)
    (passes :
      session.connection.Passes liberty (session.HeldBeside spared) supervisor.connection job.Holds) :
    Moves liberty spared session ({ session with supervisor }.setJob task job) := by
  -- Those that are spared are found as before, and the list has one entry that is new.
  rw [setJob_eq]
  refine relist alone passes.touches (fun runner spare => ?_) (fun entry member => ?_)
    (fun entry member => ?_)
  · have apart : runner ≠ task := by
      intro same
      subst same
      exact other spare
    exact lookup_setJob_of_ne apart { session with supervisor } job
  · rcases mem_setJob member with ⟨stays, -⟩ | ⟨kept, -, rfl⟩
    · exact .inl stays
    · exact .inr ⟨other, within, passes.obtains⟩
  · rcases mem_setJob member with ⟨stays, -⟩ | ⟨kept, found, rfl⟩
    · exact .inl ⟨entry, stays, rfl⟩
    · exact .inl ⟨(task, kept), Entries.mem_of_lookup found, rfl⟩

/-- A task that is not spared waits after a step that it may take. -/
theorem pause {supervisor : Supervisor} {job : Job} {later : List TaskId}
    (head : session.agenda.ready = task :: later) (other : ¬spared task)
    (alone : liberty.counts = false →
      supervisor = { session.supervisor with connection := supervisor.connection })
    (within : job.Within liberty.counts liberty.delivers)
    (passes :
      session.connection.Passes liberty (session.HeldBeside spared) supervisor.connection job.Holds) :
    Moves liberty spared session ({ session with supervisor }.park task job) := by
  -- The task gets its job first and leaves the line then.
  have onward : Moves liberty spared session ({ session with supervisor }.setJob task job) :=
    proceed other alone within passes
  have same : ({ session with supervisor }.setJob task job).agenda = session.agenda := by
    rw [setJob_eq]
  have yielded : Moves liberty spared ({ session with supervisor }.setJob task job) _ :=
    yield (same ▸ head) other
  rw [same] at yielded
  exact onward.trans yielded

/-- A task that is not spared changes the connection and goes on with another job. -/
theorem setJob {connection : Connection} {job : Job} (other : ¬spared task)
    (within : job.Within liberty.counts liberty.delivers)
    (passes : session.connection.Passes liberty (session.HeldBeside spared) connection job.Holds) :
    Moves liberty spared session ((session.mapConnection fun _ => connection).setJob task job) := by
  -- The connection is a part of the supervisor, and changes there.
  have onward : Moves liberty spared session
      ({ session with supervisor := { session.supervisor with connection } }.setJob task job) :=
    proceed other (fun _ => rfl) within passes
  exact onward

/-- A task that is not spared changes the connection and waits. -/
theorem park {connection : Connection} {job : Job} (head : session.agenda.ready = task :: rest)
    (other : ¬spared task) (within : job.Within liberty.counts liberty.delivers)
    (passes : session.connection.Passes liberty (session.HeldBeside spared) connection job.Holds) :
    Moves liberty spared session ((session.mapConnection fun _ => connection).park task job) := by
  -- The connection is a part of the supervisor, and changes there.
  have parked : Moves liberty spared session
      ({ session with supervisor := { session.supervisor with connection } }.park task job) :=
    pause head other (fun _ => rfl) within passes
  exact parked

/-- A task that is not spared ends. -/
theorem finish (head : session.agenda.ready = task :: rest) (other : ¬spared task) :
    Moves liberty spared session (session.finish task) := by
  -- The task is taken off the list first and leaves the line then.
  have gone : Moves liberty spared session { session with tasks := session.tasks.filter (·.1 ≠ task) } := by
    refine reorder (fun runner spare => ?_) (fun entry member => .inl (List.mem_of_mem_filter member))
      (fun entry member => .inl ⟨entry, List.mem_of_mem_filter member, rfl⟩)
    have apart : runner ≠ task := by
      intro same
      subst same
      exact other spare
    rw [Entries.lookup_filter_ne, if_neg apart]
  exact gone.trans (yield head other)

/-- A new task may begin with any job of this liberty that holds nothing. -/
theorem spawn {job : Job} (fresh : ¬spared session.agenda.unused)
    (within : job.Within liberty.counts liberty.delivers) (free : ∀ name ticket, ¬job.Holds name ticket) :
    Moves liberty spared session (session.spawn job).2 := by
  -- The name is used up before the task is listed under it.
  have named : Moves liberty spared session { session with agenda := session.agenda.spawn.2 } :=
    line (fun _ _ ready => List.mem_append_left _ ready) rfl (Nat.le_succ _)
  have listed : Moves liberty spared { session with agenda := session.agenda.spawn.2 }
      (session.spawn job).2 := by
    refine reorder (fun runner spare => ?_) (fun entry member => ?_) (fun entry member => ?_)
    · have apart : runner ≠ session.agenda.unused := by
        intro same
        subst same
        exact fresh spare
      -- The search for a spared task passes the new entry by.
      have away : ([(session.agenda.unused, { job })] : List (TaskId × Task)).lookup runner = none := by
        rw [Entries.lookup_cons_of_ne apart]
        rfl
      exact List.lookup_append.trans (by rw [away, Option.or_none])
    · rcases List.mem_append.mp member with stays | new
      · exact .inl stays
      · obtain rfl := List.mem_singleton.mp new
        exact .inr ⟨fresh, within, fun name ticket has => absurd has (free name ticket)⟩
    · rcases List.mem_append.mp member with stays | new
      · exact .inl ⟨entry, stays, rfl⟩
      · obtain rfl := List.mem_singleton.mp new
        exact .inr (Nat.lt_succ_self _)
  exact named.trans listed

/-- A task that is not spared is stopped. -/
theorem stop (other : ¬spared task)
    (withins : ∀ entry ∈ session.tasks, entry.1 = task →
      entry.2.job.Within liberty.counts liberty.delivers) :
    Moves liberty spared session (session.stop task) := by
  -- A task that is not listed is not stopped; one that is listed is marked and woken.
  unfold Session.stop
  split
  · exact refl session
  · have marked : Moves liberty spared session { session with
        tasks := Entries.adjust task (fun entry => { entry with cancelled := true }) session.tasks } := by
      refine reorder (fun runner spare => ?_) (fun entry member => ?_) (fun entry member => ?_)
      · have apart : runner ≠ task := by
          intro same
          subst same
          exact other spare
        exact Entries.lookup_adjust_of_ne apart _ session.tasks
      · rcases Entries.mem_adjust.mp member with ⟨stays, -⟩ | ⟨value, stood, rfl⟩
        · exact .inl stays
        · -- A stopped task still has its job and what it holds.
          have within := withins (task, value) stood rfl
          exact .inr ⟨other, within, fun name ticket has => ⟨(task, value), stood, other, has⟩⟩
      · rcases Entries.mem_adjust.mp member with ⟨stays, -⟩ | ⟨value, stood, rfl⟩
        · exact .inl ⟨entry, stays, rfl⟩
        · exact .inl ⟨(task, value), stood, rfl⟩
    refine marked.trans (line (fun runner spare ready => ?_) (Agenda.wake_now _ _) ?_)
    · exact Agenda.mem_wake.mpr (.inl ready)
    · exact Nat.le_of_eq (Agenda.wake_unused _ _).symm

end Moves

/-! ### Beside the run -/

/-- A wait that a task other than the supervisor's holds. -/
abbrev HeldAside (session : Session) : RegisterName → Ticket → Prop :=
  session.HeldBeside fun task => session.runTask = some task

/-- What is left as it was while the supervisor does not run: the supervisor but for the connection,
its task, the other tasks' distance from its waits, and its place in the line if it stands there. -/
abbrev Aside (clears : Bool) (before after : Session) : Prop :=
  Moves (.others clears) (fun task => before.runTask = some task) before after

/-! ### Who does what -/

/-- The supervisor's task runs the supervisor and was not stopped, no other task runs it, the registers
are in order, and nobody else holds a wait of the supervisor's. -/
structure Staffed (session : Session) : Prop where
  numbered : ∀ entry ∈ session.tasks, entry.1 < session.agenda.unused
  named : ∀ task, session.runTask = some task → task < session.agenda.unused
  others : ∀ entry ∈ session.tasks, session.runTask ≠ some entry.1 → entry.2.job.Aside
  runner : ∀ entry ∈ session.tasks, session.runTask = some entry.1 → ∃ run, entry.2 = ⟨.supervise run, false⟩
  orderly : ∀ name, (session.connection.register name).Orderly
  issued : ∀ name ticket, session.HeldAside name ticket →
    ticket < (session.connection.register name).nextTicket
  held : ∀ entry ∈ session.tasks, session.runTask = some entry.1 → ∀ name ticket,
    entry.2.job.Holds name ticket → ticket < (session.connection.register name).nextTicket
  apart : ∀ entry ∈ session.tasks, session.runTask = some entry.1 → ∀ name ticket,
    entry.2.job.Holds name ticket → ¬session.HeldAside name ticket

/-- The next task's name is not the supervisor's. -/
theorem Staffed.fresh {session : Session} (staffed : session.Staffed) :
    session.runTask ≠ some session.agenda.unused := by
  -- Names in use are smaller than the next one.
  intro runs
  exact Nat.lt_irrefl _ (staffed.named _ runs)

/-- The supervisor has no label by which it could be found. -/
theorem Staffed.unlabelled {session : Session} (staffed : session.Staffed) :
    ∀ entry ∈ session.tasks, session.runTask = some entry.1 → entry.2.job.label? = none := by
  -- The supervisor's job is a run, and runs have no label.
  intro entry member runs
  obtain ⟨run, same⟩ := staffed.runner entry member runs
  rw [same]
  rfl

/-- What goes on beside the run leaves everybody at his work. -/
theorem Staffed.aside {clears : Bool} {before after : Session} (staffed : before.Staffed)
    (aside : Aside clears before after) : after.Staffed := by
  have same := aside.runTask rfl
  -- The supervisor's task cannot be one of those that were changed.
  have stays : ∀ entry ∈ after.tasks, after.runTask = some entry.1 → entry ∈ before.tasks :=
    fun entry member runs => aside.stays member (same ▸ runs)
  -- A wait that is held aside afterwards was held aside before, or its ticket was issued since.
  have obtains : ∀ name ticket, after.HeldAside name ticket →
      before.connection.Obtains before.HeldAside after.connection name ticket := by
    intro name ticket held
    unfold HeldAside at held
    rw [same] at held
    exact aside.obtains held
  constructor
  case numbered => exact aside.below staffed.numbered
  case named =>
    intro task runs
    exact Nat.lt_of_lt_of_le (staffed.named task (same ▸ runs)) aside.unused
  -- New tasks have jobs beside the run.
  case others =>
    intro entry member other
    rcases aside.tasks entry member with stood | ⟨-, job, -⟩
    · exact staffed.others entry stood (same ▸ other)
    · exact job
  case runner =>
    intro entry member runs
    exact staffed.runner entry (stays entry member runs) (same ▸ runs)
  case orderly => exact aside.touches.orderly staffed.orderly
  -- Tickets only grow in number.
  case issued =>
    intro name ticket held
    rcases obtains name ticket held with old | ⟨-, high⟩
    · exact Nat.lt_of_lt_of_le (staffed.issued name ticket old) (aside.touches.issued name)
    · exact high
  case held =>
    intro entry member runs name ticket has
    have old := staffed.held entry (stays entry member runs) (same ▸ runs) name ticket has
    exact Nat.lt_of_lt_of_le old (aside.touches.issued name)
  case apart =>
    intro entry member runs name ticket has held
    have stood := stays entry member runs
    have runs' : before.runTask = some entry.1 := same ▸ runs
    rcases obtains name ticket held with old | ⟨low, -⟩
    · exact staffed.apart entry stood runs' name ticket has old
    · -- A ticket issued since is none that the supervisor's task held before.
      exact absurd (staffed.held entry stood runs' name ticket has) (Nat.not_lt_of_le low)

end Uplink.Session
