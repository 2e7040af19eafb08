import Uplink.Proofs.Session.Aside
import Uplink.Proofs.Supervisor.Outlook

/-! A session in which the supervisor is the only task: its turns, and how it passes its time. -/

namespace Uplink

open Flags (Condition Register Ticket Timeout Wait)

/-- A moment of a session in which the supervisor is the only task. -/
structure Scene where
  now : Nat
  /-- The task stands in line. -/
  awake : Bool
  place : Supervisor.Place
  outlook : Outlook
  cloud : Simulated.Cloud
  modem : Simulated.Modem

namespace Session

variable {session : Session} {task : TaskId} {scene : Scene} {request : Request} {now : Nat}
  {place place' : Supervisor.Place} {outlook outlook' : Outlook} {cloud : Simulated.Cloud} {modem : Simulated.Modem}

/-- The session is in this scene: the task runs the supervisor, there is no other, and nobody else is in line. -/
structure Plays (session : Session) (task : TaskId) (scene : Scene) : Prop where
  alone : ∃ cycle, session.tasks = [(task, ⟨.supervise ⟨cycle, scene.place⟩, false⟩)]
  runTask : session.runTask = some task
  ready : session.agenda.ready = if scene.awake then [task] else []
  now : session.agenda.now = scene.now
  outlook : session.supervisor.outlook = scene.outlook
  cloud : session.cloud = scene.cloud
  modem : session.modem = scene.modem

/-- The only task has another job, and nothing else changes. -/
theorem setJob_alone {job : Job} (alone : session.tasks = [(task, ⟨job, false⟩)]) (next : Job) :
    session.setJob task next = { session with tasks := [(task, ⟨next, false⟩)] } := by
  -- Whether the task goes behind the others or keeps its place makes no difference.
  unfold setJob
  simp [alone]

/-- Where the only task goes on, nothing else but the supervisor changes. -/
theorem carryOn_next_alone {job : Job} (alone : session.tasks = [(task, ⟨job, false⟩)]) (onward : Supervisor.Run)
    (supervisor : Supervisor) : session.carryOn task (.next onward, supervisor) =
      { session with supervisor, tasks := [(task, ⟨.supervise onward, false⟩)] } := by
  -- The task is given its job after the supervisor has changed, and it is still the only one.
  have alone : ({ session with supervisor } : Session).tasks = [(task, ⟨job, false⟩)] := alone
  exact setJob_alone alone (.supervise onward)

/-- Where the only task waits, it leaves the line. -/
theorem carryOn_parked_alone {job : Job} (alone : session.tasks = [(task, ⟨job, false⟩)]) (onward : Supervisor.Run)
    (supervisor : Supervisor) : session.carryOn task (.parked onward, supervisor) =
      { session with
        agenda := session.agenda.yield, supervisor, tasks := [(task, ⟨.supervise onward, false⟩)] } := by
  -- The task is given its job after the supervisor has changed, and it is still the only one.
  have alone : ({ session with supervisor } : Session).tasks = [(task, ⟨job, false⟩)] := alone
  show { ({ session with supervisor } : Session).setJob task (.supervise onward) with
    agenda := session.agenda.yield } = _
  rw [setJob_alone alone (.supervise onward)]

/-- Where nobody is left to be woken, the line stays as it is. -/
theorem plays_flush {agenda : Agenda} {supervisor : Supervisor} {run : Supervisor.Run} (here : run.place = scene.place)
    (runTask : session.runTask = some task) (ready : agenda.ready = if scene.awake then [task] else [])
    (now : agenda.now = scene.now) (seen : supervisor.outlook = scene.outlook)
    (nobody : scene.outlook.woken = []) (cloud : session.cloud = scene.cloud) (modem : session.modem = scene.modem) :
    (({ session with agenda, supervisor, tasks := [(task, ⟨.supervise run, false⟩)] } : Session).within
      []).flush.Plays task scene := by
  -- The scene calls for nobody, so flushing moves nobody.
  have none : supervisor.connection.woken = [] := (congrArg Outlook.woken seen).trans nobody
  refine ⟨⟨run.cycle, by rw [← here]; rfl⟩, runTask, ?_, (Agenda.wakeAll_now _ _).trans now, ?_, cloud, modem⟩
  · show (agenda.wakeAll supervisor.connection.woken).ready = _
    rw [none]
    exact ready
  · -- What is seen has nobody to wake already.
    show ({ supervisor.outlook with woken := [] } : Outlook) = scene.outlook
    rw [seen, ← nobody]

/-- In a scene with the task in line it takes a turn. -/
theorem Plays.turned (plays : session.Plays task scene) (awake : scene.awake = true) :
    ∃ run : Supervisor.Run, run.place = scene.place ∧
      session.turn? = some (((session.within run.spans).turnOfRun task run).within []).flush ∧
      session.tasks = [(task, ⟨.supervise run, false⟩)] ∧ session.agenda.ready = [task] := by
  obtain ⟨cycle, alone⟩ := plays.alone
  -- It is alone in line and alone in the list, so the turn is its own.
  have ready : session.agenda.ready = [task] := by simpa [awake] using plays.ready
  refine ⟨⟨cycle, scene.place⟩, rfl, ?_, alone, ready⟩
  simp only [turn?, ready, alone, List.lookup_cons_self]
  rfl

/-- What can come of a turn of the supervisor where it does not wait for a reply: it goes on to where its step leads,
or leaves the line. -/
theorem Plays.steps (plays : session.Plays task ⟨now, true, place, outlook, cloud, modem⟩)
    (quiet : ∀ request, place ≠ .calling request) :
    ∃ (supervisor : Supervisor) (agenda : Agenda) (run : Supervisor.Run), supervisor.outlook = outlook ∧
      agenda.now = now ∧ run.place = place ∧
      (∀ place' outlook', Supervisor.Goes (supervisor.step agenda task run) place' outlook' → outlook'.woken = [] →
        ∃ after, session.turn? = some after ∧ after.Plays task ⟨now, true, place', outlook', cloud, modem⟩) ∧
      (supervisor.step agenda task run = (.parked run, supervisor) → outlook.woken = [] →
        ∃ after, session.turn? = some after ∧ after.Plays task ⟨now, false, place, outlook, cloud, modem⟩) := by
  obtain ⟨run, here, turned, alone, ready⟩ := plays.turned rfl
  let opened := session.within run.spans
  have alone' : opened.tasks = [(task, ⟨.supervise run, false⟩)] := alone
  have own : opened.turnOfRun task run =
      opened.carryOn task (opened.supervisor.step session.agenda task run) := by
    unfold turnOfRun
    split
    · rename_i request calls
      exact absurd (here.symm.trans calls) (quiet request)
    · rfl
  have seen : opened.supervisor.outlook = outlook := plays.outlook
  rw [own] at turned
  refine ⟨opened.supervisor, session.agenda, run, seen, plays.now, here, fun place' outlook' goes nobody => ?_,
    fun parks nobody => ?_⟩
  · -- The step leads on, and the task stays in line.
    rcases stepped : opened.supervisor.step session.agenda task run with ⟨progress, supervisor⟩
    rw [stepped] at goes turned
    obtain ⟨onward, rfl, rfl, looks⟩ := goes
    rw [carryOn_next_alone alone'] at turned
    exact ⟨_, turned, plays_flush rfl plays.runTask ready plays.now looks nobody plays.cloud plays.modem⟩
  · -- The step parks, and the task leaves the line, in which nobody else stands.
    rw [parks, carryOn_parked_alone alone'] at turned
    have line : opened.agenda.yield.ready = [] := congrArg List.tail ready
    exact ⟨_, turned, plays_flush here plays.runTask line plays.now seen nobody plays.cloud plays.modem⟩

/-- What comes of a turn of the supervisor with the reply to what it has asked for: it goes on to where that leads. -/
theorem Plays.resumes (plays : session.Plays task ⟨now, true, .calling request, outlook, cloud, modem⟩) :
    ∃ (opened : Session) (run : Supervisor.Run), opened.supervisor.outlook = outlook ∧
      opened.agenda.now = now ∧ opened.cloud = cloud ∧ opened.modem = modem ∧
      ∀ reply replied place' outlook', opened.reply request = (reply, replied) → replied.tasks = opened.tasks →
        replied.agenda = opened.agenda → replied.runTask = opened.runTask →
        Supervisor.Goes (replied.supervisor.resume replied.agenda task run request reply) place' outlook' →
        outlook'.woken = [] → ∃ after, session.turn? = some after ∧
          after.Plays task ⟨now, true, place', outlook', replied.cloud, replied.modem⟩ := by
  obtain ⟨run, calls, turned, alone, ready⟩ := plays.turned rfl
  let opened := session.within run.spans
  refine ⟨opened, run, plays.outlook, plays.now, plays.cloud, plays.modem, ?_⟩
  intro reply replied place' outlook' answers tasks agenda runTask goes nobody
  have alone' : replied.tasks = [(task, ⟨.supervise run, false⟩)] := tasks.trans alone
  -- The answer leaves the line and the list as they are, so the run goes on in the same turn.
  have own : opened.turnOfRun task run =
      replied.carryOn task (replied.supervisor.resume replied.agenda task run request reply) := by
    simp only [turnOfRun, calls, answers]
  rw [own] at turned
  rcases stepped : replied.supervisor.resume replied.agenda task run request reply with ⟨progress, supervisor⟩
  rw [stepped] at goes turned
  obtain ⟨onward, rfl, rfl, looks⟩ := goes
  rw [carryOn_next_alone alone'] at turned
  have line : replied.agenda.ready = [task] := agenda ▸ ready
  have clock : replied.agenda.now = now := agenda ▸ plays.now
  exact ⟨_, turned, plays_flush rfl (runTask.trans plays.runTask) line clock looks nobody rfl rfl⟩

/-- What comes of a turn of the supervisor with a reply that changes nothing else but the cloud and the modem. -/
theorem Plays.answers (plays : session.Plays task ⟨now, true, .calling request, outlook, cloud, modem⟩)
    (reply : request.Reply) (cloud' : Simulated.Cloud) (modem' : Simulated.Modem)
    (replies : ∀ opened : Session, opened.cloud = cloud → opened.modem = modem →
      opened.reply request = (reply, { opened with cloud := cloud', modem := modem' }))
    (goes : ∀ (supervisor : Supervisor) (agenda : Agenda) (run : Supervisor.Run), supervisor.outlook = outlook →
      agenda.now = now → Supervisor.Goes (supervisor.resume agenda task run request reply) place' outlook')
    (nobody : outlook'.woken = []) :
    ∃ after, session.turn? = some after ∧ after.Plays task ⟨now, true, place', outlook', cloud', modem'⟩ := by
  -- The reply is given beside the supervisor, who then takes the step that was assumed.
  obtain ⟨opened, run, seen, clock, sameCloud, sameModem, leads⟩ := plays.resumes
  exact leads reply _ place' outlook' (replies opened sameCloud sameModem) rfl rfl rfl
    (goes opened.supervisor opened.agenda run seen clock) nobody

/-- Where the task is not in line no task can run, and the next deadline is that of the supervisor, if it has one. -/
theorem Plays.asleep (plays : session.Plays task scene) (asleep : scene.awake = false) :
    session.turn? = none ∧
      (∀ due, scene.place.deadline? = some due → scene.now < due → Timed.nextDue? session = some due) ∧
      (scene.place.deadline? = none → Timed.nextDue? session = none) := by
  have ready : session.agenda.ready = [] := by simpa [asleep] using plays.ready
  obtain ⟨cycle, alone⟩ := plays.alone
  -- There is one task, so the next deadline is its own.
  have next : Timed.nextDue? session = session.agenda.nextOf [scene.place.deadline?] := by
    show session.agenda.nextOf (session.tasks.map fun entry => entry.2.job.deadline?) = _
    rw [alone]
    rfl
  refine ⟨by simp [turn?, ready], fun due place ahead => ?_, fun place => ?_⟩
  · rw [next, place]
    simp [Agenda.nextOf, plays.now, ahead]
  · rw [next, place]
    rfl

/-- As the clock moves on, the task stands in line once its deadline has come. -/
theorem Plays.strike (plays : session.Plays task scene) (asleep : scene.awake = false) (instant : Nat) {come : Bool}
    (reached : ({ now := instant } : Agenda).reached scene.place.deadline? = come) :
    (session.strike instant).Plays task { scene with now := instant, awake := come } := by
  have ready : session.agenda.ready = [] := by simpa [asleep] using plays.ready
  obtain ⟨cycle, alone⟩ := plays.alone
  let agenda : Agenda := { session.agenda with now := instant }
  -- There is one task to be woken, and it is if its deadline has come.
  have due : (session.tasks.filter fun entry => agenda.reached entry.2.job.deadline?).map (·.1) =
      if come then [task] else [] := by
    have same : agenda.reached (Job.supervise ⟨cycle, scene.place⟩).deadline? = come :=
      (Agenda.reached_congr rfl _).trans reached
    rw [alone]
    cases come <;> simp [same]
  refine ⟨⟨cycle, alone⟩, plays.runTask, ?_, Agenda.wakeAll_now _ _, plays.outlook, plays.cloud, plays.modem⟩
  show (agenda.wakeAll ((session.tasks.filter fun entry => agenda.reached entry.2.job.deadline?).map (·.1))).ready = _
  rw [due]
  cases come <;> simp [Agenda.wakeAll, Agenda.wake, agenda, ready]

end Session

end Uplink
