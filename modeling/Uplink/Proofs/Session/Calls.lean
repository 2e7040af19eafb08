import Uplink.Proofs.Session.Program
import Uplink.Proofs.Supervisor.Setup

/-!
The calls of the transport, as the supervisor has made them and as the simulated cloud has recorded them.

Whatever the replies are, what was asked for is what was answered, and on top of that the one request that waits
for its reply. Where the simulated cloud answers, and nobody else calls the transport, every answer is an entry
of its record or a fault that was planned for it.
-/

namespace Uplink

/-! ### What is asked for and not answered -/

namespace Supervisor

variable {config : Config} {cloud : Flags.Register} {agenda : Agenda} {request : Request} {reply : request.Reply}
  {deeds : List Deed} {place next : Place}

/-- What a step asks for is what the next place waits for the reply to. -/
theorem Steps.asks (steps : Steps config cloud agenda place deeds next) :
    deeds.filterMap Deed.request? = next.request?.toList := by
  -- A step makes one request at most, as the latest of its deeds.
  cases steps <;> rfl

/-- No step leads away from a place that waits for a reply. -/
theorem Steps.waitless (steps : Steps config cloud agenda place deeds next) : place.request? = none := by
  -- One case for each step, none of which begins at a call.
  cases steps <;> rfl

/-- What is asked for with a reply is what the next place waits for the reply to. -/
theorem Resumes.asks (resumes : Resumes config agenda request reply deeds next) :
    deeds.filterMap Deed.request? = next.request?.toList := by
  -- So it is for the requests of the setup, which follow one upon the other.
  cases resumes <;> rfl

end Supervisor

namespace Simulated.Record

variable (record : Record) (requests : List Request)

/-- The record after requests, of which the first in the list is the latest. -/
def afterAll : Record :=
  requests.foldr (fun request earlier => earlier.after request) record

/-- How many faults are planned still. -/
def planned : Nat :=
  record.faults.countP Option.isSome

/-- Every connect request is entered. -/
theorem connects_afterAll :
    (record.afterAll requests).connects = record.connects + requests.count .connectCloud := by
  -- Induction on the requests, the latest of which comes last; a disconnect is no entry of this kind.
  induction requests with
  | nil => rfl
  | cons request earlier ih =>
    have latest : (record.afterAll (request :: earlier)).connects =
        ((record.afterAll earlier).after request).connects := rfl
    rw [latest, List.count_cons]
    cases request with
    | connectCloud => simp only [after, ih]; rfl
    | disconnectCloud =>
      simp only [after]
      split <;> exact ih
    | modemInit | registerClock | transportInit | requestPsm | enableEvents | connectNetwork | publishShadow =>
      exact ih

/-- Every disconnect request is entered, or uses up a fault that was planned. -/
theorem disconnects_afterAll :
    (record.afterAll requests).disconnects + record.planned =
      record.disconnects + (record.afterAll requests).planned + requests.count .disconnectCloud := by
  -- Induction on the requests; a request takes a fault from the plan or adds an entry.
  induction requests with
  | nil => simp [afterAll]
  | cons request earlier ih =>
    have latest : record.afterAll (request :: earlier) = (record.afterAll earlier).after request := rfl
    rw [latest, List.count_cons]
    generalize record.afterAll earlier = middle at ih
    cases request with
    | disconnectCloud =>
      -- No fault is planned any more, the plan is to answer this time, or a fault comes first.
      obtain ⟨connects, disconnects, faults⟩ := middle
      rcases faults with - | ⟨- | fault, later⟩ <;> simp [after, planned] at ih ⊢ <;> omega
    | modemInit | registerClock | transportInit | requestPsm | enableEvents | connectNetwork | connectCloud
    | publishShadow => exact ih

end Simulated.Record

namespace Session

variable {setting : Setting} {clears : Bool} {first before after last : Session} {heard : Option Heard}
  {task : TaskId} {rest : List TaskId}

/-- The requests that are answered, the latest first, are those that were made, but for the one that is not. -/
def Answered (session : Session) (answered : List Request) : Prop :=
  session.supervisor.requests = session.standing.request?.toList ++ answered

/-- Whatever happens next, the answered requests are those from before and the one whose reply is heard. -/
theorem Proceeds.answered {answered : List Request} (proceeds : Proceeds setting before heard after)
    (staffed : before.Staffed) (earlier : before.Answered answered) :
    after.Answered ((heard.map (·.request)).toList ++ answered) := by
  unfold Answered at earlier ⊢
  -- Where the run comes to is what it waits for, and that is what it has asked for on the way.
  cases proceeds with
  | @beside middle aside quiet pending =>
    have history : middle.flush.supervisor.history = before.supervisor.history := aside.history
    have standing : middle.flush.standing = before.standing := aside.standing
    simp only [Supervisor.requests, history, standing]
    exact earlier
  | starts idle =>
    have stands : before.standing = .idle := by simp [standing, idle]
    have begun : before.start.flush.standing = .running {} := staffed.start_runs.standing
    rw [stands] at earlier
    rw [begun]
    exact earlier
  -- A step that waits asks for nothing.
  | waits head runs steps early runs' now did pending =>
    rw [runs'.standing, did.requests, ← runs.standing]
    exact earlier
  | steps head runs steps runs' awake now did pending =>
    rw [runs.standing, Standing.request?, steps.waitless] at earlier
    rw [runs'.standing, did.requests, steps.asks, earlier]
    rfl
  -- With its reply the request is answered, and another may be asked for.
  | resumes head runs calls aside sound resumes runs' awake now did pending =>
    rw [runs.standing, Standing.request?, calls] at earlier
    rw [runs'.standing, did.requests, resumes.asks, earlier]
    rfl
  | fails head runs calls fault ended outcome did =>
    rw [runs.standing, Standing.request?, calls] at earlier
    rw [ended, did.requests, earlier]
    rfl
  | suspends head runs held => exact earlier
  | gone head absent => exact earlier

/-! ### What the simulated cloud answers -/

/-- A step of a run leaves the record of the cloud, wherever it leads. -/
theorem record_carryOn (session : Session) (task : TaskId) (stepped : Supervisor.Stepped) :
    (session.carryOn task stepped).cloud.record = session.cloud.record := by
  -- The run goes on, waits or ends, and none of this is a call of the transport.
  obtain ⟨progress, supervisor⟩ := stepped
  cases progress with
  | next onward => exact congrArg Mark.record (mark_setJob { session with supervisor } task (.supervise onward))
  | parked waiting => exact congrArg Mark.record (mark_park { session with supervisor } task (.supervise waiting))
  | done error =>
    simp only [carryOn]
    split <;> rfl

/-- A turn of a run leaves the record of the cloud, but for an entry of the request whose reply it waits for. -/
theorem record_turnOfRun (session : Session) (task : TaskId) (run : Supervisor.Run) :
    (session.turnOfRun task run).cloud.record =
      run.place.request?.elim session.cloud.record session.cloud.record.after := by
  -- The reply comes before the step that goes on with it.
  cases calls : run.place with
  | calling request =>
    simp only [turnOfRun, calls, record_carryOn]
    exact congrArg Mark.record (mark_reply session request)
  | starting | cycleStart | awaitingNetwork _ | awaitingCloud _ | awaitingReady _ | awaitingDrop _ | settling _
  | backingOff _ =>
    simp only [turnOfRun, calls, record_carryOn]
    rfl

/-- In its turn a run hears the reply to the request that it waits for. -/
theorem heard?_of_supervise {run : Supervisor.Run} (head : before.agenda.ready = task :: rest)
    (found : before.tasks.lookup task = some ⟨.supervise run, false⟩) :
    before.heard?.map (·.request) = run.place.request? := by
  -- Only the head of the line is looked at, and it waits for a reply at one kind of place.
  simp only [heard?, head, found]
  cases run.place <;> rfl

/-- In the turn of anybody else no reply is heard. -/
theorem heard?_of_other (head : before.agenda.ready = task :: rest)
    (other : ∀ run, before.tasks.lookup task ≠ some ⟨.supervise run, false⟩) : before.heard? = none := by
  -- Only the head of the line is looked at, and it runs no supervisor.
  simp only [heard?, head]

/-- A turn leaves the record of the cloud, but for an entry of the request that is answered in it. -/
theorem record_turn (turned : before.turn? = some after) :
    after.cloud.record = (before.heard?.map (·.request)).elim before.cloud.record before.cloud.record.after := by
  obtain ⟨task, rest, head, turn⟩ := turn_of_turned turned
  cases turn with
  -- A task that is not there does nothing.
  | gone absent =>
    rw [heard?_of_other head fun run found => by simp [absent] at found]
    rfl
  | @last entry found stopped =>
    rw [heard?_of_other head fun run same => by simp [Option.some.inj (found.symm.trans same)] at stopped]
    -- A run that was stopped makes no call any more.
    by_cases supervises : ∃ run, entry.job = .supervise run
    · obtain ⟨run, job⟩ := supervises
      rw [job]
      simp only [lastTurnOf]
      split <;> rfl
    · exact congrArg Mark.record (mark_lastTurnOf before task fun run same => supervises ⟨run, same⟩)
  -- Only a turn of a run makes a call.
  | @next entry found onward =>
    let opened := before.within entry.job.spans
    have turns : (((opened.turnOf task entry.job).within []).flush).cloud.record =
        (opened.turnOf task entry.job).cloud.record := rfl
    rw [turns]
    obtain ⟨job, cancelled⟩ := entry
    obtain rfl : cancelled = false := onward
    by_cases supervises : ∃ run, job = .supervise run
    · obtain ⟨run, rfl⟩ := supervises
      rw [heard?_of_supervise head found]
      exact record_turnOfRun opened task run
    · rw [heard?_of_other head fun run same => supervises ⟨run, by simp_all⟩]
      exact congrArg Mark.record (mark_turnOf opened task fun run same => supervises ⟨run, same⟩)

/-- One thing that can happen while the simulated cloud answers every call of the supervisor, and nobody else calls
the transport. -/
inductive Simulates (clears : Bool) (session : Session) : Session → Prop where
  | start (idle : session.runTask = none) : Simulates clears session (session.act .start).2
  | act {action : Action} (aside : action.Aside clears) (silent : action.transportCall? = none) :
      Simulates clears session (session.act action).2
  | turn {next : Session} (turned : session.turn? = some next) : Simulates clears session next
  | strike (instant : Nat) (later : session.agenda.now ≤ instant) :
      Simulates clears session (session.strike instant)

/-- Where the simulated cloud answers, its record has an entry of what is heard, and of nothing else. -/
theorem Simulates.hears (simulates : Simulates clears before after) :
    ∃ heard, Hears ⟨false, clears⟩ before heard after ∧
      after.cloud.record = (heard.map (·.request)).elim before.cloud.record before.cloud.record.after := by
  -- Replies are heard in turns; whatever else is done makes no call.
  cases simulates with
  | start idle => exact ⟨none, .start idle, rfl⟩
  | @act action aside silent =>
    have kept : (before.act action).2.cloud.record = _ := congrArg Mark.record (mark_perform before aside)
    rw [silent] at kept
    exact ⟨none, .act aside, kept⟩
  | turn turned => exact ⟨before.heard?, .turn turned, record_turn turned⟩
  | strike instant later => exact ⟨none, .strike instant later, rfl⟩

/-- On every run from a fresh session the record of the cloud is what the requests that were answered add to it, in
their order. -/
theorem Fresh.recorded (fresh : first.Fresh) (course : Relation.ReflTransGen (Simulates clears) first last) :
    Reached ⟨false, clears⟩ last ∧
      ∃ answered, last.Answered answered ∧ last.cloud.record = first.cloud.record.afterAll answered := by
  -- Induction on the run: what is heard next is the latest of what was answered.
  induction course with
  | refl =>
    have idle : first.standing = .idle := by simp [standing, fresh.runTask]
    have nothing : first.supervisor.requests = [] := by simp [Supervisor.requests, fresh.history]
    refine ⟨.fresh fresh, [], ?_, rfl⟩
    rw [Answered, nothing, idle]
    rfl
  | tail _ simulates ih =>
    obtain ⟨reached, answered, earlier, recorded⟩ := ih
    obtain ⟨heard, hears, entered⟩ := simulates.hears
    refine ⟨reached.next hears.next, _, (reached.proceeds hears).answered reached.staffed earlier, ?_⟩
    rw [entered, recorded]
    cases heard <;> rfl

/-- Where the simulated cloud answers every call, its record agrees with the requests of the supervisor, but for the
one that is not answered yet and for faults that were planned. Once nobody can run any more, the counters of the
attempts and the resets give the calls of the transport. -/
theorem Fresh.calls_are_recorded (fresh : first.Fresh)
    (course : Relation.ReflTransGen (Simulates clears) first last) :
    let waits (request : Request) := last.standing.request?.toList.count request
    let metrics := last.connection.telemetry.metrics
    let planned (session : Session) := session.cloud.record.planned
    last.cloud.connects + waits .connectCloud =
      first.cloud.connects + last.supervisor.requests.count .connectCloud ∧
    last.cloud.disconnects + planned first + waits .disconnectCloud =
      first.cloud.disconnects + planned last + last.supervisor.requests.count .disconnectCloud ∧
    (last.turn? = none →
      .ofNat last.cloud.connects = .ofNat first.cloud.connects + metrics.connectAttempts ∧
      .ofNat (last.cloud.disconnects + planned first) =
        .ofNat (first.cloud.disconnects + planned last) + metrics.resets) := by
  intro waits metrics planned
  obtain ⟨reached, answered, asked, recorded⟩ := fresh.recorded course
  -- The requests are counted in two parts, and the record has the entries of one of them.
  have made (request : Request) :
      last.supervisor.requests.count request = waits request + answered.count request := by
    rw [asked, List.count_append]
  have connects : last.cloud.connects = first.cloud.connects + answered.count .connectCloud :=
    (congrArg Simulated.Record.connects recorded).trans (Simulated.Record.connects_afterAll _ _)
  have disconnects : last.cloud.disconnects + planned first =
      first.cloud.disconnects + planned last + answered.count .disconnectCloud := by
    have total := first.cloud.record.disconnects_afterAll answered
    rw [← recorded] at total
    exact total
  refine ⟨?_, ?_, fun quiet => ?_⟩
  · rw [made, connects]
    omega
  · rw [made, disconnects]
    omega
  · -- Whoever waits for a reply could run, so every request is answered.
    obtain ⟨-, attends⟩ := reached.keeps (fun _ fresh => fresh.attends ⟨false, clears⟩)
      fun _ _ _ attends stride => attends.stride stride
    have settled : last.standing.request? = none := attends.answered reached.staffed rfl quiet
    have all (request : Request) : last.supervisor.requests.count request = answered.count request := by
      rw [made, show waits request = 0 by simp [waits, settled], Nat.zero_add]
    have attempts : metrics.connectAttempts = .ofNat (answered.count .connectCloud) :=
      all .connectCloud ▸ reached.balances.attempts
    have resets := reached.balances.resets
    rw [Standing.pending_of_answered settled, all] at resets
    have resets' : metrics.resets = .ofNat (answered.count .disconnectCloud) := by simpa using resets
    rw [attempts, resets', connects, disconnects, UInt64.ofNat_add, UInt64.ofNat_add]
    exact ⟨rfl, rfl⟩

end Session

end Uplink
