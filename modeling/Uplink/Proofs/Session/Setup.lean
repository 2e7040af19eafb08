import Uplink.Proofs.Session.Program
import Uplink.Proofs.Supervisor.Setup

/-! The setup of a session: how far it has come, and that the first failure ends the run of the supervisor. -/

namespace Uplink

open Supervisor

/-! ### How far the setup has come -/

/-- How far a run has come with the setup: what it was asked for and which replies were heard, the latest
first, and what the run has come to. -/
inductive Setup (saving : Bool) : Standing → Option RunOutcome → List Request → List Heard → Prop where
  | idle : Setup saving .idle none [] []
  | starting {run : Supervisor.Run} (start : run.place = .starting) : Setup saving (.running run) none [] []
  | calling {run : Supervisor.Run} {request : Request} (heard : List Heard) (calls : run.place = .calling request)
      (planned : request ∈ setupPlan saving)
      (asked : (request :: heard.map (·.request)).reverse = setupBefore saving request ++ [request])
      (sound : ∀ reply ∈ heard, reply.failure? = none) :
      Setup saving (.running run) none (request :: heard.map (·.request)) heard
  | done {run : Supervisor.Run} {requests : List Request} {heard : List Heard}
      (cycling : run.place.phase ∈ Phase.cycle)
      (asked : (requests.filter Request.isSetup).reverse = setupPlan saving)
      (sound : ∀ reply ∈ heard, reply.failure? = none) : Setup saving (.running run) none requests heard
  | failed {request : Request} {reply : request.Reply} {error : SetupError} {heard : List Heard}
      (planned : request ∈ setupPlan saving)
      (asked : (request :: heard.map (·.request)).reverse = setupBefore saving request ++ [request])
      (sound : ∀ reply ∈ heard, reply.failure? = none) (fault : request.failure? reply = some error) :
      Setup saving .ended (some (.failed error)) (request :: heard.map (·.request)) (⟨request, reply⟩ :: heard)

namespace Setup

variable {saving : Bool} {run onward : Supervisor.Run} {outcome : Option RunOutcome} {requests : List Request}
  {heard : List Heard} {config : Config} {agenda : Agenda} {deeds : List Deed}

/-- After the setup only requests of the cycles are made. -/
theorem go_on (after : onward.place.phase ∈ Phase.cycle ∧
      ∀ request ∈ deeds.filterMap Deed.request?, request.isSetup = false)
    (asked : (requests.filter Request.isSetup).reverse = setupPlan saving)
    (sound : ∀ reply ∈ heard, reply.failure? = none) :
    Setup saving (.running onward) none (deeds.filterMap Deed.request? ++ requests) heard := by
  -- Nothing that is asked for from here on belongs to the setup.
  have nothing : (deeds.filterMap Deed.request?).filter Request.isSetup = [] :=
    List.filter_eq_nil_iff.mpr fun request member set => by simp [after.2 request member] at set
  refine .done after.1 ?_ sound
  rw [List.filter_append, nothing]
  exact asked

/-- A step of the run starts the setup, or comes after it. -/
theorem steps {cloud : Flags.Register} (setup : Setup saving (.running run) outcome requests heard)
    (steps : Steps config cloud agenda run.place deeds onward.place) :
    Setup saving (.running onward) outcome (deeds.filterMap Deed.request? ++ requests) heard := by
  cases setup with
  | starting start =>
    rw [start] at steps
    generalize calls : onward.place = place at steps
    cases steps
    exact calling [] calls (by cases saving <;> decide) (by cases saving <;> decide) (List.forall_mem_nil _)
  | calling _ calls planned asked sound =>
    -- Who waits for a reply makes no step.
    rw [calls] at steps
    nomatch steps
  | done cycling asked sound => exact go_on (steps.cyclic cycling) asked sound

/-- A good reply leads to the next request of the plan, or from the last one out of the setup. -/
theorem resumes {request : Request} {reply : request.Reply}
    (setup : Setup saving (.running run) outcome requests heard)
    (wanted : config.features.powerSavingMode = saving) (calls : run.place = .calling request)
    (good : request.failure? reply = none) (resumes : Resumes config agenda request reply deeds onward.place) :
    Setup saving (.running onward) outcome (deeds.filterMap Deed.request? ++ requests)
      (⟨request, reply⟩ :: heard) := by
  have sounds (sound : ∀ earlier ∈ heard, earlier.failure? = none) :
      ∀ earlier ∈ (⟨request, reply⟩ : Heard) :: heard, earlier.failure? = none :=
    List.forall_mem_cons.mpr ⟨good, sound⟩
  cases setup with
  | starting start => cases start.symm.trans calls
  | @calling _ request' heard calls' planned asked sound =>
    obtain rfl : request' = request := Place.calling.inj (calls'.symm.trans calls)
    rcases resumes.planned wanted planned with
      ⟨following, next, asks, planned', before⟩ | ⟨next, asks, whole⟩
    · -- What was asked for so far is what comes before the next request.
      rw [asks]
      refine calling (⟨request', reply⟩ :: heard) next planned' ?_ (sounds sound)
      rw [before, ← asked, List.map_cons, List.reverse_cons]
    · rw [asks]
      refine done (next ▸ by decide) ?_ (sounds sound)
      -- The plan is complete, and all of it is setup.
      have inside : ∀ one ∈ request' :: heard.map (·.request), one.isSetup = true := by
        intro one member
        have listed : one ∈ setupPlan saving := by
          rw [whole, ← asked]
          exact List.mem_reverse.mpr member
        exact isSetup_of_mem listed
      rw [List.nil_append, List.filter_eq_self.mpr inside, asked, whole]
  -- After the setup no request is one of its own.
  | done cycling asked sound =>
    rw [calls] at cycling
    exact go_on (resumes.cyclic cycling) asked (sounds sound)

/-- The first failure ends the run with its error. -/
theorem fails {request : Request} {reply : request.Reply} {error : SetupError}
    (setup : Setup saving (.running run) outcome requests heard) (calls : run.place = .calling request)
    (fault : request.failure? reply = some error) :
    Setup saving .ended (some (.failed error)) requests (⟨request, reply⟩ :: heard) := by
  cases setup with
  | starting start => cases start.symm.trans calls
  | @calling _ request' heard calls' planned asked sound =>
    obtain rfl : request' = request := Place.calling.inj (calls'.symm.trans calls)
    exact .failed planned asked sound fault
  | done cycling asked sound =>
    -- After the setup there is nothing left that could fail it.
    rw [calls] at cycling
    have cyclic : request.isSetup = false := by
      revert cycling
      cases request <;> decide
    rw [Request.failure?_of_cycle cyclic] at fault
    cases fault

/-- What belongs to the setup was asked for in the order of the plan, from its beginning. -/
theorem asked_in_order {standing : Standing} (setup : Setup saving standing outcome requests heard) :
    (requests.filter Request.isSetup).reverse <+: setupPlan saving := by
  -- Up to one of its requests the plan was followed, and it holds nothing that the filter passes over.
  have upTo {request : Request} {heard : List Heard} (planned : request ∈ setupPlan saving)
      (asked : (request :: heard.map (·.request)).reverse = setupBefore saving request ++ [request]) :
      ((request :: heard.map (·.request)).filter Request.isSetup).reverse <+: setupPlan saving := by
    have follows := setupPlan_begins planned
    rw [← asked] at follows
    rw [List.filter_eq_self.mpr fun one member => isSetup_of_mem (follows.subset (List.mem_reverse.mpr member))]
    exact follows
  cases setup with
  | idle | starting _ => exact List.nil_prefix
  | calling _ _ planned asked _ => exact upTo planned asked
  | done _ asked _ => exact asked ▸ List.prefix_rfl
  | failed planned asked _ _ => exact upTo planned asked

/-- The run has come to a failure exactly if that failure was heard. -/
theorem outcome_iff {standing : Standing} (setup : Setup saving standing outcome requests heard)
    (error : SetupError) : outcome = some (.failed error) ↔ ∃ reply ∈ heard, reply.failure? = some error := by
  -- Every reply but the last one of a run that has ended is a good one.
  have never {heard : List Heard} (sound : ∀ reply ∈ heard, reply.failure? = none) :
      ¬∃ reply ∈ heard, reply.failure? = some error := by
    rintro ⟨reply, member, fault⟩
    cases (sound reply member).symm.trans fault
  cases setup with
  | idle | starting _ => simp
  | calling _ _ _ _ sound | done _ _ sound => simpa using never sound
  | @failed request reply found heard planned asked sound fault =>
    have head : Heard.failure? ⟨request, reply⟩ = some found := fault
    rw [List.exists_mem_cons_iff, head, or_iff_left (never sound)]
    simp

/-- The run has ended exactly if it has come to a failure. -/
theorem ended_iff {standing : Standing} (setup : Setup saving standing outcome requests heard) :
    standing = .ended ↔ ∃ error, outcome = some (.failed error) := by
  -- One case for each point that the setup can have come to.
  cases setup <;> simp

/-- At the end of a run the last request has failed, and every request before it was done. -/
theorem last_failed (setup : Setup saving .ended outcome requests heard) :
    requests = heard.map (·.request) ∧ (∀ request ∈ requests, request.isSetup = true) ∧
      ∃ last earlier, heard = last :: earlier ∧ last.failure?.isSome = true ∧
        ∀ reply ∈ earlier, reply.failure? = none := by
  -- Only one of the cases is an end, and it says which reply failed.
  cases setup with
  | failed planned asked sound fault =>
    refine ⟨rfl, fun request member => isSetup_of_mem ((setupPlan_begins planned).subset ?_), _, _, rfl, ?_,
      sound⟩
    · rw [← asked]
      exact List.mem_reverse.mpr member
    · exact Option.isSome_iff_exists.mpr ⟨_, fault⟩

end Setup

/-! ### The counters of the cycles -/

/-- Nothing that belongs to a cycle was counted. -/
structure Metrics.Uncycled (metrics : Metrics) : Prop where
  attempts : metrics.connectAttempts = 0
  connections : metrics.cloudConnections = 0
  ready : metrics.cloudReady = 0
  timeouts : metrics.readyTimeouts = 0
  updates : metrics.shadowUpdates = 0
  failures : metrics.shadowFailures = 0
  resets : metrics.resets = 0

/-- While no shadow was published, none was counted. -/
theorem Ledger.Booked.unpublished {ledger : Ledger} (booked : Ledger.Booked ledger)
    (never : .shadowPublished ∉ ledger.events) :
    ledger.metrics.shadowUpdates = 0 ∧ ledger.metrics.shadowFailures = 0 := by
  -- Setting the name of the phase counts no shadow.
  have named (metrics : Metrics) (name : String) :
      (metrics.count (.setPhase name)).shadowUpdates = metrics.shadowUpdates ∧
        (metrics.count (.setPhase name)).shadowFailures = metrics.shadowFailures := by
    simp only [Metrics.count]
    split <;> exact ⟨rfl, rfl⟩
  -- Induction on the entries; each of the other events has a counter of its own, or none.
  induction booked with
  | opening => exact ⟨rfl, rfl⟩
  | asked _ request ih => exact ih never
  | @moved ledger event next _ leads alone ih =>
    rw [advance_eq leads] at never ⊢
    exact ⟨(named _ _).1.trans (ih (List.not_mem_of_not_mem_cons never)).1,
      (named _ _).2.trans (ih (List.not_mem_of_not_mem_cons never)).2⟩
  | @counted ledger event next count _ leads counts ih =>
    have leads' : (ledger.count count).phase.next? event = some next := leads
    rw [advance_eq leads'] at never ⊢
    have earlier := ih (List.not_mem_of_not_mem_cons never)
    have beside : (ledger.count count).metrics.shadowUpdates = 0 ∧
        (ledger.count count).metrics.shadowFailures = 0 := by
      cases event with
      | setupSucceeded | setupFailed | disconnected | backoffElapsed => simp [PhaseEvent.counts] at counts
      | networkUp | connectTimedOut | cloudConnected | cloudReady | readyTimedOut | resetComplete =>
        obtain rfl := List.mem_singleton.mp counts
        exact earlier
      -- This is the one event that counts a shadow, and it has not come.
      | shadowPublished => exact absurd List.mem_cons_self never
    exact ⟨(named _ _).1.trans beside.1, (named _ _).2.trans beside.2⟩

namespace Session

/-- What happens from a session on, and the replies that the supervisor has heard in it, the latest first. -/
inductive Recorded (setting : Setting) (first : Session) : List Heard → Session → Prop where
  | refl : Recorded setting first [] first
  | tail {heard : List Heard} {reply : Option Heard} {before after : Session}
      (recorded : Recorded setting first heard before) (hears : Hears setting before reply after) :
      Recorded setting first (reply.toList ++ heard) after

variable {setting : Setting} {first before after last : Session} {heard : List Heard} {reply : Option Heard}
  {saving : Bool}

/-- What happens while replies are heard is a part of what can happen. -/
theorem Recorded.path (recorded : Recorded setting first heard last) : Path setting first last := by
  -- Induction on the path, forgetting what was heard.
  induction recorded with
  | refl => exact .refl
  | tail _ hears ih => exact ih.tail hears.next

/-- On every path some replies are heard, or none. -/
theorem Path.recorded (path : Path setting first last) : ∃ heard, Recorded setting first heard last := by
  -- Induction on the path, with one reply or none at each step.
  induction path with
  | refl => exact ⟨[], .refl⟩
  | tail _ next ih =>
    obtain ⟨heard, recorded⟩ := ih
    obtain ⟨reply, hears⟩ := next.hears
    exact ⟨_, recorded.tail hears⟩

/-- Whatever happens next, the setup goes on as planned. -/
theorem Proceeds.setup (proceeds : Proceeds setting before reply after) (staffed : before.Staffed)
    (wanted : before.supervisor.config.features.powerSavingMode = saving)
    (setup : Setup saving before.standing before.outcome before.supervisor.requests heard) :
    Setup saving after.standing after.outcome after.supervisor.requests (reply.toList ++ heard) := by
  -- One case for each thing that can happen to the run.
  cases proceeds with
  | @beside middle aside quiet pending =>
    have stands : middle.flush.standing = before.standing := aside.standing
    have requests : middle.supervisor.requests = before.supervisor.requests := by
      rw [aside.supervisor rfl]
      rfl
    have same : middle.flush.supervisor.requests = before.supervisor.requests := requests
    rw [stands, same, show middle.flush.outcome = before.outcome from pending]
    exact setup
  -- A run that begins has asked for nothing so far.
  | starts idle =>
    have none : before.standing = .idle := by simp [standing, idle]
    have begun : before.start.flush.standing = .running {} := staffed.start_runs.standing
    rw [none] at setup
    rw [begun]
    show Setup saving _ _ before.supervisor.requests heard
    generalize before.outcome = outcome, before.supervisor.requests = requests at setup
    cases setup
    exact .starting rfl
  | waits head runs steps early runs' now did pending =>
    rw [runs'.standing, pending, did.requests]
    exact runs.standing ▸ setup
  | steps head runs steps runs' awake now did pending =>
    rw [runs'.standing, pending, did.requests]
    exact (runs.standing ▸ setup).steps steps
  -- A good reply leads to the next request of the plan, a bad one ends the run.
  | resumes head runs calls aside sound resumes runs' awake now did pending =>
    rw [runs'.standing, pending, did.requests]
    exact (runs.standing ▸ setup).resumes wanted calls sound resumes
  | fails head runs calls fault ended outcome did =>
    rw [ended, outcome, did.requests]
    exact (runs.standing ▸ setup).fails calls fault
  | suspends head runs held => exact setup
  | gone head absent => exact setup

/-- On every run from a fresh session the setup goes on as planned. -/
theorem Fresh.setup (fresh : first.Fresh) (pending : first.outcome = none)
    (recorded : Recorded setting first heard last) :
    last.supervisor.config = first.supervisor.config ∧
      Setup first.supervisor.config.features.powerSavingMode last.standing last.outcome last.supervisor.requests
        heard := by
  -- Induction on the run.
  induction recorded with
  | refl =>
    have idle : first.standing = .idle := by simp [standing, fresh.runTask]
    have nothing : first.supervisor.requests = [] := by simp [Supervisor.requests, fresh.history]
    rw [idle, pending, nothing]
    exact ⟨rfl, .idle⟩
  | tail recorded hears ih =>
    obtain ⟨config, setup⟩ := ih
    have reached := (Reached.fresh fresh).path recorded.path
    have proceeds := reached.proceeds hears
    obtain ⟨now, deeds, did⟩ := proceeds.did
    exact ⟨did.config.trans config, proceeds.setup reached.staffed (by rw [config]) setup⟩

/-- A run that has ended stays as it is. -/
theorem Proceeds.ended (proceeds : Proceeds setting before reply after) (ended : before.standing = .ended) :
    after.standing = .ended ∧ after.supervisor.history = before.supervisor.history ∧
      after.outcome = before.outcome ∧ reply = none := by
  -- Nobody runs any longer, and the supervisor is not started again.
  have nobody {task : TaskId} {run : Supervisor.Run} (runs : before.Runs task run) : False := by
    cases runs.standing.symm.trans ended
  cases proceeds with
  | @beside middle aside quiet pending =>
    have history : middle.supervisor.history = before.supervisor.history := aside.history
    exact ⟨aside.standing.trans ended, history, pending, rfl⟩
  | starts idle => simp [standing, idle] at ended
  | waits head runs | steps head runs | resumes head runs | fails head runs | suspends head runs =>
    exact (nobody runs).elim
  | gone head absent => exact ⟨ended, rfl, rfl, rfl⟩

/-- What happens after the end of the run changes nothing of what it has done. -/
theorem Reached.stays_ended (reached : Reached setting first) (ended : first.standing = .ended)
    (path : Path setting first last) :
    last.standing = .ended ∧ last.supervisor.history = first.supervisor.history ∧ last.outcome = first.outcome := by
  -- Induction on the path.
  induction path with
  | refl => exact ⟨ended, rfl, rfl⟩
  | tail earlier next ih =>
    obtain ⟨gone, history, outcome⟩ := ih
    obtain ⟨reply, hears⟩ := next.hears
    obtain ⟨gone', history', outcome', -⟩ := ((reached.path earlier).proceeds hears).ended gone
    exact ⟨gone', history'.trans history, outcome'.trans outcome⟩

/-- Where the run has ended and nothing was asked for but what belongs to the setup, nothing of a cycle was
counted. -/
theorem Balances.uncycled (balances : last.Balances) (ended : last.standing = .ended)
    (setup : ∀ request ∈ last.supervisor.requests, request.isSetup = true) :
    last.connection.telemetry.metrics.Uncycled := by
  -- The transport was asked to connect as often as there were attempts, so no cycle has gone further.
  have never (request : Request) (cyclic : request.isSetup = false) :
      last.supervisor.requests.count request = 0 :=
    List.count_eq_zero_of_not_mem fun member => by simp [setup request member] at cyclic
  have connects : last.supervisor.requests.count .connectCloud =
      last.supervisor.events.count .networkUp + last.supervisor.events.count .connectTimedOut := balances.connects
  rw [never .connectCloud rfl] at connects
  have phase : last.supervisor.phase = .halted := by
    have here : last.supervisor.phase = last.standing.phase := balances.phase
    rw [here, ended]
    rfl
  have conserved : Ledger.Conserved last.supervisor.phase last.supervisor.events := balances.booked.conserved
  rw [phase] at conserved
  have outside : Phase.halted.since .connectingCloud = 0 ∧ Phase.halted.since .waitCloudReady = 0 ∧
      Phase.halted.since .connected = 0 ∧ Phase.halted.at .connected = 0 ∧ Phase.halted.at .backoff = 0 := by decide
  -- Counting the events backward from the end: none of a cycle has come.
  obtain ⟨connecting, waiting, decided, published, -, reset⟩ := conserved
  rw [outside.1] at connecting
  rw [outside.2.1] at waiting
  rw [outside.2.2.1] at decided
  rw [outside.2.2.2.1] at published
  rw [outside.2.2.2.2] at reset
  have tallied : Ledger.Tallied last.connection.telemetry.metrics.cycle last.supervisor.events :=
    balances.booked.tallied
  obtain ⟨attempts, connections, ready, timeouts, -, resets⟩ := tallied
  -- The shadows are counted apart from the others, since they may fail.
  have unpublished := balances.booked.unpublished (List.count_eq_zero.mp (by
    show last.supervisor.events.count .shadowPublished = 0
    omega))
  -- A counter whose events have not come is zero.
  have zero {value : UInt64} {events : Nat} (counted : value = .ofNat events) (none : events = 0) : value = 0 := by
    rw [counted, none]
    rfl
  exact {
    attempts := zero attempts connects.symm
    connections := zero connections (by omega)
    ready := zero ready (by omega)
    timeouts := zero timeouts (by omega)
    updates := unpublished.1
    failures := unpublished.2
    resets := zero resets (by omega) }

/-- **A failed setup** ends the run, in order. The setup asks for the operations of its plan, from the first on and
each of them once at most, for the power saving mode only if the configuration wants it. The run comes to a failure
exactly if such a reply was heard; an old firmware that could not be replaced is none. Then that was the last reply,
to the last request, and whatever happens afterwards the phase is halted, nothing further is asked for and nothing
that belongs to a cycle was counted. -/
theorem Fresh.failed_setup_ends_run (fresh : first.Fresh) (pending : first.outcome = none)
    (recorded : Recorded setting first heard last) :
    let saving := first.supervisor.config.features.powerSavingMode
    let requests := last.supervisor.requests
    (requests.filter Request.isSetup).reverse <+: setupPlan saving ∧
    (requests.filter Request.isSetup).Nodup ∧
    (.requestPsm ∈ requests → saving = true) ∧
    (∀ error, last.outcome = some (.failed error) ↔ ∃ reply ∈ heard, reply.failure? = some error) ∧
    (∀ start, Heard.failure? ⟨.modemInit, .ok start⟩ = none) ∧
    (last.standing = .ended ↔ ∃ error, last.outcome = some (.failed error)) ∧
    (last.standing = .ended →
      requests = heard.map (·.request) ∧
      (∃ failed earlier, heard = failed :: earlier ∧ failed.failure?.isSome = true ∧
        ∀ reply ∈ earlier, reply.failure? = none) ∧
      ∀ later, Path setting last later →
        later.standing = .ended ∧ later.outcome = last.outcome ∧ later.supervisor.phase = .halted ∧
        later.supervisor.history = last.supervisor.history ∧
        (∀ request ∈ later.supervisor.requests, request.isSetup = true) ∧
        later.connection.telemetry.metrics.Uncycled) := by
  intro saving requests
  obtain ⟨-, setup⟩ := fresh.setup pending recorded
  have follows := setup.asked_in_order
  have reached := (Reached.fresh fresh).path recorded.path
  have once : (requests.filter Request.isSetup).Nodup :=
    List.nodup_reverse.mp (follows.sublist.nodup (nodup_setupPlan saving))
  refine ⟨follows, once, fun asked => ?_, setup.outcome_iff, fun _ => rfl, setup.ended_iff, fun ended => ?_⟩
  · -- The request for the power saving mode is a part of the plan only if it was wanted.
    have kept : .requestPsm ∈ requests.filter Request.isSetup := List.mem_filter.mpr ⟨asked, rfl⟩
    exact saving_of_mem (follows.subset (List.mem_reverse.mpr kept))
  · obtain ⟨answered, inside, failed⟩ := (ended ▸ setup).last_failed
    refine ⟨answered, failed, fun later path => ?_⟩
    -- Nothing is done after the end, so what was asked for by then is all that will be.
    obtain ⟨gone, history, outcome⟩ := reached.stays_ended ended path
    have requests' : later.supervisor.requests = requests := by
      simp only [Supervisor.requests, history, requests]
    have balances := (reached.path path).balances
    have phase : later.supervisor.phase = later.standing.phase := balances.phase
    have inside' : ∀ request ∈ later.supervisor.requests, request.isSetup = true := requests' ▸ inside
    exact ⟨gone, outcome, phase.trans (by rw [gone]; rfl), history, inside', balances.uncycled gone inside'⟩

/-- A modem that cannot be asked to connect ends the run with its error, and nothing was asked of the cloud but to
be set up. -/
theorem failed_connect_ends_run :
    ∃ (first last : Session) (heard : List Heard), first.Fresh ∧ Recorded ⟨false, false⟩ first heard last ∧
      last.standing = .ended ∧
      (∃ reply ∈ heard, reply.failure? = some (.network (.connectFailed 7))) ∧
      last.supervisor.requests = heard.map (·.request) ∧
      ∀ later, Path ⟨false, false⟩ last later → later.supervisor.phase = .halted := by
  have fresh := (fresh_ofConfig (.ofAppVersion "1.0.0") 0).withModem { connectFault := some 7 }
  have idle : { ofConfig (.ofAppVersion "1.0.0") 0 with modem := { connectFault := some 7 } }.runTask = none := rfl
  -- One turn for each of the requests, and one to begin with.
  have path := (Relation.ReflTransGen.refl.tail (.start idle)).trans (Path.settle ⟨false, false⟩ 6 _)
  obtain ⟨heard, recorded⟩ := Path.recorded path
  obtain ⟨-, -, -, failed, -, -, stops⟩ := fresh.failed_setup_ends_run rfl recorded
  have ended : (Timed.settle 6 (({ ofConfig (.ofAppVersion "1.0.0") 0 with
      modem := { connectFault := some 7 } } : Session).act .start).2).standing = .ended := rfl
  have outcome : (Timed.settle 6 (({ ofConfig (.ofAppVersion "1.0.0") 0 with
      modem := { connectFault := some 7 } } : Session).act .start).2).outcome =
        some (.failed (.network (.connectFailed 7))) := rfl
  obtain ⟨answered, -, later⟩ := stops ended
  exact ⟨_, _, heard, fresh, recorded, ended, (failed _).mp outcome, answered,
    fun after along => (later after along).2.2.1⟩

end Session

end Uplink
