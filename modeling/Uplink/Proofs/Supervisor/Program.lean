import Uplink.Proofs.Strays
import Uplink.Proofs.Supervisor.Trail
import Uplink.Proofs.Supervisor.Vigil

/-! The program of the supervisor: from which place a run comes to which, what it does on the way, and that its
phase keeps to the table. -/

namespace Uplink

open Flags (Register Timeout Wait)

/-- What went wrong in the setup, if the reply says so. A modem that is up with its old firmware is up. -/
def Request.failure? : (request : Request) → request.Reply → Option SetupError
  | .modemInit, .error error => some (.modem error)
  | .transportInit, .error error => some (.cloud error)
  | .requestPsm, .error error => some (.network error)
  | .enableEvents, .error error => some (.network error)
  | .connectNetwork, .error error => some (.network error)
  | _, _ => none

/-- The event that a deed has moved the phase by, if it has. -/
def Deed.event? : Deed → Option PhaseEvent
  | .moved event => some event
  | .asked _ => none

namespace Supervisor

/-- The supervisor has done this at one instant, the latest first, and nothing else but for its connection: it
has kept to the table and to its configuration, and has passed over no event. -/
structure Did (now : Nat) (deeds : List Deed) (before after : Supervisor) : Prop where
  config : after.config = before.config
  history : after.history = deeds.map (now, ·) ++ before.history
  phase : before.phase.follow? deeds = some after.phase
  trail : Trail before.phase before.history before.changes → Trail after.phase after.history after.changes
  strays : after.connection.strays = before.connection.strays

namespace Did

variable {now : Nat} {deeds : List Deed} {before supervisor : Supervisor} {agenda : Agenda} {run : Run}

/-- A supervisor that has done nothing. -/
theorem nothing (now : Nat) (supervisor : Supervisor) : Did now [] supervisor supervisor :=
  -- The history is its own, with nothing in front.
  ⟨rfl, rfl, rfl, id, rfl⟩

/-- A connection that was changed without a word about a stray event. -/
theorem share (did : Did now deeds before supervisor) {connection : Connection}
    (quiet : connection.strays = supervisor.connection.strays) :
    Did now deeds before { supervisor with connection } :=
  -- Of the connection only the stray entries are spoken of.
  ⟨did.config, did.history, did.phase, did.trail, quiet.trans did.strays⟩

/-- A connection that others had changed before, without a word about a stray event either. -/
theorem since {connection : Connection} (did : Did now deeds { before with connection } supervisor)
    (quiet : connection.strays = before.connection.strays) : Did now deeds before supervisor :=
  -- Of the connection only the stray entries are spoken of.
  ⟨did.config, did.history, did.phase, did.trail, did.strays.trans quiet⟩

/-- An entry with another text is about no stray event. -/
theorem log (did : Did now deeds before supervisor) (level : Level) (text : String) (fields : Fields)
    (other : text ≠ "Ignoring invalid phase transition") :
    Did now deeds before (supervisor.log level text fields) :=
  -- The entry is not among those that are counted.
  did.share (Connection.strays_log _ _ other _)

/-- Counting is no deed. -/
theorem count (did : Did now deeds before supervisor) (event : Metrics.Count) :
    Did now deeds before (supervisor.count event) :=
  -- The counters are no part of the log.
  did.share rfl

/-- Showing something is no deed. -/
theorem indicate (did : Did now deeds before supervisor) (indication : Indication) (always : Bool) :
    Did now deeds before (supervisor.indicate indication always) :=
  -- What is shown is logged under its own text.
  did.log _ _ _ (by decide)

/-- Asking for something comes on top of what was done. -/
theorem ask (did : Did agenda.now deeds before supervisor) (request : Request) :
    Did agenda.now (.asked request :: deeds) before (supervisor.ask agenda run request).2 where
  -- The deed is put in front of the others.
  config := did.config
  history := congrArg (List.cons (agenda.now, Deed.asked request)) did.history
  phase := did.phase
  trail := fun trail => (did.trail trail).asked agenda.now request
  strays := did.strays

/-- Moving on by an event that the phase has comes on top of what was done. -/
theorem advance (did : Did now deeds before supervisor) {event : PhaseEvent} {next : Phase}
    (leads : before.phase.follow? (.moved event :: deeds) = some next) :
    Did now (.moved event :: deeds) before (supervisor.advance now event) := by
  -- The phase that the event finds is the one that the deeds before it have led to.
  have here : supervisor.phase.next? event = some next := by
    simpa [Phase.follow?, did.phase] using leads
  have entered : (supervisor.advance now event).phase = next := by
    simp [Supervisor.advance, here, Supervisor.count]
  have history : (supervisor.advance now event).history = (now, .moved event) :: supervisor.history := by
    simp only [Supervisor.advance, here, Supervisor.count]
    split <;> rfl
  refine ⟨?_, ?_, ?_, fun trail => ?_, ?_⟩
  · simp only [Supervisor.advance, here, Supervisor.count]
    split
    · exact did.config
    · exact did.config
  · rw [history, did.history]
    rfl
  · rw [entered]
    exact leads
  · -- Only a real change is noted.
    rw [entered, history]
    have earlier := did.trail trail
    by_cases same : next = supervisor.phase
    · have changes : (supervisor.advance now event).changes = supervisor.changes := by
        simp [Supervisor.advance, here, Supervisor.count, same]
      rw [changes, same]
      exact earlier.stayed (here.trans (congrArg some same)) now
    · have changes : (supervisor.advance now event).changes =
          ⟨now, supervisor.phase, next, event⟩ :: supervisor.changes := by
        simp [Supervisor.advance, here, Supervisor.count, same, Supervisor.log]
      rw [changes]
      exact earlier.moved here same now
  · -- The change of the phase is logged, and no stray event with it.
    refine Eq.trans ?_ did.strays
    simp only [Supervisor.advance, here, Supervisor.count, Connection.strays_count]
    split
    · rfl
    · exact Connection.strays_log _ _ (by decide) _

/-- The events that have moved the phase, the latest first, if these things were done on top. -/
theorem events {after : Supervisor} (did : Did now deeds before after) :
    after.events = deeds.filterMap Deed.event? ++ before.events := by
  -- The history has grown by the deeds, each with its instant.
  simp only [Supervisor.events, did.history, List.filterMap_append, List.filterMap_map]
  refine congrArg (· ++ before.events) (List.filterMap_congr fun deed _ => ?_)
  cases deed <;> rfl

/-- An event that is counted more often than before is among what was done. -/
theorem moved {after : Supervisor} (did : Did now deeds before after) {event : PhaseEvent}
    (more : before.events.count event < after.events.count event) : .moved event ∈ deeds := by
  -- Those that were there before are counted still, so one more has to be among the deeds.
  rw [did.events, List.count_append] at more
  have found : event ∈ deeds.filterMap Deed.event? := List.count_pos_iff.mp (by omega)
  obtain ⟨deed, member, is⟩ := List.mem_filterMap.mp found
  cases deed with
  | asked request => cases is
  | moved event' =>
    obtain rfl := Option.some.inj is
    exact member

/-- An attempt is a request to connect. -/
theorem attempt (did : Did agenda.now deeds before supervisor) :
    Did agenda.now (.asked .connectCloud :: deeds) before (supervisor.attempt agenda run).2 :=
  -- The count before the request is no deed.
  (did.count _).ask _

end Did

/-! ### The program -/

/-- A wait that has begun now and may last for so long: it was answered at once, or it ends at its deadline. -/
def Begun (agenda : Agenda) (span : Nat) : Wait → Prop
  | .answered _ => True
  | .parked _ deadline => deadline = agenda.deadline span

/-- The step from one place to another, and what is done on it, the latest first. -/
inductive Steps (config : Config) (cloud : Register) (agenda : Agenda) : Place → List Deed → Place → Prop where
  | starting : Steps config cloud agenda .starting [.asked .modemInit] (.calling .modemInit)
  | cycleStart {wait : Wait} (lasting : wait.deadline? = none) :
      Steps config cloud agenda .cycleStart [] (.awaitingNetwork wait)
  | networkUp {wait : Wait} :
      Steps config cloud agenda (.awaitingNetwork wait) [.asked .connectCloud, .moved .networkUp]
        (.calling .connectCloud)
  | retry {wait : Wait} (late : (cloud.poll agenda wait).1 = some 0) :
      Steps config cloud agenda (.awaitingCloud wait) [.asked .connectCloud, .moved .connectTimedOut]
        (.calling .connectCloud)
  | connected {wait next : Wait} {bits : UInt32}
      (answered : (cloud.poll agenda wait).1 = some bits) (met : bits ≠ 0)
      (begun : Begun agenda (ConnectionSection.millis config.connection.readyTimeout) next) :
      Steps config cloud agenda (.awaitingCloud wait) [.moved .cloudConnected] (.awaitingReady next)
  | ready {wait : Wait} (answered : (cloud.poll agenda wait).1 = some Cloud.ready) :
      Steps config cloud agenda (.awaitingReady wait) [.asked .publishShadow, .moved .cloudReady]
        (.calling .publishShadow)
  | failed {wait : Wait} {bits : UInt32}
      (answered : (cloud.poll agenda wait).1 = some bits) (other : bits ≠ Cloud.ready) :
      Steps config cloud agenda (.awaitingReady wait) [.moved .readyTimedOut]
        (.settling (agenda.deadline (ConnectionSection.millis config.connection.settleDelay)))
  | dropped {wait : Wait} :
      Steps config cloud agenda (.awaitingDrop wait) [.moved .disconnected]
        (.settling (agenda.deadline (ConnectionSection.millis config.connection.settleDelay)))
  | settled {due : Option Nat} (come : agenda.reached due = true) :
      Steps config cloud agenda (.settling due) [.asked .disconnectCloud] (.calling .disconnectCloud)
  | rested {due : Option Nat} (come : agenda.reached due = true) :
      Steps config cloud agenda (.backingOff due) [.moved .backoffElapsed] .cycleStart

/-- Where a run goes on with the reply to its request, and what it does on the way, the latest first. -/
inductive Resumes (config : Config) (agenda : Agenda) : (request : Request) → request.Reply → List Deed → Place → Prop
  where
  | modemUp (start : ModemStart) :
      Resumes config agenda .modemInit (.ok start) [.asked .registerClock] (.calling .registerClock)
  | clockHeard : Resumes config agenda .registerClock () [.asked .transportInit, .moved .setupSucceeded]
      (.calling .transportInit)
  | transportUp (wanted : config.features.powerSavingMode = true) :
      Resumes config agenda .transportInit (.ok ()) [.asked .requestPsm, .moved .setupSucceeded]
        (.calling .requestPsm)
  | transportUpPlain (unwanted : config.features.powerSavingMode = false) :
      Resumes config agenda .transportInit (.ok ()) [.asked .enableEvents, .moved .setupSucceeded]
        (.calling .enableEvents)
  | saving : Resumes config agenda .requestPsm (.ok ()) [.asked .enableEvents] (.calling .enableEvents)
  | eventsOn : Resumes config agenda .enableEvents (.ok ()) [.asked .connectNetwork] (.calling .connectNetwork)
  | bringUp : Resumes config agenda .connectNetwork (.ok ()) [.moved .setupSucceeded, .moved .setupSucceeded]
      .cycleStart
  | connect {wait : Wait} (result : Request.connectCloud.Reply)
      (begun : Begun agenda (ConnectionSection.millis config.connection.retryTimeout) wait) :
      Resumes config agenda .connectCloud result [] (.awaitingCloud wait)
  | publish {wait : Wait} (result : Request.publishShadow.Reply) (lasting : wait.deadline? = none) :
      Resumes config agenda .publishShadow result [.moved .shadowPublished] (.awaitingDrop wait)
  | disconnect (result : Request.disconnectCloud.Reply) :
      Resumes config agenda .disconnectCloud result [.moved .resetComplete]
        (.backingOff (agenda.deadline (ConnectionSection.millis config.connection.reestablishDelay)))

/-- Only the reply to a call can bring a reset about: no step notes one. -/
theorem Steps.not_reset {config : Config} {cloud : Register} {agenda : Agenda} {place next : Place}
    {deeds : List Deed} (steps : Steps config cloud agenda place deeds next) : .moved .resetComplete ∉ deeds := by
  -- One case for each step; each of them does two things at most.
  cases steps <;> simp

/-- A reset is noted on the reply to a disconnect, and the pause before the next cycle begins with it. -/
theorem Resumes.backs_off {config : Config} {agenda : Agenda} {request : Request} {reply : request.Reply}
    {deeds : List Deed} {next : Place} (resumes : Resumes config agenda request reply deeds next)
    (reset : .moved .resetComplete ∈ deeds) : ∃ due, next = .backingOff due := by
  -- Every other reply leads on without a reset.
  cases resumes with
  | disconnect result => exact ⟨_, rfl⟩
  | modemUp _ | clockHeard | transportUp _ | transportUpPlain _ | saving | eventsOn | bringUp | connect _ _
  | publish _ _ => simp at reset

variable {supervisor : Supervisor} {agenda : Agenda} {task : TaskId} {run : Run}

/-- A wait with a limit ends within it. -/
theorem begun_await (connection : Connection) (agenda : Agenda) (task : TaskId) (name : RegisterName)
    (condition : Flags.Condition) (span : Nat) :
    Begun agenda span (connection.await agenda task name condition (.after span)).1 := by
  -- A wait that is not answered at once parks with its deadline.
  simp only [Connection.await, Flags.Register.wait]
  split
  · exact trivial
  · exact rfl

/-- A wait without a limit has no deadline. -/
theorem lasting_await (connection : Connection) (agenda : Agenda) (task : TaskId) (name : RegisterName)
    (condition : Flags.Condition) :
    (connection.await agenda task name condition .forever).1.deadline? = none := by
  -- Either it is answered at once, or it parks with the deadline of its limit, which is none.
  simp only [Connection.await, Flags.Register.wait]
  split <;> rfl

/-- A wait that is looked after in vain has not come to its deadline. -/
theorem early_of_unanswered {connection : Connection} {name : RegisterName} {wait : Wait}
    (unanswered : (connection.poll agenda name wait).1 = none) : agenda.reached wait.deadline? = false := by
  cases wait with
  | answered bits => cases unanswered
  | parked ticket deadline =>
    -- A look that comes at the deadline ends the wait.
    simp only [Connection.poll, Flags.Register.poll] at unanswered
    split at unanswered
    · cases unanswered
    · split at unanswered
      · cases unanswered
      · rename_i early
        exact Bool.eq_false_of_not_eq_true early

/-- What is found as a wait is looked after is no deed. -/
theorem Did.looked {name : RegisterName} {wait : Wait} {answer : Option UInt32} {connection : Connection}
    (looked : supervisor.connection.poll agenda name wait = (answer, connection)) (now : Nat) :
    Did now [] supervisor { supervisor with connection } :=
  -- Looking writes nothing, so that only the register has changed.
  (Did.nothing now supervisor).share (Connection.strays_looked _ _ looked)

/-- A step of a run follows the program, or leaves everything as it is and waits, its deadline being ahead. -/
theorem step_follows (agenda : Agenda) (task : TaskId) (here : supervisor.phase = run.place.phase)
    (steps : ∀ request, run.place ≠ .calling request) :
    (supervisor.step agenda task run = (.parked run, supervisor) ∧ agenda.reached run.place.deadline? = false) ∨
      ∃ deeds onward, (supervisor.step agenda task run).1 = .next onward ∧
        Steps supervisor.config supervisor.connection.cloud agenda run.place deeds onward.place ∧
        Did agenda.now deeds supervisor (supervisor.step agenda task run).2 := by
  -- One case for each place; where a wait is not answered yet, nothing is done.
  have still := Did.nothing agenda.now supervisor
  obtain ⟨cycle, place⟩ := run
  -- Every event is one that the phase of the place has.
  have leads (deeds : List Deed) : supervisor.phase.follow? deeds = place.phase.follow? deeds := by rw [here]
  cases place with
  | calling request => exact absurd rfl (steps request)
  | starting => exact .inr ⟨_, _, rfl, .starting, ((still.indicate _ _).log _ _ _ (by decide)).ask _⟩
  | cycleStart =>
    have begun := (still.log .info "Waiting for connection to network..." [] (by decide)).indicate .waiting false
    refine .inr ⟨[], _, rfl, .cycleStart ?_, begun.share ?_⟩
    · exact lasting_await _ agenda task .network (.all Network.connected)
    · exact Connection.strays_awaitNetwork _ agenda task .forever
  -- A wait that is not answered has its deadline ahead.
  | awaitingNetwork wait =>
    simp only [step]
    split
    · rename_i looked
      exact .inl ⟨rfl, early_of_unanswered (congrArg Prod.fst looked)⟩
    · rename_i looked
      have noted := (Did.looked looked agenda.now).log .info "Connected to network" [] (by decide)
      have up := (noted.advance (leads [.moved .networkUp])).log .info "Connecting to cloud..." [] (by decide)
      exact .inr ⟨_, _, rfl, .networkUp, up.attempt⟩
  | awaitingCloud wait =>
    simp only [step]
    split
    · rename_i looked
      exact .inl ⟨rfl, early_of_unanswered (congrArg Prod.fst looked)⟩
    · rename_i bits connection looked
      have found := Did.looked looked agenda.now
      have answered : (supervisor.connection.cloud.poll agenda wait).1 = some bits := congrArg Prod.fst looked
      split
      · -- The time for the attempt is up.
        rename_i late
        have noted := found.log .info "Cloud connection not established yet, retrying" [] (by decide)
        have again := noted.advance (leads [.moved .connectTimedOut])
        exact .inr ⟨_, _, rfl, .retry (late ▸ answered), again.attempt⟩
      · rename_i met
        have entered := ((found.count .cloudConnectionEstablished).advance (leads [.moved .cloudConnected])).log
          .info "Connected to cloud, waiting for session to become ready" [] (by decide)
        -- The limit is that of the configuration, which a move of the phase leaves alone.
        have limit := congrArg (fun config : Config => ConnectionSection.millis config.connection.readyTimeout)
          entered.config
        refine .inr ⟨_, _, rfl, .connected answered met ?_, entered.share ?_⟩
        · refine (congrArg (Begun agenda · _) limit).mp ?_
          exact begun_await _ agenda task .cloud (.any (Cloud.ready ||| Cloud.disconnected)) _
        · exact Connection.strays_awaitReady _ agenda task _ true
  | awaitingReady wait =>
    simp only [step]
    split
    · rename_i looked
      exact .inl ⟨rfl, early_of_unanswered (congrArg Prod.fst looked)⟩
    · rename_i bits connection looked
      have found := Did.looked looked agenda.now
      have answered : (supervisor.connection.cloud.poll agenda wait).1 = some bits := congrArg Prod.fst looked
      split
      · rename_i alone
        have noted := (found.log .info "Connected to cloud and ready" [] (by decide)).count .cloudReady
        have entered := (noted.advance (leads [.moved .cloudReady])).indicate .connected false
        exact .inr ⟨_, _, rfl, .ready (alone ▸ answered), entered.ask _⟩
      · -- The session has dropped or has taken too long.
        rename_i other
        have noted := ((found.log .info "Timed out or disconnected while waiting for cloud to be ready" []
          (by decide)).log .info "Failed to connect to cloud" [] (by decide)).count .readyTimeout
        have given := noted.advance (leads [.moved .readyTimedOut])
        refine .inr ⟨_, _, rfl, ?_, given⟩
        rw [given.config]
        exact .failed answered other
  -- The session has dropped by itself.
  | awaitingDrop wait =>
    simp only [step]
    split
    · rename_i looked
      exact .inl ⟨rfl, early_of_unanswered (congrArg Prod.fst looked)⟩
    · rename_i looked
      have noted := (Did.looked looked agenda.now).log .info "Disconnected from cloud" [] (by decide)
      have given := noted.advance (leads [.moved .disconnected])
      refine .inr ⟨_, _, rfl, ?_, given⟩
      rw [given.config]
      exact .dropped
  -- The pauses go by the clock alone.
  | settling due =>
    simp only [step]
    split
    · rename_i come
      exact .inr ⟨_, _, rfl, .settled come, (still.log _ _ _ (by decide)).ask _⟩
    · rename_i early
      exact .inl ⟨rfl, Bool.eq_false_of_not_eq_true early⟩
  | backingOff due =>
    simp only [step]
    split
    · rename_i come
      exact .inr ⟨_, _, rfl, .rested come, still.advance (leads [.moved .backoffElapsed])⟩
    · rename_i early
      exact .inl ⟨rfl, Bool.eq_false_of_not_eq_true early⟩

/-- A setup that fails is given up, in whatever phase of the setup it fails. -/
theorem did_halt {phase : Phase} (here : supervisor.phase = phase) (setup : phase.isSetup = true)
    (error : SetupError) :
    Did agenda.now [.moved .setupFailed] supervisor (supervisor.halt agenda error).2 := by
  -- The error is logged before the phase moves.
  have noted := (Did.nothing agenda.now supervisor).log .error "Fatal: connection setup failed"
    [("error", .text error.message)] (by decide)
  -- Every phase of the setup may fail, and no other one.
  have leads : supervisor.phase.follow? [.moved .setupFailed] = some .halted := by
    rw [here]
    cases phase <;> simp [Phase.isSetup] at setup <;> rfl
  exact (noted.advance leads).indicate _ _

/-- With the reply to its request a run follows the program, unless the setup has failed: then it has ended. -/
theorem resume_follows (agenda : Agenda) (task : TaskId) {request : Request} (calls : run.place = .calling request)
    (here : supervisor.phase = run.place.phase) (reply : request.Reply) :
    (∃ error, request.failure? reply = some error ∧
      (supervisor.resume agenda task run request reply).1 = .done error ∧
      Did agenda.now [.moved .setupFailed] supervisor (supervisor.resume agenda task run request reply).2) ∨
    (request.failure? reply = none ∧
      ∃ deeds onward, (supervisor.resume agenda task run request reply).1 = .next onward ∧
        Resumes supervisor.config agenda request reply deeds onward.place ∧
        Did agenda.now deeds supervisor (supervisor.resume agenda task run request reply).2) := by
  -- One case for each request, with its replies where they make a difference.
  have still := Did.nothing agenda.now supervisor
  rw [calls] at here
  have leads (deeds : List Deed) : supervisor.phase.follow? deeds = (Place.calling request).phase.follow? deeds := by
    rw [here]
  cases request with
  | modemInit =>
    cases reply with
    | error error => exact .inl ⟨_, rfl, rfl, did_halt here rfl _⟩
    | ok start =>
      have noted : Did agenda.now [] supervisor (supervisor.noteModemStart start) := by
        cases start <;> exact still.log _ _ _ (by decide)
      exact .inr ⟨rfl, _, _, rfl, .modemUp start, noted.ask _⟩
  | registerClock =>
    have up := (still.advance (leads [.moved .setupSucceeded])).log .info "Setting up cloud library..." [] (by decide)
    exact .inr ⟨rfl, _, _, rfl, .clockHeard, up.ask _⟩
  -- The setup is done as far as the transport goes; the configuration says what is asked for next.
  | transportInit =>
    rcases reply with error | ⟨⟨⟩⟩
    · exact .inl ⟨_, rfl, rfl, did_halt here rfl _⟩
    · have up := (still.advance (leads [.moved .setupSucceeded])).log .info "Setting up network..." [] (by decide)
      have same := congrArg (fun config : Config => config.features.powerSavingMode) up.config
      refine .inr ⟨rfl, ?_⟩
      simp only [resume]
      split
      · rename_i wanted
        have noted := up.log .info "Requesting PSM mode" [] (by decide)
        exact ⟨_, _, rfl, .transportUp (same.symm.trans wanted), noted.ask _⟩
      · rename_i unwanted
        have plain := same.symm.trans (Bool.eq_false_of_not_eq_true unwanted)
        exact ⟨_, _, rfl, .transportUpPlain plain, up.ask _⟩
  | requestPsm =>
    rcases reply with error | ⟨⟨⟩⟩
    · exact .inl ⟨_, rfl, rfl, did_halt here rfl _⟩
    · exact .inr ⟨rfl, _, _, rfl, .saving, (still.log _ _ _ (by decide)).ask _⟩
  | enableEvents =>
    rcases reply with error | ⟨⟨⟩⟩
    · exact .inl ⟨_, rfl, rfl, did_halt here rfl _⟩
    · exact .inr ⟨rfl, _, _, rfl, .eventsOn, (still.log _ _ _ (by decide)).ask _⟩
  | connectNetwork =>
    rcases reply with error | ⟨⟨⟩⟩
    · exact .inl ⟨_, rfl, rfl, did_halt here rfl _⟩
    · -- The bring-up was requested, and from here the modem sees to the link.
      have requested := (still.advance (leads [.moved .setupSucceeded])).advance
        (leads [.moved .setupSucceeded, .moved .setupSucceeded])
      exact .inr ⟨rfl, _, _, rfl, .bringUp, requested.log _ _ _ (by decide)⟩
  | connectCloud =>
    -- Whatever the transport says to the request, its connection is waited for.
    let limit := Timeout.after (ConnectionSection.millis supervisor.config.connection.retryTimeout)
    refine .inr ⟨by cases reply <;> rfl, [], _, rfl, .connect reply ?_, ?_⟩
    · rcases reply with error | ⟨⟨⟩⟩ <;> exact begun_await _ agenda task .cloud (.any Cloud.connected) _
    · rcases reply with error | ⟨⟨⟩⟩
      · have failed := still.log .error "Cloud connection request failed" [("error", .text error.message)] (by decide)
        exact (failed.log .info "Waiting for cloud connection" _ (by decide)).share
          (Connection.strays_awaitCloud _ agenda task limit)
      · exact (still.log .info "Waiting for cloud connection" _ (by decide)).share
          (Connection.strays_awaitCloud _ agenda task limit)
  -- A shadow that could not be published is waited on as well.
  | publishShadow =>
    have noted := (still.share (supervisor.connection.strays_notePublish reply)).advance
      (leads [.moved .shadowPublished])
    refine .inr ⟨by cases reply <;> rfl, _, _, rfl, .publish reply ?_, noted.share ?_⟩
    · exact lasting_await _ agenda task .cloud (.any Cloud.disconnected)
    · exact Connection.strays_awaitDisconnection _ agenda task .forever
  | disconnectCloud =>
    -- The replies differ in what is logged, and the register is cleared on all of them.
    have noted : Did agenda.now [] supervisor (supervisor.noteDisconnect reply) := by
      unfold noteDisconnect
      split <;> exact still.log _ _ _ (by decide)
    have cleared := ((noted.share (Connection.strays_clear _ .cloud)).count .resetPerformed).log .info
      "Cloud connection state reset" [] (by decide)
    have given := cleared.advance (leads [.moved .resetComplete])
    refine .inr ⟨by cases reply <;> rfl, _, _, rfl, ?_, given⟩
    have limit := congrArg (fun config : Config => ConnectionSection.millis config.connection.reestablishDelay)
      given.config
    refine (congrArg (fun span => Resumes _ agenda _ reply _ (.backingOff (agenda.deadline span))) limit).mpr ?_
    exact .disconnect reply

end Supervisor

end Uplink
