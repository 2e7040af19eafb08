import Uplink.Proofs.Connection
import Uplink.Proofs.Supervisor.Bookkeeping

/-! The steps of the supervisor, worked out for a run that finds what it waits for, or finds that it is late. -/

namespace Uplink

open Flags (Condition Register Ticket Timeout Wait)

/-! ### A register that nobody waits on -/

namespace Flags.Register

variable {register : Register} {owner : TaskId} {condition : Condition} {due : Option Nat}

/-- Nobody waits on the register any longer, and nothing lies there to be picked up. -/
structure Idle (register : Register) : Prop where
  handed : register.handed = []
  gone : ∀ waiter ∈ register.waiters, waiter.gone = true

/-- Where nobody waits, nobody is woken. -/
theorem Idle.post (idle : register.Idle) (mask : UInt32) :
    (register.post mask).1.Idle ∧ (register.post mask).2 = [] := by
  -- All waiters have gone, so none is present and none is satisfied.
  have nobody : register.satisfied (register.bits ||| mask) = [] := by
    have present : register.present = [] := by
      rw [present, List.reverse_eq_nil_iff, List.filter_eq_nil_iff]
      exact fun waiter member => by simp [idle.gone waiter member]
    simp [satisfied, present]
  refine ⟨⟨?_, fun waiter member => idle.gone waiter (List.mem_of_mem_filter member)⟩, ?_⟩
  · simp [Register.post, nobody, idle.handed]
  · simp [Register.post, nobody]

/-- Clearing the bits is no matter of those who wait. -/
theorem Idle.reset (idle : register.Idle) : register.reset.Idle :=
  -- Neither the answers nor the list have changed.
  ⟨idle.handed, idle.gone⟩

/-- The only one who waits finds nothing before its deadline. -/
theorem Idle.poll_park_early (idle : register.Idle) {agenda : Agenda} (early : agenda.reached due = false) :
    (register.park owner condition due).2.poll agenda (register.park owner condition due).1 =
      (none, (register.park owner condition due).2) := by
  -- No answer was handed over, and the clock does not end the wait.
  simp [park, poll, idle.handed, early]

/-- At its deadline the only one who waits gives up, and nobody waits any longer. -/
theorem Idle.poll_park_late (idle : register.Idle) {agenda : Agenda} (late : agenda.reached due = true) :
    ∃ after : Register, (register.park owner condition due).2.poll agenda (register.park owner condition due).1 =
      (some 0, after) ∧ after.Idle ∧ after.bits = register.bits := by
  let parked := (register.park owner condition due).2
  refine ⟨parked.abandon (.parked register.nextTicket due), ?_, ⟨?_, fun waiter member => ?_⟩, rfl⟩
  · simp [park, poll, idle.handed, late, parked]
  · simp [abandon, parked, park, idle.handed]
  · -- The newest waiter is the one that has gone now.
    simp only [abandon, parked, park, markGone, if_true, List.mem_cons] at member
    rcases member with rfl | older
    · rfl
    · exact idle.gone waiter older

/-- A wait with a time limit parks where nothing is there yet, if the clock can show its deadline. -/
theorem parks_after (unmet : condition.matched register.bits = none) {agenda : Agenda} {span : Nat}
    (fits : agenda.now + span ≤ Agenda.horizon) :
    register.wait agenda owner condition (.after span) = register.park owner condition (some (agenda.now + span)) := by
  -- Of the three time limits this one has a deadline.
  simp [wait, unmet, Agenda.deadline, fits]

/-- A wait without a time limit parks where nothing is there yet. -/
theorem parks_forever (unmet : condition.matched register.bits = none) (agenda : Agenda) :
    register.wait agenda owner condition .forever = register.park owner condition none := by
  -- Of the three time limits this one has no deadline.
  simp [wait, unmet]

end Flags.Register

/-! ### What is seen of a connection -/

/-- What a run goes by: the registers, and whom they leave to be woken; and what is counted of it here: the forced
disconnects, and how often a shadow was published. -/
structure Outlook where
  config : Config
  network : Register
  cloud : Register
  dateTime : Register
  woken : List TaskId
  forced : UInt64
  shadows : Nat

/-- Bits of the cloud register are raised. -/
def Outlook.post (outlook : Outlook) (mask : UInt32) : Outlook :=
  { outlook with
    cloud := (outlook.cloud.post mask).1
    woken := outlook.woken ++ (outlook.cloud.post mask).2 }

namespace Connection

/-- What a run goes by, as far as the connection goes. -/
def outlook (connection : Connection) (config : Config) (shadows : Nat) : Outlook where
  config := config
  network := connection.network
  cloud := connection.cloud
  dateTime := connection.dateTime
  woken := connection.woken
  forced := connection.telemetry.metrics.forcedDisconnects
  shadows := shadows

variable (connection : Connection) (config : Config) (shadows : Nat)

/-- Writing an entry changes nothing that a run goes by. -/
@[simp] theorem outlook_log (level : Level) (message : String) (fields : Fields) :
    (connection.log level message fields).outlook config shadows = connection.outlook config shadows := rfl

/-- Most of what is counted is nothing that a run goes by. -/
theorem outlook_count (event : Metrics.Count) (other : event ≠ .forcedDisconnect) (kept : event ≠ .reset) :
    (connection.count event).outlook config shadows = connection.outlook config shadows := by
  -- Forced disconnects are the only count that is looked at.
  have forced : (connection.telemetry.metrics.count event).forcedDisconnects =
      connection.telemetry.metrics.forcedDisconnects := by
    cases event with
    | forcedDisconnect => exact absurd rfl other
    | reset => exact absurd rfl kept
    | setPhase name =>
      simp only [Metrics.count]
      split <;> rfl
    | _ => rfl
  simp only [outlook, count, Telemetry.count, forced]

/-- A device that was associated on request has its disconnect forced. -/
theorem outlook_userAssociated (requested : connection.cloud.isSet Cloud.associationRequest = true) :
    (connection.onCloudEvent .userAssociated).outlook config shadows =
      { (connection.outlook config shadows).post Cloud.disconnected with
        forced := (connection.outlook config shadows).forced + 1 } := by
  -- The entry before it leaves the register as it is.
  have asked : (connection.log .debug "Cloud transport event"
      [("event", .text CloudEvent.userAssociated.name)]).cloud.isSet Cloud.associationRequest = true := requested
  simp only [onCloudEvent, onAssociated, asked, if_true]
  rfl

/-- A modem that attaches while the transport is not connected is seen as the bits that it raises. -/
theorem outlook_attached (apart : connection.isConnected = false) (clock : Bool) :
    (Session.attached clock connection).outlook config shadows =
      { connection.outlook config shadows with
        network := (connection.network.reset.post Network.connected).1
        dateTime := if clock then (connection.dateTime.post DateTime.known).1 else connection.dateTime
        woken := connection.woken ++ (connection.network.reset.post Network.connected).2 ++
          if clock then (connection.dateTime.post DateTime.known).2 else [] } := by
  have down : ((connection.log .debug "Network registration status"
      [("status", .text Registration.searching.label)]).clear .network).isConnected = false := apart
  -- A modem that searches is not registered, which drops no session if none is up.
  have searching : connection.onRegistration .searching = (connection.log .debug "Network registration status"
      [("status", .text Registration.searching.label)]).clear .network := by
    simp [onRegistration, Registration.isRegistered, down]
  cases clock with
  | false =>
    simp only [Session.attached, searching, if_false, Bool.false_eq_true, List.append_nil]
    rfl
  | true =>
    simp only [Session.attached, searching, if_true]
    rfl

end Connection

namespace Connection

variable {connection : Connection} {name : RegisterName} {condition : Condition} {bits : UInt32}

/-- A register that is replaced by itself is not replaced. -/
@[simp] theorem setRegister_self (connection : Connection) (name : RegisterName) :
    connection.setRegister name (connection.register name) = connection := by
  -- Each register is replaced in place.
  cases name <;> rfl

/-- A wait for what is there is over at once. -/
theorem await_met (connection : Connection) (agenda : Agenda) (task : TaskId) (name : RegisterName) (timeout : Timeout)
    (met : condition.matched (connection.register name).bits = some bits) :
    connection.await agenda task name condition timeout = (.answered bits, connection) := by
  -- The condition is met, so nothing is parked and the register stays as it is.
  simp [await, Register.wait_met met]

/-- A wait that has its answer tells it, and nothing else changes. -/
theorem poll_answered (connection : Connection) (agenda : Agenda) (name : RegisterName) (bits : UInt32) :
    connection.poll agenda name (.answered bits) = (some bits, connection) := by
  -- The answer was given when the wait began, so the register is not asked.
  simp [poll, Register.poll]

/-- A look at a wait is a look at its register. -/
theorem poll_eq (connection : Connection) (name : RegisterName) {agenda : Agenda} {wait : Wait}
    {answer : Option UInt32} {register : Register}
    (looked : (connection.register name).poll agenda wait = (answer, register)) :
    connection.poll agenda name wait = (answer, connection.setRegister name register) := by
  -- The register is put back as the look has left it.
  simp [poll, looked]

end Connection

namespace Supervisor

/-- What a run of the supervisor goes by. -/
def outlook (supervisor : Supervisor) : Outlook :=
  supervisor.connection.outlook supervisor.config (supervisor.requests.count .publishShadow)

variable {supervisor : Supervisor} {agenda : Agenda} {task : TaskId} {run : Run} {wait : Wait} {due : Option Nat}
  {bits : UInt32}

/-- Writing an entry changes nothing that a run goes by. -/
@[simp] theorem outlook_log (supervisor : Supervisor) (level : Level) (message : String) (fields : Fields) :
    (supervisor.log level message fields).outlook = supervisor.outlook := rfl

/-- Showing something changes nothing that a run goes by. -/
@[simp] theorem outlook_indicate (supervisor : Supervisor) (indication : Indication) (always : Bool) :
    (supervisor.indicate indication always).outlook = supervisor.outlook := rfl

/-- Most of what is counted is nothing that a run goes by. -/
theorem outlook_count (supervisor : Supervisor) (event : Metrics.Count) (other : event ≠ .forcedDisconnect)
    (kept : event ≠ .reset) : (supervisor.count event).outlook = supervisor.outlook :=
  -- The count goes to the connection.
  supervisor.connection.outlook_count _ _ event other kept

/-- Moving to another phase changes nothing that a run goes by. -/
@[simp] theorem outlook_advance (supervisor : Supervisor) (now : Nat) (event : PhaseEvent) :
    (supervisor.advance now event).outlook = supervisor.outlook := by
  unfold advance
  split
  · rfl
  · rename_i next leads
    refine (outlook_count _ (.setPhase next.name) (by simp) (by simp)).trans ?_
    -- The change is noted or not, and neither is a request.
    dsimp only
    split <;> simp [outlook, requests, log]

/-- A request is nothing that a run goes by, unless it is to publish the shadow. -/
theorem outlook_ask (supervisor : Supervisor) (agenda : Agenda) (run : Run) {request : Request}
    (other : request ≠ .publishShadow) : (supervisor.ask agenda run request).2.outlook = supervisor.outlook := by
  -- Only requests for the shadow are counted in the outlook.
  simp [outlook, requests, ask, goTo, other]

/-- A step leads on at once, to this place and this outlook. -/
def Goes (stepped : Stepped) (place : Place) (outlook : Outlook) : Prop :=
  ∃ onward, stepped.1 = .next onward ∧ onward.place = place ∧ stepped.2.outlook = outlook

/-- What a run goes by may be told in another way. -/
theorem Goes.onto {stepped : Stepped} {place : Place} {outlook other : Outlook} (goes : Goes stepped place outlook)
    (same : outlook = other) : Goes stepped place other :=
  -- The two outlooks are equal.
  same ▸ goes

/-- A request other than for the shadow leads to its place. -/
theorem goes_ask (supervisor : Supervisor) (agenda : Agenda) (run : Run) {request : Request}
    (other : request ≠ .publishShadow) :
    Goes (supervisor.ask agenda run request) (.calling request) supervisor.outlook :=
  -- The run goes to the place of the request.
  ⟨_, rfl, rfl, outlook_ask supervisor agenda run other⟩

/-- An attempt to connect leads to its place. -/
theorem goes_attempt (supervisor : Supervisor) (agenda : Agenda) (run : Run) :
    Goes (supervisor.attempt agenda run) (.calling .connectCloud) supervisor.outlook :=
  -- The attempt is counted first, and that is nothing to go by.
  (goes_ask (supervisor.count .connectAttempt) agenda run (by simp)).onto
    (supervisor.outlook_count .connectAttempt (by simp) (by simp))

/-! ### Steps -/

/-- A run that has been started asks for the modem to be set up. -/
theorem goes_starting (place : run.place = .starting) :
    Goes (supervisor.step agenda task run) (.calling .modemInit) supervisor.outlook := by
  -- The first step does nothing but ask.
  simp only [step, place]
  exact goes_ask _ agenda run (by simp)

/-- A cycle that begins with the network up has found it. -/
theorem goes_cycleStart (place : run.place = .cycleStart)
    (up : (Condition.all Network.connected).matched supervisor.connection.network.bits = some bits) :
    Goes (supervisor.step agenda task run) (.awaitingNetwork (.answered bits)) supervisor.outlook := by
  -- The bit is there, so the wait is over as it begins.
  have found := Connection.await_met (((supervisor.log .info "Waiting for connection to network...").indicate
    .waiting false).connection.log .debug "Awaiting network connection" []) agenda task .network .forever up
  simp only [step, place, Connection.awaitNetwork, found]
  exact ⟨_, rfl, rfl, rfl⟩

/-- With the network up the transport is asked to connect. -/
theorem goes_awaitingNetwork (place : run.place = .awaitingNetwork (.answered bits)) :
    Goes (supervisor.step agenda task run) (.calling .connectCloud) supervisor.outlook := by
  -- The answer is there, so the step goes on to the attempt.
  simp only [step, place, Connection.poll_answered]
  exact (goes_attempt _ agenda run).onto (by simp)

/-- A transport that was not connected in time is asked again. -/
theorem goes_awaitingCloud_late (place : run.place = .awaitingCloud wait) {register : Register}
    (late : supervisor.connection.cloud.poll agenda wait = (some 0, register)) :
    Goes (supervisor.step agenda task run) (.calling .connectCloud)
      { supervisor.outlook with cloud := register } := by
  -- The answer has no bits, which is how a wait that has timed out ends.
  have looked := Connection.poll_eq supervisor.connection .cloud late
  simp only [step, place, looked, if_true]
  refine (goes_attempt _ agenda run).onto ?_
  rw [outlook_advance, outlook_log]
  rfl

/-- A transport that is connected is waited for to become ready; the first bits that are there of those of interest
are the answer. -/
theorem goes_awaitingCloud (place : run.place = .awaitingCloud (.answered bits)) (met : bits ≠ 0) {told : UInt32}
    (tells : (Condition.any (Cloud.ready ||| Cloud.disconnected)).matched supervisor.connection.cloud.bits =
      some told) :
    Goes (supervisor.step agenda task run) (.awaitingReady (.answered told)) supervisor.outlook := by
  -- Before the wait the connection is counted and logged, and the phase moves on; none of this touches the
  -- register.
  let entered := ((supervisor.count .cloudConnectionEstablished).advance agenda.now .cloudConnected).log .info
    "Connected to cloud, waiting for session to become ready"
  have same : entered.outlook = supervisor.outlook :=
    (outlook_advance _ _ _).trans (outlook_count _ _ (by simp) (by simp))
  have cloud : entered.connection.cloud = supervisor.connection.cloud := congrArg Outlook.cloud same
  have found := Connection.await_met (entered.connection.log .debug "Awaiting cloud ready" []) agenda task .cloud
    (.after (ConnectionSection.millis entered.config.connection.readyTimeout))
    ((congrArg (fun register => Condition.matched _ register.bits) cloud).trans tells)
  simp only [step, place, Connection.poll_answered, if_neg met, Connection.awaitReady, if_true]
  rw [found]
  exact ⟨_, rfl, rfl, same⟩

/-- A session that has dropped before it was ready is given up. -/
theorem goes_awaitingReady_failed (place : run.place = .awaitingReady (.answered bits)) (other : bits ≠ Cloud.ready) :
    Goes (supervisor.step agenda task run)
      (.settling (agenda.deadline (ConnectionSection.millis supervisor.config.connection.settleDelay)))
      supervisor.outlook := by
  -- The answer is another than the session being ready, which is logged and counted as a timeout.
  let noted := ((supervisor.log .info "Timed out or disconnected while waiting for cloud to be ready").log .info
    "Failed to connect to cloud").count .readyTimeout
  have same : (noted.advance agenda.now .readyTimedOut).outlook = supervisor.outlook :=
    (outlook_advance _ _ _).trans (outlook_count _ _ (by simp) (by simp))
  have config : (noted.advance agenda.now .readyTimedOut).config = supervisor.config := congrArg Outlook.config same
  have settles : Goes ((noted.advance agenda.now .readyTimedOut).letSettle agenda run) _ _ := ⟨_, rfl, rfl, same⟩
  rw [config] at settles
  simp only [step, place, Connection.poll_answered, if_neg other]
  exact settles

/-- A session that is ready has its shadow published. -/
theorem goes_awaitingReady (place : run.place = .awaitingReady (.answered Cloud.ready)) :
    Goes (supervisor.step agenda task run) (.calling .publishShadow)
      { supervisor.outlook with shadows := supervisor.outlook.shadows + 1 } := by
  -- The ready session is counted and logged first, and the phase moves on; none of this touches the register.
  let noted := ((supervisor.log .info "Connected to cloud and ready").count .cloudReady).advance agenda.now
    .cloudReady
  have same : noted.outlook = supervisor.outlook :=
    (outlook_advance _ _ _).trans (outlook_count _ _ (by simp) (by simp))
  simp only [step, place, Connection.poll_answered, if_true]
  refine ⟨_, rfl, rfl, ?_⟩
  rw [← same]
  simp [outlook, Connection.outlook, requests, ask, goTo, indicate, log, noted, Connection.log, Telemetry.log]

/-- Once late events have had their time the transport is asked to disconnect. -/
theorem goes_settling (place : run.place = .settling due) (come : agenda.reached due = true) :
    Goes (supervisor.step agenda task run) (.calling .disconnectCloud) supervisor.outlook := by
  -- The deadline is the only thing that the place looks at.
  simp only [step, place, come, if_true]
  exact goes_ask _ agenda run (by simp)

/-- After the pause the next cycle begins. -/
theorem goes_backingOff (place : run.place = .backingOff due) (come : agenda.reached due = true) :
    Goes (supervisor.step agenda task run) .cycleStart supervisor.outlook := by
  -- The deadline is the only thing that the place looks at.
  simp only [step, place, come, if_true]
  exact ⟨_, rfl, rfl, outlook_advance _ _ _⟩

/-- Before its deadline a place that sets one of its own is not left. -/
theorem parks_early (early : agenda.reached due = false)
    (place : run.place = .settling due ∨ run.place = .backingOff due) :
    supervisor.step agenda task run = (.parked run, supervisor) := by
  -- Both places look at nothing but their deadline.
  rcases place with place | place <;> simp [step, place, early]

/-- A wait for the transport that has no answer yet goes on. -/
theorem parks_awaitingCloud (place : run.place = .awaitingCloud wait) {register : Register}
    (unanswered : supervisor.connection.cloud.poll agenda wait = (none, register)) :
    supervisor.step agenda task run = (.parked run, supervisor) := by
  -- A look without an answer is a look that changes nothing.
  simp only [step, place, Connection.poll_eq supervisor.connection .cloud unanswered]

/-- A session that has not dropped is watched on. -/
theorem parks_awaitingDrop (place : run.place = .awaitingDrop wait) {register : Register}
    (unanswered : supervisor.connection.cloud.poll agenda wait = (none, register)) :
    supervisor.step agenda task run = (.parked run, supervisor) := by
  -- A look without an answer is a look that changes nothing.
  simp only [step, place, Connection.poll_eq supervisor.connection .cloud unanswered]

/-! ### Replies -/

/-- The modem that is up has its clock reach the connection. -/
theorem resume_modemInit (start : ModemStart) :
    Goes (supervisor.resume agenda task run .modemInit (.ok start)) (.calling .registerClock) supervisor.outlook := by
  -- How the modem has started is logged, in one of two ways.
  refine (goes_ask (supervisor.noteModemStart start) agenda run (by simp)).onto ?_
  cases start <;> rfl

/-- Once the clock reaches the connection the transport is set up. -/
theorem resume_registerClock :
    Goes (supervisor.resume agenda task run .registerClock ()) (.calling .transportInit) supervisor.outlook :=
  -- Only the phase moves between the two requests.
  (goes_ask _ agenda run (by simp)).onto (outlook_advance supervisor agenda.now .setupSucceeded)

/-- Once the transport is set up the modem is asked for what the configuration wants of it. -/
theorem resume_transportInit : ∃ request, (request = .requestPsm ∨ request = .enableEvents) ∧
    Goes (supervisor.resume agenda task run .transportInit (.ok ())) (.calling request) supervisor.outlook := by
  have same := outlook_advance supervisor agenda.now .setupSucceeded
  -- The configuration says which of the two requests comes first.
  by_cases saving : ((supervisor.advance agenda.now .setupSucceeded).log .info
      "Setting up network...").config.features.powerSavingMode = true
  · refine ⟨.requestPsm, .inl rfl, ?_⟩
    simp only [resume, if_pos saving]
    exact (goes_ask _ agenda run (by simp)).onto same
  · refine ⟨.enableEvents, .inr rfl, ?_⟩
    simp only [resume, if_neg saving]
    exact (goes_ask _ agenda run (by simp)).onto same

/-- After the power saving mode the modem is asked to report on itself. -/
theorem resume_requestPsm :
    Goes (supervisor.resume agenda task run .requestPsm (.ok ())) (.calling .enableEvents) supervisor.outlook :=
  -- Only an entry is written between the two requests.
  goes_ask (supervisor.log .info "PSM mode requested") agenda run (by simp)

/-- A modem that reports on itself is asked to connect to the network. -/
theorem resume_enableEvents :
    Goes (supervisor.resume agenda task run .enableEvents (.ok ())) (.calling .connectNetwork) supervisor.outlook :=
  -- Only an entry is written between the two requests.
  goes_ask (supervisor.log .info "Starting connection to LTE network...") agenda run (by simp)

/-- With a modem that connects to the network the first cycle begins. -/
theorem resume_connectNetwork :
    Goes (supervisor.resume agenda task run .connectNetwork (.ok ())) .cycleStart supervisor.outlook :=
  -- The phase moves twice: out of the setup, and to the network.
  ⟨_, rfl, rfl, (outlook_advance _ _ _).trans (outlook_advance _ _ _)⟩

/-- Whatever the transport says to a request to connect, its connection is waited for. -/
theorem resume_connectCloud (reply : Request.connectCloud.Reply) :
    Goes (supervisor.resume agenda task run .connectCloud reply)
      (.awaitingCloud (supervisor.connection.cloud.wait agenda task (.any Cloud.connected)
        (.after (ConnectionSection.millis supervisor.config.connection.retryTimeout))).1)
      { supervisor.outlook with
        cloud := (supervisor.connection.cloud.wait agenda task (.any Cloud.connected)
          (.after (ConnectionSection.millis supervisor.config.connection.retryTimeout))).2 } := by
  -- An error is logged, and the wait that follows is the same.
  cases reply with
  | error error => exact ⟨_, rfl, rfl, rfl⟩
  | ok value => exact ⟨_, rfl, rfl, rfl⟩

/-- Whether or not the shadow could be published, the session is watched from then on. -/
theorem resume_publishShadow (reply : Request.publishShadow.Reply) :
    Goes (supervisor.resume agenda task run .publishShadow reply)
      (.awaitingDrop (supervisor.connection.cloud.wait agenda task (.any Cloud.disconnected) .forever).1)
      { supervisor.outlook with
        cloud := (supervisor.connection.cloud.wait agenda task (.any Cloud.disconnected) .forever).2 } := by
  -- Whether publishing has worked is counted, and nothing else follows from it.
  let noted : Supervisor := { supervisor with connection := supervisor.connection.notePublish reply }
  have counted : noted.outlook = supervisor.outlook := by
    cases reply with
    | error error => exact Connection.outlook_count _ _ _ .shadowFailed (by simp) (by simp)
    | ok value => exact Connection.outlook_count _ _ _ .shadowUpdated (by simp) (by simp)
  have same : (noted.advance agenda.now .shadowPublished).outlook = supervisor.outlook :=
    (outlook_advance _ _ _).trans counted
  have cloud : (noted.advance agenda.now .shadowPublished).connection.cloud = supervisor.connection.cloud :=
    congrArg Outlook.cloud same
  rw [← same, ← cloud]
  exact ⟨_, rfl, rfl, rfl⟩

/-- Whether or not the transport could be disconnected, what the session has raised is forgotten, and the supervisor
pauses. -/
theorem resume_disconnectCloud (reply : Request.disconnectCloud.Reply) :
    Goes (supervisor.resume agenda task run .disconnectCloud reply)
      (.backingOff (agenda.deadline (ConnectionSection.millis supervisor.config.connection.reestablishDelay)))
      { supervisor.outlook with cloud := supervisor.connection.cloud.reset } := by
  -- The answer is noted, the cloud register is cleared, and the reset is counted.
  let noted := supervisor.noteDisconnect reply
  have untouched : noted.outlook = supervisor.outlook := by
    simp only [noted, noteDisconnect]
    split <;> rfl
  let cleared : Supervisor := { noted with connection := noted.connection.clearCloud }
  have forgotten : cleared.outlook = { noted.outlook with cloud := noted.connection.cloud.reset } := rfl
  have cloud : noted.connection.cloud = supervisor.connection.cloud := congrArg Outlook.cloud untouched
  rw [untouched, cloud] at forgotten
  have same : (((cleared.count .resetPerformed).log .info "Cloud connection state reset").advance agenda.now
      .resetComplete).outlook = { supervisor.outlook with cloud := supervisor.connection.cloud.reset } := by
    rw [outlook_advance, outlook_log, outlook_count _ _ (by simp) (by simp), forgotten]
  have config := congrArg Outlook.config same
  exact ⟨_, rfl, congrArg (fun config : Config => Place.backingOff (agenda.deadline
    (ConnectionSection.millis config.connection.reestablishDelay))) config, same⟩

end Supervisor

end Uplink
