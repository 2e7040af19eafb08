import Uplink.Proofs.Session.Solo
import Uplink.Proofs.Session.Timetable

/-! A device that is associated while its transport keeps refusing: how long it takes, and what it costs. -/

namespace Uplink

open Flags (Condition Register Ticket Timeout Wait)

/-! ### The modem and the cloud -/

/-- The modem comes up, does what it is asked for, and is registered as soon as it is asked to connect. -/
structure Simulated.Modem.Attaches (modem : Modem) : Prop where
  starts : ∃ start, modem.start = .ok start
  saves : modem.psmFault = none
  tells : modem.eventsFault = none
  connects : modem.connectFault = none
  registers : modem.registers = true
  atOnce : modem.pause = none

/-- The cloud asks for the device to be associated: its events come within the requests, and neither setting it up nor
disconnecting is to fail. It has counted so many requests to connect, failures still to come, sessions, and requests to
disconnect. -/
structure Simulated.Cloud.Tally (cloud : Cloud) (connects failures sessions disconnects : Nat) : Prop where
  script : cloud.script = .association
  inline : cloud.pause = none
  starts : cloud.failsInit = false
  answers : cloud.disconnectFaults = []
  connects : cloud.connects = connects
  failures : cloud.connectFailures = failures
  sessions : cloud.sessions = sessions
  disconnects : cloud.disconnects = disconnects

namespace Simulated.Cloud.Tally

variable {cloud : Cloud} {connects failures sessions disconnects : Nat}

/-- A request to connect that is to fail does, and one failure less is to come. -/
theorem refuses (tally : cloud.Tally connects (failures + 1) sessions disconnects) :
    ∃ error, cloud.connect.1 = .error error ∧ cloud.connect.2.Tally (connects + 1) failures sessions disconnects ∧
      cloud.connect.2.isInitialized = cloud.isInitialized := by
  -- With a failure to come the script is not looked at.
  have answers : cloud.connect = (.error (.connectFailed "mock connect failure"),
      { cloud with connects := cloud.connects + 1, connectFailures := cloud.connectFailures - 1 }) := by
    simp [connect, tally.failures]
  rw [answers]
  exact ⟨_, rfl, { tally with connects := by simp [tally.connects], failures := by simp [tally.failures] }, rfl⟩

/-- A request to connect that is not to fail opens a session. -/
theorem opens (tally : cloud.Tally connects 0 sessions disconnects) (initialized : cloud.isInitialized = true) :
    cloud.connect.1 = .ok (Script.association.events sessions) ∧
      cloud.connect.2.Tally (connects + 1) 0 (sessions + 1) disconnects ∧ cloud.connect.2.isInitialized = true := by
  have known : cloud.enrolment.isSome = true := initialized
  -- Without one the script gives the events of the session that begins.
  have answers : cloud.connect = (.ok (Script.association.events sessions),
      { cloud with connects := cloud.connects + 1, connected := true, sessions := cloud.sessions + 1 }) := by
    simp [connect, isInitialized, known, tally.failures, tally.script, tally.sessions]
  rw [answers]
  exact ⟨rfl, { tally with connects := by simp [tally.connects], sessions := by simp [tally.sessions] }, initialized⟩

/-- A request to disconnect is counted, whatever comes of it. -/
theorem leaves (tally : cloud.Tally connects failures sessions disconnects) :
    cloud.disconnect.2.Tally connects failures sessions (disconnects + 1) ∧
      cloud.disconnect.2.isInitialized = cloud.isInitialized := by
  -- The count goes up before the answer is looked up.
  simp only [disconnect, tally.answers]
  exact ⟨{ tally with answers := rfl, disconnects := by simp [tally.disconnects] }, rfl⟩

/-- Publishing a shadow is counted nowhere here. -/
theorem publishes (tally : cloud.Tally connects failures sessions disconnects) (status : ShadowStatus) :
    (cloud.publish status).2.Tally connects failures sessions disconnects := by
  -- Publishing takes from other scripts than connecting does.
  unfold publish
  split
  · exact { tally with }
  · dsimp only
    split <;> exact { tally with }

end Simulated.Cloud.Tally

namespace Outlook

/-- What a run goes by: this configuration, these bits of the cloud register, on which nobody waits, nobody to be
woken, and so many forced disconnects and shadows. -/
structure Reads (outlook : Outlook) (config : Config) (bits : UInt32) (forced : UInt64) (shadows : Nat) : Prop where
  config : outlook.config = config
  idle : outlook.cloud.Idle
  bits : outlook.cloud.bits = bits
  woken : outlook.woken = []
  forced : outlook.forced = forced
  shadows : outlook.shadows = shadows

/-- A wait on the cloud register has parked. -/
def park (outlook : Outlook) (task : TaskId) (condition : Condition) (due : Option Nat) : Outlook :=
  { outlook with cloud := (outlook.cloud.park task condition due).2 }

variable {outlook : Outlook} {config : Config} {bits : UInt32} {forced : UInt64} {shadows : Nat}

/-- With other bits on the cloud register the rest reads as before. -/
theorem Reads.cloud (reads : outlook.Reads config bits forced shadows) {register : Register} (idle : register.Idle)
    {others : UInt32} (same : register.bits = others) :
    ({ outlook with cloud := register } : Outlook).Reads config others forced shadows :=
  -- Only the register itself is read anew.
  ⟨reads.config, idle, same, reads.woken, reads.forced, reads.shadows⟩

/-- Raising bits wakes nobody. -/
theorem Reads.post (reads : outlook.Reads config bits forced shadows) (mask : UInt32) :
    (outlook.post mask).Reads config (bits ||| mask) forced shadows := by
  -- On an idle register nobody waits, so there is nobody to wake.
  obtain ⟨idle, nobody⟩ := reads.idle.post mask
  refine ⟨reads.config, idle, congrArg (· ||| mask) reads.bits, ?_, reads.forced, reads.shadows⟩
  simp [Outlook.post, nobody, reads.woken]

end Outlook

/-- The network is there, and the transport was set up. -/
structure Outlook.Up (outlook : Outlook) (cloud : Simulated.Cloud) : Prop where
  network : (Condition.all Network.connected).matched outlook.network.bits = some Network.connected
  transport : cloud.isInitialized = true

/-- The bits that the first session leaves: it was connected, asked for the device to be associated, and was given
up once it was. -/
def Cloud.associated : UInt32 :=
  Cloud.connected ||| Cloud.associationRequest ||| Cloud.disconnected

namespace Connection

variable {connection : Connection} {config own : Config} {forced : UInt64} {shadows count : Nat}

/-- In the first session the device is associated, and a disconnect is forced. -/
theorem reads_first_session (reads : (connection.outlook own count).Reads config 0 forced shadows) :
    (((Simulated.Script.association.events 0).foldl Connection.onCloudEvent connection).outlook own count).Reads config
        Cloud.associated (forced + 1) shadows ∧
      ((Simulated.Script.association.events 0).foldl Connection.onCloudEvent connection).network =
        connection.network := by
  -- Up to the event that tells of the association every event is a bit, or nothing.
  let asked := ((connection.onCloudEvent .connecting).onCloudEvent .connected).onCloudEvent .userAssociationRequest
  have seen : (asked.outlook own count).Reads config (0 ||| Cloud.connected ||| Cloud.associationRequest) forced
      shadows := (reads.post Cloud.connected).post Cloud.associationRequest
  have requested : asked.cloud.isSet Cloud.associationRequest = true := by
    have bits : asked.cloud.bits = 0 ||| Cloud.connected ||| Cloud.associationRequest := seen.bits
    rw [Register.isSet, bits]
    decide
  have dropped := seen.post Cloud.disconnected
  have told := asked.outlook_userAssociated own count requested
  refine ⟨?_, congrArg Outlook.network told⟩
  show ((asked.onCloudEvent .userAssociated).outlook own count).Reads _ _ _ _
  rw [told]
  exact ⟨dropped.config, dropped.idle, dropped.bits, dropped.woken, congrArg (· + 1) dropped.forced, dropped.shadows⟩

/-- Every later session is ready at once. -/
theorem reads_later_session (earlier : Nat) (reads : (connection.outlook own count).Reads config 0 forced shadows) :
    (((Simulated.Script.association.events (earlier + 1)).foldl Connection.onCloudEvent connection).outlook own
        count).Reads config (Cloud.connected ||| Cloud.ready) forced shadows ∧
      ((Simulated.Script.association.events (earlier + 1)).foldl Connection.onCloudEvent connection).network =
        connection.network :=
  -- The events of a later session are two, and each raises a bit.
  ⟨(reads.post Cloud.connected).post Cloud.ready, rfl⟩

/-- A modem that attaches raises bits that nobody waits for, and the network is there. -/
theorem reads_attached (reads : (connection.outlook own count).Reads config 0 forced shadows)
    (network : (connection.outlook own count).network.Idle) (dateTime : (connection.outlook own count).dateTime.Idle)
    (clock : Bool) :
    ((Session.attached clock connection).outlook own count).Reads config 0 forced shadows ∧
      (Condition.all Network.connected).matched
        ((Session.attached clock connection).outlook own count).network.bits = some Network.connected := by
  have apart : connection.isConnected = false := by
    have bits : connection.cloud.bits = 0 := reads.bits
    rw [isConnected, Register.isSet, bits]
    decide
  -- No session is up that could be lost, and nobody waits on the registers whose bits are raised.
  have nobody : connection.woken = [] := reads.woken
  obtain ⟨-, quiet⟩ := network.reset.post Network.connected
  obtain ⟨-, silent⟩ := dateTime.post DateTime.known
  rw [connection.outlook_attached own count apart clock]
  have up : (Condition.all Network.connected).matched (0 ||| Network.connected) = some Network.connected := by decide
  refine ⟨⟨reads.config, reads.idle, reads.bits, ?_, reads.forced, reads.shadows⟩, up⟩
  show connection.woken ++ (connection.network.reset.post Network.connected).2 ++
    (if clock then (connection.dateTime.post DateTime.known).2 else []) = []
  rw [nobody, show (connection.network.reset.post Network.connected).2 = [] from quiet,
    show (connection.dateTime.post DateTime.known).2 = [] from silent, ite_self]
  rfl

end Connection

/-- How long it takes until the second session begins: as many attempts as fail, the time for late events once the
device is associated, and the pause after the reset. -/
def Config.associationSpan (config : Config) (failures : Nat) : Nat :=
  failures * config.retrySpan + config.settleSpan + config.pauseSpan

namespace Session

/-! ### The way to the second session -/

/-- The supervisor stays until a deadline, unless that has come, and so many turns and stops of the clock are left. -/
inductive Stays (due : Nat) : Nat → Bool → Nat → Prop where
  | awake {now : Nat} (early : now < due) : Stays due now true 3
  | asleep {now : Nat} (early : now < due) : Stays due now false 2
  | come : Stays due due true 1

/-- The places of the setup, and how many more of them there are at most. -/
inductive Prepares : Supervisor.Place → Nat → Prop where
  | starting : Prepares .starting 6
  | modemInit : Prepares (.calling .modemInit) 5
  | registerClock : Prepares (.calling .registerClock) 4
  | transportInit : Prepares (.calling .transportInit) 3
  | requestPsm : Prepares (.calling .requestPsm) 2
  | enableEvents : Prepares (.calling .enableEvents) 1
  | connectNetwork : Prepares (.calling .connectNetwork) 0

/-- The places of a cycle that finds the network up, until the transport is asked to connect. -/
inductive Dials : Supervisor.Place → Nat → Prop where
  | cycleStart : Dials .cycleStart 2
  | awaitingNetwork : Dials (.awaitingNetwork (.answered Network.connected)) 1
  | connectCloud : Dials (.calling .connectCloud) 0

/-- The places of a cycle that finds the transport connected and is told at once what became of the session. -/
inductive Finds (told : UInt32) : Supervisor.Place → Nat → Prop where
  | connected : Finds told (.awaitingCloud (.answered Cloud.connected)) 1
  | told : Finds told (.awaitingReady (.answered told)) 0

/-- The instants at which the transport is asked to connect: after each attempt that has failed, and again after the
device was associated. -/
inductive Outset (config : Config) (failures : Nat) (outlook : Outlook) (cloud : Simulated.Cloud) :
    Nat → Nat → Prop where
  | trying {tries : Nat} (fits : tries ≤ failures) (reads : outlook.Reads config 0 0 0)
      (tally : cloud.Tally tries (failures - tries) 0 0) :
      Outset config failures outlook cloud (tries * config.retrySpan) (17 + 4 * (failures - tries))
  | again (reads : outlook.Reads config 0 1 0) (tally : cloud.Tally (failures + 1) 0 1 1) :
      Outset config failures outlook cloud (config.associationSpan failures) 5

/-- The way of the supervisor to its second session, with the number of turns and stops of the clock that are left of
it at most. -/
inductive Itinerary (config : Config) (failures : Nat) (task : TaskId) : Nat → Scene → Prop where
  | preparing {place outlook cloud modem left} (prepares : Prepares place left) (reads : outlook.Reads config 0 0 0)
      (tally : cloud.Tally 0 failures 0 0) (attaches : modem.Attaches) (network : outlook.network.Idle)
      (dateTime : outlook.dateTime.Idle) (initialized : left < 3 → cloud.isInitialized = true) :
      Itinerary config failures task (20 + 4 * failures + left) ⟨0, true, place, outlook, cloud, modem⟩
  | dialing {place outlook cloud modem now left more} (outset : Outset config failures outlook cloud now left)
      (dials : Dials place more) (up : outlook.Up cloud) :
      Itinerary config failures task (left + more) ⟨now, true, place, outlook, cloud, modem⟩
  /-- An attempt has failed, and the next one follows when its time is over. -/
  | retrying {outlook : Outlook} {cloud modem now tries left awake} (fewer : tries + 1 ≤ failures)
      (stays : Stays ((tries + 1) * config.retrySpan) now awake left) (reads : outlook.Reads config 0 0 0)
      (tally : cloud.Tally (tries + 1) (failures - (tries + 1)) 0 0) (up : outlook.Up cloud) :
      Itinerary config failures task (17 + 4 * (failures - (tries + 1)) + left)
        ⟨now, awake, .awaitingCloud (.parked outlook.cloud.nextTicket (some ((tries + 1) * config.retrySpan))),
          outlook.park task (.any Cloud.connected) (some ((tries + 1) * config.retrySpan)), cloud, modem⟩
  | associated {place outlook cloud modem left} (finds : Finds Cloud.disconnected place left)
      (reads : outlook.Reads config Cloud.associated 1 0) (tally : cloud.Tally (failures + 1) 0 1 0)
      (up : outlook.Up cloud) :
      Itinerary config failures task (15 + left) ⟨failures * config.retrySpan, true, place, outlook, cloud, modem⟩
  /-- The device was associated in the first session, and late events have their time. -/
  | settling {outlook cloud modem now left awake}
      (stays : Stays (failures * config.retrySpan + config.settleSpan) now awake left)
      (reads : outlook.Reads config Cloud.associated 1 0) (tally : cloud.Tally (failures + 1) 0 1 0)
      (up : outlook.Up cloud) :
      Itinerary config failures task (11 + left)
        ⟨now, awake, .settling (some (failures * config.retrySpan + config.settleSpan)), outlook, cloud, modem⟩
  | leaving {outlook cloud modem} (reads : outlook.Reads config Cloud.associated 1 0)
      (tally : cloud.Tally (failures + 1) 0 1 0) (up : outlook.Up cloud) :
      Itinerary config failures task 11
        ⟨failures * config.retrySpan + config.settleSpan, true, .calling .disconnectCloud, outlook, cloud, modem⟩
  | pausing {outlook cloud modem now left awake} (stays : Stays (config.associationSpan failures) now awake left)
      (reads : outlook.Reads config 0 1 0) (tally : cloud.Tally (failures + 1) 0 1 1) (up : outlook.Up cloud) :
      Itinerary config failures task (7 + left)
        ⟨now, awake, .backingOff (some (config.associationSpan failures)), outlook, cloud, modem⟩
  | ready {place outlook cloud modem left} (finds : Finds Cloud.ready place left)
      (reads : outlook.Reads config (Cloud.connected ||| Cloud.ready) 1 0)
      (tally : cloud.Tally (failures + 2) 0 2 1) :
      Itinerary config failures task (3 + left)
        ⟨config.associationSpan failures, true, place, outlook, cloud, modem⟩
  | publishing {outlook cloud modem} (reads : outlook.Reads config (Cloud.connected ||| Cloud.ready) 1 1)
      (tally : cloud.Tally (failures + 2) 0 2 1) :
      Itinerary config failures task 2
        ⟨config.associationSpan failures, true, .calling .publishShadow, outlook, cloud, modem⟩
  /-- The second session is ready, and its drop is waited for. -/
  | watching {outlook : Outlook} {cloud modem now awake} (late : config.associationSpan failures ≤ now)
      (reads : outlook.Reads config (Cloud.connected ||| Cloud.ready) 1 1)
      (tally : cloud.Tally (failures + 2) 0 2 1) :
      Itinerary config failures task (if awake then 1 else 0)
        ⟨now, awake, .awaitingDrop (.parked outlook.cloud.nextTicket none),
          outlook.park task (.any Cloud.disconnected) none, cloud, modem⟩

variable {session : Session} {task : TaskId} {config : Config} {failures now left more tries : Nat}
  {place : Supervisor.Place} {outlook : Outlook} {cloud : Simulated.Cloud} {modem : Simulated.Modem}

/-- The next turn leads on, at the same instant, and less of the way is left. -/
def Nears (config : Config) (failures : Nat) (task : TaskId) (now left : Nat) (session : Session) : Prop :=
  ∃ after scene fewer, session.turn? = some after ∧ after.Plays task scene ∧ scene.now = now ∧ fewer < left ∧
    Itinerary config failures task fewer scene

/-- Whoever is to stay until a deadline that is not past does so for a few turns at most. -/
theorem Stays.begin {due : Nat} (ahead : now ≤ due) : ∃ left, left ≤ 3 ∧ Stays due now true left := by
  -- A deadline that has come takes one turn; otherwise the task is awake, parks, and is woken.
  rcases Nat.eq_or_lt_of_le ahead with rfl | early
  · exact ⟨1, by decide, .come⟩
  · exact ⟨3, Nat.le_refl 3, .awake early⟩

/-- Whoever is awake before the deadline finds it ahead, and otherwise it has come. -/
theorem Stays.looks {due : Nat} (stays : Stays due now true left) {agenda : Agenda} (clock : agenda.now = now) :
    now < due ∧ left = 3 ∧ agenda.reached (some due) = false ∨
      now = due ∧ left = 1 ∧ agenda.reached (some due) = true := by
  -- The clock of the agenda is the one that the task looks at.
  cases stays with
  | awake early => exact .inl ⟨early, rfl, by simpa [Agenda.reached, clock] using early⟩
  | come => exact .inr ⟨rfl, rfl, by simp [Agenda.reached, clock]⟩

/-! ### The setup -/

/-- A modem that is asked to connect attaches within the request, and the first cycle finds the network. -/
theorem nears_connectNetwork
    (plays : session.Plays task ⟨0, true, .calling .connectNetwork, outlook, cloud, modem⟩)
    (reads : outlook.Reads config 0 0 0) (tally : cloud.Tally 0 failures 0 0) (attaches : modem.Attaches)
    (network : outlook.network.Idle) (dateTime : outlook.dateTime.Idle) (initialized : cloud.isInitialized = true) :
    session.Nears config failures task 0 (20 + 4 * failures) := by
  obtain ⟨opened, run, rfl, -, rfl, rfl, leads⟩ := plays.resumes
  let replied : Session := ({ opened with modem := { opened.modem with linkHandled := true } } : Session).mapConnection
    (attached opened.modem.clockHandled)
  -- The modem is registered as soon as it is asked, so what it raises is there before the supervisor goes
  -- on.
  have answers : opened.reply .connectNetwork = (.ok (), replied) := by
    show opened.connectModem = (.ok (), replied)
    simp [connectModem, Simulated.Modem.connect, attaches.connects, attaches.registers, attaches.atOnce, replied]
  obtain ⟨reads', up⟩ := Connection.reads_attached reads network dateTime opened.modem.clockHandled
  obtain ⟨after, turned, plays'⟩ := leads _ _ _ _ answers rfl rfl rfl Supervisor.resume_connectNetwork reads'.woken
  have outset : Outset config failures replied.supervisor.outlook opened.cloud (0 * config.retrySpan) _ :=
    .trying (Nat.zero_le failures) reads' tally
  rw [Nat.zero_mul] at outset
  exact ⟨after, _, _, turned, plays', rfl, by omega, .dialing outset .cycleStart ⟨up, initialized⟩⟩

/-- A reply of the modem alone leads on to the next request of the setup. -/
theorem nears_answered {request next : Request} {reply : request.Reply} {modem' : Simulated.Modem}
    (plays : session.Plays task ⟨0, true, .calling request, outlook, cloud, modem⟩)
    (replies : ∀ opened : Session, opened.cloud = cloud → opened.modem = modem →
      opened.reply request = (reply, { opened with cloud, modem := modem' }))
    (goes : ∀ (supervisor : Supervisor) (agenda : Agenda) (run : Supervisor.Run),
      Supervisor.Goes (supervisor.resume agenda task run request reply) (.calling next) supervisor.outlook)
    (prepares : Prepares (.calling next) more) (fewer : more < left) (reads : outlook.Reads config 0 0 0)
    (tally : cloud.Tally 0 failures 0 0) (attaches : modem'.Attaches) (network : outlook.network.Idle)
    (dateTime : outlook.dateTime.Idle) (initialized : more < 3 → cloud.isInitialized = true) :
    session.Nears config failures task 0 (20 + 4 * failures + left) := by
  -- The reply changes nothing that the supervisor can see, so the step after it is the given one.
  obtain ⟨after, turned, plays'⟩ := plays.answers reply cloud modem' replies
    (fun supervisor agenda run seen _ => (goes supervisor agenda run).onto seen) reads.woken
  exact ⟨after, _, _, turned, plays', rfl, Nat.add_lt_add_left fewer _,
    .preparing prepares reads tally attaches network dateTime initialized⟩

/-- A transport that is set up lets its events reach the device, and the modem is asked for the rest of the setup. -/
theorem nears_transportInit (plays : session.Plays task ⟨0, true, .calling .transportInit, outlook, cloud, modem⟩)
    (reads : outlook.Reads config 0 0 0) (tally : cloud.Tally 0 failures 0 0) (attaches : modem.Attaches)
    (network : outlook.network.Idle) (dateTime : outlook.dateTime.Idle) :
    session.Nears config failures task 0 (20 + 4 * failures + 3) := by
  -- What the transport learns about the device lies with the session.
  obtain ⟨opened, run, rfl, -, rfl, rfl, leads⟩ := plays.resumes
  have starts : opened.cloud.init opened.enrolment =
      (.ok (), { opened.cloud with enrolment := some opened.enrolment }) := by
    simp [Simulated.Cloud.init, tally.starts]
  have answers : opened.reply .transportInit =
      (.ok (), { opened with cloud := { opened.cloud with enrolment := some opened.enrolment } }) :=
    congrArg (fun answer => (answer.1, { opened with cloud := answer.2 })) starts
  obtain ⟨request, asks, goes⟩ := Supervisor.resume_transportInit
  obtain ⟨after, turned, plays'⟩ := leads _ _ _ _ answers rfl rfl rfl goes reads.woken
  have prepares : ∃ steps, steps < 3 ∧ Prepares (.calling request) steps := by
    rcases asks with rfl | rfl
    · exact ⟨2, by decide, .requestPsm⟩
    · exact ⟨1, by decide, .enableEvents⟩
  obtain ⟨steps, fewer, prepares⟩ := prepares
  exact ⟨after, _, _, turned, plays', rfl, Nat.add_lt_add_left fewer _,
    .preparing prepares reads { tally with } attaches network dateTime fun _ => rfl⟩

/-- Each turn of the setup leads on, and the last one finds the network. -/
theorem nears_preparing (plays : session.Plays task ⟨0, true, place, outlook, cloud, modem⟩)
    (prepares : Prepares place left) (reads : outlook.Reads config 0 0 0) (tally : cloud.Tally 0 failures 0 0)
    (attaches : modem.Attaches) (network : outlook.network.Idle) (dateTime : outlook.dateTime.Idle)
    (initialized : left < 3 → cloud.isInitialized = true) :
    session.Nears config failures task 0 (20 + 4 * failures + left) := by
  -- One turn for each request of the setup: the answer is read off the modem and the cloud, and the place
  -- that follows off the supervisor.
  cases prepares with
  | starting =>
    obtain ⟨supervisor, agenda, run, seen, -, here, leads, -⟩ := plays.steps (by simp)
    obtain ⟨after, turned, plays'⟩ := leads _ _ ((Supervisor.goes_starting here).onto seen) reads.woken
    exact ⟨after, _, _, turned, plays', rfl, by omega,
      .preparing .modemInit reads tally attaches network dateTime (by omega)⟩
  | modemInit =>
    obtain ⟨start, starts⟩ := attaches.starts
    have replies (opened : Session) (_ : opened.cloud = cloud) (_ : opened.modem = modem) :
        opened.reply .modemInit = (.ok start, { opened with cloud, modem := modem.init.2 }) := by
      subst_vars
      exact congrArg (·, _) starts
    exact nears_answered plays replies (fun _ _ _ => Supervisor.resume_modemInit start) .registerClock (by decide)
      reads tally { attaches with } network dateTime (by omega)
  | registerClock =>
    have replies (opened : Session) (_ : opened.cloud = cloud) (_ : opened.modem = modem) :
        opened.reply .registerClock = ((), { opened with cloud, modem := modem.registerClock }) := by
      subst_vars
      rfl
    exact nears_answered plays replies (fun _ _ _ => Supervisor.resume_registerClock) .transportInit (by decide)
      reads tally { attaches with } network dateTime (by omega)
  | transportInit => exact nears_transportInit plays reads tally attaches network dateTime
  -- The modem saves power on request, and notes that it was asked.
  | requestPsm =>
    have saves : modem.requestPsm true = (.ok (), { modem with psmRequests := true :: modem.psmRequests }) := by
      simp [Simulated.Modem.requestPsm, attaches.saves]
    have replies (opened : Session) (_ : opened.cloud = cloud) (_ : opened.modem = modem) :
        opened.reply .requestPsm =
          (.ok (), { opened with cloud, modem := { modem with psmRequests := true :: modem.psmRequests } }) := by
      subst_vars
      exact congrArg (fun answer => (answer.1, { opened with modem := answer.2 })) saves
    exact nears_answered plays replies (fun _ _ _ => Supervisor.resume_requestPsm) .enableEvents (by decide)
      reads tally { attaches with } network dateTime fun _ => initialized (by decide)
  -- The modem agrees to report on itself.
  | enableEvents =>
    have tells : modem.enableEvents = (.ok (), { modem with eventsEnabled := true }) := by
      simp [Simulated.Modem.enableEvents, attaches.tells]
    have replies (opened : Session) (_ : opened.cloud = cloud) (_ : opened.modem = modem) :
        opened.reply .enableEvents =
          (.ok (), { opened with cloud, modem := { modem with eventsEnabled := true } }) := by
      subst_vars
      exact congrArg (fun answer => (answer.1, { opened with modem := answer.2 })) tells
    exact nears_answered plays replies (fun _ _ _ => Supervisor.resume_enableEvents) .connectNetwork (by decide)
      reads tally { attaches with } network dateTime fun _ => initialized (by decide)
  | connectNetwork =>
    exact nears_connectNetwork plays reads tally attaches network dateTime (initialized (by decide))

/-! ### Attempts -/

/-- A request to connect that opens a session finds the transport connected, and whatever its events lead to. -/
theorem Plays.opens {connects sessions disconnects shadows : Nat} {bits : UInt32} {forced : UInt64}
    (plays : session.Plays task ⟨now, true, .calling .connectCloud, outlook, cloud, modem⟩)
    (tally : cloud.Tally connects 0 sessions disconnects) (up : outlook.Up cloud)
    (raises : ∀ (connection : Connection) (own : Config) (count : Nat), connection.outlook own count = outlook →
      (((Simulated.Script.association.events sessions).foldl Connection.onCloudEvent connection).outlook own
        count).Reads config bits forced shadows ∧
      ((Simulated.Script.association.events sessions).foldl Connection.onCloudEvent connection).network =
        connection.network)
    (met : (Condition.any Cloud.connected).matched bits = some Cloud.connected) :
    ∃ after outlook' cloud', session.turn? = some after ∧
      after.Plays task ⟨now, true, .awaitingCloud (.answered Cloud.connected), outlook', cloud', modem⟩ ∧
      outlook'.Reads config bits forced shadows ∧ cloud'.Tally (connects + 1) 0 (sessions + 1) disconnects ∧
      outlook'.Up cloud' := by
  obtain ⟨opened, run, rfl, -, rfl, rfl, leads⟩ := plays.resumes
  obtain ⟨answer, tally', initialized⟩ := tally.opens up.transport
  -- The events of the session come with the answer, before the run goes on.
  let replied : Session := ({ opened with cloud := opened.cloud.connect.2 } : Session).mapConnection
    fun connection => (Simulated.Script.association.events sessions).foldl Connection.onCloudEvent connection
  have answers : opened.reply .connectCloud = (.ok (), replied) := by
    show opened.connectTransport = (.ok (), replied)
    simp only [connectTransport, answer, tally'.inline, replied]
  obtain ⟨reads', network⟩ := raises opened.connection opened.supervisor.config _ rfl
  -- The bit that the run waits for is there.
  have found (agenda : Agenda) (timeout : Timeout) : replied.supervisor.connection.cloud.wait agenda task
      (.any Cloud.connected) timeout = (.answered Cloud.connected, replied.supervisor.connection.cloud) :=
    Register.wait_met ((congrArg (Condition.matched _) reads'.bits).trans met) agenda timeout
  have goes : Supervisor.Goes (replied.supervisor.resume replied.agenda task run .connectCloud (.ok ())) _ _ :=
    Supervisor.resume_connectCloud _
  rw [found] at goes
  obtain ⟨after, turned, plays'⟩ := leads _ _ _ _ answers rfl rfl rfl goes reads'.woken
  -- They leave the network as it was.
  have there : (Condition.all Network.connected).matched replied.connection.network.bits = some Network.connected :=
    (congrArg (fun register : Register => Condition.matched _ register.bits) network).trans up.network
  exact ⟨after, _, _, turned, plays', reads', tally', there, initialized⟩

/-- A request to connect that fails is followed by a wait, and the next one is due when its time is over. -/
theorem nears_refused (fits : (tries + 1) * config.retrySpan ≤ Agenda.horizon) (fewer : tries + 1 ≤ failures)
    (plays : session.Plays task ⟨tries * config.retrySpan, true, .calling .connectCloud, outlook, cloud, modem⟩)
    (reads : outlook.Reads config 0 0 0) (tally : cloud.Tally tries (failures - tries) 0 0)
    (up : outlook.Up cloud) :
    session.Nears config failures task (tries * config.retrySpan) (17 + 4 * (failures - tries)) := by
  obtain ⟨rest, more⟩ : ∃ rest, failures - tries = rest + 1 := ⟨failures - (tries + 1), by omega⟩
  rw [more] at tally
  obtain ⟨error, answer, tally', initialized⟩ := tally.refuses
  have replies (opened : Session) (_ : opened.cloud = cloud) (_ : opened.modem = modem) :
      opened.reply .connectCloud = (.error error, { opened with cloud := cloud.connect.2, modem }) := by
    subst_vars
    show opened.connectTransport = (.error error, { opened with cloud := opened.cloud.connect.2 })
    simp only [connectTransport, answer]
  have next : (tries + 1) * config.retrySpan = tries * config.retrySpan + config.retrySpan := Nat.succ_mul _ _
  -- The register is left with the run as its only waiter.
  let parked := outlook.cloud.park task (.any Cloud.connected) (some ((tries + 1) * config.retrySpan))
  -- The transport is not connected yet, and the clock shows the end of the attempt.
  have waits (agenda : Agenda) (clock : agenda.now = tries * config.retrySpan) :
      outlook.cloud.wait agenda task (.any Cloud.connected)
        (.after (ConnectionSection.millis config.connection.retryTimeout)) = parked := by
    have unmet : (Condition.any Cloud.connected).matched outlook.cloud.bits = none := by
      rw [reads.bits]
      decide
    have due : agenda.now + config.retrySpan = (tries + 1) * config.retrySpan := by rw [clock, next]
    simp only [parked, ← due]
    exact Register.parks_after unmet (due ▸ fits)
  have goes (supervisor : Supervisor) (agenda : Agenda) (run : Supervisor.Run) (seen : supervisor.outlook = outlook)
      (clock : agenda.now = tries * config.retrySpan) :
      Supervisor.Goes (supervisor.resume agenda task run .connectCloud (.error error)) (.awaitingCloud parked.1)
        { outlook with cloud := parked.2 } := by
    have goes : Supervisor.Goes (supervisor.resume agenda task run .connectCloud (.error error)) _ _ :=
      Supervisor.resume_connectCloud (.error error)
    have own : supervisor.config = config := (congrArg Outlook.config seen).trans reads.config
    have register : supervisor.connection.cloud = outlook.cloud := congrArg Outlook.cloud seen
    rwa [own, register, seen, waits agenda clock] at goes
  obtain ⟨after, turned, plays'⟩ := plays.answers (.error error) cloud.connect.2 modem replies goes reads.woken
  -- From now on the run stays where it is until its deadline.
  obtain ⟨stays, few, staying⟩ := Stays.begin (Nat.le.intro next.symm)
  have left : failures - (tries + 1) = rest := by omega
  exact ⟨after, _, _, turned, plays', rfl, by omega,
    .retrying fewer staying reads (left ▸ tally') ⟨up.network, initialized.trans up.transport⟩⟩

/-- Each turn of a cycle up to the request to connect leads on to it. -/
theorem nears_dialing (fits : config.associationSpan failures ≤ Agenda.horizon)
    (plays : session.Plays task ⟨now, true, place, outlook, cloud, modem⟩)
    (outset : Outset config failures outlook cloud now left) (dials : Dials place more) (up : outlook.Up cloud) :
    session.Nears config failures task now (left + more) := by
  have nobody : outlook.woken = [] := by cases outset with
    | trying _ reads _ => exact reads.woken
    | again reads _ => exact reads.woken
  -- Up to the request to connect nothing depends on how often it was refused.
  cases dials with
  | cycleStart =>
    obtain ⟨supervisor, agenda, run, rfl, -, here, leads, -⟩ := plays.steps (by simp)
    obtain ⟨after, turned, plays'⟩ := leads _ _ (Supervisor.goes_cycleStart here up.network) nobody
    exact ⟨after, _, _, turned, plays', rfl, by omega, .dialing outset .awaitingNetwork up⟩
  | awaitingNetwork =>
    obtain ⟨supervisor, agenda, run, seen, -, here, leads, -⟩ := plays.steps (by simp)
    obtain ⟨after, turned, plays'⟩ := leads _ _ ((Supervisor.goes_awaitingNetwork here).onto seen) nobody
    exact ⟨after, _, _, turned, plays', rfl, by omega, .dialing outset .connectCloud up⟩
  | connectCloud =>
    cases outset with
    | trying within reads tally =>
      rename_i tries
      -- The request is refused as long as failures are left, and then opens the first session.
      rcases Nat.eq_or_lt_of_le within with rfl | fewer
      · rw [Nat.sub_self] at tally
        obtain ⟨after, outlook', cloud', turned, plays', reads', tally', up'⟩ := plays.opens tally up
          (fun connection own count seen => Connection.reads_first_session (seen ▸ reads)) (by decide)
        exact ⟨after, _, _, turned, plays', rfl, by omega, .associated .connected reads' tally' up'⟩
      · refine nears_refused (Nat.le_trans ?_ fits) fewer plays reads tally up
        exact Nat.le_trans (Nat.mul_le_mul_right _ fewer) (Nat.le_trans (Nat.le_add_right _ _) (Nat.le_add_right _ _))
    -- With no failure left every request opens a session.
    | again reads tally =>
      obtain ⟨after, outlook', cloud', turned, plays', reads', tally', -⟩ := plays.opens tally up
        (fun connection own count seen => Connection.reads_later_session 0 (seen ▸ reads)) (by decide)
      exact ⟨after, _, _, turned, plays', rfl, by omega, .ready .connected reads' tally'⟩

/-- A wait for the transport lasts until its deadline, and then the transport is asked again. -/
theorem nears_retrying (fewer : tries + 1 ≤ failures)
    (plays : session.Plays task
      ⟨now, true, .awaitingCloud (.parked outlook.cloud.nextTicket (some ((tries + 1) * config.retrySpan))),
        outlook.park task (.any Cloud.connected) (some ((tries + 1) * config.retrySpan)), cloud, modem⟩)
    (stays : Stays ((tries + 1) * config.retrySpan) now true left) (reads : outlook.Reads config 0 0 0)
    (tally : cloud.Tally (tries + 1) (failures - (tries + 1)) 0 0) (up : outlook.Up cloud) :
    session.Nears config failures task now (17 + 4 * (failures - (tries + 1)) + left) := by
  obtain ⟨supervisor, agenda, run, seen, clock, here, leads, waits⟩ := plays.steps (by simp)
  have register := congrArg Outlook.cloud seen
  -- The wait is looked after once when it has parked, and once more when its deadline has come.
  rcases stays.looks clock with ⟨early, rfl, ahead⟩ | ⟨rfl, rfl, come⟩
  · have unanswered := (congrArg (Register.poll · agenda _) register).trans (reads.idle.poll_park_early ahead)
    obtain ⟨after, turned, plays'⟩ := waits (Supervisor.parks_awaitingCloud here unanswered) reads.woken
    exact ⟨after, _, _, turned, plays', rfl, by omega, .retrying fewer (.asleep early) reads tally up⟩
  · obtain ⟨idle, late, free, bits⟩ := reads.idle.poll_park_late come
    have late' := (congrArg (Register.poll · agenda _) register).trans late
    have goes : Supervisor.Goes (supervisor.step agenda task run) _ _ :=
      Supervisor.goes_awaitingCloud_late here late'
    rw [seen] at goes
    obtain ⟨after, turned, plays'⟩ := leads _ _ goes reads.woken
    have again := reads.cloud free (bits.trans reads.bits)
    exact ⟨after, _, _, turned, plays', rfl, by omega,
      .dialing (.trying fewer again tally) .connectCloud ⟨up.network, up.transport⟩⟩

/-! ### The sessions -/

/-- A session in which the device was associated is given up as soon as it is looked at. -/
theorem nears_associated (fits : config.associationSpan failures ≤ Agenda.horizon)
    (plays : session.Plays task ⟨failures * config.retrySpan, true, place, outlook, cloud, modem⟩)
    (finds : Finds Cloud.disconnected place left) (reads : outlook.Reads config Cloud.associated 1 0)
    (tally : cloud.Tally (failures + 1) 0 1 0) (up : outlook.Up cloud) :
    session.Nears config failures task (failures * config.retrySpan) (15 + left) := by
  -- The bits are set already when the supervisor comes to wait for them, so neither wait parks.
  cases finds with
  | connected =>
    obtain ⟨supervisor, agenda, run, rfl, -, here, leads, -⟩ := plays.steps (by simp)
    have tells : (Condition.any (Cloud.ready ||| Cloud.disconnected)).matched supervisor.connection.cloud.bits =
        some Cloud.disconnected := (congrArg (Condition.matched _) reads.bits).trans (by decide)
    obtain ⟨after, turned, plays'⟩ := leads _ _ (Supervisor.goes_awaitingCloud here (by decide) tells) reads.woken
    exact ⟨after, _, _, turned, plays', rfl, by decide, .associated .told reads tally up⟩
  | told =>
    obtain ⟨supervisor, agenda, run, rfl, clock, here, leads, -⟩ := plays.steps (by simp)
    have own : supervisor.config = config := reads.config
    have goes : Supervisor.Goes (supervisor.step agenda task run) _ _ :=
      Supervisor.goes_awaitingReady_failed here (by decide)
    -- The clock can show the deadline, as it can show the end of the way.
    have due : agenda.deadline (ConnectionSection.millis config.connection.settleDelay) =
        some (failures * config.retrySpan + config.settleSpan) := by
      rw [Agenda.deadline, clock]
      exact if_pos (Nat.le_trans (Nat.le_add_right _ _) fits)
    rw [own, due] at goes
    obtain ⟨after, turned, plays'⟩ := leads _ _ goes reads.woken
    obtain ⟨stays, few, staying⟩ := Stays.begin (Nat.le_add_right (failures * config.retrySpan) config.settleSpan)
    exact ⟨after, _, _, turned, plays', rfl, by omega, .settling staying reads tally up⟩

/-- Late events have their time, and then the transport is asked to disconnect. -/
theorem nears_settling
    (plays : session.Plays task
      ⟨now, true, .settling (some (failures * config.retrySpan + config.settleSpan)), outlook, cloud, modem⟩)
    (stays : Stays (failures * config.retrySpan + config.settleSpan) now true left)
    (reads : outlook.Reads config Cloud.associated 1 0) (tally : cloud.Tally (failures + 1) 0 1 0)
    (up : outlook.Up cloud) : session.Nears config failures task now (11 + left) := by
  obtain ⟨supervisor, agenda, run, seen, clock, here, leads, waits⟩ := plays.steps (by simp)
  -- Before the deadline the supervisor parks; at the deadline it asks for the disconnect.
  rcases stays.looks clock with ⟨early, rfl, ahead⟩ | ⟨rfl, rfl, come⟩
  · obtain ⟨after, turned, plays'⟩ := waits (Supervisor.parks_early ahead (.inl here)) reads.woken
    exact ⟨after, _, _, turned, plays', rfl, by decide, .settling (.asleep early) reads tally up⟩
  · obtain ⟨after, turned, plays'⟩ := leads _ _ ((Supervisor.goes_settling here come).onto seen) reads.woken
    exact ⟨after, _, _, turned, plays', rfl, by decide, .leaving reads tally up⟩

/-- With the transport disconnected, what the first session has raised is forgotten, and a pause follows. -/
theorem nears_leaving (fits : config.associationSpan failures ≤ Agenda.horizon)
    (plays : session.Plays task
      ⟨failures * config.retrySpan + config.settleSpan, true, .calling .disconnectCloud, outlook, cloud, modem⟩)
    (reads : outlook.Reads config Cloud.associated 1 0) (tally : cloud.Tally (failures + 1) 0 1 0)
    (up : outlook.Up cloud) :
    session.Nears config failures task (failures * config.retrySpan + config.settleSpan) 11 := by
  have replies (opened : Session) (_ : opened.cloud = cloud) (_ : opened.modem = modem) :
      opened.reply .disconnectCloud = (cloud.disconnect.1, { opened with cloud := cloud.disconnect.2, modem }) := by
    subst_vars
    rfl
  -- The pause ends where the second session begins, and the reset clears the bits of the first one.
  have goes (supervisor : Supervisor) (agenda : Agenda) (run : Supervisor.Run) (seen : supervisor.outlook = outlook)
      (clock : agenda.now = failures * config.retrySpan + config.settleSpan) :
      Supervisor.Goes (supervisor.resume agenda task run .disconnectCloud cloud.disconnect.1)
        (.backingOff (some (config.associationSpan failures))) { outlook with cloud := outlook.cloud.reset } := by
    have goes : Supervisor.Goes (supervisor.resume agenda task run .disconnectCloud cloud.disconnect.1) _ _ :=
      Supervisor.resume_disconnectCloud _
    have own : supervisor.config = config := (congrArg Outlook.config seen).trans reads.config
    have register : supervisor.connection.cloud = outlook.cloud := congrArg Outlook.cloud seen
    have due : agenda.deadline (ConnectionSection.millis config.connection.reestablishDelay) =
        some (config.associationSpan failures) := by
      rw [Agenda.deadline, clock]
      exact if_pos fits
    rwa [own, due, register, seen] at goes
  obtain ⟨tally', initialized⟩ := tally.leaves
  -- Only the forced disconnect is still counted.
  have reads' := reads.cloud reads.idle.reset rfl
  obtain ⟨after, turned, plays'⟩ := plays.answers _ _ _ replies goes reads'.woken
  obtain ⟨stays, few, staying⟩ := Stays.begin (Nat.le_add_right (failures * config.retrySpan + config.settleSpan)
    config.pauseSpan)
  exact ⟨after, _, _, turned, plays', rfl, by omega,
    .pausing staying reads' tally' ⟨up.network, initialized.trans up.transport⟩⟩

/-- After the pause the next cycle begins. -/
theorem nears_pausing
    (plays : session.Plays task
      ⟨now, true, .backingOff (some (config.associationSpan failures)), outlook, cloud, modem⟩)
    (stays : Stays (config.associationSpan failures) now true left) (reads : outlook.Reads config 0 1 0)
    (tally : cloud.Tally (failures + 1) 0 1 1) (up : outlook.Up cloud) :
    session.Nears config failures task now (7 + left) := by
  obtain ⟨supervisor, agenda, run, seen, clock, here, leads, waits⟩ := plays.steps (by simp)
  -- Before the deadline the supervisor parks; at the deadline it dials again.
  rcases stays.looks clock with ⟨early, rfl, ahead⟩ | ⟨rfl, rfl, come⟩
  · obtain ⟨after, turned, plays'⟩ := waits (Supervisor.parks_early ahead (.inr here)) reads.woken
    exact ⟨after, _, _, turned, plays', rfl, by decide, .pausing (.asleep early) reads tally up⟩
  · obtain ⟨after, turned, plays'⟩ := leads _ _ ((Supervisor.goes_backingOff here come).onto seen) reads.woken
    exact ⟨after, _, _, turned, plays', rfl, by decide, .dialing (.again reads tally) .cycleStart up⟩

/-- The second session is ready as soon as it is looked at, and the shadow is published. -/
theorem nears_ready (plays : session.Plays task ⟨config.associationSpan failures, true, place, outlook, cloud, modem⟩)
    (finds : Finds Cloud.ready place left) (reads : outlook.Reads config (Cloud.connected ||| Cloud.ready) 1 0)
    (tally : cloud.Tally (failures + 2) 0 2 1) :
    session.Nears config failures task (config.associationSpan failures) (3 + left) := by
  obtain ⟨supervisor, agenda, run, rfl, -, here, leads, -⟩ := plays.steps (by cases finds <;> simp)
  -- The second session is ready when the supervisor comes to wait for it, and the shadow is asked to be
  -- published at once.
  cases finds with
  | connected =>
    have tells : (Condition.any (Cloud.ready ||| Cloud.disconnected)).matched supervisor.connection.cloud.bits =
        some Cloud.ready := (congrArg (Condition.matched _) reads.bits).trans (by decide)
    obtain ⟨after, turned, plays'⟩ := leads _ _ (Supervisor.goes_awaitingCloud here (by decide) tells) reads.woken
    exact ⟨after, _, _, turned, plays', rfl, by decide, .ready .told reads tally⟩
  | told =>
    obtain ⟨after, turned, plays'⟩ := leads _ _ (Supervisor.goes_awaitingReady here) reads.woken
    have published : { supervisor.outlook with shadows := supervisor.outlook.shadows + 1 }.Reads config
        (Cloud.connected ||| Cloud.ready) 1 1 := { reads with shadows := by simp [reads.shadows] }
    exact ⟨after, _, _, turned, plays', rfl, by decide, .publishing published tally⟩

/-- Whether or not the shadow could be published, the second session is watched. -/
theorem nears_publishing
    (plays : session.Plays task ⟨config.associationSpan failures, true, .calling .publishShadow, outlook, cloud, modem⟩)
    (reads : outlook.Reads config (Cloud.connected ||| Cloud.ready) 1 1) (tally : cloud.Tally (failures + 2) 0 2 1) :
    session.Nears config failures task (config.associationSpan failures) 2 := by
  obtain ⟨opened, run, rfl, -, rfl, rfl, leads⟩ := plays.resumes
  have answers : opened.reply .publishShadow =
      ((opened.cloud.publish opened.shadow).1, { opened with cloud := (opened.cloud.publish opened.shadow).2 }) := rfl
  -- The second session is up, and no disconnect was called for in it.
  have unmet : (Condition.any Cloud.disconnected).matched opened.supervisor.connection.cloud.bits = none :=
    (congrArg (Condition.matched _) reads.bits).trans (by decide)
  have goes : Supervisor.Goes (opened.supervisor.resume opened.agenda task run .publishShadow
      (opened.cloud.publish opened.shadow).1) _ _ := Supervisor.resume_publishShadow _
  -- So the wait for one parks at once.
  rw [Register.parks_forever unmet] at goes
  obtain ⟨after, turned, plays'⟩ := leads _ _ _ _ answers rfl rfl rfl goes reads.woken
  exact ⟨after, _, _, turned, plays', rfl, by decide, .watching (Nat.le_refl _) reads (tally.publishes opened.shadow)⟩

/-- The second session is watched, and nothing happens to it. -/
theorem nears_watching
    (plays : session.Plays task ⟨now, true, .awaitingDrop (.parked outlook.cloud.nextTicket none),
      outlook.park task (.any Cloud.disconnected) none, cloud, modem⟩)
    (late : config.associationSpan failures ≤ now) (reads : outlook.Reads config (Cloud.connected ||| Cloud.ready) 1 1)
    (tally : cloud.Tally (failures + 2) 0 2 1) : session.Nears config failures task now 1 := by
  obtain ⟨supervisor, agenda, run, seen, -, here, -, waits⟩ := plays.steps (by simp)
  have register := congrArg Outlook.cloud seen
  -- The wait has no deadline, and its bit is not set.
  have never : agenda.reached none = false := rfl
  have unanswered := (congrArg (Register.poll · agenda _) register).trans (reads.idle.poll_park_early never)
  obtain ⟨after, turned, plays'⟩ := waits (Supervisor.parks_awaitingDrop here unanswered) reads.woken
  exact ⟨after, _, _, turned, plays', rfl, by decide, .watching late reads tally⟩

/-! ### The whole way -/

namespace Itinerary

variable {scene : Scene}

/-- Whoever stands in line on the way is brought nearer to its end by the next turn. -/
theorem nears (itinerary : Itinerary config failures task left scene)
    (fits : config.associationSpan failures ≤ Agenda.horizon) (plays : session.Plays task scene)
    (awake : scene.awake = true) : session.Nears config failures task scene.now left := by
  -- One lemma for each stretch of the way.
  cases itinerary with
  | preparing prepares reads tally attaches network dateTime initialized =>
    exact nears_preparing plays prepares reads tally attaches network dateTime initialized
  | dialing outset dials up => exact nears_dialing fits plays outset dials up
  | retrying fewer stays reads tally up =>
    obtain rfl := awake
    exact nears_retrying fewer plays stays reads tally up
  | associated finds reads tally up => exact nears_associated fits plays finds reads tally up
  | settling stays reads tally up =>
    obtain rfl := awake
    exact nears_settling plays stays reads tally up
  | leaving reads tally up => exact nears_leaving fits plays reads tally up
  | pausing stays reads tally up =>
    obtain rfl := awake
    exact nears_pausing plays stays reads tally up
  | ready finds reads tally => exact nears_ready plays finds reads tally
  | publishing reads tally => exact nears_publishing plays reads tally
  | watching late reads tally =>
    obtain rfl := awake
    exact nears_watching plays late reads tally

/-- Whoever is asleep on the way has a deadline ahead, or is at its end. -/
theorem sleeps (itinerary : Itinerary config failures task left scene) (asleep : scene.awake = false) :
    (∃ due, scene.place.deadline? = some due ∧ scene.now < due ∧ due ≤ config.associationSpan failures ∧
      (∀ instant < due, Itinerary config failures task left { scene with now := instant }) ∧
      ∃ fewer < left, Itinerary config failures task fewer { scene with now := due, awake := true }) ∨
    (scene.place.deadline? = none ∧ config.associationSpan failures ≤ scene.now ∧
      ∀ instant, scene.now ≤ instant → Itinerary config failures task left { scene with now := instant }) := by
  -- The supervisor sleeps in three waits, each of which has a deadline, and in the second session, which
  -- has none.
  cases itinerary with
  | preparing => cases asleep
  | dialing => cases asleep
  | retrying fewer stays reads tally up =>
    obtain rfl := asleep
    cases stays with | asleep early =>
    refine .inl ⟨_, rfl, early, ?_, fun instant before => .retrying fewer (.asleep before) reads tally up, _, ?_,
      .retrying fewer .come reads tally up⟩
    · exact Nat.le_trans (Nat.mul_le_mul_right _ fewer) (Nat.le_trans (Nat.le_add_right _ _) (Nat.le_add_right _ _))
    · omega
  | associated => cases asleep
  | settling stays reads tally up =>
    obtain rfl := asleep
    cases stays with | asleep early =>
    exact .inl ⟨_, rfl, early, Nat.le_add_right _ _, fun instant before => .settling (.asleep before) reads tally up, _,
      by decide, .settling .come reads tally up⟩
  | leaving => cases asleep
  | pausing stays reads tally up =>
    obtain rfl := asleep
    cases stays with | asleep early =>
    exact .inl ⟨_, rfl, early, Nat.le_refl _, fun instant before => .pausing (.asleep before) reads tally up, _,
      by decide, .pausing .come reads tally up⟩
  | ready => cases asleep
  | publishing => cases asleep
  -- The end of the way.
  | watching late reads tally =>
    obtain rfl := asleep
    exact .inr ⟨rfl, late, fun instant later => .watching (Nat.le_trans late later) reads tally⟩

/-- Before the second session begins no shadow is published. -/
theorem unpublished (itinerary : Itinerary config failures task left scene)
    (early : scene.now < config.associationSpan failures) : scene.outlook.shadows = 0 := by
  -- The shadow is published from the second session on, and that begins when the span is over.
  cases itinerary with
  | preparing _ reads => exact reads.shadows
  | dialing outset =>
    cases outset with
    | trying _ reads => exact reads.shadows
    | again reads => exact reads.shadows
  | retrying _ _ reads => exact reads.shadows
  | associated _ reads => exact reads.shadows
  | settling _ reads => exact reads.shadows
  | leaving reads => exact reads.shadows
  | pausing _ reads => exact reads.shadows
  | ready => exact absurd early (Nat.lt_irrefl _)
  | publishing => exact absurd early (Nat.lt_irrefl _)
  | watching late => exact absurd early (Nat.not_lt_of_le late)

/-- Whoever is asleep once the second session could begin watches it. -/
theorem watches (itinerary : Itinerary config failures task left scene) (asleep : scene.awake = false)
    (late : config.associationSpan failures ≤ scene.now) :
    scene.place.phase = .waitDisconnect ∧ scene.outlook.cloud.bits = Cloud.connected ||| Cloud.ready ∧
      scene.outlook.forced = 1 ∧ scene.outlook.shadows = 1 ∧ scene.cloud.Tally (failures + 2) 0 2 1 := by
  -- A deadline within the span would still be ahead, so only the last place is left.
  rcases itinerary.sleeps asleep with ⟨due, -, ahead, within, -⟩ | ⟨watched, -⟩
  · exact absurd late (Nat.not_le_of_lt (Nat.lt_of_lt_of_le ahead within))
  · cases itinerary with
    | preparing => cases asleep
    | dialing => cases asleep
    | retrying => cases watched
    | associated => cases asleep
    | settling => cases watched
    | leaving => cases asleep
    | pausing => cases watched
    | ready => cases asleep
    | publishing => cases asleep
    | watching _ reads tally => exact ⟨rfl, reads.bits, reads.forced, reads.shadows, tally⟩

end Itinerary

/-- Wherever time leads, the supervisor is on its way; and with turns enough it comes to rest at that instant. -/
theorem Plays.runs_until {limit : Nat} (fits : config.associationSpan failures ≤ Agenda.horizon) (turns : Nat)
    {session : Session} {scene : Scene} (plays : session.Plays task scene)
    (itinerary : Itinerary config failures task left scene) (ahead : scene.now ≤ limit) :
    ∃ last fewer, (Timed.runUntil limit turns session).Plays task last ∧
      Itinerary config failures task fewer last ∧ last.now ≤ limit ∧
      (left < turns → last.now = limit ∧ last.awake = false) := by
  -- Induction on the turns; each of them leaves less of the way.
  induction turns generalizing left session scene with
  | zero => exact ⟨scene, left, plays, itinerary, ahead, fun enough => absurd enough (Nat.not_lt_zero _)⟩
  | succ turns ih =>
    rw [Timed.runUntil, Timed.runTo, if_neg (by decide)]
    cases awake : scene.awake with
    | true =>
      obtain ⟨after, next, fewer, turned, plays', now, less, itinerary'⟩ := itinerary.nears fits plays awake
      rw [show Timed.turn? session = some after from turned]
      obtain ⟨last, rest, there, onward, within, settles⟩ := ih plays' itinerary' (now.trans_le ahead)
      exact ⟨last, rest, there, onward, within, fun enough => settles (by omega)⟩
    | false =>
      obtain ⟨quiet, next, never⟩ := plays.asleep awake
      rw [show Timed.turn? session = none from quiet]
      -- Nobody can run: the clock goes on to the next deadline, or to the limit if that comes first.
      rcases itinerary.sleeps awake with ⟨due, place, early, -, before, fewer, less, come⟩ | ⟨place, -, later⟩
      · have reached (instant : Nat) (come : Bool) (same : decide (due ≤ instant) = come) :
            ({ now := instant } : Agenda).reached scene.place.deadline? = come := by
          rw [place]
          exact same
        rw [next due place early]
        dsimp only
        split
        · rename_i within
          have struck := plays.strike awake due (reached due true (by simp))
          obtain ⟨last, rest, there, onward, within, settles⟩ := ih struck come within
          exact ⟨last, rest, there, onward, within, fun enough => settles (by omega)⟩
        · rename_i beyond
          have short : limit < due := Nat.lt_of_not_le beyond
          have struck := plays.strike awake limit (reached limit false (by simpa using short))
          exact ⟨_, left, struck, awake ▸ before limit short, Nat.le_refl _, fun _ => ⟨rfl, rfl⟩⟩
      · -- Without a deadline the clock goes straight to the limit.
        rw [never place]
        have struck := plays.strike awake limit (place ▸ rfl : _ = false)
        exact ⟨_, left, struck, awake ▸ later limit ahead, Nat.le_refl _, fun _ => ⟨rfl, rfl⟩⟩

/-! ### From the start -/

variable {first : Session}

/-- A fresh session whose supervisor has been started is at the outset of its way. -/
theorem Fresh.sets_out (fresh : first.Fresh) (clock : first.agenda = {}) (tally : first.cloud.Tally 0 failures 0 0)
    (attaches : first.modem.Attaches) :
    (first.act .start).2.Plays 0 ⟨0, true, .starting, first.supervisor.outlook, first.cloud, first.modem⟩ ∧
      Itinerary first.supervisor.config failures 0 (26 + 4 * failures)
        ⟨0, true, .starting, first.supervisor.outlook, first.cloud, first.modem⟩ := by
  -- A fresh session has registers that were never used, no metrics and no history.
  have idle (name : RegisterName) : (first.connection.register name).Idle ∧
      (first.connection.register name).bits = 0 := by
    obtain ⟨text, new⟩ := fresh.registers name
    rw [new]
    exact ⟨⟨rfl, by simp⟩, rfl⟩
  have nobody : first.supervisor.connection.woken = [] := fresh.woken
  have reads : first.supervisor.outlook.Reads first.supervisor.config 0 0 0 := by
    have metrics : first.supervisor.connection.telemetry.metrics = {} := fresh.metrics
    refine ⟨rfl, (idle .cloud).1, (idle .cloud).2, nobody, ?_, ?_⟩
    · simp [Supervisor.outlook, Connection.outlook, metrics]
    · simp [Supervisor.outlook, Connection.outlook, Supervisor.requests, fresh.history]
  -- Starting it lists the one task and wakes it, since there is nobody else to wake.
  have started : (first.act .start).2 = { first with
      agenda := { ready := [0], unused := 1 }
      tasks := [(0, ⟨.supervise {}, false⟩)]
      supervisor.connection.woken := []
      runTask := some 0
      outcome := none } := by
    show { first.start with
      agenda := first.start.agenda.wakeAll first.supervisor.connection.woken
      supervisor.connection.woken := [] } = _
    simp [start, spawn, Agenda.spawn, clock, fresh.tasks, nobody, Agenda.wakeAll]
  refine ⟨?_, ?_⟩
  · rw [started]
    exact ⟨⟨0, rfl⟩, rfl, rfl, rfl, by rw [← nobody], rfl, rfl⟩
  · -- What is left of the way is the setup, a request for each failure, and the rest.
    have way : Itinerary first.supervisor.config failures 0 (20 + 4 * failures + 6) _ :=
      .preparing .starting reads tally attaches (idle .network).1 (idle .dateTime).1 (by omega)
    rwa [show 20 + 4 * failures + 6 = 26 + 4 * failures by omega] at way

/-- However often the transport refuses at first, a device that is associated in its first session pays for that with
exactly one reconnect. No shadow is published before the refused attempts, the time for late events and the pause are
over. From then on the second session is watched, however late it is: two requests to connect were not refused, the
transport was disconnected once, the shadow was published once, one forced disconnect was counted, and the register
tells neither of the request to associate nor of a disconnect. -/
theorem Fresh.association_costs_one_reconnect (fresh : first.Fresh) (clock : first.agenda = {})
    (tally : first.cloud.Tally 0 failures 0 0) (attaches : first.modem.Attaches)
    (fits : failures * first.supervisor.config.retrySpan + first.supervisor.config.settleSpan +
      first.supervisor.config.pauseSpan ≤ Agenda.horizon) :
    let config := first.supervisor.config
    let ready := failures * config.retrySpan + config.settleSpan + config.pauseSpan
    let started := (first.act .start).2
    (∀ limit < ready, ∀ turns,
      (Timed.runUntil limit turns started).supervisor.requests.count .publishShadow = 0) ∧
    ∀ limit, ready ≤ limit → limit ≤ Agenda.horizon → ∀ turns, 26 + 4 * failures < turns →
      let last := Timed.runUntil limit turns started
      last.turn? = none ∧ last.agenda.now = limit ∧ last.supervisor.phase = .waitDisconnect ∧
        last.cloud.connects = failures + 2 ∧ last.cloud.disconnects = 1 ∧
        last.supervisor.requests.count .publishShadow = 1 ∧
        last.connection.telemetry.metrics.forcedDisconnects = 1 ∧
        last.connection.cloud.isSet Cloud.associationRequest = false ∧ last.connection.isDisconnecting = false := by
  intro config ready started
  obtain ⟨plays, itinerary⟩ := fresh.sets_out clock tally attaches
  refine ⟨fun limit early turns => ?_, fun limit late shown turns enough => ?_⟩
  · -- Before the span is over the way has not come to the second session.
    obtain ⟨last, fewer, there, onward, within, -⟩ := plays.runs_until fits turns itinerary (Nat.zero_le limit)
    have none := onward.unpublished (Nat.lt_of_le_of_lt within early)
    exact (congrArg Outlook.shadows there.outlook).trans none
  · -- After it the way has come to its end, which says all the rest.
    obtain ⟨scene, fewer, there, onward, -, settles⟩ := plays.runs_until fits turns itinerary (Nat.zero_le limit)
    obtain ⟨now, asleep⟩ := settles enough
    obtain ⟨place, bits, forced, shadows, counted⟩ := onward.watches asleep (now ▸ late)
    obtain ⟨cycle, alone⟩ := there.alone
    -- The phase is that of the place of the run.
    have path : TimelyPath ⟨false, false⟩ started (Timed.runUntil limit turns started) :=
      .runTo _ _ shown turns started (plays.now ▸ Nat.zero_le limit)
    have reached := (Reached.start (.fresh fresh) fresh.runTask).path path.path
    have runs : (Timed.runUntil limit turns started).Runs 0 ⟨cycle, scene.place⟩ :=
      ⟨there.runTask, by rw [alone]; rfl⟩
    have left : (Timed.runUntil limit turns started).connection.cloud.bits = Cloud.connected ||| Cloud.ready :=
      (congrArg (·.cloud.bits) there.outlook).trans bits
    refine ⟨(there.asleep asleep).1, there.now.trans now, (reached.balances.phase_of_runs runs).trans place,
      (congrArg _ there.cloud).trans counted.connects, (congrArg _ there.cloud).trans counted.disconnects,
      (congrArg Outlook.shadows there.outlook).trans shadows, (congrArg Outlook.forced there.outlook).trans forced,
      ?_, ?_⟩
    · rw [Register.isSet, left]
      decide
    · rw [Connection.isDisconnecting, Register.isSet, left]
      decide

/-- A device with the default waiting times whose transport refuses twice publishes nothing for a minute and a half,
and then has connected four times. -/
theorem associated_after_two_refusals :
    let first : Session := { ofConfig (.ofAppVersion "1.0.0") 4 with
      cloud := { script := .association, connectFailures := 2 } }
    let started := (first.act .start).2
    first.Fresh ∧ first.agenda = {} ∧ first.cloud.Tally 0 2 0 0 ∧ first.modem.Attaches ∧
      2 * first.supervisor.config.retrySpan + first.supervisor.config.settleSpan +
        first.supervisor.config.pauseSpan = 95000 ∧ 95000 ≤ Agenda.horizon ∧
      (Timed.runUntil 94999 Timed.patience started).supervisor.requests.count .publishShadow = 0 ∧
      (Timed.runUntil 95000 Timed.patience started).supervisor.requests.count .publishShadow = 1 ∧
      (Timed.runUntil 95000 Timed.patience started).cloud.connects = 4 ∧
      (Timed.runUntil 95000 Timed.patience started).supervisor.phase = .waitDisconnect := by
  intro first started
  have fresh : first.Fresh := (fresh_ofConfig _ 4).withCloud _
  have tally : first.cloud.Tally 0 2 0 0 := ⟨rfl, rfl, rfl, rfl, rfl, rfl, rfl, rfl⟩
  have attaches : first.modem.Attaches := ⟨⟨_, rfl⟩, rfl, rfl, rfl, rfl, rfl⟩
  have span : 2 * first.supervisor.config.retrySpan + first.supervisor.config.settleSpan +
      first.supervisor.config.pauseSpan = 95000 := by decide
  have shown : 95000 ≤ Agenda.horizon := by decide
  have enough : 26 + 4 * 2 < Timed.patience := by decide
  -- The theorem is taken one millisecond before the end of the span and at its end.
  obtain ⟨before, after⟩ := fresh.association_costs_one_reconnect rfl tally attaches (span ▸ shown)
  have unpublished := before 94999 (by rw [span]; decide) Timed.patience
  have reconnected := after 95000 (Nat.le_of_eq span) shown Timed.patience enough
  have same : (first.act .start).2 = started := rfl
  rw [same] at unpublished reconnected
  obtain ⟨-, -, phase, connects, -, shadows, -⟩ := reconnected
  exact ⟨fresh, rfl, tally, attaches, span, shown, unpublished, shadows, connects, phase⟩

end Session

end Uplink
