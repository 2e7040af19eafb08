import Uplink.Proofs.Connection
import Uplink.Supervisor.Run

/-! The supervisor's ledger: what it has done, what it has counted, and that each event is counted once. -/

namespace Uplink

/-! ### Events of the phase and what they count -/

/-- The phases of a cycle, in order. -/
def Phase.cycle : List Phase :=
  [.waitNetwork, .connectingCloud, .waitCloudReady, .connected, .waitDisconnect, .resetting, .backoff]

/-- One from the given phase of a cycle to the end of the cycle, and zero everywhere else. -/
def Phase.since (phase first : Phase) : Nat :=
  if phase ∈ Phase.cycle.dropWhile (· ≠ first) then 1 else 0

/-- One in the given phase and zero everywhere else. -/
def Phase.at (phase only : Phase) : Nat :=
  if phase = only then 1 else 0

/-- What an event may be counted as. A shadow that was published may have reached the cloud or not. -/
def PhaseEvent.counts : PhaseEvent → List Metrics.Count
  | .networkUp => [.connectAttempt]
  | .connectTimedOut => [.connectAttempt]
  | .cloudConnected => [.cloudConnectionEstablished]
  | .cloudReady => [.cloudReady]
  | .readyTimedOut => [.readyTimeout]
  | .shadowPublished => [.shadowUpdated, .shadowFailed]
  | .resetComplete => [.resetPerformed]
  | .setupSucceeded | .setupFailed | .disconnected | .backoffElapsed => []

/-- An event leads to another name, except for the one that leads back. -/
theorem Phase.name_eq_iff {phase next : Phase} {event : PhaseEvent} (leads : phase.next? event = some next) :
    phase.name = next.name ↔ event = .connectTimedOut := by
  -- The table has one row for each phase with each of its events.
  cases phase <;> cases event <;> cases leads <;> decide

/-! ### The ledger -/

/-- What the supervisor has done and counted. -/
structure Ledger where
  phase : Phase := .init
  /-- The events that have moved the phase, the latest first. -/
  events : List PhaseEvent := []
  /-- What was asked of the modem and the transport, the latest first. -/
  requests : List Request := []
  /-- The counters of the connection cycle. -/
  metrics : Metrics := {}

namespace Ledger

/-- Count an event. -/
def count (ledger : Ledger) (event : Metrics.Count) : Ledger :=
  { ledger with metrics := ledger.metrics.count event }

/-- Ask for something. -/
def ask (ledger : Ledger) (request : Request) : Ledger :=
  { ledger with requests := request :: ledger.requests }

/-- Move to the phase that an event leads to, if it leads anywhere. -/
def advance (ledger : Ledger) (event : PhaseEvent) : Ledger :=
  match ledger.phase.next? event with
  | none => ledger
  | some next =>
    { ledger with
      phase := next
      events := event :: ledger.events
      metrics := ledger.metrics.count (.setPhase next.name) }

variable {ledger : Ledger} {event : PhaseEvent} {next : Phase}

/-- Counting moves no phase. -/
@[simp] theorem count_phase (ledger : Ledger) (event : Metrics.Count) :
    (ledger.count event).phase = ledger.phase := rfl

/-- Counting is no event. -/
@[simp] theorem count_events (ledger : Ledger) (event : Metrics.Count) :
    (ledger.count event).events = ledger.events := rfl

/-- Counting asks for nothing. -/
@[simp] theorem count_requests (ledger : Ledger) (event : Metrics.Count) :
    (ledger.count event).requests = ledger.requests := rfl

/-- Asking is no event. -/
@[simp] theorem ask_events (ledger : Ledger) (request : Request) :
    (ledger.ask request).events = ledger.events := rfl

/-- What was asked for last stands first. -/
@[simp] theorem ask_requests (ledger : Ledger) (request : Request) :
    (ledger.ask request).requests = request :: ledger.requests := rfl

/-- An event that leads somewhere is entered. -/
theorem advance_eq (leads : ledger.phase.next? event = some next) :
    ledger.advance event =
      { ledger with
        phase := next
        events := event :: ledger.events
        metrics := ledger.metrics.count (.setPhase next.name) } := by
  -- The table has an entry for it.
  simp [advance, leads]

/-- It makes no difference whether an attempt is counted before or after the phase is moved. -/
theorem advance_attempt (ledger : Ledger) (event : PhaseEvent) :
    (ledger.advance event).count .connectAttempt = (ledger.count .connectAttempt).advance event := by
  -- The name of the phase and the number of attempts are different counters.
  cases leads : ledger.phase.next? event with
  | none => simp [advance, count, leads]
  | some next =>
    by_cases same : ledger.metrics.phase = next.name <;> simp [advance, count, leads, Metrics.count, same]

/-- A ledger in which every event was entered when the phase had it, together with its one count. -/
inductive Booked : Ledger → Prop where
  | opening : Booked {}
  | asked {ledger : Ledger} (booked : Booked ledger) (request : Request) : Booked (ledger.ask request)
  | moved {ledger : Ledger} {event : PhaseEvent} {next : Phase} (booked : Booked ledger)
      (leads : ledger.phase.next? event = some next) (alone : event.counts = []) :
      Booked (ledger.advance event)
  | counted {ledger : Ledger} {event : PhaseEvent} {next : Phase} {count : Metrics.Count}
      (booked : Booked ledger) (leads : ledger.phase.next? event = some next)
      (counts : count ∈ event.counts) : Booked ((ledger.count count).advance event)

/-! ### Each counter is the number of its events -/

/-- The counters as numbers of events, modulo the width of a counter. -/
structure Tallied (metrics : Metrics) (events : List PhaseEvent) : Prop where
  attempts : metrics.connectAttempts = .ofNat (events.count .networkUp + events.count .connectTimedOut)
  connections : metrics.cloudConnections = .ofNat (events.count .cloudConnected)
  ready : metrics.cloudReady = .ofNat (events.count .cloudReady)
  timeouts : metrics.readyTimeouts = .ofNat (events.count .readyTimedOut)
  shadows : metrics.shadowUpdates + metrics.shadowFailures = .ofNat (events.count .shadowPublished)
  resets : metrics.resets = .ofNat (events.count .resetComplete)

variable {metrics : Metrics} {events : List PhaseEvent} {count : Metrics.Count}

/-- An event that nothing is counted for leaves the counters right. -/
theorem Tallied.alone (tallied : Tallied metrics events) (alone : event.counts = []) :
    Tallied metrics (event :: events) := by
  -- No counter is the number of such events.
  obtain ⟨attempts, connections, ready, timeouts, shadows, resets⟩ := tallied
  cases event with
  | setupSucceeded | setupFailed | disconnected | backoffElapsed =>
    constructor <;> simpa only [List.count_cons_of_ne, ne_eq, reduceCtorEq, not_false_eq_true]
  | networkUp | connectTimedOut | cloudConnected | cloudReady | readyTimedOut | shadowPublished |
      resetComplete => simp [PhaseEvent.counts] at alone

/-- An event and its count leave the counters right. -/
theorem Tallied.counted (tallied : Tallied metrics events) (counts : count ∈ event.counts) :
    Tallied (metrics.count count) (event :: events) := by
  obtain ⟨attempts, connections, ready, timeouts, shadows, resets⟩ := tallied
  -- One counter and one number of events go up together.
  cases event with
  | setupSucceeded | setupFailed | disconnected | backoffElapsed => simp [PhaseEvent.counts] at counts
  | networkUp | connectTimedOut | cloudConnected | cloudReady | readyTimedOut | resetComplete =>
    obtain rfl := List.mem_singleton.mp counts
    constructor <;> grind [Metrics.count, UInt64.ofNat_add]
  | shadowPublished =>
    -- Both outcomes go into the one sum.
    rcases List.mem_pair.mp counts with rfl | rfl <;> constructor <;> grind [Metrics.count, UInt64.ofNat_add]

/-- Setting the phase counts nothing but a change of the name. -/
theorem Tallied.setPhase (tallied : Tallied metrics events) (name : String) :
    Tallied (metrics.count (.setPhase name)) events := by
  -- The change of the name has a counter of its own, which is none of the six.
  obtain ⟨attempts, connections, ready, timeouts, shadows, resets⟩ := tallied
  simp only [Metrics.count]
  split <;> exact ⟨attempts, connections, ready, timeouts, shadows, resets⟩

/-- In a booked ledger each counter is the number of its events. -/
theorem Booked.tallied (booked : Booked ledger) : Tallied ledger.metrics ledger.events := by
  -- Induction on the entries; an event counts before it moves the phase.
  induction booked with
  | opening => constructor <;> rfl
  | asked _ request ih => exact ih
  | moved _ leads alone ih =>
    rw [advance_eq leads]
    exact (ih.alone alone).setPhase _
  | @counted ledger event next count _ leads counts ih =>
    have leads' : (ledger.count count).phase.next? event = some next := leads
    rw [advance_eq leads']
    exact (ih.counted counts).setPhase _

/-- The name of the phase and the number of its changes are right. -/
structure Named (ledger : Ledger) : Prop where
  name : ledger.metrics.phase = ledger.phase.name
  transitions : ledger.metrics.phaseTransitions = .ofNat (ledger.events.countP (· ≠ .connectTimedOut))

/-- Moving the phase keeps its name and counts a change unless the event leads back. -/
theorem Named.advance (named : Named ledger) (leads : ledger.phase.next? event = some next) :
    Named (ledger.advance event) := by
  -- The metrics count a change only if the name is another one.
  obtain ⟨name, transitions⟩ := named
  have back : ledger.metrics.phase = next.name ↔ event = .connectTimedOut :=
    name ▸ Phase.name_eq_iff leads
  rw [advance_eq leads]
  by_cases same : event = .connectTimedOut
  · have kept := back.mpr same
    exact ⟨by simp [Metrics.count, kept], by simpa [Metrics.count, kept, same] using transitions⟩
  · have changed : ledger.metrics.phase ≠ next.name := fun kept => same (back.mp kept)
    refine ⟨by simp [Metrics.count, changed], ?_⟩
    simp [Metrics.count, changed, same, transitions, UInt64.ofNat_add]

/-- In a booked ledger the phase is named, and its changes are counted. -/
theorem Booked.named (booked : Booked ledger) : Named ledger := by
  -- Induction on the entries.
  induction booked with
  | opening => exact ⟨rfl, rfl⟩
  | asked _ request ih => exact ⟨ih.name, ih.transitions⟩
  | moved _ leads alone ih => exact ih.advance leads
  | @counted ledger event next count _ leads counts ih =>
    -- What is counted beside the phase is neither the name nor its changes.
    have beside : Named (ledger.count count) := by
      cases event with
      | setupSucceeded | setupFailed | disconnected | backoffElapsed => simp [PhaseEvent.counts] at counts
      | networkUp | connectTimedOut | cloudConnected | cloudReady | readyTimedOut | resetComplete =>
        obtain rfl := List.mem_singleton.mp counts
        exact ⟨ih.name, ih.transitions⟩
      | shadowPublished =>
        rcases List.mem_pair.mp counts with rfl | rfl <;> exact ⟨ih.name, ih.transitions⟩
    exact beside.advance leads

/-! ### Whoever goes round passes everywhere as often -/

/-- How often the events of a cycle have come, up to the cycle that has not ended. -/
structure Conserved (phase : Phase) (events : List PhaseEvent) : Prop where
  connecting : events.count .networkUp = events.count .backoffElapsed + phase.since .connectingCloud
  waiting : events.count .cloudConnected = events.count .backoffElapsed + phase.since .waitCloudReady
  decided : events.count .cloudReady + events.count .readyTimedOut =
    events.count .backoffElapsed + phase.since .connected
  published : events.count .shadowPublished + phase.at .connected = events.count .cloudReady
  dropped : events.count .disconnected + phase.at .waitDisconnect = events.count .shadowPublished
  reset : events.count .resetComplete = events.count .backoffElapsed + phase.at .backoff

/-- An event that leads into a stretch of a cycle enters it from outside, and only the end of the cycle
leads out again. -/
theorem flow {phase : Phase} (leads : phase.next? event = some next) :
    phase.since .connectingCloud + (if event == .networkUp then 1 else 0) =
        next.since .connectingCloud + (if event == .backoffElapsed then 1 else 0) ∧
      phase.since .waitCloudReady + (if event == .cloudConnected then 1 else 0) =
        next.since .waitCloudReady + (if event == .backoffElapsed then 1 else 0) ∧
      phase.since .connected + (if event == .cloudReady then 1 else 0) +
          (if event == .readyTimedOut then 1 else 0) =
        next.since .connected + (if event == .backoffElapsed then 1 else 0) ∧
      phase.at .connected + (if event == .cloudReady then 1 else 0) =
        next.at .connected + (if event == .shadowPublished then 1 else 0) ∧
      phase.at .waitDisconnect + (if event == .shadowPublished then 1 else 0) =
        next.at .waitDisconnect + (if event == .disconnected then 1 else 0) ∧
      phase.at .backoff + (if event == .resetComplete then 1 else 0) =
        next.at .backoff + (if event == .backoffElapsed then 1 else 0) := by
  -- The table has one row for each phase with each of its events.
  cases phase <;> cases event <;> cases leads <;> decide

/-- An event takes what it leads away from and brings it where it leads to. -/
theorem Conserved.move {phase : Phase} (conserved : Conserved phase events)
    (leads : phase.next? event = some next) : Conserved next (event :: events) := by
  -- Each of the sums is a linear consequence of its part of the flow.
  obtain ⟨connecting, waiting, decided, published, dropped, reset⟩ := conserved
  obtain ⟨connecting', waiting', decided', published', dropped', reset'⟩ := flow leads
  constructor <;> simp only [List.count_cons] <;> omega

/-- In a booked ledger the events of the cycles are conserved. -/
theorem Booked.conserved (booked : Booked ledger) : Conserved ledger.phase ledger.events := by
  -- Induction on the entries; what is counted is no matter of the events.
  induction booked with
  | opening => constructor <;> rfl
  | asked _ request ih => exact ih
  | moved _ leads alone ih =>
    rw [advance_eq leads]
    exact ih.move leads
  | @counted ledger event next count _ leads counts ih =>
    have leads' : (ledger.count count).phase.next? event = some next := leads
    rw [advance_eq leads']
    exact ih.move leads

end Ledger

end Uplink
