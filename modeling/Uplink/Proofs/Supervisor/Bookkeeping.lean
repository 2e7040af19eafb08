import Uplink.Proofs.Session.Strides
import Uplink.Proofs.Supervisor.Ledger

/-! A balanced ledger: each request has its event, and each event its count. The ledger of a supervisor. -/

namespace Uplink

open Flags (Wait)

/-! ### Balance -/

namespace Ledger

/-- In this phase the ledger is booked, and the transport was asked to connect, to publish and to
disconnect as often as the events say, but for a disconnect that is pending. -/
structure Balanced (phase : Phase) (pending : Nat) (ledger : Ledger) : Prop where
  phase : ledger.phase = phase
  booked : ledger.Booked
  connects : ledger.requests.count .connectCloud =
    ledger.events.count .networkUp + ledger.events.count .connectTimedOut
  publishes : ledger.requests.count .publishShadow = ledger.events.count .cloudReady
  disconnects : ledger.requests.count .disconnectCloud = ledger.events.count .resetComplete + pending

namespace Balanced

variable {ledger : Ledger} {phase next : Phase} {pending : Nat} {event : PhaseEvent} {count : Metrics.Count}

/-- A request that no event answers for leaves the balance. -/
theorem ask {request : Request} (balanced : Balanced phase pending ledger)
    (plain : request ≠ .connectCloud ∧ request ≠ .publishShadow ∧ request ≠ .disconnectCloud) :
    Balanced phase pending (ledger.ask request) := by
  -- The three sums count other requests.
  obtain ⟨here, booked, connects, publishes, disconnects⟩ := balanced
  obtain ⟨noConnect, noPublish, noDisconnect⟩ := plain
  refine ⟨here, booked.asked request, ?_, ?_, ?_⟩
  · simpa [noConnect] using connects
  · simpa [noPublish] using publishes
  · simpa [noDisconnect] using disconnects

/-- A request to disconnect is pending until the reset. -/
theorem disconnect (balanced : Balanced phase 0 ledger) : Balanced phase 1 (ledger.ask .disconnectCloud) := by
  -- What is asked for goes to the third equation, and to no other.
  obtain ⟨here, booked, connects, publishes, disconnects⟩ := balanced
  refine ⟨here, booked.asked _, ?_, ?_, ?_⟩
  · simpa using connects
  · simpa using publishes
  · simpa using disconnects

/-- An event that nothing is counted for leaves the balance. -/
theorem move (balanced : Balanced phase pending ledger) (leads : phase.next? event = some next)
    (alone : event.counts = []) : Balanced next pending (ledger.advance event) := by
  -- An event without a count is in none of the three sums.
  obtain ⟨here, booked, connects, publishes, disconnects⟩ := balanced
  have leads' : ledger.phase.next? event = some next := here ▸ leads
  have entered := booked.moved leads' alone
  rw [advance_eq leads'] at entered ⊢
  cases event with
  | setupSucceeded | setupFailed | disconnected | backoffElapsed =>
    exact ⟨rfl, entered, by simpa using connects, by simpa using publishes, by simpa using disconnects⟩
  | networkUp | connectTimedOut | cloudConnected | cloudReady | readyTimedOut | shadowPublished |
      resetComplete => simp [PhaseEvent.counts] at alone

/-- An event with its count leaves the balance if it answers for no request. -/
theorem enter (balanced : Balanced phase pending ledger) (leads : phase.next? event = some next)
    (counts : count ∈ event.counts)
    (plain : event = .cloudConnected ∨ event = .readyTimedOut ∨ event = .shadowPublished) :
    Balanced next pending ((ledger.count count).advance event) := by
  -- The three events have counters of their own, and no request is made for them.
  obtain ⟨here, booked, connects, publishes, disconnects⟩ := balanced
  have leads' : ledger.phase.next? event = some next := here ▸ leads
  have entered := booked.counted leads' counts
  have leads'' : (ledger.count count).phase.next? event = some next := leads'
  rw [advance_eq leads''] at entered ⊢
  rcases plain with rfl | rfl | rfl <;>
    exact ⟨rfl, entered, by simpa using connects, by simpa using publishes, by simpa using disconnects⟩

/-- An event that leads to another attempt comes with its count and its request. -/
theorem attempt (balanced : Balanced phase pending ledger) (leads : phase.next? event = some next)
    (plain : event = .networkUp ∨ event = .connectTimedOut) :
    Balanced next pending (((ledger.advance event).count .connectAttempt).ask .connectCloud) := by
  -- Both the event and the request add one to the first of the three sums.
  obtain ⟨here, booked, connects, publishes, disconnects⟩ := balanced
  have leads' : ledger.phase.next? event = some next := here ▸ leads
  have counts : Metrics.Count.connectAttempt ∈ event.counts := by
    rcases plain with rfl | rfl <;> decide
  have entered := booked.counted leads' counts
  rw [advance_attempt]
  have leads'' : (ledger.count .connectAttempt).phase.next? event = some next := leads'
  rw [advance_eq leads''] at entered ⊢
  refine ⟨rfl, entered.asked _, ?_, ?_, ?_⟩
  · rcases plain with rfl | rfl <;> simp [connects] <;> omega
  · rcases plain with rfl | rfl <;> simpa using publishes
  · rcases plain with rfl | rfl <;> simpa using disconnects

/-- A session that has become ready has its shadow published once. -/
theorem publish (balanced : Balanced .waitCloudReady pending ledger) :
    Balanced .connected pending (((ledger.count .cloudReady).advance .cloudReady).ask .publishShadow) := by
  -- Both the event and the request add one to the second of the three sums.
  obtain ⟨here, booked, connects, publishes, disconnects⟩ := balanced
  have leads : ledger.phase.next? .cloudReady = some .connected := here ▸ rfl
  have entered := booked.counted leads (List.mem_singleton.mpr rfl)
  have leads' : (ledger.count .cloudReady).phase.next? .cloudReady = some .connected := leads
  rw [advance_eq leads'] at entered ⊢
  refine ⟨rfl, entered.asked _, ?_, ?_, ?_⟩
  · simpa using connects
  · simp [publishes]
  · simpa using disconnects

/-- The reset answers for the disconnect that was pending. -/
theorem reset (balanced : Balanced .resetting 1 ledger) :
    Balanced .backoff 0 ((ledger.count .resetPerformed).advance .resetComplete) := by
  -- The event takes over the disconnect that was pending.
  obtain ⟨here, booked, connects, publishes, disconnects⟩ := balanced
  have leads : ledger.phase.next? .resetComplete = some .backoff := here ▸ rfl
  have entered := booked.counted leads (List.mem_singleton.mpr rfl)
  have leads' : (ledger.count .resetPerformed).phase.next? .resetComplete = some .backoff := leads
  rw [advance_eq leads'] at entered ⊢
  refine ⟨rfl, entered, ?_, ?_, ?_⟩
  · simpa using connects
  · simpa using publishes
  · simpa using disconnects

end Balanced

end Ledger

/-! ### The ledger of a supervisor -/

/-- The phase that a run at a place is in. -/
def Supervisor.Place.phase : Supervisor.Place → Phase
  | .starting | .calling .modemInit | .calling .registerClock => .init
  | .calling .transportInit => .modemReady
  | .calling .requestPsm | .calling .enableEvents | .calling .connectNetwork => .cloudClientReady
  | .cycleStart | .awaitingNetwork _ => .waitNetwork
  | .calling .connectCloud | .awaitingCloud _ => .connectingCloud
  | .awaitingReady _ => .waitCloudReady
  | .calling .publishShadow => .connected
  | .awaitingDrop _ => .waitDisconnect
  | .settling _ | .calling .disconnectCloud => .resetting
  | .backingOff _ => .backoff

/-- One while the run waits for the reply to a disconnect, and zero everywhere else. -/
def Supervisor.Place.pending : Supervisor.Place → Nat
  | .calling .disconnectCloud => 1
  | _ => 0

/-- The request that a run at a place waits for the reply to, if it waits for one. -/
def Supervisor.Place.request? : Supervisor.Place → Option Request
  | .calling request => some request
  | _ => none

namespace Standing

/-- The phase of a supervisor whose run has come so far. -/
def phase : Standing → Phase
  | .idle => .init
  | .running run => run.place.phase
  | .ended => .halted

/-- One while a disconnect is pending, and zero everywhere else. -/
def pending : Standing → Nat
  | .running run => run.place.pending
  | _ => 0

/-- The request that is not answered yet, if there is one. -/
def request? : Standing → Option Request
  | .running run => run.place.request?
  | _ => none

/-- A disconnect is pending only while a request is not answered. -/
theorem pending_of_answered {standing : Standing} (answered : standing.request? = none) : standing.pending = 0 := by
  -- A run that waits for a reply has a request that is not answered.
  cases standing with
  | idle | ended => rfl
  | running run =>
    obtain ⟨cycle, place⟩ := run
    cases place with
    | calling request => cases answered
    | _ => rfl

end Standing

namespace Supervisor

/-- The events that have moved the phase, the latest first. -/
def events (supervisor : Supervisor) : List PhaseEvent :=
  supervisor.history.filterMap fun
    | (_, .moved event) => some event
    | (_, .asked _) => none

/-- What was asked of the modem and the transport, the latest first. -/
def requests (supervisor : Supervisor) : List Request :=
  supervisor.history.filterMap fun
    | (_, .asked request) => some request
    | (_, .moved _) => none

/-- What a supervisor has done and counted. -/
def ledger (supervisor : Supervisor) : Ledger where
  phase := supervisor.phase
  events := supervisor.events
  requests := supervisor.requests
  metrics := supervisor.connection.telemetry.metrics.cycle

variable (supervisor : Supervisor) (agenda : Agenda) (task : TaskId) (run : Run)

/-- What a log entry says is not in the ledger. -/
@[simp] theorem ledger_log (level : Level) (message : String) (fields : Fields) :
    (supervisor.log level message fields).ledger = supervisor.ledger := rfl

/-- What is shown is not in the ledger. -/
@[simp] theorem ledger_indicate (indication : Indication) (always : Bool) :
    (supervisor.indicate indication always).ledger = supervisor.ledger := rfl

/-- Only what is counted of the connection is in the ledger. -/
theorem ledger_connection {connection : Connection}
    (same : connection.telemetry.metrics.cycle = supervisor.connection.telemetry.metrics.cycle) :
    { supervisor with connection }.ledger = supervisor.ledger := by
  -- Of the connection the ledger reads nothing but the metrics.
  simp [ledger, events, requests, same]

/-- What is counted for the cycle is counted in the ledger. -/
theorem ledger_count {event : Metrics.Count}
    (counts : ∀ metrics : Metrics, (metrics.count event).cycle = metrics.cycle.count event) :
    (supervisor.count event).ledger = supervisor.ledger.count event := by
  -- The counters of a cycle are counted up in the metrics and in the ledger alike.
  simp only [ledger, Ledger.count, ← counts]
  rfl

/-- A request is entered. -/
@[simp] theorem ledger_ask (request : Request) :
    (supervisor.ask agenda run request).2.ledger = supervisor.ledger.ask request := rfl

/-- A move of the phase is entered if the phase has the event. -/
@[simp] theorem ledger_advance (now : Nat) (event : PhaseEvent) :
    (supervisor.advance now event).ledger = supervisor.ledger.advance event := by
  -- The metrics know the name of the phase, which belongs to the cycle.
  have named (metrics : Metrics) (name : String) :
      (metrics.count (.setPhase name)).cycle = metrics.cycle.count (.setPhase name) := by
    by_cases same : metrics.phase = name <;> simp [Metrics.count, Metrics.cycle, same]
  have phase : supervisor.ledger.phase = supervisor.phase := rfl
  cases leads : supervisor.phase.next? event with
  | none =>
    simp only [advance, Ledger.advance, phase, leads]
    rfl
  | some next =>
    -- The ledger is the same whether the change was logged or not.
    simp only [advance, Ledger.advance, phase, leads]
    rw [ledger_count _ fun metrics => named metrics next.name]
    split <;> rfl

/-- An attempt is counted and asked for. -/
@[simp] theorem ledger_attempt :
    (supervisor.attempt agenda run).2.ledger =
      (supervisor.ledger.count .connectAttempt).ask .connectCloud := rfl

/-- A failed setup is entered. -/
@[simp] theorem ledger_halt (error : SetupError) :
    (supervisor.halt agenda error).2.ledger = supervisor.ledger.advance .setupFailed := by
  -- Only the change of phase is entered; the error is logged.
  simp [halt]

end Supervisor

end Uplink
