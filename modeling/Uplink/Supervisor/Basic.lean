import Uplink.Config
import Uplink.Connection
import Uplink.Phase

/-!
The supervisor of the connection: its configuration, the connection it keeps up and the phase it has
reached, with what it asks of the modem and of the cloud transport.
-/

namespace Uplink

/-- A change of the phase. -/
structure PhaseChange where
  instant : Nat
  source : Phase
  target : Phase
  event : PhaseEvent
deriving Repr, DecidableEq

/-- What the supervisor asks of the modem and of the cloud transport. -/
inductive Request where
  | modemInit
  /-- Have the modem's clock reach the connection. -/
  | registerClock
  | transportInit
  | requestPsm
  | enableEvents
  | connectNetwork
  | connectCloud
  | publishShadow
  | disconnectCloud
deriving Repr, DecidableEq

/-- What a supervisor does that others can see. -/
inductive Deed where
  /-- It asks the modem or the cloud transport for something. -/
  | asked (request : Request)
  /-- It publishes its phase after an event, which may have led back to the same phase. -/
  | moved (event : PhaseEvent)
deriving Repr, DecidableEq

/-- What the supervisor of a connection knows. -/
structure Supervisor where
  config : Config
  connection : Connection
  phase : Phase := .init
  /-- The changes of the phase, the latest first. -/
  changes : List PhaseChange := []
  /-- What it has done, with the instants, the latest first. -/
  history : List (Nat × Deed) := []

/-- The reply that a request gets. -/
def Request.Reply : Request → Type
  | .modemInit => Except ModemError ModemStart
  | .registerClock => Unit
  | .transportInit => Except TransportError Unit
  | .requestPsm => Except ModemError Unit
  | .enableEvents => Except ModemError Unit
  | .connectNetwork => Except ModemError Unit
  | .connectCloud => Except TransportError Unit
  | .publishShadow => Except TransportError Unit
  | .disconnectCloud => Except TransportError Unit

/-- Log and count whether the shadow was published. -/
def Connection.notePublish (connection : Connection) : Except TransportError Unit → Connection
  | .ok () => (connection.log .info "Device shadow updated" []).count .shadowUpdated
  | .error error =>
    (connection.log .error "Failed to update device shadow" [("error", .text error.message)]).count
      .shadowFailed

namespace Supervisor

/-- Write a log entry. -/
def log (supervisor : Supervisor) (level : Level) (message : String) (fields : Fields := []) :
    Supervisor :=
  { supervisor with connection := supervisor.connection.log level message fields }

/-- Count an event. -/
def count (supervisor : Supervisor) (event : Metrics.Count) : Supervisor :=
  { supervisor with connection := supervisor.connection.count event }

/-- Show something to the person at the device. What is not of lasting interest is shown only if
the configuration asks for it, and logged as a detail otherwise. -/
def indicate (supervisor : Supervisor) (indication : Indication) (always : Bool) : Supervisor :=
  let level : Level := if always || supervisor.config.features.verboseIndication then .info else .debug
  supervisor.log level "Indication" [("indication", .text indication.name)]

/-- Move to the phase that an event leads to. An event that the phase does not have is logged and
passed over. -/
def advance (supervisor : Supervisor) (now : Nat) (event : PhaseEvent) : Supervisor :=
  match supervisor.phase.next? event with
  | none =>
    supervisor.log .warn "Ignoring invalid phase transition"
      [("phase", .text supervisor.phase.name), ("event", .text event.name)]
  | some next =>
    -- An event may lead back to the same phase, and only a real change is kept and logged.
    let noted :=
      if next = supervisor.phase then supervisor
      else
        { supervisor.log .debug "Connection phase changed"
            [("from", .text supervisor.phase.name), ("to", .text next.name), ("event", .text event.name)] with
          changes := ⟨now, supervisor.phase, next, event⟩ :: supervisor.changes }
    { noted with phase := next, history := (now, .moved event) :: noted.history }.count
      (.setPhase next.name)

end Supervisor

end Uplink
