import Uplink.Event
import Uplink.Failure

/-!
A simulated modem: it answers the calls of the device and keeps a record of them.

Once it is asked to connect it attaches to its home network by itself, at once or after a pause,
unless it was set up to wait for registrations from outside.
-/

namespace Uplink.Simulated

/-- How the modem was set up, and the record of what was asked of it. -/
structure Modem where
  start : Except ModemError ModemStart := .ok .initialized
  psmFault : Option Int := none
  eventsFault : Option Int := none
  connectFault : Option Int := none
  /-- Whether the modem attaches by itself. -/
  registers : Bool := true
  /-- The pause in milliseconds before it does so. -/
  pause : Option Nat := none
  /-- Whether link events reach the device. -/
  linkHandled : Bool := false
  /-- Whether the modem's clock reaches the device. -/
  clockHandled : Bool := false
  /-- The power saving modes requested, the latest first. -/
  psmRequests : List Bool := []
  eventsEnabled : Bool := false
  inits : Nat := 0

namespace Modem

/-- Bring the modem up. -/
def init (modem : Modem) : Except ModemError ModemStart × Modem :=
  (modem.start, { modem with inits := modem.inits + 1 })

/-- Have the modem's clock reach the device. -/
def registerClock (modem : Modem) : Modem :=
  { modem with clockHandled := true }

/-- Ask for the power saving mode. -/
def requestPsm (modem : Modem) (enable : Bool) : Except ModemError Unit × Modem :=
  match modem.psmFault with
  | some code => (.error (.psmRequestFailed code), modem)
  | none => (.ok (), { modem with psmRequests := enable :: modem.psmRequests })

/-- Have the modem report on itself. -/
def enableEvents (modem : Modem) : Except ModemError Unit × Modem :=
  match modem.eventsFault with
  | some code => (.error (.eventsUnavailable code), modem)
  | none => (.ok (), { modem with eventsEnabled := true })

/-- Ask the modem to connect to the network. -/
def connect (modem : Modem) : Except ModemError Unit × Modem :=
  match modem.connectFault with
  | some code => (.error (.connectFailed code), modem)
  | none => (.ok (), { modem with linkHandled := true })

end Modem

end Uplink.Simulated
