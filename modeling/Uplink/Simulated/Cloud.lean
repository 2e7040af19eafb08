import Uplink.Failure
import Uplink.Message
import Uplink.Shadow

/-!
A simulated cloud: it answers the calls of a transport by a script and keeps a record of them.

A connect request that succeeds opens a session, whose script says which events follow. Faults that
were planned for a call come first, one for each call, and leave no other trace.
-/

namespace Uplink.Simulated

/-- What the cloud does after a successful connect request. -/
inductive Script where
  /-- The transport connects and the session becomes ready. -/
  | ready
  /-- The transport connects, but no session becomes ready. -/
  | neverReady
  /-- Nothing happens at all. -/
  | silent
  /-- The first session asks for the device to be added to an account and learns that it was;
  later ones become ready. -/
  | association
deriving Repr, DecidableEq

/-- The name that people read. -/
def Script.name : Script → String
  | .ready => "Ready"
  | .neverReady => "NeverReady"
  | .silent => "Silent"
  | .association => "Association"

/-- The events of a session, by the number of sessions before it. -/
def Script.events : Script → Nat → List CloudEvent
  | .silent, _ => []
  | .neverReady, _ => [.connecting, .connected]
  | .association, 0 => [.connecting, .connected, .userAssociationRequest, .userAssociated]
  | .association, _ + 1 => [.connecting, .connected, .ready]
  | .ready, _ => [.connecting, .connected, .ready]

/-- What a transport learns about the device when it is set up. -/
structure Enrolment where
  version : String
  flash : Option FlashInfo
deriving Repr, DecidableEq

/-- How the cloud was set up, and the record of what was asked of it. -/
structure Cloud where
  script : Script := .ready
  /-- The pause in milliseconds before each event; without one, events come within the request. -/
  pause : Option Nat := none
  /-- The firmware kinds that the transport accepts. -/
  kinds : List FirmwareKind := []
  failsInit : Bool := false
  failsShadow : Bool := false
  failsSend : Bool := false
  /-- How many of the next connect requests fail. -/
  connectFailures : Nat := 0
  /-- Planned faults of the next disconnect requests; where there is none, the cloud answers. -/
  disconnectFaults : List (Option TransportError) := []
  sendFaults : List (Option TransportError) := []
  shadowFaults : List (Option TransportError) := []
  /-- What the transport was set up with, if it was. -/
  enrolment : Option Enrolment := none
  connected : Bool := false
  /-- How many sessions were opened. -/
  sessions : Nat := 0
  connects : Nat := 0
  disconnects : Nat := 0
  /-- Published shadows, the latest first. -/
  shadows : List ShadowStatus := []
  /-- Messages sent, the latest first. -/
  sent : List (Handle × Message) := []

namespace Cloud

/-- Whether the transport accepts a kind of firmware. -/
def accepts (cloud : Cloud) (kind : FirmwareKind) : Bool :=
  cloud.kinds.contains kind

/-- Whether the transport was set up, so that events reach the device. -/
def isInitialized (cloud : Cloud) : Bool :=
  cloud.enrolment.isSome

/-- Set the transport up. -/
def init (cloud : Cloud) (enrolment : Enrolment) : Except TransportError Unit × Cloud :=
  if cloud.failsInit then (.error (.initFailed "mock init failure"), cloud)
  else (.ok (), { cloud with enrolment := some enrolment })

/-- Request a connection. A request that succeeds answers with the events that follow. -/
def connect (cloud : Cloud) : Except TransportError (List CloudEvent) × Cloud :=
  -- A request counts whatever comes of it.
  let cloud := { cloud with connects := cloud.connects + 1 }
  if 0 < cloud.connectFailures then
    (.error (.connectFailed "mock connect failure"),
      { cloud with connectFailures := cloud.connectFailures - 1 })
  else if !cloud.isInitialized then (.error (.initFailed "transport not initialized"), cloud)
  else
    (.ok (cloud.script.events cloud.sessions),
      -- A silent cloud takes the request and connects nothing.
      { cloud with connected := cloud.connected || cloud.script ≠ .silent, sessions := cloud.sessions + 1 })

/-- Disconnect the transport. -/
def disconnect (cloud : Cloud) : Except TransportError Unit × Cloud :=
  match cloud.disconnectFaults with
  | some fault :: rest => (.error fault, { cloud with disconnectFaults := rest })
  | faults =>
    (if cloud.connected then .ok () else .error .notConnected,
      { cloud with
        -- A place in the plan without a fault is used up like one with a fault.
        disconnectFaults := faults.drop 1
        disconnects := cloud.disconnects + 1
        connected := false })

/-- Publish a shadow. -/
def publish (cloud : Cloud) (status : ShadowStatus) : Except TransportError Unit × Cloud :=
  match cloud.shadowFaults with
  | some fault :: rest => (.error fault, { cloud with shadowFaults := rest })
  | faults =>
    let cloud := { cloud with shadowFaults := faults.drop 1 }
    if cloud.failsShadow then (.error (.code (-5)), cloud)
    else (.ok (), { cloud with shadows := status :: cloud.shadows })

/-- Send a device message. -/
def send (cloud : Cloud) (handle : Handle) (message : Message) : Except TransportError Unit × Cloud :=
  match cloud.sendFaults with
  | some fault :: rest => (.error fault, { cloud with sendFaults := rest })
  | faults =>
    let cloud := { cloud with sendFaults := faults.drop 1 }
    if cloud.failsSend then (.error (.sendFailed "mock send failure"), cloud)
    else if !cloud.connected then (.error .notConnected, cloud)
    else (.ok (), { cloud with sent := (handle, message) :: cloud.sent })

/-- The service drops the session. -/
def drop (cloud : Cloud) : Cloud :=
  { cloud with connected := false }

end Cloud

end Uplink.Simulated
