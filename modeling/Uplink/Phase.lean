/-!
Phases of the connection cycle, and the table of the events that lead from one to the next.
-/

namespace Uplink

/-- Where the connection stands. -/
inductive Phase where
  | init
  | modemReady
  | cloudClientReady
  | networkBringupRequested
  | waitNetwork
  | connectingCloud
  | waitCloudReady
  | connected
  | waitDisconnect
  | resetting
  | backoff
  | halted
deriving Repr, DecidableEq

/-- What moves the connection on. -/
inductive PhaseEvent where
  | setupSucceeded
  | setupFailed
  | networkUp
  | connectTimedOut
  | cloudConnected
  | cloudReady
  | readyTimedOut
  | shadowPublished
  | disconnected
  | resetComplete
  | backoffElapsed
deriving Repr, DecidableEq

namespace Phase

/-- The name that metrics and log entries show. -/
def name : Phase → String
  | init => "init"
  | modemReady => "modem_ready"
  | cloudClientReady => "cloud_client_ready"
  | networkBringupRequested => "network_bringup_requested"
  | waitNetwork => "wait_network"
  | connectingCloud => "connecting_cloud"
  | waitCloudReady => "wait_cloud_ready"
  | connected => "connected"
  | waitDisconnect => "wait_disconnect"
  | resetting => "resetting"
  | backoff => "backoff"
  | halted => "halted"

/-- Whether setup is still under way. -/
def isSetup : Phase → Bool
  | init | modemReady | cloudClientReady | networkBringupRequested => true
  | _ => false

/-- The phase that an event leads to; none if the phase has no such event. -/
def next? : Phase → PhaseEvent → Option Phase
  -- Each stage of the setup can fail, and nothing after it can.
  | phase, .setupFailed => if phase.isSetup then some halted else none
  | init, .setupSucceeded => some modemReady
  | modemReady, .setupSucceeded => some cloudClientReady
  | cloudClientReady, .setupSucceeded => some networkBringupRequested
  | networkBringupRequested, .setupSucceeded => some waitNetwork
  | waitNetwork, .networkUp => some connectingCloud
  -- The next attempt belongs to the same phase.
  | connectingCloud, .connectTimedOut => some connectingCloud
  | connectingCloud, .cloudConnected => some waitCloudReady
  | waitCloudReady, .cloudReady => some connected
  | waitCloudReady, .readyTimedOut => some resetting
  | connected, .shadowPublished => some waitDisconnect
  | waitDisconnect, .disconnected => some resetting
  | resetting, .resetComplete => some backoff
  | backoff, .backoffElapsed => some waitNetwork
  | _, _ => none

/-- Every phase. -/
def all : List Phase :=
  [init, modemReady, cloudClientReady, networkBringupRequested, waitNetwork, connectingCloud,
    waitCloudReady, connected, waitDisconnect, resetting, backoff, halted]

end Phase

namespace PhaseEvent

/-- The name that log entries show. -/
def name : PhaseEvent → String
  | setupSucceeded => "SetupSucceeded"
  | setupFailed => "SetupFailed"
  | networkUp => "NetworkUp"
  | connectTimedOut => "ConnectTimedOut"
  | cloudConnected => "CloudConnected"
  | cloudReady => "CloudReady"
  | readyTimedOut => "ReadyTimedOut"
  | shadowPublished => "ShadowPublished"
  | disconnected => "Disconnected"
  | resetComplete => "ResetComplete"
  | backoffElapsed => "BackoffElapsed"

/-- Every event. -/
def all : List PhaseEvent :=
  [setupSucceeded, setupFailed, networkUp, connectTimedOut, cloudConnected, cloudReady,
    readyTimedOut, shadowPublished, disconnected, resetComplete, backoffElapsed]

end PhaseEvent

end Uplink
