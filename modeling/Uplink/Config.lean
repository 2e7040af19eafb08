import Uplink.Failure
import Uplink.Text.Blank

/-!
The configuration: what the application is, how long the connection waits, how much the queue
holds, and which features are on.
-/

namespace Uplink

/-- Where log output of the device goes on its card in the cloud. -/
inductive LogOutput where
  | text
  | dictionary
deriving Repr, DecidableEq

/-- What runs on the device. -/
structure DeviceSection where
  appVersion : String
deriving Repr, DecidableEq

/-- How long the connection waits, in seconds. -/
structure ConnectionSection where
  /-- For the transport to be connected, in each attempt. -/
  retryTimeout : UInt64 := 30
  /-- For a connected session to become ready. -/
  readyTimeout : UInt64 := 30
  /-- After a reset, before the next cycle. -/
  reestablishDelay : UInt64 := 15
  /-- Before a disconnect, for late events to arrive. -/
  settleDelay : UInt64 := 20
deriving Repr, DecidableEq

/-- How many messages the queue holds. -/
structure QueueSection where
  capacity : UInt64 := 10
deriving Repr, DecidableEq

/-- Which features are on. -/
structure FeatureSection where
  powerSavingMode : Bool := false
  temperatureTracking : Bool := true
  logBackend : Bool := false
  logOutput : LogOutput := .text
  verboseIndication : Bool := false
deriving Repr, DecidableEq

/-- The whole configuration. -/
structure Config where
  device : DeviceSection
  connection : ConnectionSection := {}
  queue : QueueSection := {}
  features : FeatureSection := {}
deriving Repr, DecidableEq

/-- What makes a configuration unusable. -/
inductive ConfigFault where
  | emptyAppVersion
  | zeroRetryTimeout
  | zeroReadyTimeout
  | zeroCapacity
  | excessiveCapacity
deriving Repr, DecidableEq

/-- The text that is shown. -/
def ConfigFault.message : ConfigFault → String
  | .emptyAppVersion => "device.app_version must not be empty"
  | .zeroRetryTimeout => "connection.retry_timeout_secs must be greater than 0"
  | .zeroReadyTimeout => "connection.ready_timeout_secs must be greater than 0"
  | .zeroCapacity => "queue.capacity must be greater than 0"
  | .excessiveCapacity => "queue.capacity must be at most 1024"

namespace ConnectionSection

/-- A number of seconds in milliseconds. -/
def millis (seconds : UInt64) : Nat :=
  seconds.toNat * 1000

/-- The durations in milliseconds, in the order of the fields. -/
def durations (connection : ConnectionSection) : List Nat :=
  [millis connection.retryTimeout, millis connection.readyTimeout,
    millis connection.reestablishDelay, millis connection.settleDelay]

end ConnectionSection

namespace Config

/-- The default configuration of an application. -/
def ofAppVersion (version : String) : Config :=
  { device := { appVersion := version } }

/-- The first fault of the configuration, if it has one. -/
def fault? (config : Config) : Option ConfigFault :=
  if Text.isBlankText config.device.appVersion then some .emptyAppVersion
  else if config.connection.retryTimeout = 0 then some .zeroRetryTimeout
  else if config.connection.readyTimeout = 0 then some .zeroReadyTimeout
  else if config.queue.capacity = 0 then some .zeroCapacity
  else if 1024 < config.queue.capacity then some .excessiveCapacity
  else none

/-- Whether the configuration can be used. -/
def validate (config : Config) : Except ConfigError Unit :=
  match config.fault? with
  | some fault => .error (.invalid fault.message)
  | none => .ok ()

end Config

end Uplink
