import Uplink.Codec.Decoder
import Uplink.Config

/-!
The document form of the configuration, in both formats: its sections are tables, and every field
but the version of the application has a default.
-/

namespace Uplink

open Codec (Decoder Format Layout required optional)

/-- The outputs of the log by name. -/
def LogOutput.choices : List (String × LogOutput) :=
  [("text", .text), ("dictionary", .dictionary)]

/-- The name of an output of the log. -/
def LogOutput.name : LogOutput → String
  | .text => "text"
  | .dictionary => "dictionary"

/-- Decode an output of the log. -/
def LogOutput.decode (format : Format) : Decoder LogOutput :=
  format.choice LogOutput.choices

/-- The document form of an output of the log. -/
def LogOutput.encode (output : LogOutput) : Value :=
  .str output.name

/-- The number in a document. -/
def Codec.ofWord (n : UInt64) : Value :=
  .int n.toNat

namespace DeviceSection

/-- The fields of the section. -/
def layout (format : Format) : Layout DeviceSection where
  name := "DeviceSection"
  start := { appVersion := "" }
  fields := [required "app_version" format.text fun version whole => { whole with appVersion := version }]

/-- The document form of the section. -/
def encode (whole : DeviceSection) : Value :=
  .table [("app_version", .str whole.appVersion)]

end DeviceSection

namespace ConnectionSection

/-- The fields of the section. -/
def layout (format : Format) : Layout ConnectionSection where
  name := "ConnectionSection"
  -- What a key stands for that is left out of the section.
  start := { retryTimeout := 30, readyTimeout := 30, reestablishDelay := 15, settleDelay := 20 }
  fields :=
    [ optional "retry_timeout_secs" (format.word "u64") fun n whole => { whole with retryTimeout := n },
      optional "ready_timeout_secs" (format.word "u64") fun n whole => { whole with readyTimeout := n },
      optional "reestablish_delay_secs" (format.word "u64") fun n whole => { whole with reestablishDelay := n },
      optional "settle_delay_secs" (format.word "u64") fun n whole => { whole with settleDelay := n } ]

/-- The document form of the section. -/
def encode (connection : ConnectionSection) : Value :=
  .table
    [ ("retry_timeout_secs", Codec.ofWord connection.retryTimeout),
      ("ready_timeout_secs", Codec.ofWord connection.readyTimeout),
      ("reestablish_delay_secs", Codec.ofWord connection.reestablishDelay),
      ("settle_delay_secs", Codec.ofWord connection.settleDelay) ]

end ConnectionSection

namespace QueueSection

/-- The fields of the section. -/
def layout (format : Format) : Layout QueueSection where
  name := "QueueSection"
  start := { capacity := 10 }
  fields := [optional "capacity" (format.word "usize") fun n whole => { whole with capacity := n }]

/-- The document form of the section. -/
def encode (queue : QueueSection) : Value :=
  .table [("capacity", Codec.ofWord queue.capacity)]

end QueueSection

namespace FeatureSection

/-- The fields of the section. -/
def layout (format : Format) : Layout FeatureSection where
  name := "FeatureSection"
  start :=
    { powerSavingMode := false
      temperatureTracking := true
      logBackend := false
      logOutput := .text
      verboseIndication := false }
  fields :=
    [ optional "power_saving_mode" format.bool fun on whole => { whole with powerSavingMode := on },
      optional "temperature_tracking" format.bool fun on whole => { whole with temperatureTracking := on },
      optional "log_backend" format.bool fun on whole => { whole with logBackend := on },
      optional "log_output" (LogOutput.decode format) fun output whole => { whole with logOutput := output },
      optional "verbose_indication" format.bool fun on whole => { whole with verboseIndication := on } ]

/-- The document form of the section. -/
def encode (features : FeatureSection) : Value :=
  .table
    [ ("power_saving_mode", .bool features.powerSavingMode),
      ("temperature_tracking", .bool features.temperatureTracking),
      ("log_backend", .bool features.logBackend),
      ("log_output", features.logOutput.encode),
      ("verbose_indication", .bool features.verboseIndication) ]

end FeatureSection

namespace Config

/-- The sections of the configuration. -/
def layout (format : Format) : Layout Config where
  name := "LinkConfig"
  -- A section that is left out is the default of its kind.
  start := .ofAppVersion ""
  fields :=
    [ required "device" ((DeviceSection.layout format).decode format) fun part whole => { whole with device := part },
      optional "connection" ((ConnectionSection.layout format).decode format) fun part whole =>
        { whole with connection := part },
      optional "queue" ((QueueSection.layout format).decode format) fun part whole => { whole with queue := part },
      optional "features" ((FeatureSection.layout format).decode format) fun part whole =>
        { whole with features := part } ]

/-- Decode a configuration, without a look at whether it can be used. -/
def decode (format : Format) : Decoder Config :=
  (layout format).decode format

/-- The document form of the configuration. -/
def encode (config : Config) : Value :=
  .table
    [ ("device", config.device.encode),
      ("connection", config.connection.encode),
      ("queue", config.queue.encode),
      ("features", config.features.encode) ]

end Config

end Uplink
