import Uplink.Session.Basic
import Uplink.Text.Quoted

/-!
One-line descriptions of the parts of a session, for diagnosis.
-/

namespace Uplink

/-- Named values between braces; `open` says that not every value is shown. -/
def describeFields (name : String) (fields : List (String × String)) (isOpen : Bool) : String :=
  let shown := fields.map fun (key, value) => key ++ ": " ++ value
  let shown := if isOpen then shown ++ [".."] else shown
  name ++ " \x7b " ++ ", ".intercalate shown ++ " \x7d"

/-- A value that may be missing. -/
def describeOption {α : Type} (describe : α → String) : Option α → String
  | none => "None"
  | some a => "Some(" ++ describe a ++ ")"

/-- The flash of a device. -/
def FlashInfo.describe (flash : FlashInfo) : String :=
  describeFields "FotaDeviceInfo"
    [("device", Text.quoted flash.device), ("offset", toString flash.offset.toNat),
      ("size", toString flash.size.toNat)] false

/-- The name of a modem's refusal, with its code. -/
def ModemError.describe : ModemError → String
  | .initFailed code => "InitFailed(" ++ toString code ++ ")"
  | .psmRequestFailed code => "PsmRequestFailed(" ++ toString code ++ ")"
  | .eventsUnavailable code => "EventsUnavailable(" ++ toString code ++ ")"
  | .connectFailed code => "ConnectFailed(" ++ toString code ++ ")"

/-- How a modem came up. -/
def ModemStart.describe : ModemStart → String
  | .initialized => "Initialized"
  | .firmwareUpdated => "FirmwareUpdated"
  | .firmwareUpdateFailed code => "FirmwareUpdateFailed(" ++ toString code ++ ")"

/-- The registers and the length of the queue. -/
def Connection.describe (connection : Connection) : String :=
  describeFields "ConnectionContext"
    [("network", toString connection.network.bits.toNat), ("cloud", toString connection.cloud.bits.toNat),
      ("date_time", toString connection.dateTime.bits.toNat), ("queued", toString connection.queue.length)]
    false

/-- The script of the simulated cloud and what was asked of it. -/
def Simulated.Cloud.describe (cloud : Simulated.Cloud) : String :=
  describeFields "MockCloudTransport"
    [("script", cloud.script.name), ("connected", toString cloud.connected),
      ("connect_calls", toString cloud.connects), ("disconnect_calls", toString cloud.disconnects)]
    true

/-- How the simulated modem comes up, and what was asked of it. -/
def Simulated.Modem.describe (modem : Simulated.Modem) : String :=
  let start := match modem.start with
    | .ok start => "Ok(" ++ start.describe ++ ")"
    | .error error => "Err(" ++ error.describe ++ ")"
  describeFields "MockModem"
    [("init_result", start), ("auto_register", toString modem.registers),
      ("events_enabled", toString modem.eventsEnabled)]
    true

/-- What the transport learns about the device. -/
def Simulated.Enrolment.describe (enrolment : Simulated.Enrolment) : String :=
  describeFields "TransportInit"
    [("application_version", Text.quoted enrolment.version),
      ("fota_device_info", describeOption FlashInfo.describe enrolment.flash)]
    true

end Uplink
