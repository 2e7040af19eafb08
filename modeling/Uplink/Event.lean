/-!
Events that the cloud transport, the radio link and the clock raise, and their shown names.
-/

namespace Uplink

/-- The kinds of firmware that the cloud can deliver. -/
inductive FirmwareKind where
  | application
  | modemDelta
  | modemFull
  | bootloader
deriving Repr, DecidableEq

/-- The label that people read. -/
def FirmwareKind.label : FirmwareKind → String
  | .application => "Application"
  | .modemDelta => "Modem (delta)"
  | .modemFull => "Modem (full)"
  | .bootloader => "Bootloader"

/-- The label of a download, whose kind may be missing. -/
def FirmwareKind.labelOf : Option FirmwareKind → String
  | some kind => kind.label
  | none => "Invalid"

/-- The external flash that a full modem update goes through. -/
structure FlashInfo where
  device : String
  offset : UInt64
  size : UInt64
deriving Repr, DecidableEq

/-- What the cloud transport reports. -/
inductive CloudEvent where
  | connected
  | connecting
  | connectError (status : Int)
  /-- The device has to be added to a user's account. -/
  | userAssociationRequest
  /-- The device belongs to a user's account; raised on every connect. -/
  | userAssociated
  /-- The session takes device messages. -/
  | ready
  | sensorDataAck
  | disconnected
  | error (status : Int)
  /-- A device message from the cloud. -/
  | rxDataGeneral (payload : ByteArray)
  /-- Shadow data from the cloud. -/
  | rxDataShadow (payload : ByteArray)
  | fotaStart
  | fotaDone (kind : Option FirmwareKind)
  | fotaError

/-- The name that log entries show. -/
def CloudEvent.name : CloudEvent → String
  | .connected => "transport_connected"
  | .connecting => "transport_connecting"
  | .connectError _ => "transport_connect_error"
  | .userAssociationRequest => "user_association_request"
  | .userAssociated => "user_associated"
  | .ready => "ready"
  | .sensorDataAck => "sensor_data_ack"
  | .disconnected => "transport_disconnected"
  | .error _ => "error"
  | .rxDataGeneral _ => "rx_data_general"
  | .rxDataShadow _ => "rx_data_shadow"
  | .fotaStart => "fota_start"
  | .fotaDone _ => "fota_done"
  | .fotaError => "fota_error"

/-- How the modem stands with the cellular network. -/
inductive Registration where
  | notRegistered
  | registeredHome
  | searching
  | registrationDenied
  | unknown
  | registeredRoaming
  | registeredEmergency
  | uiccFail
deriving Repr, DecidableEq

namespace Registration

/-- Whether there is data connectivity: at home and roaming only. -/
def isRegistered : Registration → Bool
  | registeredHome | registeredRoaming => true
  | _ => false

/-- The label that people read. -/
def label : Registration → String
  | notRegistered => "Not Registered"
  | registeredHome => "Registered Home"
  | searching => "Searching"
  | registrationDenied => "Registration Denied"
  | unknown => "Unknown"
  | registeredRoaming => "Registered Roaming"
  | registeredEmergency => "Registered Emergency"
  | uiccFail => "UICC Fail"

end Registration

/-- The state of the radio resource control. -/
inductive RrcMode where
  | connected
  | idle
deriving Repr, DecidableEq

/-- The label that people read. -/
def RrcMode.label : RrcMode → String
  | .connected => "Connected"
  | .idle => "Idle"

/-- The kind of cellular access in use. -/
inductive LteMode where
  | none
  | lteM
  | nbIot
deriving Repr, DecidableEq

/-- The label that people read. -/
def LteMode.label : LteMode → String
  | .none => "None"
  | .lteM => "LTE-M"
  | .nbIot => "NB-IoT"

/-- What the modem reports about itself. -/
inductive ModemNotice where
  | lightSearchDone
  | searchDone
  | resetLoop
  | batteryLow
  | overheated
deriving Repr, DecidableEq

/-- The label that people read. -/
def ModemNotice.label : ModemNotice → String
  | .lightSearchDone => "Light search done"
  | .searchDone => "Search done"
  | .resetLoop => "Reset loop detected"
  | .batteryLow => "Low battery"
  | .overheated => "Modem is overheated"

/-- How a modem came up. -/
inductive ModemStart where
  | initialized
  /-- A waiting firmware update was applied. -/
  | firmwareUpdated
  /-- A waiting firmware update failed with this code, and the modem runs its old firmware. -/
  | firmwareUpdateFailed (code : Int)
deriving Repr, DecidableEq

/-- What the radio link reports. -/
inductive LinkEvent where
  | registration (status : Registration)
  | psmUpdate (tau activeTime : Int)
  | edrxUpdate (edrx ptw : Float32)
  | rrcUpdate (mode : RrcMode)
  | cellUpdate (id trackingArea : Nat)
  | lteModeUpdate (mode : LteMode)
  | modemEvent (notice : ModemNotice)

/-- What is shown to the person at the device. -/
inductive Indication where
  | waiting
  | connected
  | failure
deriving Repr, DecidableEq

/-- The name that log entries show. -/
def Indication.name : Indication → String
  | .waiting => "waiting"
  | .connected => "connected"
  | .failure => "failure"

end Uplink
