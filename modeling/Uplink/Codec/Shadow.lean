import Uplink.Codec.Decoder
import Uplink.Shadow

/-!
The document form of the device shadow.
-/

namespace Uplink

open Codec (Decoder Format Layout required)

namespace FirmwareServices

/-- The fields of the part of the shadow. -/
def layout (format : Format) : Layout FirmwareServices where
  name := "FotaServiceInfo"
  start := ⟨false, false, false, false⟩
  fields :=
    [ required "application" format.bool fun on whole => { whole with application := on },
      required "bootloader" format.bool fun on whole => { whole with bootloader := on },
      required "modem" format.bool fun on whole => { whole with modem := on },
      required "modem_full" format.bool fun on whole => { whole with modemFull := on } ]

/-- The document form of the part of the shadow. -/
def encode (services : FirmwareServices) : Value :=
  .table
    [ ("application", .bool services.application), ("bootloader", .bool services.bootloader),
      ("modem", .bool services.modem), ("modem_full", .bool services.modemFull) ]

end FirmwareServices

namespace UiServices

/-- The fields of the part of the shadow. -/
def layout (format : Format) : Layout UiServices where
  name := "UiServiceInfo"
  start := ⟨false, false, false, false⟩
  fields :=
    [ required "gnss" format.bool fun on whole => { whole with gnss := on },
      required "temperature" format.bool fun on whole => { whole with temperature := on },
      required "log" format.bool fun on whole => { whole with log := on },
      required "dictionary_log" format.bool fun on whole => { whole with dictionaryLog := on } ]

/-- The document form of the part of the shadow. -/
def encode (services : UiServices) : Value :=
  .table
    [ ("gnss", .bool services.gnss), ("temperature", .bool services.temperature),
      ("log", .bool services.log), ("dictionary_log", .bool services.dictionaryLog) ]

end UiServices

namespace ShadowStatus

/-- The parts of the shadow. -/
def layout (format : Format) : Layout ShadowStatus where
  name := "ShadowStatus"
  start := ⟨⟨false, false, false, false⟩, ⟨false, false, false, false⟩⟩
  fields :=
    [ required "fota" ((FirmwareServices.layout format).decode format) fun part whole => { whole with fota := part },
      required "ui" ((UiServices.layout format).decode format) fun part whole => { whole with ui := part } ]

/-- Decode a shadow. -/
def decode (format : Format) : Decoder ShadowStatus :=
  (layout format).decode format

/-- The document form of the shadow. -/
def encode (status : ShadowStatus) : Value :=
  .table [("fota", status.fota.encode), ("ui", status.ui.encode)]

end ShadowStatus

end Uplink
