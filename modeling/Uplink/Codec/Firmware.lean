import Uplink.Codec.Config
import Uplink.Event

/-!
The document forms of the firmware kinds and of the flash of a device.
-/

namespace Uplink

open Codec (Decoder Format Layout required)

namespace FirmwareKind

/-- The firmware kinds by name. -/
def choices : List (String × FirmwareKind) :=
  [ ("application", .application), ("modem_delta", .modemDelta), ("modem_full", .modemFull),
    ("bootloader", .bootloader) ]

/-- The name of a firmware kind. -/
def name : FirmwareKind → String
  | application => "application"
  | modemDelta => "modem_delta"
  | modemFull => "modem_full"
  | bootloader => "bootloader"

/-- Decode a firmware kind. -/
def decode (format : Format) : Decoder FirmwareKind :=
  format.choice choices

/-- The document form of a firmware kind. -/
def encode (kind : FirmwareKind) : Value :=
  .str kind.name

end FirmwareKind

namespace FlashInfo

/-- The fields of the description. -/
def layout (format : Format) : Layout FlashInfo where
  name := "FotaDeviceInfo"
  start := { device := "", offset := 0, size := 0 }
  fields :=
    [ required "device" format.text fun device whole => { whole with device },
      required "offset" (format.word "u64") fun offset whole => { whole with offset },
      required "size" (format.word "u64") fun size whole => { whole with size } ]

/-- Decode the description of a flash. -/
def decode (format : Format) : Decoder FlashInfo :=
  (layout format).decode format

/-- The document form of the description. -/
def encode (flash : FlashInfo) : Value :=
  .table
    [("device", .str flash.device), ("offset", Codec.ofWord flash.offset), ("size", Codec.ofWord flash.size)]

end FlashInfo

end Uplink
