import Uplink.Config
import Uplink.Event

/-!
The device shadow: which firmware kinds the device accepts and which cards the cloud shows for it.
-/

namespace Uplink

/-- The firmware kinds that the device accepts. -/
structure FirmwareServices where
  application : Bool
  bootloader : Bool
  modem : Bool
  modemFull : Bool
deriving Repr, DecidableEq

/-- The cards that the cloud shows for the device. -/
structure UiServices where
  gnss : Bool
  temperature : Bool
  log : Bool
  dictionaryLog : Bool
deriving Repr, DecidableEq

/-- The status that is published once for every ready session. -/
structure ShadowStatus where
  fota : FirmwareServices
  ui : UiServices
deriving Repr, DecidableEq

/-- The status of a device with these features, that accepts these firmware kinds. The log card
needs the log to be sent, and which of the two cards it is follows the form of the log. -/
def ShadowStatus.build (features : FeatureSection) (accepts : FirmwareKind → Bool) (location : Bool) :
    ShadowStatus where
  fota :=
    { application := accepts .application
      bootloader := accepts .bootloader
      modem := accepts .modemDelta
      modemFull := accepts .modemFull }
  ui :=
    { gnss := location
      temperature := features.temperatureTracking
      log := features.logBackend && features.logOutput = .text
      dictionaryLog := features.logBackend && features.logOutput = .dictionary }

end Uplink
