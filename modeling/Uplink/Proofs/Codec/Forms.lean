import Uplink.Codec.Firmware
import Uplink.Codec.Shadow
import Uplink.Proofs.Codec.Layout

/-!
The document forms of the structures with named fields: a key for each field, and the value of a key
for what the field holds.
-/

namespace Uplink

open Codec

namespace Codec

/-- What can be decoded again has a document form of its own. -/
theorem encode_inj_of_decode {α : Type} {decode : Decoder α} {encode : α → Value}
    (decodes : ∀ a, decode (encode a) = .ok a) {a b : α} : encode a = encode b ↔ a = b := by
  -- Both are decoded from the one form, and decoding has one result.
  refine ⟨fun same => ?_, fun same => same ▸ rfl⟩
  have := (decodes a).symm.trans (same ▸ decodes b)
  cases this
  rfl

/-- A number has a document form of its own. -/
@[simp]
theorem ofWord_inj {m n : UInt64} : ofWord m = ofWord n ↔ m = n :=
  encode_inj_of_decode (Format.word_ofWord .json "u64")

end Codec

/-- Each way of log output has its own word. -/
@[simp]
theorem LogOutput.encode_inj {one other : LogOutput} : one.encode = other.encode ↔ one = other :=
  encode_inj_of_decode (LogOutput.decode_encode .json)

namespace DeviceSection

/-- Sections that identify different devices are written differently. -/
@[simp]
theorem encode_inj {one other : DeviceSection} : one.encode = other.encode ↔ one = other :=
  encode_inj_of_decode (decode_encode .json)

/-- The section of the device is one entry, and its version is all that it says. -/
theorem writes (format : Format) : (layout format).Writes encode where
  keys _ := rfl
  distinct := by simp [layout, Codec.required, Codec.optional]
  visit a b form member := by
    -- There is one entry, and it sets the one field.
    cases List.mem_singleton.mp member
    exact ⟨a, rfl, member, fun _ among _ => among⟩
  whole a b := by
    -- Without other fields, the version is the whole section.
    cases a
    cases b
    simp +contextual [encode]

end DeviceSection

namespace ConnectionSection

/-- Sections with different times are written differently. -/
@[simp]
theorem encode_inj {one other : ConnectionSection} : one.encode = other.encode ↔ one = other :=
  encode_inj_of_decode (decode_encode .json)

/-- The section of the connection has an entry for each of its four times, and those say all of it. -/
theorem writes (format : Format) : (layout format).Writes encode where
  keys _ := rfl
  distinct := by simp [layout, Codec.optional]
  visit a b form member := by
    simp only [encode, entriesOf_table, List.mem_cons, List.not_mem_nil, or_false] at member
    rcases member with rfl | rfl | rfl | rfl
    -- Each entry sets its own time, and those that were there before stay.
    on_goal 1 => refine ⟨{ b with retryTimeout := a.retryTimeout }, ?_⟩
    on_goal 2 => refine ⟨{ b with readyTimeout := a.readyTimeout }, ?_⟩
    on_goal 3 => refine ⟨{ b with reestablishDelay := a.reestablishDelay }, ?_⟩
    on_goal 4 => refine ⟨{ b with settleDelay := a.settleDelay }, ?_⟩
    all_goals
      simp +contextual [encode, layout, Layout.visit, Codec.optional, bind, Except.bind, pure, Except.pure]
  whole a b := by
    -- Two sections with the same four times are the same.
    cases a
    cases b
    simp +contextual [encode]

end ConnectionSection

namespace QueueSection

/-- Sections with different capacities are written differently. -/
@[simp]
theorem encode_inj {one other : QueueSection} : one.encode = other.encode ↔ one = other :=
  encode_inj_of_decode (decode_encode .json)

/-- The section of the queue is one entry, and its capacity is all that it says. -/
theorem writes (format : Format) : (layout format).Writes encode where
  keys _ := rfl
  distinct := by simp [layout, Codec.optional]
  visit a b form member := by
    -- There is one entry, and it sets the one field.
    cases List.mem_singleton.mp member
    refine ⟨a, ?_, member, fun _ among _ => among⟩
    simp [layout, Layout.visit, Codec.optional, bind, Except.bind, pure, Except.pure]
  whole a b := by
    -- Without other fields, the capacity is the whole section.
    cases a
    cases b
    simp +contextual [encode]

end QueueSection

namespace FeatureSection

/-- Sections in which a feature differs are written differently. -/
@[simp]
theorem encode_inj {one other : FeatureSection} : one.encode = other.encode ↔ one = other :=
  encode_inj_of_decode (decode_encode .json)

/-- The section of the features has an entry for each of them, and those say all of it. -/
theorem writes (format : Format) : (layout format).Writes encode where
  keys _ := rfl
  distinct := by simp [layout, Codec.optional]
  visit a b form member := by
    simp only [encode, entriesOf_table, List.mem_cons, List.not_mem_nil, or_false] at member
    rcases member with rfl | rfl | rfl | rfl | rfl
    -- Each entry sets its own feature, and those that were there before stay.
    on_goal 1 => refine ⟨{ b with powerSavingMode := a.powerSavingMode }, ?_⟩
    on_goal 2 => refine ⟨{ b with temperatureTracking := a.temperatureTracking }, ?_⟩
    on_goal 3 => refine ⟨{ b with logBackend := a.logBackend }, ?_⟩
    on_goal 4 => refine ⟨{ b with logOutput := a.logOutput }, ?_⟩
    on_goal 5 => refine ⟨{ b with verboseIndication := a.verboseIndication }, ?_⟩
    all_goals
      simp +contextual [encode, layout, Layout.visit, Codec.optional, Format.bool, bind, Except.bind, pure, Except.pure]
  whole a b := by
    -- Two sections with the same five features are the same.
    cases a
    cases b
    simp +contextual [encode]

end FeatureSection

namespace Config

/-- A configuration has an entry for each of its four sections, and those say all of it. -/
theorem writes (format : Format) : (layout format).Writes encode where
  keys _ := rfl
  distinct := by simp [layout, Codec.optional, Codec.required]
  visit a b form member := by
    simp only [encode, entriesOf_table, List.mem_cons, List.not_mem_nil, or_false] at member
    rcases member with rfl | rfl | rfl | rfl
    -- Each entry sets its own section, and those that were there before stay.
    on_goal 1 => refine ⟨{ b with device := a.device }, ?_⟩
    on_goal 2 => refine ⟨{ b with connection := a.connection }, ?_⟩
    on_goal 3 => refine ⟨{ b with queue := a.queue }, ?_⟩
    on_goal 4 => refine ⟨{ b with features := a.features }, ?_⟩
    all_goals
      simp +contextual [encode, layout, Layout.visit, Codec.optional, Codec.required, bind, Except.bind, pure,
        Except.pure]
  whole a b := by
    -- Two configurations with the same four sections are the same.
    cases a
    cases b
    simp +contextual [encode]

end Config

namespace FlashInfo

/-- What is known of the flash has an entry for its name, its offset and its size. -/
theorem writes (format : Format) : (layout format).Writes encode where
  keys _ := rfl
  distinct := by simp [layout, Codec.optional, Codec.required]
  visit a b form member := by
    simp only [encode, entriesOf_table, List.mem_cons, List.not_mem_nil, or_false] at member
    rcases member with rfl | rfl | rfl
    -- Each entry sets its own field, and those that were there before stay.
    on_goal 1 => refine ⟨{ b with device := a.device }, ?_⟩
    on_goal 2 => refine ⟨{ b with offset := a.offset }, ?_⟩
    on_goal 3 => refine ⟨{ b with size := a.size }, ?_⟩
    all_goals
      simp +contextual [encode, layout, Layout.visit, Codec.optional, Codec.required, Format.text, bind, Except.bind,
        pure, Except.pure]
  whole a b := by
    -- The name, the offset and the size are all that is known.
    cases a
    cases b
    simp +contextual [encode]

end FlashInfo

namespace FirmwareServices

/-- The part of the shadow on firmware has an entry for each kind of it. -/
theorem writes (format : Format) : (layout format).Writes encode where
  keys _ := rfl
  distinct := by simp [layout, Codec.optional, Codec.required]
  visit a b form member := by
    simp only [encode, entriesOf_table, List.mem_cons, List.not_mem_nil, or_false] at member
    rcases member with rfl | rfl | rfl | rfl
    -- Each entry sets its own kind of firmware, and those that were there before stay.
    on_goal 1 => refine ⟨{ b with application := a.application }, ?_⟩
    on_goal 2 => refine ⟨{ b with bootloader := a.bootloader }, ?_⟩
    on_goal 3 => refine ⟨{ b with modem := a.modem }, ?_⟩
    on_goal 4 => refine ⟨{ b with modemFull := a.modemFull }, ?_⟩
    all_goals
      simp +contextual [encode, layout, Layout.visit, Codec.optional, Codec.required, Format.bool, bind, Except.bind,
        pure, Except.pure]
  whole a b := by
    -- Two parts that accept the same four kinds are the same.
    cases a
    cases b
    simp +contextual [encode]

/-- The part of the shadow is decoded from its document form. -/
@[simp]
theorem decode_encode (format : Format) (services : FirmwareServices) :
    (layout format).decode format services.encode = .ok services :=
  (writes format).ofEntries_self services

/-- Parts that accept different kinds of firmware are written differently. -/
@[simp]
theorem encode_inj {one other : FirmwareServices} : one.encode = other.encode ↔ one = other :=
  encode_inj_of_decode (decode_encode .json)

end FirmwareServices

namespace UiServices

/-- The part of the shadow on the cards has an entry for each of them. -/
theorem writes (format : Format) : (layout format).Writes encode where
  keys _ := rfl
  distinct := by simp [layout, Codec.optional, Codec.required]
  visit a b form member := by
    simp only [encode, entriesOf_table, List.mem_cons, List.not_mem_nil, or_false] at member
    rcases member with rfl | rfl | rfl | rfl
    -- Each entry sets its own card, and those that were there before stay.
    on_goal 1 => refine ⟨{ b with gnss := a.gnss }, ?_⟩
    on_goal 2 => refine ⟨{ b with temperature := a.temperature }, ?_⟩
    on_goal 3 => refine ⟨{ b with log := a.log }, ?_⟩
    on_goal 4 => refine ⟨{ b with dictionaryLog := a.dictionaryLog }, ?_⟩
    all_goals
      simp +contextual [encode, layout, Layout.visit, Codec.optional, Codec.required, Format.bool, bind, Except.bind,
        pure, Except.pure]
  whole a b := by
    -- Two parts that ask for the same four cards are the same.
    cases a
    cases b
    simp +contextual [encode]

/-- The part of the shadow is decoded from its document form. -/
@[simp]
theorem decode_encode (format : Format) (services : UiServices) :
    (layout format).decode format services.encode = .ok services :=
  (writes format).ofEntries_self services

/-- Parts that ask for different cards are written differently. -/
@[simp]
theorem encode_inj {one other : UiServices} : one.encode = other.encode ↔ one = other :=
  encode_inj_of_decode (decode_encode .json)

end UiServices

namespace ShadowStatus

/-- A shadow has an entry for each of its two parts. -/
theorem writes (format : Format) : (layout format).Writes encode where
  keys _ := rfl
  distinct := by simp [layout, Codec.optional, Codec.required]
  visit a b form member := by
    simp only [encode, entriesOf_table, List.mem_cons, List.not_mem_nil, or_false] at member
    rcases member with rfl | rfl
    -- Each entry sets its own part, and the other stays.
    on_goal 1 => refine ⟨{ b with fota := a.fota }, ?_⟩
    on_goal 2 => refine ⟨{ b with ui := a.ui }, ?_⟩
    all_goals
      simp +contextual [encode, layout, Layout.visit, Codec.optional, Codec.required, bind, Except.bind, pure,
        Except.pure]
  whole a b := by
    -- Two shadows with the same two parts are the same.
    cases a
    cases b
    simp +contextual [encode]

end ShadowStatus

end Uplink
