import Uplink.Codec.Config
import Uplink.Proofs.Toml.Bounds

/-!
The document form of a configuration says all about it, and a document says nothing about a
configuration that could not be written again: decoding takes the document form back, in both
formats, and the numbers of a decoded configuration are as narrow as those of its document.
-/

namespace Uplink

namespace Codec

/-- A computation in two parts gives a value if both parts do. -/
theorem bind_eq_ok {ε α β : Type} {first : Except ε α} {second : α → Except ε β} {b : β}
    (decoded : first >>= second = .ok b) : ∃ a, first = .ok a ∧ second a = .ok b := by
  -- A fault of the first part would be that of the whole.
  cases first with
  | error fault => cases decoded
  | ok a => exact ⟨a, rfl, decoded⟩

/-- A field of a structure is set to what its value is decoded to. -/
theorem set_eq_ok {α β : Type} {key : String} {decode : Decoder β} {set : β → α → α} {value : Value} {whole next : α}
    (done : (Codec.optional key decode set).set value whole = .ok next) :
    ∃ part, decode value = .ok part ∧ next = set part whole := by
  -- The decoding comes first, and setting the field cannot fail.
  obtain ⟨part, decoded, rest⟩ := bind_eq_ok done
  cases rest
  exact ⟨part, decoded, rfl⟩

/-- A number is decoded from the document form of it. -/
@[simp]
theorem Format.word_ofWord (format : Format) (kind : String) (n : UInt64) : format.word kind (ofWord n) = .ok n := by
  -- A number of 64 bits is not negative and is below the bound of the reader.
  simp [word, ofWord, n.toNat_lt_size]

/-- A number that is decoded is no wider than the integer in the document. -/
theorem Format.word_le {format : Format} {kind : String} {value : Value} (fits : value.Fits) {n : UInt64}
    (decoded : format.word kind value = .ok n) : (n.toNat : Int) ≤ Int64.maxValue.toInt := by
  -- A number is taken from an integer alone, which fits with everything in the document.
  unfold word at decoded
  split at decoded
  case h_1 value =>
    split at decoded
    case isFalse => cases decoded
    case isTrue range =>
      cases decoded
      cases fits with
      | int fits => rw [UInt64.toNat_ofNat_of_lt' range.2, Int.toNat_of_nonneg range.1]; exact fits.2
  case h_2 => cases decoded

namespace Layout

variable {α : Type} {layout : Layout α} {format : Format}

/-- A table is decoded key by key. -/
theorem decode_table (layout : Layout α) (format : Format) (entries : List (String × Value)) :
    layout.decode format (.table entries) = layout.ofEntries entries :=
  rfl

/-- No field breaks a property of a structure, as long as its value has a property of its own. -/
def Keeps (layout : Layout α) (Q : Value → Prop) (P : α → Prop) : Prop :=
  ∀ field ∈ layout.fields, ∀ {value whole next}, Q value → P whole → field.set value whole = .ok next → P next

variable {P : α → Prop} {Q : Value → Prop}

/-- The keys of a table are decoded one after the other. -/
theorem Keeps.foldlM (keeps : layout.Keeps Q P) {entries : List (String × Value)}
    (fits : ∀ entry ∈ entries, Q entry.2) {whole next : α} (holds : P whole)
    (decoded : entries.foldlM layout.visit whole = .ok next) : P next := by
  -- Induction on the keys that are still to be decoded; a key that the structure does not have is passed
  -- over.
  induction entries generalizing whole with
  | nil =>
    cases decoded
    exact holds
  | cons entry entries ih =>
    rw [List.forall_mem_cons] at fits
    rw [List.foldlM_cons] at decoded
    obtain ⟨first, visited, others⟩ := bind_eq_ok decoded
    refine ih fits.2 ?_ others
    unfold visit at visited
    split at visited
    case h_1 =>
      cases visited
      exact holds
    case h_2 field found => exact keeps field (List.mem_of_find?_eq_some found) fits.1 holds visited

/-- The items of an array are decoded one after the other. -/
theorem Keeps.ofItems (keeps : layout.Keeps Q P) {fields : List (Field α)}
    (among : ∀ field ∈ fields, field ∈ layout.fields) {items : List Value} (fits : ∀ item ∈ items, Q item)
    {position : Nat} {whole next : α} (holds : P whole)
    (decoded : layout.ofItems position whole fields items = .ok next) : P next := by
  -- Induction on the fields; an array that is too short leaves the fields at its end at their defaults.
  induction fields generalizing position whole items with
  | nil =>
    cases decoded
    exact holds
  | cons field fields ih =>
    rw [List.forall_mem_cons] at among
    cases items with
    | nil =>
      rw [Layout.ofItems] at decoded
      split at decoded
      · cases decoded
      · exact ih among.2 fits holds decoded
    | cons item items =>
      rw [List.forall_mem_cons] at fits
      rw [Layout.ofItems] at decoded
      obtain ⟨first, set, others⟩ := bind_eq_ok decoded
      exact ih among.2 fits.2 (keeps field among.1 fits.1 holds set) others

/-- The items of a whole array are decoded into the fields. -/
theorem Keeps.ofArray (keeps : layout.Keeps Q P) (start : P layout.start) {items : List Value}
    (fits : ∀ item ∈ items, Q item) {whole : α} (decoded : layout.ofArray format items = .ok whole) : P whole := by
  -- A missing field is a fault, so there is none.
  obtain ⟨filled, decoded, checked⟩ := bind_eq_ok decoded
  split at checked
  · cases checked
  · cases checked
    exact keeps.ofItems (fun _ mem => mem) fits start decoded

/-- The entries of a table are decoded into the fields. -/
theorem Keeps.ofEntries (keeps : layout.Keeps Q P) (start : P layout.start)
    {entries : List (String × Value)} (fits : ∀ entry ∈ entries, Q entry.2) {whole : α}
    (decoded : layout.ofEntries entries = .ok whole) : P whole := by
  -- As with an array, a missing field is a fault.
  obtain ⟨filled, decoded, checked⟩ := bind_eq_ok decoded
  split at checked
  · cases checked
  · cases checked
    exact keeps.foldlM fits start decoded

/-- What holds of the structure with every default and is kept by its fields holds of every structure
that is decoded from a value in bounds. -/
theorem Keeps.decode (keeps : layout.Keeps Value.Fits P) (start : P layout.start) {value : Value}
    (fits : value.Fits) {whole : α} (decoded : layout.decode format value = .ok whole) : P whole := by
  -- Which reader is used depends on the value: tables and moments by keys, arrays by places, and others not at
  -- all.
  cases fits with
  | table fits => exact keeps.ofEntries start fits decoded
  | moment =>
    -- A moment is read as a table without entries here.
    have none : ∀ entry ∈ ([] : List (String × Value)), entry.2.Fits := by simp
    exact keeps.ofEntries start none decoded
  | array fits => exact keeps.ofArray start fits decoded
  | tables fits => exact keeps.ofArray start fits decoded
  | _ => cases decoded

end Layout

end Codec

open Codec

namespace LogOutput

/-- An output of the log is decoded from its document form. -/
@[simp]
theorem decode_encode (format : Format) (output : LogOutput) : decode format output.encode = .ok output := by
  -- Each of the outputs has a word that no other one has.
  cases output <;> rfl

end LogOutput

namespace DeviceSection

/-- The section is decoded from its document form. -/
@[simp]
theorem decode_encode (format : Format) (whole : DeviceSection) :
    (layout format).decode format whole.encode = .ok whole :=
  rfl

end DeviceSection

namespace ConnectionSection

/-- The section is decoded from its document form. -/
@[simp]
theorem decode_encode (format : Format) (connection : ConnectionSection) :
    (layout format).decode format connection.encode = .ok connection := by
  -- The four keys are visited one after the other, and each sets its field.
  simp [layout, encode, Layout.decode_table, Layout.ofEntries, Layout.visit, Codec.optional, bind, Except.bind, pure,
    Except.pure]

/-- The numbers of the section. -/
def numbers (connection : ConnectionSection) : List UInt64 :=
  [connection.retryTimeout, connection.readyTimeout, connection.reestablishDelay, connection.settleDelay]

/-- The numbers of a decoded section fit if those of its document do. -/
theorem fits_of_decode {format : Format} {value : Value} (fits : value.Fits) {connection : ConnectionSection}
    (decoded : (layout format).decode format value = .ok connection) :
    ∀ n ∈ connection.numbers, (n.toNat : Int) ≤ Int64.maxValue.toInt := by
  -- Whatever the field, its number is decoded from an integer of the document, and the others are kept.
  have keeps : (layout format).Keeps Value.Fits fun connection =>
      ∀ n ∈ connection.numbers, (n.toNat : Int) ≤ Int64.maxValue.toInt := by
    intro field mem value whole next fits holds set
    simp only [layout, List.mem_cons, List.not_mem_nil, or_false] at mem
    rcases mem with rfl | rfl | rfl | rfl
    all_goals
      obtain ⟨n, word, rfl⟩ := set_eq_ok set
      have := Format.word_le fits word
      simp_all [numbers]
  -- The defaults are far below the bound.
  have start : ∀ n ∈ ({} : ConnectionSection).numbers, (n.toNat : Int) ≤ Int64.maxValue.toInt := by
    simp only [numbers, List.forall_mem_cons]
    exact ⟨by decide, by decide, by decide, by decide, by simp⟩
  exact keeps.decode start fits decoded

end ConnectionSection

namespace QueueSection

/-- The section is decoded from its document form. -/
@[simp]
theorem decode_encode (format : Format) (queue : QueueSection) :
    (layout format).decode format queue.encode = .ok queue := by
  -- The one key is visited, and sets the one field.
  simp [layout, encode, Layout.decode_table, Layout.ofEntries, Layout.visit, Codec.optional, bind, Except.bind, pure,
    Except.pure]

/-- The capacity of a decoded section fits if that of its document does. -/
theorem fits_of_decode {format : Format} {value : Value} (fits : value.Fits) {queue : QueueSection}
    (decoded : (layout format).decode format value = .ok queue) :
    (queue.capacity.toNat : Int) ≤ Int64.maxValue.toInt := by
  -- There is one field, and its number is decoded from an integer of the document.
  have keeps : (layout format).Keeps Value.Fits fun queue => (queue.capacity.toNat : Int) ≤ Int64.maxValue.toInt := by
    intro field mem value whole next fits _ set
    cases List.mem_singleton.mp mem
    obtain ⟨n, word, rfl⟩ := set_eq_ok set
    exact Format.word_le fits word
  have start : (({} : QueueSection).capacity.toNat : Int) ≤ Int64.maxValue.toInt := by decide
  exact keeps.decode start fits decoded

end QueueSection

namespace FeatureSection

/-- The section is decoded from its document form. -/
@[simp]
theorem decode_encode (format : Format) (features : FeatureSection) :
    (layout format).decode format features.encode = .ok features := by
  -- Five keys are visited, each with a field of its own.
  simp [layout, encode, Layout.decode_table, Layout.ofEntries, Layout.visit, Codec.optional, Format.bool, bind,
    Except.bind, pure, Except.pure]

end FeatureSection

namespace Config

/-- A configuration is decoded from its document form. -/
theorem decode_encode (format : Format) (config : Config) : decode format config.encode = .ok config := by
  -- The four sections are visited as they are written, and each of them is decoded again.
  simp [decode, layout, encode, Layout.decode_table, Layout.ofEntries, Layout.visit, Codec.optional, required, bind,
    Except.bind, pure, Except.pure]

/-- The numbers of the configuration. -/
def numbers (config : Config) : List UInt64 :=
  config.connection.numbers ++ [config.queue.capacity]

/-- Every number of the configuration fits into 64 bits with sign. -/
def Fits (config : Config) : Prop :=
  ∀ n ∈ config.numbers, (n.toNat : Int) ≤ Int64.maxValue.toInt

/-- The numbers of the default configuration fit. -/
theorem fits_ofAppVersion (version : String) : (ofAppVersion version).Fits := by
  -- Each number is small, so it can be looked at.
  simp only [Fits, numbers, ConnectionSection.numbers, List.forall_mem_append, List.forall_mem_cons, ofAppVersion]
  exact ⟨⟨by decide, by decide, by decide, by decide, by simp⟩, by decide, by simp⟩

/-- The numbers of a decoded configuration fit if those of its document do. -/
theorem fits_of_decode {format : Format} {value : Value} (fits : value.Fits) {config : Config}
    (decoded : decode format value = .ok config) : config.Fits := by
  -- Of the four sections only that of the connection and that of the queue hold numbers.
  have keeps : (layout format).Keeps Value.Fits Fits := by
    intro field mem value whole next fits holds set
    simp only [layout, List.mem_cons, List.not_mem_nil, or_false] at mem
    simp only [Fits, numbers, List.forall_mem_append, List.forall_mem_singleton] at holds ⊢
    rcases mem with rfl | rfl | rfl | rfl
    · obtain ⟨device, -, rest⟩ := bind_eq_ok set
      cases rest
      exact holds
    · obtain ⟨connection, decoded, rfl⟩ := set_eq_ok set
      exact ⟨connection.fits_of_decode fits decoded, holds.2⟩
    · obtain ⟨queue, decoded, rfl⟩ := set_eq_ok set
      exact ⟨holds.1, queue.fits_of_decode fits decoded⟩
    · obtain ⟨features, -, rfl⟩ := set_eq_ok set
      exact holds
  -- Whatever the version, decoding begins with the defaults.
  exact keeps.decode (fits_ofAppVersion "") fits decoded

end Config

end Uplink
