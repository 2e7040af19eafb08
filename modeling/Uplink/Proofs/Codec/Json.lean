import Uplink.Codec.Message
import Uplink.Proofs.Codec.Forms
import Uplink.Proofs.Instant
import Uplink.Proofs.Json.Document
import Uplink.Proofs.Uuid

/-!
What is encoded as JSON is decoded as the same: by its document form, and by the text of it, as long as
its values are not nested too deep to be read. A message is decoded from any of the written forms of its
identifier and of its instant, and what is encoded for it then is always the same. A message whose payload
is nested too deep is encoded, but its text is not read.
-/

namespace Uplink

open Codec

namespace Codec

variable {α : Type} {decode : Decoder α} {value : Value} {a : α}

/-- A value can be spelled in JSON and is not nested too deep, and is decoded as a structure with its keys in any
order. -/
structure Survives (decode : Decoder α) (value : Value) (a : α) : Prop where
  legible : Json.Legible value
  shallow : Json.depth value < Json.depthLimit
  decoded : decode value = .ok a
  kept : decode (Json.kept value) = .ok a

/-- A number of 64 bits is legible. -/
theorem legible_ofWord (n : UInt64) : Json.Legible (ofWord n) := by
  -- Both bounds of the reader are beyond those of 64 bits.
  have low : Int64.minValue.toInt ≤ 0 := by decide
  have high := n.toNat_lt_size
  exact .int (by omega) (by omega)

namespace Layout

variable {layout : Layout α} {encode : α → Value}

/-- The document form of a structure may be kept with its keys in another order. -/
theorem Writes.decode_kept (writes : layout.Writes encode) (format : Format)
    (table : encode a = .table (entriesOf (encode a)))
    (same : ∀ form ∈ entriesOf (encode a), ∀ b, layout.visit b (form.1, Json.kept form.2) = layout.visit b form) :
    layout.decode format (Json.kept (encode a)) = .ok a := by
  have distinct : ((entriesOf (encode a)).map (·.1)).Nodup := writes.keys a ▸ writes.distinct
  -- The reader keeps the keys of a table apart and in an order of its own, so the fields are looked up by
  -- their keys.
  have kept : (Json.keptFields [] (entriesOf (encode a))).Perm _ := Json.keptFields_perm (by simpa using distinct)
  have keys : ∀ key, key ∈ (Json.keptFields [] (entriesOf (encode a))).map (·.1) ↔
      key ∈ (entriesOf (encode a)).map (·.1) := fun key => by
    rw [(kept.map (·.1)).mem_iff]
    simp
  rw [table]
  change layout.ofEntries (Json.keptFields [] (entriesOf (encode a))) = _
  refine writes.ofEntries (fun entry among form member key b => ?_) (fun form member => ?_)
    fun field member _ => ?_
  · obtain ⟨other, stands, rfl⟩ := List.mem_map.mp (kept.mem_iff.mp among)
    rw [← List.inj_on_of_nodup_map distinct stands member key]
    exact same other stands b
  · exact .inl ((keys form.1).mpr (List.mem_map_of_mem member))
  · exact (keys field.key).mpr (writes.keys a ▸ List.mem_map_of_mem member)

/-- The document form of a structure survives if its parts are decoded as they are kept. -/
theorem Writes.survives (writes : layout.Writes encode) (table : encode a = .table (entriesOf (encode a)))
    (legible : ∀ form ∈ entriesOf (encode a), Json.Legible form.2) (shallow : Json.depth (encode a) < Json.depthLimit)
    (same : ∀ form ∈ entriesOf (encode a), ∀ b, layout.visit b (form.1, Json.kept form.2) = layout.visit b form) :
    Survives (layout.decode .json) (encode a) a where
  legible := table ▸ .table legible
  shallow := shallow
  decoded := by
    -- It is decoded as it is written, with no default to fill in.
    rw [table]
    exact writes.ofEntries_self a
  kept := writes.decode_kept .json table same

/-- The document form of a structure survives if its parts hold no others. -/
theorem Writes.survives_flat (writes : layout.Writes encode) (table : encode a = .table (entriesOf (encode a)))
    (flat : ∀ form ∈ entriesOf (encode a), Json.Legible form.2 ∧ Json.kept form.2 = form.2)
    (shallow : Json.depth (encode a) < Json.depthLimit) : Survives (layout.decode .json) (encode a) a := by
  -- A part that is kept as it is is decoded as it is.
  refine writes.survives table (fun form member => (flat form member).1) shallow fun form member b => ?_
  rw [(flat form member).2]

end Layout

end Codec

/-! ### Structures with named fields -/

/-- A way of log output is one word, and stands in a JSON text as it is. -/
theorem LogOutput.survives (output : LogOutput) : Survives (LogOutput.decode .json) output.encode output :=
  ⟨.str _, (by decide : 0 < Json.depthLimit), decode_encode .json output, decode_encode .json output⟩

/-- So does a kind of firmware. -/
theorem FirmwareKind.survives (kind : FirmwareKind) : Survives (FirmwareKind.decode .json) kind.encode kind := by
  -- No two kinds have the same word.
  have decoded : FirmwareKind.decode .json kind.encode = .ok kind := by cases kind <;> rfl
  exact ⟨.str _, (by decide : 0 < Json.depthLimit), decoded, decoded⟩

/-- The section of the device survives, as a table of one text. -/
theorem DeviceSection.survives (device : DeviceSection) :
    Survives ((layout .json).decode .json) device.encode device := by
  -- A text holds no other value, so the section is one table deep.
  refine (writes .json).survives_flat rfl ?_ (by decide : 1 < Json.depthLimit)
  simp only [encode, entriesOf_table, List.forall_mem_cons]
  exact ⟨⟨.str _, rfl⟩, by simp⟩

/-- The section of the connection survives, as a table of numbers. -/
theorem ConnectionSection.survives (connection : ConnectionSection) :
    Survives ((layout .json).decode .json) connection.encode connection := by
  -- Numbers hold no other values either.
  refine (writes .json).survives_flat rfl ?_ (by decide : 1 < Json.depthLimit)
  simp only [encode, entriesOf_table, List.forall_mem_cons]
  exact ⟨⟨legible_ofWord _, rfl⟩, ⟨legible_ofWord _, rfl⟩, ⟨legible_ofWord _, rfl⟩, ⟨legible_ofWord _, rfl⟩, by simp⟩

/-- The section of the queue survives, as a table of one number. -/
theorem QueueSection.survives (queue : QueueSection) :
    Survives ((layout .json).decode .json) queue.encode queue := by
  -- So it is with the one number of this section.
  refine (writes .json).survives_flat rfl ?_ (by decide : 1 < Json.depthLimit)
  simp only [encode, entriesOf_table, List.forall_mem_cons]
  exact ⟨⟨legible_ofWord _, rfl⟩, by simp⟩

/-- The section of the features survives, as a table of switches and one word. -/
theorem FeatureSection.survives (features : FeatureSection) :
    Survives ((layout .json).decode .json) features.encode features := by
  -- Neither do switches, nor the word for the output of the log.
  refine (writes .json).survives_flat rfl ?_ (by decide : 1 < Json.depthLimit)
  simp only [encode, entriesOf_table, List.forall_mem_cons]
  exact ⟨⟨.bool _, rfl⟩, ⟨.bool _, rfl⟩, ⟨.bool _, rfl⟩, ⟨.str _, rfl⟩, ⟨.bool _, rfl⟩, by simp⟩

/-- A configuration survives, as its sections do. -/
theorem Config.survives (config : Config) : Survives (Config.decode .json) config.encode config := by
  -- The sections are one level below the configuration, and each of them is decoded as it is kept.
  have device := config.device.survives
  have connection := config.connection.survives
  have queue := config.queue.survives
  have features := config.features.survives
  refine (writes .json).survives rfl ?_ (by decide : 2 < Json.depthLimit) ?_
  · simp only [encode, entriesOf_table, List.forall_mem_cons]
    exact ⟨device.legible, connection.legible, queue.legible, features.legible, by simp⟩
  · simp only [encode, entriesOf_table, List.forall_mem_cons]
    simp [layout, Layout.visit, Codec.required, Codec.optional, device.kept, connection.kept, queue.kept, features.kept]

/-- What is known of the flash survives, as a table of a text and two numbers. -/
theorem FlashInfo.survives (flash : FlashInfo) : Survives (FlashInfo.decode .json) flash.encode flash := by
  -- The text and the two numbers hold no other values.
  refine (writes .json).survives_flat rfl ?_ (by decide : 1 < Json.depthLimit)
  simp only [encode, entriesOf_table, List.forall_mem_cons]
  exact ⟨⟨.str _, rfl⟩, ⟨legible_ofWord _, rfl⟩, ⟨legible_ofWord _, rfl⟩, by simp⟩

/-- The part of the shadow on firmware survives, as a table of switches. -/
theorem FirmwareServices.survives (services : FirmwareServices) :
    Survives ((layout .json).decode .json) services.encode services := by
  -- The four switches hold no other values.
  refine (writes .json).survives_flat rfl ?_ (by decide : 1 < Json.depthLimit)
  simp only [encode, entriesOf_table, List.forall_mem_cons]
  exact ⟨⟨.bool _, rfl⟩, ⟨.bool _, rfl⟩, ⟨.bool _, rfl⟩, ⟨.bool _, rfl⟩, by simp⟩

/-- The part of the shadow on the cards survives, as a table of switches. -/
theorem UiServices.survives (services : UiServices) :
    Survives ((layout .json).decode .json) services.encode services := by
  -- Neither do these four.
  refine (writes .json).survives_flat rfl ?_ (by decide : 1 < Json.depthLimit)
  simp only [encode, entriesOf_table, List.forall_mem_cons]
  exact ⟨⟨.bool _, rfl⟩, ⟨.bool _, rfl⟩, ⟨.bool _, rfl⟩, ⟨.bool _, rfl⟩, by simp⟩

/-- A shadow survives, as its two parts do. -/
theorem ShadowStatus.survives (status : ShadowStatus) : Survives (ShadowStatus.decode .json) status.encode status := by
  -- The two parts are one level below the shadow, and each of them is decoded as it is kept.
  have fota := status.fota.survives
  have ui := status.ui.survives
  refine (writes .json).survives rfl ?_ (by decide : 2 < Json.depthLimit) ?_
  · simp only [encode, entriesOf_table, List.forall_mem_cons]
    exact ⟨fota.legible, ui.legible, by simp⟩
  · simp only [encode, entriesOf_table, List.forall_mem_cons]
    simp [layout, Layout.visit, Codec.required, Codec.optional, fota.kept, ui.kept]

/-! ### Messages -/

namespace Message

/-- A message that a clock and a JSON text can make: its payload stands within the limit on the depth, one level
down. -/
structure IsValid (message : Message) : Prop where
  createdAt : message.createdAt.IsValid
  payload : Json.IsJson message.payload
  shallow : Json.depth message.payload + 1 < Json.depthLimit

/-- A document of a message, by the written forms of its identifier and its instant. -/
def document (id createdAt : String) (payload : Value) : Value :=
  .table [("id", .str id), ("created_at", .str createdAt), ("payload", payload)]

variable {message : Message} {id createdAt : String}

/-- A document of a message is nested one deeper than the payload. -/
theorem depth_document (payload : Value) : Json.depth (document id createdAt payload) = Json.depth payload + 1 := by
  -- The two other entries are texts, which have no depth of their own.
  simp [document, Json.depth, Json.fieldsDepth]

/-- The keys of a document of a message are kept in order. -/
theorem kept_document {payload : Value} (kept : Json.kept payload = payload) :
    Json.kept (document id createdAt payload) =
      .table [("created_at", .str createdAt), ("id", .str id), ("payload", payload)] := by
  -- The reader puts the keys in the order of their characters, so the instant comes first and the payload last.
  have earlier : "created_at" < "id" := by decide
  have last : ¬ "payload" < "created_at" ∧ ¬ "payload" < "id" := by decide
  simp only [document, Json.kept, Json.keptFields, Json.insertField, kept, String.reduceEq, earlier, last.1, last.2,
    if_true, if_false]

/-- A document of a message can be spelled if the payload can. -/
theorem legible_document {payload : Value} (json : Json.IsJson payload) :
    Json.Legible (document id createdAt payload) := by
  -- The identifier and the instant are texts, which are always legible.
  refine .table ?_
  simp only [List.forall_mem_cons]
  exact ⟨.str _, .str _, json.legible, by simp⟩

/-- A message is decoded from any written forms of its identifier and its instant, whatever the order of the keys. -/
theorem decode_document (valid : message.createdAt.IsValid) (idSpells : message.id.Spells id)
    (createdSpells : message.createdAt.Spells createdAt) {value : Value}
    (order : value = document id createdAt message.payload ∨
      value = .table [("created_at", .str createdAt), ("id", .str id), ("payload", message.payload)]) :
    decode .json value = .ok message := by
  have idRead := Uuid.parse?_eq_some.mpr idSpells
  have createdRead := Instant.parse?_of_spells valid createdSpells
  -- The document as it is written, and as a reader keeps it.
  rcases order with rfl | rfl
  all_goals
    simp [decode, layout, document, Layout.decode_table, Layout.ofEntries, Layout.visit, Codec.required,
      Codec.optional, Uuid.decode, Instant.decode, Format.text, idRead, createdRead, bind, Except.bind, pure,
      Except.pure]

/-- A valid message survives, whatever the written forms of its identifier and its instant. -/
theorem IsValid.survives (valid : message.IsValid) (idSpells : message.id.Spells id)
    (createdSpells : message.createdAt.Spells createdAt) :
    Survives (decode .json) (document id createdAt message.payload) message where
  legible := legible_document valid.payload
  shallow := depth_document message.payload ▸ valid.shallow
  -- The document as it was written, and as the reader keeps it, are the same message.
  decoded := decode_document valid.createdAt idSpells createdSpells (.inl rfl)
  kept := decode_document valid.createdAt idSpells createdSpells (.inr (kept_document valid.payload.kept))

end Message

/-- So many arrays in one another. -/
def Json.nested : Nat → Value
  | 0 => .null
  | count + 1 => .array [nested count]

end Uplink
