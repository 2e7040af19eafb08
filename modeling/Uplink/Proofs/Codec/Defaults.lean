import Uplink.Proofs.Codec.Forms
import Uplink.Proofs.ConfigFile

/-!
Defaults may be left out of the document of a configuration. Whatever keys and whatever sections are
left out because they are as in the default, in whatever order the others stand and whatever unknown
keys stand among them, the document is decoded as the same configuration.
-/

namespace Uplink.Config

open Codec

/-- A document spells a section under its name: only a table that abridges the section stands there,
and if none does the section is the standard one. -/
structure SpellsPart (entries : List (String × Value)) (name : String) (whole standard : List (String × Value)) :
    Prop where
  tables : ∀ value, (name, value) ∈ entries → ∃ part, value = .table part ∧ Abridges part whole standard
  leftOut : name ∉ entries.map (·.1) → ∀ form ∈ whole, form ∈ standard

/-- A document spells a configuration. There is no standard for what runs on the device. -/
structure Spells (config : Config) (entries : List (String × Value)) : Prop where
  device : SpellsPart entries "device" (entriesOf config.device.encode) []
  connection :
    SpellsPart entries "connection" (entriesOf config.connection.encode) (entriesOf ({} : ConnectionSection).encode)
  queue : SpellsPart entries "queue" (entriesOf config.queue.encode) (entriesOf ({} : QueueSection).encode)
  features : SpellsPart entries "features" (entriesOf config.features.encode) (entriesOf ({} : FeatureSection).encode)

variable {config : Config} {entries before after : List (String × Value)} {name : String} {format : Format}

/-- A table that abridges a section is decoded as the section. -/
theorem SpellsPart.decode {α : Type} {layout : Layout α} {encode : α → Value} {a : α}
    {standard : List (String × Value)} (spelled : SpellsPart entries name (entriesOf (encode a)) standard)
    (format : Format) (writes : layout.Writes encode)
    (defaults : ∀ form ∈ standard, form ∈ entriesOf (encode layout.start))
    (optional : ∀ field ∈ layout.fields, field.required = true → field.key ∉ standard.map (·.1)) {value : Value}
    (stands : (name, value) ∈ entries) : layout.decode format value = .ok a := by
  -- What stands under the name is a table, and the layout reads such a table whatever it leaves out.
  obtain ⟨part, rfl, abridged⟩ := spelled.tables value stands
  exact writes.ofEntries_abridged abridged defaults optional

/-- A section that is left out is the default of its kind. -/
theorem SpellsPart.eq_default {α : Type} {layout : Layout α} {encode : α → Value} {a b : α}
    (spelled : SpellsPart entries name (entriesOf (encode a)) (entriesOf (encode b))) (writes : layout.Writes encode)
    (missing : name ∉ entries.map (·.1)) : b = a :=
  -- What a section says is all that it is, and each of its entries is one of the defaults.
  writes.whole a b (spelled.leftOut missing)

/-- A document that spells a configuration has a table for what runs on the device. -/
theorem Spells.device_stands (spelled : config.Spells entries) : "device" ∈ entries.map (·.1) := by
  -- The version has no default, so it cannot be left out.
  by_contra missing
  exact absurd (spelled.device.leftOut missing _ List.mem_cons_self) List.not_mem_nil

/-- A section of a document that spells a configuration is decoded as the one of the configuration. -/
theorem Spells.visit (spelled : config.Spells entries) : (layout format).Tells (entriesOf config.encode) entries := by
  intro entry among form member same b
  obtain ⟨name, value⟩ := entry
  simp only [encode, entriesOf_table, List.mem_cons, List.not_mem_nil, or_false] at member
  -- Each section is decoded by its own layout, whatever it leaves out.
  rcases member with rfl | rfl | rfl | rfl
  · obtain rfl : name = "device" := same
    have decoded := spelled.device.decode format (DeviceSection.writes format) (by simp) (by simp) among
    simp [layout, Layout.visit, Codec.required, Codec.optional, decoded]
  · obtain rfl : name = "connection" := same
    have decoded := spelled.connection.decode format (ConnectionSection.writes format) (fun _ stands => stands)
      (by simp [ConnectionSection.layout, Codec.optional]) among
    simp [layout, Layout.visit, Codec.required, Codec.optional, decoded]
  · obtain rfl : name = "queue" := same
    have decoded := spelled.queue.decode format (QueueSection.writes format) (fun _ stands => stands)
      (by simp [QueueSection.layout, Codec.optional]) among
    simp [layout, Layout.visit, Codec.required, Codec.optional, decoded]
  · obtain rfl : name = "features" := same
    have decoded := spelled.features.decode format (FeatureSection.writes format) (fun _ stands => stands)
      (by simp [FeatureSection.layout, Codec.optional]) among
    simp [layout, Layout.visit, Codec.required, Codec.optional, decoded]

/-- A section that a document leaves out is the one that decoding begins with. -/
theorem Spells.left (spelled : config.Spells entries) :
    ∀ form ∈ entriesOf config.encode,
      form.1 ∈ entries.map (·.1) ∨ form ∈ entriesOf (encode (layout format).start) := by
  -- The table of the device is there; each of the three others that is missing is the default.
  intro form member
  simp only [encode, entriesOf_table, List.mem_cons, List.not_mem_nil, or_false] at member
  refine or_iff_not_imp_left.mpr fun missing => ?_
  rcases member with rfl | rfl | rfl | rfl
  · exact absurd spelled.device_stands missing
  · simp [layout, ofAppVersion, encode, ← spelled.connection.eq_default (ConnectionSection.writes format) missing]
  · simp [layout, ofAppVersion, encode, ← spelled.queue.eq_default (QueueSection.writes format) missing]
  · simp [layout, ofAppVersion, encode, ← spelled.features.eq_default (FeatureSection.writes format) missing]

/-- A document that spells a configuration is decoded as the configuration. -/
theorem Spells.decode (spelled : config.Spells entries) (format : Format) :
    decode format (.table entries) = .ok config := by
  -- Only the table of the device is required, and it is there.
  refine (writes format).ofEntries spelled.visit spelled.left fun field member required => ?_
  simp only [layout, List.mem_cons, List.not_mem_nil, or_false] at member
  rcases member with rfl | rfl | rfl | rfl
  · exact spelled.device_stands
  · cases required
  · cases required
  · cases required

/-- One more entry in a document does not change what is said of a section, unless it stands under the
name of the section; then it has to abridge it. -/
theorem SpellsPart.insert {whole standard : List (String × Value)} {other : String} {value : Value}
    (spelled : SpellsPart (before ++ after) name whole standard)
    (suits : other = name → ∃ part, value = .table part ∧ Abridges part whole standard) :
    SpellsPart (before ++ (other, value) :: after) name whole standard where
  -- The section is found before the new entry, behind it, or in it.
  tables found among := by
    rcases List.mem_append.mp among with front | rest
    · exact spelled.tables found (List.mem_append_left _ front)
    · rcases List.mem_cons.mp rest with same | back
      · cases same
        exact suits rfl
      · exact spelled.tables found (List.mem_append_right _ back)
  -- A name that is missing in the longer document is missing in the shorter one.
  leftOut missing := by
    refine spelled.leftOut fun among => missing ?_
    simp only [List.map_append, List.map_cons, List.mem_append, List.mem_cons] at among ⊢
    exact among.imp_right .inr

/-- The sections that may be left out, with the document forms of their defaults. -/
def defaultForms : List (String × Value) :=
  [ ("connection", ({} : ConnectionSection).encode), ("queue", ({} : QueueSection).encode),
    ("features", ({} : FeatureSection).encode) ]

/-- A section that is left out is abridged by an empty table and by its defaults. -/
theorem SpellsPart.abridges_default {α : Type} {layout : Layout α} {encode : α → Value} {a b : α}
    (spelled : SpellsPart entries name (entriesOf (encode a)) (entriesOf (encode b))) (writes : layout.Writes encode)
    (missing : name ∉ entries.map (·.1)) {value : Value}
    (suits : value = .table [] ∨ value = .table (entriesOf (encode b))) :
    ∃ part, value = .table part ∧ Abridges part (entriesOf (encode a)) (entriesOf (encode b)) := by
  -- The section is the default, of which an empty table leaves out everything and a full one nothing.
  obtain rfl := spelled.eq_default writes missing
  rcases suits with rfl | rfl
  · exact ⟨[], rfl, by simp, fun _ stands => .inr stands⟩
  · exact ⟨_, rfl, fun _ stands _ => stands, fun _ stands => .inr stands⟩

/-- A section that is left out may stand there empty or with its defaults just as well. -/
theorem Spells.insert_default (spelled : config.Spells (before ++ after)) {form : String × Value}
    (among : form ∈ defaultForms) (missing : form.1 ∉ (before ++ after).map (·.1)) {value : Value}
    (suits : value = .table [] ∨ value = form.2) : config.Spells (before ++ (form.1, value) :: after) := by
  -- One case for each section with defaults. The new entry stands under its name and is new to the others.
  simp only [defaultForms, List.mem_cons, List.not_mem_nil, or_false] at among
  rcases among with rfl | rfl | rfl
  · exact ⟨spelled.device.insert (by simp),
      spelled.connection.insert fun _ =>
        spelled.connection.abridges_default (ConnectionSection.writes .toml) missing suits,
      spelled.queue.insert (by simp), spelled.features.insert (by simp)⟩
  · exact ⟨spelled.device.insert (by simp), spelled.connection.insert (by simp),
      spelled.queue.insert fun _ => spelled.queue.abridges_default (QueueSection.writes .toml) missing suits,
      spelled.features.insert (by simp)⟩
  · exact ⟨spelled.device.insert (by simp), spelled.connection.insert (by simp), spelled.queue.insert (by simp),
      spelled.features.insert fun _ => spelled.features.abridges_default (FeatureSection.writes .toml) missing suits⟩

/-- A document that spells a configuration spells each of its tables. -/
theorem Spells.part (spelled : config.Spells entries) :
    ∀ known ∈ config.tables, ∃ standard, SpellsPart entries known.1 known.2 standard := by
  -- There are four tables, one for each section.
  simp only [tables, List.forall_mem_cons]
  exact ⟨⟨_, spelled.device⟩, ⟨_, spelled.connection⟩, ⟨_, spelled.queue⟩, ⟨_, spelled.features⟩, by simp⟩

/-- A document that spells a configuration can be written if its unknown keys can. -/
theorem Spells.exists_renderScalar? {tables : List (String × List (String × Value))}
    (spelled : config.Spells (Toml.tableValues tables)) (fits : config.Fits)
    (scalars : ∀ table ∈ tables, ∀ field ∈ table.2,
      (∀ known ∈ config.tables, known.1 = table.1 → field.1 ∉ known.2.map (·.1)) →
        ∃ text, Toml.renderScalar? field.2 = some text) :
    ∀ table ∈ tables, ∀ field ∈ table.2, ∃ text, Toml.renderScalar? field.2 = some text := by
  -- A key that is unknown can be written by assumption, and one that is known has a value of the configuration.
  intro table among field member
  by_cases unknown : ∀ known ∈ config.tables, known.1 = table.1 → field.1 ∉ known.2.map (·.1)
  · exact scalars table among field member unknown
  · -- The key belongs to a table that the configuration has, and that table abridges it.
    push Not at unknown
    obtain ⟨known, listed, same, key⟩ := unknown
    obtain ⟨standard, part⟩ := spelled.part known listed
    obtain ⟨_, ⟨⟩, abridged⟩ := part.tables (.table table.2) (same ▸ List.mem_map.mpr ⟨table, among, rfl⟩)
    exact exists_renderScalar?_of_mem_tables fits known listed field (abridged.faithful field member key)

/-- A document that spells a configuration, up to defaults that it leaves out, in any order and with
unknown keys, is the document of that configuration and of no other: every text that is read as the
table is, and if the numbers fit there is such a text. So a section that is missing, one that is empty
and one that spells out its defaults say the same. -/
theorem defaults_may_be_left_out :
    (∀ config entries, Spells config entries →
        (∀ format, decode format (.table entries) = .ok config) ∧
          ∀ text, Toml.parse? text = some (.table entries) → ofDocument text = .ok config) ∧
      (∀ config tables, Spells config (Toml.tableValues tables) → config.Fits →
        Toml.IsKeyed tables → (∀ table ∈ tables, Toml.IsKeyed table.2) →
          (∀ table ∈ tables, ∀ field ∈ table.2,
            (∀ known ∈ config.tables, known.1 = table.1 → field.1 ∉ known.2.map (·.1)) →
              ∃ text, Toml.renderScalar? field.2 = some text) →
            ∃ text, Toml.render? (.table (Toml.tableValues tables)) = some text ∧ ofDocument text = .ok config) ∧
      ∀ config before after, Spells config (before ++ after) →
        ∀ form ∈ defaultForms, form.1 ∉ (before ++ after).map (·.1) →
          ∀ format, ∀ value ∈ [.table [], form.2],
            decode format (.table (before ++ (form.1, value) :: after)) = .ok config := by
  refine ⟨fun config entries spelled => ⟨spelled.decode, fun text reads => ?_⟩,
    fun config tables spelled fits keyed keyedTables scalars => ?_,
    fun config before after spelled form among missing format value suits => ?_⟩
  · exact ofDocument_of_parse? reads (spelled.decode .toml)
  · -- The text that is written is read as the table, and the table says what the configuration says.
    obtain ⟨text, written⟩ := Toml.exists_render? (spelled.exists_renderScalar? fits scalars)
    have reads := Toml.parse?_render? keyed keyedTables written
    exact ⟨text, written, ofDocument_of_parse? reads (spelled.decode .toml)⟩
  · have either : value = .table [] ∨ value = form.2 := by simpa using suits
    exact (spelled.insert_default among missing either).decode format

/-- The queue comes first, with an unknown key, the device last, and an unknown section between them; no
feature is named, and nothing is said of the connection. -/
theorem reordered_document_is_decoded :
    let config : Config := { ofAppVersion "1.0" with queue.capacity := 1024 }
    let tables : List (String × List (String × Value)) :=
      [ ("queue", [("color", .str "red"), ("capacity", .int 1024)]), ("features", []),
        ("zoo", [("capacity", .int (-1))]), ("device", [("app_version", .str "1.0")]) ]
    (∃ text, Toml.parse? text = some (.table (Toml.tableValues tables)) ∧ ofDocument text = .ok config) ∧
      decode .json (.table (("connection", .table []) :: Toml.tableValues tables)) = .ok config := by
  intro config tables
  -- The connection is missing, the queue has an unknown key, and the features name nothing.
  have spelled : Spells config (Toml.tableValues tables) :=
    { device :=
        ⟨fun value among => ⟨[("app_version", .str "1.0")], by simpa [tables, Toml.tableValues] using among, .refl _ _⟩,
          fun missing => absurd missing (by simp [tables, Toml.tableValues])⟩
      connection :=
        ⟨fun value among => absurd among (by simp [tables, Toml.tableValues]), fun _ form stands => stands⟩
      queue :=
        ⟨fun value among => ⟨_, by simpa [tables, Toml.tableValues] using among,
            by simp [config, QueueSection.encode, show Codec.ofWord 1024 = .int 1024 from rfl],
            by simp [config, QueueSection.encode, show Codec.ofWord 1024 = .int 1024 from rfl]⟩,
          fun missing => absurd missing (by simp [tables, Toml.tableValues])⟩
      features :=
        ⟨fun value among => ⟨[], by simpa [tables, Toml.tableValues] using among, by simp, fun _ stands => .inr stands⟩,
          fun _ form stands => stands⟩ }
  -- The rest is what the general statement asks for: numbers that fit, keys that differ, values that are
  -- written.
  have fits : config.Fits := by
    simp only [config, Fits, numbers, ConnectionSection.numbers, List.forall_mem_append, List.forall_mem_cons,
      ofAppVersion]
    exact ⟨⟨by decide, by decide, by decide, by decide, by simp⟩, by decide, by simp⟩
  have keyed : Toml.IsKeyed tables :=
    .of_keys ["queue", "features", "zoo", "device"] rfl (by decide) (by decide)
  have keyedTables : ∀ table ∈ tables, Toml.IsKeyed table.2 := by
    simp only [tables, List.forall_mem_cons]
    exact ⟨.of_keys ["color", "capacity"] rfl (by decide) (by decide), .of_keys [] rfl (by decide) (by decide),
      .of_keys ["capacity"] rfl (by decide) (by decide), .of_keys ["app_version"] rfl (by decide) (by decide), by simp⟩
  have scalars : ∀ table ∈ tables, ∀ field ∈ table.2, ∃ text, Toml.renderScalar? field.2 = some text := by
    simp only [tables, List.forall_mem_cons]
    exact ⟨⟨⟨_, rfl⟩, ⟨_, rfl⟩, by simp⟩, by simp, ⟨⟨_, rfl⟩, by simp⟩, ⟨⟨_, rfl⟩, by simp⟩, by simp⟩
  -- From here on the general statement speaks.
  obtain ⟨text, written, -⟩ := defaults_may_be_left_out.2.1 config tables spelled fits keyed keyedTables
    fun table among field member _ => scalars table among field member
  have reads := Toml.parse?_render? keyed keyedTables written
  have missing : "connection" ∉ (Toml.tableValues tables).map (·.1) := by simp [tables, Toml.tableValues]
  exact ⟨⟨text, reads, (defaults_may_be_left_out.1 config _ spelled).2 text reads⟩,
    defaults_may_be_left_out.2.2 config [] _ spelled _ List.mem_cons_self missing .json _ List.mem_cons_self⟩

end Uplink.Config
