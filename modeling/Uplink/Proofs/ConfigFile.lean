import Uplink.ConfigFile
import Uplink.Proofs.Codec.Config
import Uplink.Proofs.Toml.Document
import Uplink.Session.Basic

/-!
A configuration survives its file: what is written for it is read as the same configuration, whatever
its texts hold, and what is read from any file can be written and read again.
-/

namespace Uplink

namespace Config

/-- The tables of the document form, by their names. -/
def tables (config : Config) : List (String × List (String × Value)) :=
  [ ("device", [("app_version", .str config.device.appVersion)]),
    ("connection",
      [ ("retry_timeout_secs", Codec.ofWord config.connection.retryTimeout),
        ("ready_timeout_secs", Codec.ofWord config.connection.readyTimeout),
        ("reestablish_delay_secs", Codec.ofWord config.connection.reestablishDelay),
        ("settle_delay_secs", Codec.ofWord config.connection.settleDelay) ]),
    ("queue", [("capacity", Codec.ofWord config.queue.capacity)]),
    ("features",
      [ ("power_saving_mode", .bool config.features.powerSavingMode),
        ("temperature_tracking", .bool config.features.temperatureTracking),
        ("log_backend", .bool config.features.logBackend),
        ("log_output", config.features.logOutput.encode),
        ("verbose_indication", .bool config.features.verboseIndication) ]) ]

/-- The document form is made of tables. -/
theorem encode_eq (config : Config) : config.encode = .table (Toml.tableValues config.tables) :=
  rfl

/-- The sections stand under bare keys. -/
theorem isKeyed_tables (config : Config) : Toml.IsKeyed config.tables :=
  .of_keys ["device", "connection", "queue", "features"] rfl (by decide) (by decide)

/-- The fields of each section stand under bare keys. -/
theorem isKeyed_of_mem_tables {config : Config} : ∀ table ∈ config.tables, Toml.IsKeyed table.2 := by
  -- The keys of each section are listed, so they can be looked at.
  simp only [tables, List.forall_mem_cons]
  refine ⟨?_, ?_, ?_, ?_, by simp⟩
  · exact .of_keys ["app_version"] rfl (by decide) (by decide)
  · exact .of_keys
      ["retry_timeout_secs", "ready_timeout_secs", "reestablish_delay_secs", "settle_delay_secs"]
      rfl (by decide) (by decide)
  · exact .of_keys ["capacity"] rfl (by decide) (by decide)
  · exact .of_keys
      ["power_saving_mode", "temperature_tracking", "log_backend", "log_output", "verbose_indication"]
      rfl (by decide) (by decide)

/-- A number that fits is written as its digits. -/
theorem exists_renderScalar?_ofWord {n : UInt64} (fits : (n.toNat : Int) ≤ Int64.maxValue.toInt) :
    ∃ text, Toml.renderScalar? (Codec.ofWord n) = some text := by
  -- A number is not negative, so only the upper bound of the document matters.
  have low : Int64.minValue.toInt ≤ 0 := by decide
  exact ⟨_, if_pos ⟨by omega, fits⟩⟩

/-- Every field of a configuration whose numbers fit can be written. -/
theorem exists_renderScalar?_of_mem_tables {config : Config} (fits : config.Fits) :
    ∀ table ∈ config.tables, ∀ field ∈ table.2, ∃ text, Toml.renderScalar? field.2 = some text := by
  -- Of the fields only the numbers could be too large; the fits of the configuration speak of each of them.
  simp only [Fits, numbers, ConnectionSection.numbers, List.forall_mem_append, List.forall_mem_cons] at fits
  obtain ⟨⟨retry, ready, reestablish, settle, -⟩, capacity, -⟩ := fits
  simp only [tables, List.forall_mem_cons]
  refine ⟨⟨⟨_, rfl⟩, by simp⟩, ⟨?_, ?_, ?_, ?_, by simp⟩, ⟨?_, by simp⟩,
    ⟨⟨_, rfl⟩, ⟨_, rfl⟩, ⟨_, rfl⟩, ⟨_, rfl⟩, ⟨_, rfl⟩, by simp⟩, by simp⟩
  · exact exists_renderScalar?_ofWord retry
  · exact exists_renderScalar?_ofWord ready
  · exact exists_renderScalar?_ofWord reestablish
  · exact exists_renderScalar?_ofWord settle
  · exact exists_renderScalar?_ofWord capacity

/-- A configuration whose numbers fit can be written. -/
theorem exists_toText? {config : Config} (fits : config.Fits) : ∃ text, config.toText? = some text := by
  -- What is written is a document of tables, each of whose fields can be written.
  rw [toText?, encode_eq]
  exact Toml.exists_render? (exists_renderScalar?_of_mem_tables fits)

/-- A text that is read as a table spells the configuration that the table is decoded as. -/
theorem ofDocument_of_parse? {text : String} {value : Value} (reads : Toml.parse? text = some value) {config : Config}
    (decoded : decode .toml value = .ok config) : ofDocument text = .ok config := by
  -- The reader is followed by the decoder, and neither has a fault.
  rw [ofDocument, reads]
  show (decode .toml value).mapError ConfigError.shape = _
  rw [decoded]
  rfl

/-- What is written for a configuration is the document form of it and nothing else. -/
theorem ofDocument_toText? {config : Config} {text : String} (written : config.toText? = some text) :
    ofDocument text = .ok config := by
  -- The keys of the tables are bare, so the text is read as the tables that were written.
  rw [toText?, encode_eq] at written
  have reads := Toml.parse?_render? config.isKeyed_tables isKeyed_of_mem_tables written
  exact ofDocument_of_parse? reads (decode_encode .toml config)

/-- Whether a document can be used is up to the configuration that it spells. -/
theorem ofText_eq {text : String} {config : Config} (spelled : ofDocument text = .ok config) :
    ofText text = config.validate.map fun _ => config := by
  -- The configuration is checked after it was decoded, and the check changes nothing of it.
  rw [ofText, spelled]
  show (config.validate >>= fun _ => Except.ok config) = _
  cases config.validate with
  | ok => rfl
  | error fault => rfl

/-- The numbers of a configuration from a document fit. -/
theorem fits_of_ofDocument {text : String} {config : Config} (spelled : ofDocument text = .ok config) :
    config.Fits := by
  -- A text that is no document is a fault, and so is a document that is not decoded.
  unfold ofDocument at spelled
  split at spelled
  case h_1 => cases spelled
  case h_2 value reads =>
    cases decoded : decode .toml value with
    | error =>
      rw [decoded] at spelled
      cases spelled
    | ok other =>
      rw [decoded] at spelled
      cases spelled
      -- The reader takes no number beyond 64 bits with a sign.
      exact fits_of_decode (Toml.fits_of_parse? reads) decoded

/-- A configuration from a document that can be used is the one that the document spells. -/
theorem ofDocument_of_ofText {text : String} {config : Config} (read : ofText text = .ok config) :
    ofDocument text = .ok config ∧ config.validate = .ok () := by
  -- The text is decoded first and checked afterwards.
  obtain ⟨other, spelled, checked⟩ := Codec.bind_eq_ok read
  obtain ⟨⟨⟩, valid, same⟩ := Codec.bind_eq_ok checked
  cases same
  exact ⟨spelled, valid⟩

/-- A configuration without a fault can be used, and only such a one. -/
theorem validate_eq_ok {config : Config} : config.validate = .ok () ↔ config.fault? = none := by
  -- The check asks for the first fault and for nothing else.
  cases fault : config.fault? with
  | none => simp [validate, fault]
  | some fault => simp [validate, fault]

/-- A text that spells a configuration is read as it. -/
theorem ofDocument_of_isSpelledBy {config : Config} {text : String} (spelled : config.isSpelledBy text = true) :
    ofDocument text = .ok config := by
  -- The text spells what it is read as, and nothing if it is not read.
  unfold isSpelledBy at spelled
  split at spelled
  case h_1 other read =>
    rw [read, of_decide_eq_true spelled]
  case h_2 => cases spelled

/-- A configuration that can be used asks for a capacity that a queue can have. -/
theorem capacity_le_of_validate {config : Config} (valid : config.validate = .ok ()) :
    1 ≤ config.queue.capacity.toNat ∧ config.queue.capacity.toNat ≤ Queue.maxCapacity := by
  -- Of the faults that a configuration may have, two are about the capacity.
  have faultless := validate_eq_ok.mp valid
  have range : config.queue.capacity ≠ 0 ∧ ¬1024 < config.queue.capacity := by
    unfold fault? at faultless
    grind
  -- Both bounds are on the word of 64 bits, and carry over to its number.
  have positive : config.queue.capacity.toNat ≠ 0 := fun zero => range.1 (UInt64.toNat_inj.mp zero)
  have bounded := mt UInt64.lt_iff_toNat_lt.mpr range.2
  exact ⟨Nat.one_le_iff_ne_zero.mpr positive, Nat.le_of_not_lt bounded⟩

/-- The queue of a configuration that can be used is as large as the configuration says. -/
theorem capacity_of_validate {config : Config} (valid : config.validate = .ok ()) (messages : Nat) :
    (Session.ofConfig config messages).connection.queue.capacity = config.queue.capacity.toNat := by
  -- The queue bounds the capacity on both sides, and the configuration is within the bounds.
  obtain ⟨low, high⟩ := capacity_le_of_validate valid
  show min (max config.queue.capacity.toNat 1) Queue.maxCapacity = _
  omega

/-- A configuration whose numbers fit is written as a document that spells it and nothing else, and
that can be used if and only if the configuration can; and whatever document a usable configuration
comes from, it can be written and used again, with a queue as large as it says. -/
theorem survives_file :
    (∀ config : Config, config.Fits → ∃ text, config.toText? = some text ∧ ofDocument text = .ok config ∧
        (config.validate = .ok () → ofText text = .ok config) ∧
        (config.validate ≠ .ok () → ∃ reason, ofText text = .error (.invalid reason))) ∧
      ∀ source config, ofText source = .ok config →
        (∃ text, config.toText? = some text ∧ ofText text = .ok config) ∧
          ∀ messages, (Session.ofConfig config messages).connection.queue.capacity = config.queue.capacity.toNat := by
  refine ⟨fun config fits => ?_, fun source config read => ?_⟩
  · obtain ⟨text, written⟩ := exists_toText? fits
    have spelled := ofDocument_toText? written
    refine ⟨text, written, spelled, fun valid => ?_, fun invalid => ?_⟩
    · rw [ofText_eq spelled, valid]
      rfl
    · cases fault : config.fault? with
      | none => exact absurd (validate_eq_ok.mpr fault) invalid
      | some reason => exact ⟨reason.message, by simp [ofText_eq spelled, validate, fault, Except.map]⟩
  · -- What was read from a file has numbers that a file can hold, so it can be written again.
    obtain ⟨spelled, valid⟩ := ofDocument_of_ofText read
    obtain ⟨text, written⟩ := exists_toText? (fits_of_ofDocument spelled)
    refine ⟨⟨text, written, ?_⟩, capacity_of_validate valid⟩
    rw [ofText_eq (ofDocument_toText? written), valid]
    rfl

/-- A version with quotes, apostrophes, a backslash, a line feed and a control character survives, and
so does a document with a dotted key, a comment and a capacity that the queue just admits. -/
theorem quoted_version_survives_file :
    let version : String := "1.0 \"beta\" '''\\\n\"\"\"\x01"
    let source : String := "device.app_version = '1.0'\n[queue]\ncapacity = 1_024 # all\n"
    let full : Config := { ofAppVersion "1.0" with queue.capacity := 1024 }
    ((ofAppVersion version).Fits ∧ ∃ text, (ofAppVersion version).toText? = some text ∧
        ofText text = .ok (ofAppVersion version)) ∧
      ofText source = .ok full ∧ (∃ text, full.toText? = some text ∧ ofText text = .ok full) ∧
        (Session.ofConfig full 0).connection.queue.capacity = 1024 := by
  intro version source full
  have fits := fits_ofAppVersion version
  -- The version has quotation marks of both kinds, a backslash, a line end and a control character.
  have valid : (ofAppVersion version).validate = .ok () := validate_eq_ok.mpr (by decide +kernel)
  have spelled : ofDocument source = .ok full := ofDocument_of_isSpelledBy (by decide +kernel)
  have read : ofText source = .ok full := by
    rw [ofText_eq spelled, validate_eq_ok.mpr (by decide +kernel : full.fault? = none)]
    rfl
  obtain ⟨text, written, -, usable, -⟩ := survives_file.1 _ fits
  obtain ⟨again, capacity⟩ := survives_file.2 source full read
  exact ⟨⟨fits, text, written, usable valid⟩, read, again, capacity 0⟩

end Config

end Uplink
