import Uplink.Proofs.Toml.Number
import Uplink.Proofs.Toml.Text
import Uplink.Toml.Reader

/-!
A document that is written can be read back: the tables of values that hold no other, under bare
keys, are the same tables after they have been written and read.

The reader goes through a document line by line, and so does the proof: `Lines` says that a text
leads from one draft to another, a line at a time, without a word about the steps that are left.
-/

namespace Uplink.Toml

/-- Whether a key needs no quotes. -/
def IsBare (key : String) : Prop :=
  key ≠ "" ∧ ∀ c ∈ key.toList, isKeyChar c = true

/-- The keys of a table can be written as they are, and no two are the same. -/
structure IsKeyed {α : Type} (entries : List (String × α)) : Prop where
  bare : ∀ entry ∈ entries, IsBare entry.1
  distinct : (entries.map (·.1)).Nodup

/-- Each character of a key can be looked at. -/
instance (key : String) : Decidable (IsBare key) :=
  decidable_of_iff (key ≠ "" ∧ key.toList.all isKeyChar = true) (and_congr_right fun _ => List.all_eq_true)

/-- A table is keyed if its keys are. -/
theorem IsKeyed.of_keys {α : Type} {entries : List (String × α)} (keys : List String)
    (same : entries.map (·.1) = keys) (bare : ∀ key ∈ keys, IsBare key) (distinct : keys.Nodup) : IsKeyed entries where
  -- The keys are the given ones, by which both parts are told.
  bare entry mem := bare entry.1 (same ▸ List.mem_map_of_mem mem)
  distinct := same ▸ distinct

/-- What the first key of a table and the keys after it keep to. -/
theorem IsKeyed.of_cons {α : Type} {entry : String × α} {entries : List (String × α)}
    (keyed : IsKeyed (entry :: entries)) :
    IsBare entry.1 ∧ (∀ other ∈ entries, other.1 ≠ entry.1) ∧ IsKeyed entries := by
  -- That the keys differ says of the first that it is none of the others.
  obtain ⟨first, others⟩ := List.nodup_cons.mp keyed.distinct
  refine ⟨keyed.bare entry List.mem_cons_self, fun other mem same => ?_,
    fun other mem => keyed.bare other (List.mem_cons_of_mem _ mem), others⟩
  exact first (List.mem_map.mpr ⟨other, mem, same⟩)

/-- A bare key begins with one of the characters of its kind. -/
theorem IsBare.exists_cons {key : String} (bare : IsBare key) :
    ∃ c cs, key.toList = c :: cs ∧ isKeyChar c = true := by
  -- A bare key is not empty.
  cases spelled : key.toList with
  | nil => exact absurd (String.toList_eq_nil_iff.mp spelled) bare.1
  | cons c cs => exact ⟨c, cs, rfl, bare.2 c (spelled ▸ List.mem_cons_self)⟩

/-- A bare key is read up to the first character of another kind. -/
theorem keyPart?_bare {key : String} (bare : IsBare key) {stop : Char} (other : isKeyChar stop = false)
    (rest : List Char) : keyPart? (key.toList ++ stop :: rest) = some (key, stop :: rest) := by
  -- The characters of the key are taken, and the next one ends them.
  have taken : (key.toList ++ stop :: rest).takeWhile isKeyChar = key.toList := by
    rw [List.takeWhile_append_of_pos bare.2]
    simp [other]
  have left : (key.toList ++ stop :: rest).dropWhile isKeyChar = stop :: rest := by
    rw [List.dropWhile_append_of_pos bare.2]
    simp [other]
  -- A key has at least one of them.
  obtain ⟨c, cs, spelled, -⟩ := bare.exists_cons
  have full : key.toList.isEmpty = false := by simp [spelled]
  simp [keyPart?, taken, left, full, -List.isEmpty_iff]

/-- A character of a key is none of the marks that the reader looks for where a key may begin. -/
theorem isKeyChar.ne_mark {c : Char} (inKey : isKeyChar c = true) :
    c ≠ ' ' ∧ c ≠ '\t' ∧ c ≠ '\n' ∧ c ≠ '\r' ∧ c ≠ '#' ∧ c ≠ '[' := by
  -- None of the six marks may stand in a key.
  refine ⟨?_, ?_, ?_, ?_, ?_, ?_⟩
  all_goals
    rintro rfl
    exact absurd inKey (by decide)

/-- A bare key is read with the blanks after it. -/
theorem key?_bare {key : String} (bare : IsBare key) (stop : Char) (rest : List Char) {next : Char}
    {tail : List Char} (other : isKeyChar stop = false) (blanks : skipBlank (stop :: rest) = next :: tail)
    (single : next ≠ '.') :
    key? (key.toList ++ stop :: rest) = some (⟨[], key⟩, next :: tail) := by
  -- No blanks stand in front, since the key begins with one of its characters.
  have starts : skipBlank (key.toList ++ stop :: rest) = key.toList ++ stop :: rest := by
    obtain ⟨c, cs, spelled, first⟩ := bare.exists_cons
    simp [spelled, skipBlank, isBlank, isKeyChar.ne_mark first]
  -- No dot follows, so this is the only part.
  have parts : keyParts? ((key.toList ++ stop :: rest).length + 1) (key.toList ++ stop :: rest) =
      some ([key], next :: tail) := by
    rw [keyParts?, starts, keyPart?_bare bare other]
    simp [blanks, single]
  rw [key?, parts]
  rfl

/-- Neither blanks nor ends of lines nor a comment stand in front of a line that begins with another
character. -/
theorem skipSpace_visible {c : Char} (visible : c ≠ ' ' ∧ c ≠ '\t' ∧ c ≠ '\n' ∧ c ≠ '\r' ∧ c ≠ '#') (cs : List Char)
    (steps : Nat) : skipSpace steps (c :: cs) = c :: cs := by
  -- With steps left the first character is looked at, and it is nothing to skip.
  obtain ⟨space, tab, feed, carriage, comment⟩ := visible
  cases steps with
  | zero => rfl
  | succ steps => simp [skipSpace, lineEnd?, space, tab, feed, carriage, comment]

/-- An integer that is written begins with a digit or a minus. -/
theorem head_toString (n : Int) :
    ∃ c cs, (toString n).toList = c :: cs ∧ (c.isDigit = true ∨ c = '-') := by
  -- A number that is not negative begins with a digit, and any other with its sign.
  obtain ⟨m, -, spelled⟩ | ⟨m, -, spelled⟩ := toList_toString n
  · rw [spelled]
    cases digits : Nat.toDigits 10 m with
    | nil => exact absurd digits Nat.toDigits_ne_nil
    | cons d ds => exact ⟨d, ds, rfl, .inl (isDigit_toDigits (digits ▸ List.mem_cons_self))⟩
  · exact ⟨'-', _, spelled, .inr rfl⟩

/-- A string that is written begins with a quote or an apostrophe. -/
theorem head_renderString (text : String) :
    ∃ c cs, (renderString text).toList = c :: cs ∧ (c = '"' ∨ c = '\'') := by
  -- Of the four forms two begin with quotes, and two with apostrophes.
  simp only [renderString]
  split
  all_goals simp

/-- An integer of 64 bits is read back up to the end of its line. -/
theorem momentOrNumber?_toString {n : Int} (fits : Int64.minValue.toInt ≤ n ∧ n ≤ Int64.maxValue.toInt)
    (rest : List Char) : momentOrNumber? ((toString n).toList ++ '\n' :: rest) = some (.int n, '\n' :: rest) := by
  -- Neither digits nor a sign begin a date, so it is a number that is read.
  obtain ⟨m, rfl, spelled⟩ | ⟨m, rfl, spelled⟩ := toList_toString n
  · rw [spelled, momentOrNumber?, Moment.read?_digits fun _ => isDigit_toDigits]
    exact Number.read?_natural fits.2 rest
  · rw [spelled, List.cons_append, momentOrNumber?, Moment.read?_minus]
    exact Number.read?_minus fits.1 rest

/-- A value that holds no other is read back up to the end of its line. -/
theorem scalarValue?_renderScalar? {value : Value} {text : String} (written : renderScalar? value = some text)
    (rest : List Char) : scalarValue? (text.toList ++ '\n' :: rest) = some (value, '\n' :: rest) := by
  unfold renderScalar? at written
  split at written
  case h_1 value =>
    cases written
    cases value
    · rfl
    · rfl
  -- The reader comes to numbers last, and the first character of a number begins nothing else.
  case h_2 n =>
    split at written
    case isFalse => cases written
    case isTrue fits =>
      cases written
      rw [← momentOrNumber?_toString fits]
      obtain ⟨c, cs, spelled, first⟩ := head_toString n
      rw [spelled, List.cons_append, scalarValue?]
      all_goals
        rintro rest ⟨⟩
        revert first
        decide
  -- A string begins with a quotation mark of either kind.
  case h_3 value =>
    cases written
    have reads := string?_renderString value rest
    obtain ⟨c, cs, spelled, first⟩ := head_renderString value
    rw [spelled, List.cons_append] at reads ⊢
    rcases first with rfl | rfl
    · simp [scalarValue?, reads]
    · simp [scalarValue?, reads]
  -- What remains holds other values.
  case h_4 => cases written

/-- What is written for a value that holds no other begins with neither a blank nor the mark of a
value that holds others. -/
theorem head_renderScalar? {value : Value} {text : String} (written : renderScalar? value = some text) :
    ∃ c cs, text.toList = c :: cs ∧ c ≠ ' ' ∧ c ≠ '\t' ∧ c ≠ '[' ∧ c ≠ '\x7b' := by
  unfold renderScalar? at written
  split at written
  -- A truth value begins with the letter of its word.
  case h_1 value =>
    cases written
    cases value
    · exact ⟨'f', _, rfl, by decide⟩
    · exact ⟨'t', _, rfl, by decide⟩
  -- A number begins with a digit or its sign.
  case h_2 n =>
    split at written
    case isFalse => cases written
    case isTrue fits =>
      cases written
      obtain ⟨c, cs, spelled, digit | rfl⟩ := head_toString n
      · refine ⟨c, cs, spelled, ?_, ?_, ?_, ?_⟩
        all_goals
          rintro rfl
          exact absurd digit (by decide)
      · exact ⟨_, cs, spelled, by decide⟩
  -- A string begins with one of the two quotation marks.
  case h_3 value =>
    cases written
    obtain ⟨c, cs, spelled, rfl | rfl⟩ := head_renderString value
    · exact ⟨_, cs, spelled, by decide⟩
    · exact ⟨_, cs, spelled, by decide⟩
  case h_4 => cases written

/-- A value that holds no other is read back after a blank. -/
theorem value?_renderScalar? {value : Value} {text : String} (written : renderScalar? value = some text)
    (steps depth : Nat) (rest : List Char) :
    value? (steps + 1) depth (skipBlank (' ' :: (text.toList ++ '\n' :: rest))) = some (value, '\n' :: rest) := by
  -- The value begins with a character that opens neither an array nor a table.
  have reads := scalarValue?_renderScalar? written rest
  obtain ⟨c, cs, spelled, space, tab, items, fields⟩ := head_renderScalar? written
  rw [spelled, List.cons_append] at reads ⊢
  simp [skipBlank, isBlank, value?, space, tab, items, fields, reads]

/-- A key without a path that is new in a table is added at its end. -/
theorem Entries.add?_new {entries : Entries} {key : String} (new : entries.lookup key = none) (value : Value) :
    entries.add? [] key value = some (entries ++ [(key, .value value)]) := by
  -- Without a path the key is put into the table itself.
  simp [add?, change?, insert?, new]

/-- The line of a key holds the key, its value and nothing else. -/
theorem exists_renderField? {key : String} {value : Value} {text : String}
    (written : renderField? (key, value) = some text) (rest : List Char) :
    ∃ scalar, renderScalar? value = some scalar ∧
      text.toList ++ rest = key.toList ++ ' ' :: '=' :: ' ' :: (scalar.toList ++ '\n' :: rest) := by
  -- The field is written if its value is, as the key, an equals sign and the value.
  obtain ⟨scalar, scalarWritten, rfl⟩ : ∃ scalar, renderScalar? value = some scalar ∧
      text = key ++ " = " ++ scalar ++ "\n" := by
    simpa [renderField?, Option.bind_eq_some_iff, eq_comm (b := text)] using written
  exact ⟨scalar, scalarWritten, by simp⟩

/-- The line of a new key adds its value to the table. -/
theorem line?_renderField? {key : String} (bare : IsBare key) {value : Value} {text : String}
    (written : renderField? (key, value) = some text) {draft : Draft} (new : draft.current.lookup key = none)
    (rest : List Char) :
    line? draft (text.toList ++ rest) =
      some ({ draft with current := draft.current ++ [(key, .value value)] }, '\n' :: rest) := by
  obtain ⟨scalar, scalarWritten, whole⟩ := exists_renderField? written rest
  have keyReads := key?_bare bare ' ' ('=' :: ' ' :: (scalar.toList ++ '\n' :: rest)) (by decide) rfl (by decide)
  have valueReads := value?_renderScalar? scalarWritten (' ' :: (scalar.toList ++ '\n' :: rest)).length 0 rest
  obtain ⟨c, cs, spelled, first⟩ := bare.exists_cons
  rw [whole]
  rw [spelled, List.cons_append] at keyReads ⊢
  -- The first character belongs to the key, so the line is no heading.
  rw [line?]
  · rw [keyReads]
    show (value? _ 0 _ >>= _) = _
    rw [valueReads]
    simp [Draft.add?, Entries.add?_new new]
  · simp [isKeyChar.ne_mark first]
  · simp [isKeyChar.ne_mark first]

/-- The heading of a new table closes the table before it and opens the new one. -/
theorem line?_heading {name : String} (bare : IsBare name) {draft : Draft} {complete : Entries}
    (closed : draft.close? = some complete) (new : complete.lookup name = none) (rest : List Char) :
    line? draft ('[' :: (name.toList ++ ']' :: rest)) = some ({ complete, target := .table ⟨[], name⟩ }, rest) := by
  -- The name is new, so the table begins without entries.
  have opened : complete.openTable? [] name = some ([], complete) := by
    simp [Entries.openTable?, Entries.change?, new]
  have keyReads := key?_bare bare ']' rest (by decide) rfl (by decide)
  -- The name does not begin with a bracket, which would make it an array of tables.
  obtain ⟨c, cs, spelled, first⟩ := bare.exists_cons
  rw [spelled, List.cons_append] at keyReads ⊢
  simp [line?, isKeyChar.ne_mark first, keyReads, Draft.openTable?, closed, opened, word?]

/-- The lines of a text lead from one draft to another. -/
inductive Lines : Draft → List Char → Draft → Prop
  | done {draft : Draft} : Lines draft [] draft
  | blank {draft last : Draft} {cs : List Char} : Lines draft cs last → Lines draft ('\n' :: cs) last
  | line {draft next last : Draft} {c : Char} {cs rest : List Char} :
      (c ≠ ' ' ∧ c ≠ '\t' ∧ c ≠ '\n' ∧ c ≠ '\r' ∧ c ≠ '#') → rest.length ≤ cs.length →
        line? draft (c :: cs) = some (next, '\n' :: rest) → Lines next rest last → Lines draft (c :: cs) last

/-- There is a step for each line of a text. -/
theorem Lines.lines? {draft last : Draft} {cs : List Char} (lines : Lines draft cs last) {steps : Nat}
    (enough : cs.length < steps) : lines? steps draft cs = some last := by
  -- Induction on the lines, each of which takes a step and at least one character.
  induction lines generalizing steps with
  | done =>
    obtain ⟨steps, rfl⟩ := Nat.exists_eq_add_of_lt enough
    rfl
  | blank _ ih =>
    obtain ⟨steps, rfl⟩ : ∃ before, steps = before + 1 := ⟨steps - 1, by omega⟩
    exact ih (Nat.lt_of_succ_lt enough)
  | line visible shorter reads _ ih =>
    obtain ⟨steps, rfl⟩ : ∃ before, steps = before + 1 := ⟨steps - 1, by omega⟩
    rw [List.length_cons] at enough
    rw [Toml.lines?, skipSpace_visible visible]
    simp [reads, skipLine?, skipBlank, isBlank, skipComment, lineEnd?, ih (by omega : _ < steps)]

/-- No line begins with the mark of a byte order. -/
theorem Lines.skipByteOrder {draft last : Draft} {cs : List Char} (lines : Lines draft cs last) :
    skipByteOrder cs = cs := by
  cases lines with
  | done => rfl
  | blank => rfl
  | @line _ _ _ c cs _ _ _ reads =>
    -- The mark is no character of a key, so no key could be read there.
    have unmarked : c ≠ '\ufeff' := by
      rintro rfl
      have noKey : keyPart? ('\ufeff' :: cs) = none := rfl
      simp [line?, key?, keyParts?, skipBlank, isBlank, noKey] at reads
    simp [Toml.skipByteOrder, unmarked]

/-- The entries that values are kept in while their table is read. -/
def valueEntries (fields : List (String × Value)) : Entries :=
  fields.map fun (key, value) => (key, .value value)

/-- The entries that complete tables are kept in. -/
def tableEntries (tables : List (String × List (String × Value))) : Entries :=
  tables.map fun (name, fields) => (name, .table .heading (valueEntries fields))

/-- The fields of a document of tables. -/
def tableValues (tables : List (String × List (String × Value))) : List (String × Value) :=
  tables.map fun (name, fields) => (name, .table fields)

/-- The values of the entries are those that were added. -/
theorem entryValues_valueEntries (fields : List (String × Value)) : entryValues (valueEntries fields) = fields := by
  -- Induction on the fields, each of which is read off its own entry.
  induction fields with
  | nil => rfl
  | cons field fields ih => exact congrArg (field :: ·) ih

/-- The values of the complete tables are the tables. -/
theorem entryValues_tableEntries (tables : List (String × List (String × Value))) :
    entryValues (tableEntries tables) = tableValues tables := by
  -- Induction on the tables, each of which is made of the values of its entries.
  induction tables with
  | nil => rfl
  | cons table tables ih =>
    refine List.cons_eq_cons.mpr ⟨?_, ih⟩
    simp [Node.toValue, entryValues_valueEntries]

/-- A key stays new in a table while others are added. -/
theorem lookup_append_eq_none {entries : Entries} {key other : String} (new : entries.lookup key = none)
    (differs : key ≠ other) (node : Node) : (entries ++ [(other, node)]).lookup key = none := by
  -- The search goes past the entry that is added.
  have test : (key == other) = false := beq_eq_false_iff_ne.mpr differs
  simp [List.lookup_append, List.lookup_cons, new, test]

/-- A list is written part by part. -/
theorem mapM_cons_eq_some {α β : Type} {write? : α → Option β} {a : α} {as : List α} {bs : List β}
    (written : (a :: as).mapM write? = some bs) :
    ∃ b others, write? a = some b ∧ as.mapM write? = some others ∧ bs = b :: others := by
  -- The first part is written, and then the others.
  simp only [List.mapM_cons, Option.bind_eq_bind, Option.bind_eq_some_iff, Option.pure_def,
    Option.some.injEq] at written
  obtain ⟨b, first, others, rest, rfl⟩ := written
  exact ⟨b, others, first, rest, rfl⟩

/-- The line of a new key is read before the lines after it. -/
theorem Lines.field {key : String} (bare : IsBare key) {value : Value} {text : String}
    (written : renderField? (key, value) = some text) {draft last : Draft} (new : draft.current.lookup key = none)
    {rest : List Char} (goesOn : Lines { draft with current := draft.current ++ [(key, .value value)] } rest last) :
    Lines draft (text.toList ++ rest) last := by
  have reads := line?_renderField? bare written new rest
  obtain ⟨scalar, -, whole⟩ := exists_renderField? written rest
  -- The line begins with a character of the key, so nothing is skipped in front of it.
  obtain ⟨c, cs, spelled, first⟩ := bare.exists_cons
  obtain ⟨space, tab, feed, carriage, comment, -⟩ := isKeyChar.ne_mark first
  rw [whole, spelled, List.cons_append] at reads ⊢
  refine .line ⟨space, tab, feed, carriage, comment⟩ ?_ reads goesOn
  -- What is left after the line is shorter.
  simp only [List.length_append, List.length_cons]
  omega

/-- The lines of new keys are read before the lines after them. -/
theorem Lines.fields {fields : List (String × Value)} (keyed : IsKeyed fields) {texts : List String}
    (written : fields.mapM renderField? = some texts) {draft last : Draft}
    (new : ∀ field ∈ fields, draft.current.lookup field.1 = none) {rest : List Char}
    (goesOn : Lines { draft with current := draft.current ++ valueEntries fields } rest last) :
    Lines draft ((String.join texts).toList ++ rest) last := by
  -- Induction on the fields; each line adds its own field, whose key is new.
  induction fields generalizing draft texts with
  | nil =>
    cases written
    simpa [valueEntries] using goesOn
  | cons field fields ih =>
    obtain ⟨text, others, first, more, rfl⟩ := mapM_cons_eq_some written
    obtain ⟨bare, differs, keyed⟩ := keyed.of_cons
    rw [String.join_cons, String.toList_append, List.append_assoc]
    refine .field bare first (new field List.mem_cons_self) (ih keyed more (fun other mem => ?_) ?_)
    · exact lookup_append_eq_none (new other (List.mem_cons_of_mem _ mem)) (differs other mem) _
    · simpa [valueEntries] using goesOn

/-- A new table is read, from its heading to its last line, before the lines after it. -/
theorem Lines.table {name : String} (bare : IsBare name) {fields : List (String × Value)} (keyed : IsKeyed fields)
    {text : String} (written : renderTable? (name, .table fields) = some text) {draft last : Draft}
    {complete : Entries} (closed : draft.close? = some complete) (new : complete.lookup name = none)
    {rest : List Char}
    (goesOn : Lines { complete, target := .table ⟨[], name⟩, current := valueEntries fields } rest last) :
    Lines draft (text.toList ++ rest) last := by
  obtain ⟨texts, fieldsWritten, rfl⟩ : ∃ texts, fields.mapM renderField? = some texts ∧
      text = "[" ++ name ++ "]\n" ++ String.join texts := by
    simpa [renderTable?, Option.bind_eq_some_iff, eq_comm (b := text)] using written
  -- The heading comes first, on a line of its own.
  have whole : ("[" ++ name ++ "]\n" ++ String.join texts).toList ++ rest =
      '[' :: (name.toList ++ ']' :: '\n' :: ((String.join texts).toList ++ rest)) := by simp
  rw [whole]
  -- After the heading the fields are read one by one.
  refine .line (by decide) ?_ (line?_heading bare closed new _) (.fields keyed fieldsWritten (fun _ _ => rfl) goesOn)
  simp only [List.length_append, List.length_cons]
  omega

/-- The tables of a document, with blank lines between them, are read one after the other. -/
theorem Lines.tables {tables : List (String × List (String × Value))} (keyed : IsKeyed tables)
    (keyedTables : ∀ table ∈ tables, IsKeyed table.2) {texts : List String}
    (written : (tableValues tables).mapM renderTable? = some texts)
    {draft : Draft} {complete : Entries} (closed : draft.close? = some complete)
    (new : ∀ table ∈ tables, complete.lookup table.1 = none) :
    ∃ last, Lines draft ("\n".intercalate texts).toList last ∧
      last.close? = some (complete ++ tableEntries tables) := by
  -- Induction on the tables; each heading closes the table before it.
  induction tables generalizing draft complete texts with
  | nil =>
    cases written
    exact ⟨draft, .done, by simpa [tableEntries] using closed⟩
  | cons table tables ih =>
    obtain ⟨text, others, first, more, rfl⟩ := mapM_cons_eq_some written
    obtain ⟨bare, differs, keyed⟩ := keyed.of_cons
    let next : Draft := { complete, target := .table ⟨[], table.1⟩, current := valueEntries table.2 }
    have nextClosed : next.close? = some (complete ++ [(table.1, .table .heading (valueEntries table.2))]) := rfl
    obtain ⟨last, goesOn, lastClosed⟩ := ih keyed (fun other mem => keyedTables other (List.mem_cons_of_mem _ mem)) more
      nextClosed fun other mem => lookup_append_eq_none (new other (List.mem_cons_of_mem _ mem)) (differs other mem) _
    refine ⟨last, ?_, by simpa [tableEntries] using lastClosed⟩
    have reads {rest : List Char} (linesAfter : Lines next rest last) : Lines draft (text.toList ++ rest) last :=
      .table bare (keyedTables table List.mem_cons_self) first closed (new table List.mem_cons_self) linesAfter
    -- A blank line stands between two tables, and none behind the last one.
    cases others with
    | nil => simpa using reads goesOn
    | cons => simpa [String.intercalate_cons_cons] using reads (.blank goesOn)

/-- A document of tables that is written is read back as the same tables. -/
theorem parse?_render? {tables : List (String × List (String × Value))} (keyed : IsKeyed tables)
    (keyedTables : ∀ table ∈ tables, IsKeyed table.2) {text : String}
    (written : render? (.table (tableValues tables)) = some text) :
    parse? text = some (.table (tableValues tables)) := by
  obtain ⟨texts, tablesWritten, rfl⟩ : ∃ texts, (tableValues tables).mapM renderTable? = some texts ∧
      text = "\n".intercalate texts := by
    simpa [render?, Option.bind_eq_some_iff, eq_comm (b := text)] using written
  -- The tables are read line by line, into a draft that is empty at first.
  obtain ⟨last, lines, closed⟩ := Lines.tables keyed keyedTables tablesWritten
    (rfl : ({} : Draft).close? = some []) fun _ _ => rfl
  -- One step more is given than there are characters, which is enough.
  have reads := lines.lines? (Nat.lt_succ_self _)
  rw [parse?, lines.skipByteOrder]
  simp only [Option.bind_eq_bind, reads, Option.bind_some, closed, Option.pure_def]
  exact congrArg (some ∘ Value.table) (entryValues_tableEntries tables)

/-- A list is written if each of its parts is. -/
theorem exists_mapM {α β : Type} {write? : α → Option β} {as : List α} (written : ∀ a ∈ as, ∃ b, write? a = some b) :
    ∃ bs, as.mapM write? = some bs := by
  -- Induction on the list.
  induction as with
  | nil => exact ⟨[], rfl⟩
  | cons a as ih =>
    rw [List.forall_mem_cons] at written
    obtain ⟨b, first⟩ := written.1
    obtain ⟨bs, others⟩ := ih written.2
    exact ⟨b :: bs, by simp [first, others]⟩

/-- A document of tables is written if each of its values is. -/
theorem exists_render? {tables : List (String × List (String × Value))}
    (written : ∀ table ∈ tables, ∀ field ∈ table.2, ∃ text, renderScalar? field.2 = some text) :
    ∃ text, render? (.table (tableValues tables)) = some text := by
  have tablesWritten : ∀ value ∈ tableValues tables, ∃ text, renderTable? value = some text := by
    intro value mem
    obtain ⟨table, among, rfl⟩ := List.mem_map.mp mem
    -- Every field of the table has a value that is written.
    have fieldsWritten : ∀ field ∈ table.2, ∃ text, renderField? field = some text := by
      intro field mem
      obtain ⟨text, written⟩ := written table among field mem
      exact ⟨_, by simp [renderField?, written]; rfl⟩
    obtain ⟨texts, written⟩ := exists_mapM fieldsWritten
    exact ⟨_, by simp [renderTable?, written]; rfl⟩
  obtain ⟨texts, written⟩ := exists_mapM tablesWritten
  exact ⟨_, by simp [render?, written]; rfl⟩

end Uplink.Toml
