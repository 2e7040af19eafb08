import Uplink.Proofs.Json.Text

/-!
A value that is written as JSON is read back as it is kept, unless it is nested too deep: the fields of a
table in the order of their keys, one for each key. What a JSON text spells is kept as it is, and is nested
no deeper than the reader goes.
-/

namespace Uplink.Json

mutual

/-- How a reader keeps a value. -/
def kept : Value → Value
  | .moment literal => .str literal
  | .array items => .array (keptItems items)
  | .tables items => .array (keptItems items)
  | .table fields => .table (keptFields [] fields)
  | value => value

/-- How a reader keeps the items of an array. -/
def keptItems : List Value → List Value
  | [] => []
  | item :: rest => kept item :: keptItems rest

/-- How a reader keeps the fields of a table, after those already taken. -/
def keptFields : List (String × Value) → List (String × Value) → List (String × Value)
  | taken, [] => taken
  | taken, (key, value) :: rest => keptFields (insertField key (kept value) taken) rest

end

mutual

/-- How many tables and arrays stand in one another in a value. -/
def depth : Value → Nat
  | .array items => itemsDepth items + 1
  | .tables items => itemsDepth items + 1
  | .table fields => fieldsDepth fields + 1
  | _ => 0

/-- How many stand in one another in the deepest of some items. -/
def itemsDepth : List Value → Nat
  | [] => 0
  | item :: rest => max (depth item) (itemsDepth rest)

/-- How many stand in one another in the deepest of some fields. -/
def fieldsDepth : List (String × Value) → Nat
  | [] => 0
  | (_, value) :: rest => max (depth value) (fieldsDepth rest)

end

/-- The numbers of a value can be spelled in JSON: 64 bits hold each integer, and what is no integer
is a number as it is spelled. -/
inductive Legible : Value → Prop where
  | null : Legible .null
  | bool (value : Bool) : Legible (.bool value)
  | int {n : Int} : Int64.minValue.toInt ≤ n → n < UInt64.size → Legible (.int n)
  | float {literal : String} : number? literal.toList = some (.float literal) → Legible (.float literal)
  | str (text : String) : Legible (.str text)
  | moment (literal : String) : Legible (.moment literal)
  | array {items : List Value} : (∀ item ∈ items, Legible item) → Legible (.array items)
  | tables {items : List Value} : (∀ item ∈ items, Legible item) → Legible (.tables items)
  | table {fields : List (String × Value)} : (∀ field ∈ fields, Legible field.2) → Legible (.table fields)

/-- At a level within the limit a value is read back before whatever cannot go on with a number, as long as it
stays within the limit with all that stands in it. -/
def Reads (value : Value) : Prop :=
  ∀ steps level rest, (chars value).length ≤ steps → level < depthLimit →
    (∀ c ∈ rest.head?, isNumberChar c = false) →
    value? steps level (chars value ++ rest) =
      if level + depth value < depthLimit then some (kept value, rest) else none

variable {value : Value} {items : List Value} {fields taken : List (String × Value)} {key : String}
  {steps level : Nat}

/-- The deepest stays within a limit if all do. -/
theorem add_max_lt {first second limit : Nat} :
    level + max first second < limit ↔ level + first < limit ∧ level + second < limit := by
  -- Both sides compare the greater of the two.
  omega

/-- No blanks stand before a character that is none. -/
theorem skipBlank_visible {c : Char} (visible : isBlank c = false) (cs : List Char) :
    skipBlank (c :: cs) = c :: cs := by
  -- The skipping stops at the first character.
  simp [skipBlank, visible]

/-- What begins a number is neither a blank nor the end of an array. -/
theorem visible_of_first {c : Char} (first : c.isDigit = true ∨ c = '-') : isBlank c = false ∧ c ≠ ']' := by
  rcases first with digit | rfl
  · -- None of the five characters is a digit.
    have : c ≠ ' ' ∧ c ≠ '\t' ∧ c ≠ '\n' ∧ c ≠ '\r' ∧ c ≠ ']' := by
      refine ⟨?_, ?_, ?_, ?_, ?_⟩
      all_goals
        rintro rfl
        exact absurd digit (by decide)
    simp [isBlank, this]
  · decide

/-- What is written for a value begins with neither a blank nor the end of an array. -/
theorem Legible.head_chars (legible : Legible value) :
    ∃ c cs, chars value = c :: cs ∧ isBlank c = false ∧ c ≠ ']' := by
  -- A number begins with a digit or a sign, and both can be seen.
  have number {literal : List Char} (read : number? literal = some value) :
      ∃ c cs, literal = c :: cs ∧ isBlank c = false ∧ c ≠ ']' := by
    obtain ⟨⟨c, cs, spelled, first⟩, -⟩ := chars_of_number? read
    exact ⟨c, cs, spelled, visible_of_first first⟩
  -- Every other value begins with a character of its own.
  cases legible with
  | null => exact ⟨_, _, rfl, by decide⟩
  | bool value => cases value <;> exact ⟨_, _, rfl, by decide⟩
  | int low high => exact number (number?_toString low high)
  | float read => exact number read
  | _ => exact ⟨_, _, rfl, by decide⟩

/-- A number is read back. -/
theorem reads_number {literal : List Char} (spelled : chars value = literal) (read : number? literal = some value)
    (same : kept value = value) (flat : depth value = 0) : Reads value := by
  intro steps level rest enough within stops
  obtain ⟨⟨c, cs, rfl, first⟩, all⟩ := chars_of_number? read
  obtain ⟨steps, rfl⟩ : ∃ before, steps = before + 1 := ⟨steps - 1, by simp [spelled] at enough; omega⟩
  obtain ⟨taken, left⟩ := Text.span_append all stops
  rw [spelled, same, flat, if_pos (by omega), value?, List.cons_append,
    skipBlank_visible (visible_of_first first).1]
  -- Neither a digit nor a minus begins any other value.
  split
  case h_7 =>
    rw [← List.cons_append, taken, left, read]
    rfl
  all_goals
    rename_i other
    cases other
    exact absurd first (by decide)

/-- A string is read back. -/
theorem reads_quote {text : String} (spelled : chars value = quote text) (same : kept value = .str text)
    (flat : depth value = 0) : Reads value := by
  intro steps level rest enough within stops
  -- After the opening quote the reader takes characters up to the closing one.
  obtain ⟨body, whole, read⟩ := stringRest_quote text rest
  obtain ⟨steps, rfl⟩ : ∃ before, steps = before + 1 := ⟨steps - 1, by simp [spelled, quote] at enough; omega⟩
  rw [spelled, whole, same, flat, if_pos (by omega), value?, skipBlank_visible (by decide)]
  simp [read]

/-- The items of an array are read back up to the closing bracket. -/
theorem items?_itemChars (reads : ∀ item ∈ items, Reads item) (some : items ≠ [])
    (enough : (commaSeparated (itemChars items)).length < steps) (within : level < depthLimit) (taken : List Value)
    (rest : List Char) :
    items? steps level taken (commaSeparated (itemChars items) ++ ']' :: rest) =
      if level + itemsDepth items < depthLimit then .some (.array (taken.reverse ++ keptItems items), rest)
      else none := by
  -- Induction on the items. Each step of the reader takes one item with the comma behind it, and the text
  -- is longer than the steps that this takes.
  induction items generalizing steps taken with
  | nil => contradiction
  | cons item items ih =>
    obtain ⟨steps, rfl⟩ : ∃ before, steps = before + 1 := ⟨steps - 1, by omega⟩
    rw [List.forall_mem_cons] at reads
    cases items with
    | nil =>
      simp only [itemChars, commaSeparated] at enough ⊢
      rw [items?, reads.1 steps level _ (by omega) within (by simp; decide)]
      simp only [itemsDepth, Nat.max_zero]
      -- An item that goes too deep is not read, whatever stands behind it.
      split
      · simp [skipBlank_visible (by decide : isBlank ']' = false), keptItems]
      · rfl
    | cons next items =>
      have apart : commaSeparated (itemChars (item :: next :: items)) =
          chars item ++ ',' :: commaSeparated (itemChars (next :: items)) := rfl
      rw [apart, List.length_append, List.length_cons] at enough
      have goesOn := ih reads.2 (by simp) (by omega : _ < steps) (kept item :: taken)
      rw [apart, List.append_assoc, items?, reads.1 steps level _ (by omega) within (by simp; decide)]
      -- The first item that goes too deep ends the reading, whether it is this one or a later one.
      have deepest : itemsDepth (item :: next :: items) = max (depth item) (itemsDepth (next :: items)) := rfl
      simp only [deepest, add_max_lt]
      by_cases fits : level + depth item < depthLimit
      · simpa [fits, skipBlank_visible (by decide : isBlank ',' = false), keptItems] using goesOn
      · simp [fits]

/-- The fields of a table are read back up to the closing brace. -/
theorem fields?_fieldChars (reads : ∀ field ∈ fields, Reads field.2) (some : fields ≠ [])
    (enough : (commaSeparated (fieldChars fields)).length < steps) (within : level < depthLimit)
    (taken : List (String × Value)) (rest : List Char) :
    fields? steps level taken (commaSeparated (fieldChars fields) ++ '\x7d' :: rest) =
      if level + fieldsDepth fields < depthLimit then .some (.table (keptFields taken fields), rest) else none := by
  -- Induction on the fields, as for the items of an array.
  induction fields generalizing steps taken with
  -- The last field is followed by the brace.
  | nil => contradiction
  | cons field fields ih =>
    obtain ⟨key, value⟩ := field
    obtain ⟨steps, rfl⟩ : ∃ before, steps = before + 1 := ⟨steps - 1, by omega⟩
    rw [List.forall_mem_cons] at reads
    -- A field is read up to the comma or the brace behind it.
    have step {mark : Char} (tail : List Char) (marks : isNumberChar mark = false ∧ isBlank mark = false)
        (fits : (chars value).length ≤ steps) :
        ∃ body, quote key ++ ':' :: (chars value ++ mark :: tail) = '"' :: body ∧
          stringRest (body.length + 1) [] body = .some (key, ':' :: (chars value ++ mark :: tail)) ∧
          value? steps level (chars value ++ mark :: tail) =
            (if level + depth value < depthLimit then .some (kept value, mark :: tail) else none) ∧
          skipBlank (mark :: tail) = mark :: tail := by
      obtain ⟨body, whole, read⟩ := stringRest_quote key (':' :: (chars value ++ mark :: tail))
      exact ⟨body, whole, read, reads.1 steps level (mark :: tail) fits within (by simpa using marks.1),
        skipBlank_visible marks.2 tail⟩
    have colon (tail : List Char) : skipBlank (':' :: tail) = ':' :: tail := skipBlank_visible (by decide) tail
    cases fields with
    | nil =>
      simp only [fieldChars, commaSeparated, List.append_assoc, List.cons_append, List.length_append,
        List.length_cons] at enough ⊢
      obtain ⟨body, whole, keyRead, valueRead, behind⟩ :=
        step rest (by decide : isNumberChar '\x7d' = false ∧ _) (by omega)
      rw [whole, fields?, skipBlank_visible (by decide)]
      simp only [fieldsDepth, Nat.max_zero]
      split
      · rename_i fits
        simp [keyRead, colon, valueRead, behind, keptFields, fits]
      · rename_i deep
        simp [keyRead, colon, valueRead, deep]
    | cons next fields =>
      have apart : commaSeparated (fieldChars ((key, value) :: next :: fields)) =
          quote key ++ ':' :: chars value ++ ',' :: commaSeparated (fieldChars (next :: fields)) := rfl
      rw [apart, List.length_append, List.length_append, List.length_cons, List.length_cons] at enough
      rw [apart, List.append_assoc, List.append_assoc, List.cons_append, List.cons_append]
      -- Any other is followed by a comma, and by the fields behind it.
      have goesOn := ih reads.2 (by simp) (by omega : _ < steps) (insertField key (kept value) taken)
      obtain ⟨body, whole, keyRead, valueRead, behind⟩ :=
        step (commaSeparated (fieldChars (next :: fields)) ++ '\x7d' :: rest) (by decide : isNumberChar ',' = false ∧ _)
          (by omega)
      have deepest : fieldsDepth ((key, value) :: next :: fields) = max (depth value) (fieldsDepth (next :: fields)) :=
        rfl
      rw [whole, fields?, skipBlank_visible (by decide)]
      simp only [deepest, add_max_lt]
      -- The table is as deep as the deepest of its values, so the first of them to be too deep decides.
      by_cases fits : level + depth value < depthLimit
      · simpa [keyRead, colon, valueRead, behind, keptFields, fits] using goesOn
      · simp [keyRead, colon, valueRead, fits]

/-- An opening bracket begins an array, if that does not stand too deep. -/
theorem value?_bracket (steps level : Nat) (rest : List Char) :
    value? (steps + 1) level ('[' :: rest) =
      if level + 1 < depthLimit then
        match skipBlank rest with
        | ']' :: rest => some (.array [], rest)
        | rest => items? steps (level + 1) [] rest
      else none := by
  -- The bracket is no blank, and of the characters that begin a value it is the one for arrays.
  rw [value?, skipBlank_visible (by decide)]
  rfl

/-- An opening brace begins a table, if that does not stand too deep. -/
theorem value?_brace (steps level : Nat) (rest : List Char) :
    value? (steps + 1) level ('\x7b' :: rest) =
      if level + 1 < depthLimit then
        match skipBlank rest with
        | '\x7d' :: rest => some (.table [], rest)
        | rest => fields? steps (level + 1) [] rest
      else none := by
  -- The brace is no blank, and of the characters that begin a value it is the one for tables.
  rw [value?, skipBlank_visible (by decide)]
  rfl

/-- An array is read back if its items are. -/
theorem reads_array {items : List Value} (reads : ∀ item ∈ items, Reads item)
    (heads : ∀ item ∈ items, ∃ c cs, chars item = c :: cs ∧ isBlank c = false ∧ c ≠ ']')
    (spelled : chars value = '[' :: commaSeparated (itemChars items) ++ [']'])
    (same : kept value = .array (keptItems items)) (nested : depth value = itemsDepth items + 1) : Reads value := by
  intro steps level rest enough _ _
  simp only [spelled, List.length_append, List.length_cons, List.length_nil] at enough
  obtain ⟨steps, rfl⟩ : ∃ before, steps = before + 1 := ⟨steps - 1, by omega⟩
  have inner : level + (itemsDepth items + 1) = level + 1 + itemsDepth items := by omega
  rw [spelled, same, nested, inner, List.append_assoc, List.cons_append, value?_bracket]
  -- An array that stands too deep itself is not read, even if it is empty.
  by_cases within : level + 1 < depthLimit
  case neg => rw [if_neg within, if_neg (by omega)]
  rw [if_pos within]
  cases items with
  | nil =>
    rw [if_pos (by simpa [itemsDepth] using within)]
    rfl
  | cons item items =>
    have read := items?_itemChars reads (by simp) (by omega : _ < steps) within [] rest
    obtain ⟨c, cs, first, visible, inside⟩ := heads item List.mem_cons_self
    obtain ⟨more, begins⟩ : ∃ more, commaSeparated (itemChars (item :: items)) = c :: more := by
      cases items with
      | nil => exact ⟨cs, first⟩
      | cons => exact ⟨_, congrArg (· ++ _) first⟩
    simp only [begins, List.cons_append, List.nil_append] at read ⊢
    simp only [skipBlank_visible visible]
    -- The first item does not begin with the bracket that closes an empty array.
    split
    · rename_i closed
      exact absurd (List.head_eq_of_cons_eq closed) inside
    · exact read

/-- A table is read back if its values are. -/
theorem reads_table {fields : List (String × Value)} (reads : ∀ field ∈ fields, Reads field.2) :
    Reads (.table fields) := by
  intro steps level rest enough _ _
  have spelled : chars (.table fields) = '\x7b' :: commaSeparated (fieldChars fields) ++ ['\x7d'] := rfl
  simp only [spelled, List.length_append, List.length_cons, List.length_nil] at enough
  obtain ⟨steps, rfl⟩ : ∃ before, steps = before + 1 := ⟨steps - 1, by omega⟩
  have inner : level + depth (.table fields) = level + 1 + fieldsDepth fields := by
    simp only [depth]
    omega
  rw [spelled, inner, List.append_assoc, List.cons_append, value?_brace]
  -- A table that stands too deep itself is not read, even if it is empty.
  by_cases within : level + 1 < depthLimit
  case neg => rw [if_neg within, if_neg (by omega)]
  rw [if_pos within]
  -- A table without fields is closed at once; any other begins with the quotation mark of its first key.
  cases fields with
  | nil =>
    rw [if_pos (by simpa [fieldsDepth] using within)]
    rfl
  | cons field fields =>
    have read := fields?_fieldChars reads (by simp) (by omega : _ < steps) within [] rest
    obtain ⟨more, begins⟩ : ∃ more, commaSeparated (fieldChars (field :: fields)) = '"' :: more := by
      cases fields <;> exact ⟨_, rfl⟩
    simp only [begins, List.cons_append, List.nil_append] at read ⊢
    simp only [skipBlank_visible (by decide : isBlank '"' = false)]
    exact read

/-- A word is read back. -/
theorem reads_word (flat : depth value = 0)
    (read : ∀ steps level rest, value? (steps + 1) level (chars value ++ rest) = some (kept value, rest))
    (some : chars value ≠ []) : Reads value := by
  -- A word takes one step and opens nothing.
  intro steps level rest enough within _
  have positive := List.length_pos_iff.mpr some
  obtain ⟨steps, rfl⟩ : ∃ before, steps = before + 1 := ⟨steps - 1, by omega⟩
  rw [read, flat, if_pos (by omega)]

/-- What is written for a value is read back as it is kept, within the limit on its depth. -/
theorem Legible.reads (legible : Legible value) : Reads value := by
  -- Induction on the value; arrays and tables are read by what holds of their items.
  induction legible with
  | null => exact reads_word rfl (fun _ _ _ => rfl) (by decide)
  | bool value => cases value <;> exact reads_word rfl (fun _ _ _ => rfl) (by decide)
  | int low high => exact reads_number rfl (number?_toString low high) rfl rfl
  | float read => exact reads_number rfl read rfl rfl
  | str text => exact reads_quote rfl rfl rfl
  | moment literal => exact reads_quote rfl rfl rfl
  | array legible ih => exact reads_array ih (fun item member => (legible item member).head_chars) rfl rfl rfl
  | tables legible ih => exact reads_array ih (fun item member => (legible item member).head_chars) rfl rfl rfl
  | table _ ih => exact reads_table ih

/-- A value that a JSON text spells: the keys of each table are in order, no two the same, and what is
no integer is a number as it is spelled. -/
inductive IsJson : Value → Prop where
  | null : IsJson .null
  | bool (value : Bool) : IsJson (.bool value)
  | int {n : Int} : Int64.minValue.toInt ≤ n → n < UInt64.size → IsJson (.int n)
  | float {literal : String} : number? literal.toList = some (.float literal) → IsJson (.float literal)
  | str (text : String) : IsJson (.str text)
  | array {items : List Value} : (∀ item ∈ items, IsJson item) → IsJson (.array items)
  | table {fields : List (String × Value)} : (fields.map (·.1)).Pairwise (· < ·) →
      (∀ field ∈ fields, IsJson field.2) → IsJson (.table fields)

/-- The numbers of what a text spells can be spelled. -/
theorem IsJson.legible (json : IsJson value) : Legible value := by
  -- Being JSON asks for more: the order of the keys is forgotten here.
  induction json with
  | null => exact .null
  | bool value => exact .bool value
  | int low high => exact .int low high
  | float read => exact .float read
  | str text => exact .str text
  | array _ ih => exact .array ih
  | table _ _ ih => exact .table ih

/-- A field whose key is behind all others is put at the end. -/
theorem insertField_last (behind : ∀ field ∈ taken, field.1 < key) (value : Value) :
    insertField key value taken = taken ++ [(key, value)] := by
  -- The new field is compared with one after the other and goes past all of them.
  induction taken with
  | nil => rfl
  | cons field taken ih =>
    rw [List.forall_mem_cons] at behind
    have other : key ≠ field.1 := fun same => String.lt_irrefl _ (same ▸ behind.1)
    simp [insertField, other, String.lt_asymm behind.1, ih behind.2]

/-- Items that are kept as they are make an array that is. -/
theorem keptItems_eq (same : ∀ item ∈ items, kept item = item) : keptItems items = items := by
  -- Induction on the items.
  induction items with
  | nil => rfl
  | cons item items ih =>
    rw [List.forall_mem_cons] at same
    rw [keptItems, same.1, ih same.2]

/-- Fields that are kept as they are and stand in order stay behind those already taken. -/
theorem keptFields_eq (same : ∀ field ∈ fields, kept field.2 = field.2)
    (sorted : ((taken ++ fields).map (·.1)).Pairwise (· < ·)) : keptFields taken fields = taken ++ fields := by
  -- Induction on the fields, with those already taken growing at the end.
  induction fields generalizing taken with
  | nil => simp [keptFields]
  | cons field fields ih =>
    obtain ⟨key, value⟩ := field
    rw [List.forall_mem_cons] at same
    -- All that was taken stands before this field in the order of the keys.
    have behind : ∀ field ∈ taken, field.1 < key := by
      rw [List.map_append, List.pairwise_append] at sorted
      exact fun field member => sorted.2.2 _ (List.mem_map_of_mem member) _ List.mem_cons_self
    have next : keptFields (taken ++ [(key, value)]) fields = _ := ih same.2 (by simpa using sorted)
    rw [keptFields, same.1, insertField_last behind, next]
    simp

/-- What a text spells is kept as it is. -/
theorem IsJson.kept (json : IsJson value) : kept value = value := by
  -- Only arrays and tables are put together anew.
  induction json with
  | array _ ih => exact congrArg Value.array (keptItems_eq ih)
  | table sorted _ ih => exact congrArg Value.table (keptFields_eq ih sorted)
  | _ => rfl

/-- A field whose key is new stands among those already taken. -/
theorem insertField_perm (new : key ∉ taken.map (·.1)) (value : Value) :
    (insertField key value taken).Perm ((key, value) :: taken) := by
  -- Induction on those already taken; none of them is replaced, as the key is new.
  induction taken with
  | nil => exact .refl _
  | cons field taken ih =>
    rw [List.map_cons, List.mem_cons, not_or] at new
    rw [insertField, if_neg new.1]
    split
    · exact .refl _
    · exact ((ih new.2).cons field).trans (.swap _ _ _)

/-- Fields with keys of their own are all kept, in some order. -/
theorem keptFields_perm (distinct : ((taken ++ fields).map (·.1)).Nodup) :
    (keptFields taken fields).Perm (taken ++ fields.map fun field => (field.1, kept field.2)) := by
  -- Induction on the fields, with those already taken growing.
  induction fields generalizing taken with
  | nil => simp [keptFields]
  | cons field fields ih =>
    obtain ⟨key, value⟩ := field
    -- The field is moved to the front, to speak of it alone.
    have moved : (taken ++ (key, value) :: fields).Perm ((key, value) :: (taken ++ fields)) := List.perm_middle
    have new := (moved.map (·.1)).nodup distinct
    rw [List.map_cons, List.nodup_cons, List.map_append, List.mem_append, not_or] at new
    have inserted := insertField_perm new.1.1 (kept value)
    have goesOn : (keptFields (insertField key (kept value) taken) fields).Perm _ :=
      ih (((inserted.append_right fields).map (·.1)).symm.nodup (by simpa using new))
    exact goesOn.trans ((inserted.append_right _).trans List.perm_middle.symm)

/-! ### What is read is within the limit -/

/-- Items are nested within a limit if each of them is. -/
theorem itemsDepth_lt {limit : Nat} :
    level + itemsDepth items < limit ↔ level < limit ∧ ∀ item ∈ items, level + depth item < limit := by
  -- Induction on the items.
  induction items with
  | nil => simp [itemsDepth]
  | cons item items ih =>
    rw [itemsDepth, add_max_lt, ih, List.forall_mem_cons]
    constructor
    · exact fun ⟨first, within, rest⟩ => ⟨within, first, rest⟩
    · exact fun ⟨within, first, rest⟩ => ⟨first, within, rest⟩

/-- Fields are nested within a limit if each of them is. -/
theorem fieldsDepth_lt {limit : Nat} :
    level + fieldsDepth fields < limit ↔ level < limit ∧ ∀ field ∈ fields, level + depth field.2 < limit := by
  -- Induction on the fields.
  induction fields with
  | nil => simp [fieldsDepth]
  | cons field fields ih =>
    obtain ⟨key, value⟩ := field
    rw [fieldsDepth, add_max_lt, ih, List.forall_mem_cons]
    constructor
    · exact fun ⟨first, within, rest⟩ => ⟨within, first, rest⟩
    · exact fun ⟨within, first, rest⟩ => ⟨first, within, rest⟩

/-- A field that is put among others is the only new one. -/
theorem mem_insertField {field : String × Value} (among : field ∈ insertField key value taken) :
    field = (key, value) ∨ field ∈ taken := by
  -- Induction on the fields that it is put among: it stands in front of them, in place of the first, or further on.
  induction taken with
  | nil => exact .inl (List.mem_singleton.mp among)
  | cons other taken ih =>
    rw [insertField] at among
    split at among
    · exact (List.mem_cons.mp among).imp_right (List.mem_cons_of_mem _)
    · split at among
      · exact List.mem_cons.mp among
      · rcases List.mem_cons.mp among with rfl | later
        · exact .inr List.mem_cons_self
        · exact (ih later).imp_right (List.mem_cons_of_mem _)

/-- What is read as a value within so many steps is within the limit at its level. -/
def ValuesWithin (steps : Nat) : Prop :=
  ∀ {level cs value rest}, level < depthLimit → value? steps level cs = some (value, rest) →
    level + depth value < depthLimit

/-- What is read as the rest of an array within so many steps is within the limit if what has been taken is. -/
def ItemsWithin (steps : Nat) : Prop :=
  ∀ {level taken cs value rest}, level < depthLimit → (∀ item ∈ taken, level + depth item < depthLimit) →
    items? steps level taken cs = some (value, rest) → level + depth value < depthLimit + 1

/-- What is read as the rest of a table within so many steps is within the limit if what has been taken is. -/
def FieldsWithin (steps : Nat) : Prop :=
  ∀ {level} {taken : List (String × Value)} {cs value rest}, level < depthLimit →
    (∀ field ∈ taken, level + depth field.2 < depthLimit) →
    fields? steps level taken cs = some (value, rest) → level + depth value < depthLimit + 1

/-- A number has nothing in it. -/
theorem depth_of_number? {cs : List Char} (read : number? cs = some value) : depth value = 0 := by
  have float {literal : String} (read : float? cs literal = some value) : depth value = 0 := by
    rw [float?, Option.ite_none_left_eq_some] at read
    obtain rfl := Option.some.inj read.2
    rfl
  -- Whatever its sign, it is an integer or a number that is none.
  simp only [number?, Option.ite_none_left_eq_some] at read
  obtain ⟨-, read⟩ := read
  split at read
  all_goals
    split at read
    · split at read
      · obtain rfl := Option.some.inj read
        rfl
      · exact float read
    · exact float read

/-- A value is within the limit if the array or the table that it opens is. -/
theorem ValuesWithin.succ {steps : Nat} (items : ItemsWithin steps) (fields : FieldsWithin steps) :
    ValuesWithin (steps + 1) := by
  intro level cs value rest within read
  rw [value?.eq_def] at read
  simp only at read
  split at read
  -- A table, which may be empty.
  case h_1 =>
    rw [Option.ite_none_right_eq_some] at read
    obtain ⟨inside, read⟩ := read
    split at read
    · obtain ⟨rfl, -⟩ := Prod.mk.inj (Option.some.inj read)
      exact inside
    · have := fields inside (by simp) read
      omega
  -- An array, which may be empty.
  case h_2 =>
    rw [Option.ite_none_right_eq_some] at read
    obtain ⟨inside, read⟩ := read
    split at read
    · obtain ⟨rfl, -⟩ := Prod.mk.inj (Option.some.inj read)
      exact inside
    · have := items inside (by simp) read
      omega
  -- Nothing stands in any other value.
  case h_7 =>
    simp only [Option.bind_eq_bind, Option.bind_eq_some_iff, Option.pure_def, Option.some.injEq, Prod.mk.injEq] at read
    obtain ⟨_, number, rfl, -⟩ := read
    rw [depth_of_number? number]
    exact within
  all_goals
    simp only [Option.bind_eq_bind, Option.bind_eq_some_iff, Option.pure_def, Option.some.injEq, Prod.mk.injEq] at read
    obtain ⟨_, -, rfl, -⟩ := read
    exact within

/-- An array is within the limit if its next item and the rest of it are. -/
theorem ItemsWithin.succ {steps : Nat} (values : ValuesWithin steps) (items : ItemsWithin steps) :
    ItemsWithin (steps + 1) := by
  intro level taken cs value rest within before read
  simp only [items?, Option.bind_eq_bind, Option.bind_eq_some_iff, Prod.exists] at read
  obtain ⟨item, _, itemRead, read⟩ := read
  have taken : ∀ other ∈ item :: taken, level + depth other < depthLimit :=
    List.forall_mem_cons.mpr ⟨values within itemRead, before⟩
  -- Behind an item stands a comma or the end of the array.
  split at read
  · exact items within taken read
  · obtain ⟨rfl, -⟩ := Prod.mk.inj (Option.some.inj read)
    have all := itemsDepth_lt.mpr ⟨within, fun item member => taken item (List.mem_reverse.mp member)⟩
    simp only [depth]
    omega
  · cases read

/-- A table is within the limit if its next field and the rest of it are. -/
theorem FieldsWithin.succ {steps : Nat} (values : ValuesWithin steps) (fields : FieldsWithin steps) :
    FieldsWithin (steps + 1) := by
  intro level taken cs value rest within before read
  simp only [fields?] at read
  split at read
  case h_2 => cases read
  simp only [Option.bind_eq_bind, Option.bind_eq_some_iff, Prod.exists] at read
  obtain ⟨key, _, -, read⟩ := read
  -- Behind the colon stand the value and then a comma or the end of the table.
  split at read
  case h_2 => cases read
  simp only [Option.bind_eq_some_iff, Prod.exists] at read
  obtain ⟨field, _, fieldRead, read⟩ := read
  -- The value is inserted among those that were read before, all of which are within the limit.
  have taken : ∀ other ∈ insertField key field taken, level + depth other.2 < depthLimit := by
    intro other among
    rcases mem_insertField among with rfl | earlier
    · exact values within fieldRead
    · exact before other earlier
  split at read
  · exact fields within taken read
  · obtain ⟨rfl, -⟩ := Prod.mk.inj (Option.some.inj read)
    have all := fieldsDepth_lt.mpr ⟨within, taken⟩
    simp only [depth]
    omega
  · cases read

end Uplink.Json
