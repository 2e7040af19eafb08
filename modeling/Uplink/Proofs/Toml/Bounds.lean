import Uplink.Toml.Reader

/-!
No integer that a document spells is wider than 64 bits with sign, wherever it stands: the reader
takes such integers only, and only puts together what it has taken.
-/

namespace Uplink

/-- Every integer in a value fits into 64 bits with sign. -/
inductive Value.Fits : Value → Prop
  | null : Fits .null
  | bool (value : Bool) : Fits (.bool value)
  | int {value : Int} : Int64.minValue.toInt ≤ value ∧ value ≤ Int64.maxValue.toInt → Fits (.int value)
  | float (literal : String) : Fits (.float literal)
  | str (value : String) : Fits (.str value)
  | moment (literal : String) : Fits (.moment literal)
  | array {items : List Value} : (∀ item ∈ items, Fits item) → Fits (.array items)
  | tables {items : List Value} : (∀ item ∈ items, Fits item) → Fits (.tables items)
  | table {fields : List (String × Value)} : (∀ field ∈ fields, Fits field.2) → Fits (.table fields)

namespace Toml

/-- Every integer under a key fits. -/
inductive Node.Fits : Node → Prop
  | value {value : Value} : value.Fits → Fits (.value value)
  | table {origin : Origin} {entries : List (String × Node)} :
      (∀ entry ∈ entries, Fits entry.2) → Fits (.table origin entries)
  | tables {items : List (List (String × Node))} :
      (∀ entries ∈ items, ∀ entry ∈ entries, Fits entry.2) → Fits (.tables items)

/-- Every integer in a table fits. -/
def Entries.Fits (entries : Entries) : Prop :=
  ∀ entry ∈ entries, entry.2.Fits

mutual

/-- What a key holds fits if its node does. -/
theorem Node.Fits.toValue {node : Node} (fits : node.Fits) : node.toValue.Fits := by
  -- A node is a value, a table or an array of tables, and the last two are gone through below.
  match node, fits with
  | .value _, .value fits => exact fits
  | .table _ entries, .table fits => exact .table (entryValues_fits entries fits)
  | .tables items, .tables fits => exact .tables (itemValues_fits items fits)

/-- What a table holds fits if its nodes do. -/
theorem entryValues_fits (entries : List (String × Node)) (fits : ∀ entry ∈ entries, entry.2.Fits) :
    ∀ field ∈ entryValues entries, field.2.Fits := by
  -- One entry after the other.
  match entries with
  | [] => simp [entryValues]
  | (key, node) :: rest =>
    simp only [List.forall_mem_cons] at fits
    simp only [entryValues, List.forall_mem_cons]
    exact ⟨fits.1.toValue, entryValues_fits rest fits.2⟩

/-- What an array of tables holds fits if its nodes do. -/
theorem itemValues_fits (items : List (List (String × Node)))
    (fits : ∀ entries ∈ items, ∀ entry ∈ entries, entry.2.Fits) : ∀ item ∈ itemValues items, item.Fits := by
  -- One table after the other.
  match items with
  | [] => simp [itemValues]
  | entries :: rest =>
    rw [List.forall_mem_cons] at fits
    simp only [itemValues, List.forall_mem_cons]
    exact ⟨.table (entryValues_fits entries fits.1), itemValues_fits rest fits.2⟩

end

namespace Entries

variable {entries inner next : Entries} {key : String} {path : List String} {value : Value} {node : Node}

/-- A table without a key fits. -/
theorem fits_nil : Fits [] := fun _ mem => nomatch mem

/-- A key is added to the others of a table. -/
theorem Fits.concat (fits : entries.Fits) (added : node.Fits) : Fits (entries ++ [(key, node)]) := by
  -- The entry is an old one, or the one at the end.
  intro entry mem
  rcases List.mem_append.mp mem with mem | mem
  · exact fits entry mem
  · rw [List.mem_singleton.mp mem]
    exact added

/-- A node takes the place of another one. -/
theorem Fits.set (fits : entries.Fits) (put : node.Fits) : Fits (entries.set key node) := by
  -- Each entry is the old one, or has the new node under the same key.
  intro entry mem
  obtain ⟨other, before, rfl⟩ := List.mem_map.mp mem
  by_cases same : other.1 = key
  · simpa [same] using put
  · simpa [same] using fits other before

/-- What a key holds is among what the table holds. -/
theorem Fits.lookup (fits : entries.Fits) (found : entries.lookup key = some node) : node.Fits := by
  -- An entry that is found is one of the entries.
  obtain ⟨before, after, rfl, -⟩ := List.lookup_eq_some_iff.mp found
  exact fits (key, node) (by simp)

/-- Changing a table somewhere keeps what its changes at the end of a path keep. -/
theorem Fits.change? {α : Type} {Q : α → Prop} {dotted : Bool}
    {change : Origin → Entries → Option (α × Entries)}
    (keeps : ∀ {origin entries a next}, Fits entries → change origin entries = some (a, next) → Q a ∧ next.Fits)
    {origin : Origin} {a : α} (fits : entries.Fits)
    (changed : entries.change? dotted change path origin = some (a, next)) : Q a ∧ next.Fits := by
  -- Induction on the path: what a key leads to fits, and stays so when it is put back.
  induction path generalizing origin entries a next with
  | nil => exact keeps fits changed
  | cons key path ih =>
    rw [Entries.change?] at changed
    split at changed
    -- The key is new, and leads to a table that is still empty.
    case h_1 =>
      simp only [Option.bind_eq_bind, Option.bind_eq_some_iff, Option.pure_def, Option.some.injEq, Prod.mk.injEq,
        Prod.exists] at changed
      obtain ⟨_, inner, changed, rfl, rfl⟩ := changed
      obtain ⟨kept, fitsInner⟩ := ih fits_nil changed
      exact ⟨kept, fits.concat (.table fitsInner)⟩
    case h_2 => cases changed
    -- The key leads to an array of tables, and the path goes on in the last of them.
    case h_3 items found =>
      simp only [Option.bind_eq_bind, Option.bind_eq_some_iff, Option.pure_def, Option.some.injEq, Prod.mk.injEq,
        Prod.exists] at changed
      obtain ⟨last, lastOf, _, inner, changed, rfl, rfl⟩ := changed
      cases fits.lookup found with
      | tables fitsItems =>
        obtain ⟨kept, fitsInner⟩ := ih (fitsItems last (List.mem_of_getLast? lastOf)) changed
        refine ⟨kept, fits.set (.tables fun entries mem => ?_)⟩
        rcases List.mem_append.mp mem with mem | mem
        · exact fitsItems entries (List.dropLast_subset items mem)
        · rw [List.mem_singleton.mp mem]
          exact fitsInner
    -- The key leads to a table.
    case h_4 inner found =>
      split at changed
      case isTrue => cases changed
      case isFalse =>
        simp only [Option.bind_eq_bind, Option.bind_eq_some_iff, Option.pure_def, Option.some.injEq, Prod.mk.injEq,
          Prod.exists] at changed
        obtain ⟨_, inner, changed, rfl, rfl⟩ := changed
        cases fits.lookup found with
        | table fitsTable =>
          obtain ⟨kept, fitsInner⟩ := ih fitsTable changed
          exact ⟨kept, fits.set (.table fitsInner)⟩

/-- A change that gives nothing back keeps what it keeps at the end of a path. -/
theorem Fits.changeWith? {dotted : Bool} {change : Origin → Entries → Option (Unit × Entries)}
    (keeps : ∀ {origin entries next}, Fits entries → change origin entries = some ((), next) → next.Fits)
    {origin : Origin} (fits : entries.Fits)
    (changed : (do return (← entries.change? dotted change path origin).2) = some next) : next.Fits := by
  -- Nothing comes back, so only what is kept has to fit.
  simp only [Option.bind_eq_bind, Option.bind_eq_some_iff, Option.pure_def, Option.some.injEq, Prod.exists] at changed
  obtain ⟨_, _, changed, rfl⟩ := changed
  exact (fits.change? (Q := fun _ => True) (fun fits put => ⟨trivial, keeps fits put⟩) changed).2

/-- A new key leaves the others as they are. -/
theorem Fits.insert? (fits : entries.Fits) (fitsValue : value.Fits) (inserted : entries.insert? key value = some next) :
    next.Fits := by
  -- A key that is there is not overwritten; a new one is added at the end.
  unfold Entries.insert? at inserted
  split at inserted
  · cases inserted
  · cases inserted
    exact fits.concat (.value fitsValue)

/-- A dotted key leaves the others as they are. -/
theorem Fits.add? (fits : entries.Fits) (fitsValue : value.Fits) (added : entries.add? path key value = some next) :
    next.Fits := by
  refine fits.changeWith? (fun fits put => ?_) added
  split at put
  · cases put
  · -- The key is new in the table at the end of the path.
    simp only [Option.bind_eq_bind, Option.bind_eq_some_iff, Option.pure_def, Option.some.injEq, Prod.mk.injEq] at put
    obtain ⟨_, inserted, -, rfl⟩ := put
    exact fits.insert? fitsValue inserted

/-- What is taken out of a table for a heading fits, and so does what is left. -/
theorem Fits.openTable? (fits : entries.Fits) (opened : entries.openTable? path key = some (inner, next)) :
    inner.Fits ∧ next.Fits := by
  refine fits.change? (fun fits taken => ?_) opened
  -- The key is new, or holds a table, which is taken out of its place.
  split at taken
  case h_1 =>
    cases taken
    exact ⟨fits_nil, fits⟩
  case h_2 found =>
    cases taken
    cases fits.lookup found with
    | table fitsInner => exact ⟨fitsInner, fun entry mem => fits entry ((List.mem_filter.mp mem).1)⟩
  case h_3 => cases taken

/-- A table that is put back keeps its parent in bounds. -/
theorem Fits.closeTable? (fits : entries.Fits) (fitsInner : inner.Fits)
    (closed : entries.closeTable? path key inner = some next) : next.Fits := by
  -- The table is added where it was taken out.
  refine fits.changeWith? (fun fits put => ?_) closed
  cases put
  exact fits.concat (.table fitsInner)

/-- An array of tables that is begun or gone on with holds nothing new. -/
theorem Fits.openItem? (fits : entries.Fits) (opened : entries.openItem? path key = some next) : next.Fits := by
  -- The array is begun with no table in it, or it is there already.
  refine fits.changeWith? (fun fits put => ?_) opened
  split at put
  · cases put
    exact fits.concat (.tables (by simp))
  · cases put
    exact fits
  · cases put

/-- A table that is put into its array keeps the array in bounds. -/
theorem Fits.closeItem? (fits : entries.Fits) (fitsInner : inner.Fits)
    (closed : entries.closeItem? path key inner = some next) : next.Fits := by
  refine fits.changeWith? (fun fits put => ?_) closed
  split at put
  case h_1 items found =>
    cases put
    cases fits.lookup found with
    | tables fitsItems =>
      refine fits.set (.tables fun entries mem => ?_)
      -- The tables of the array are the old ones, and the new one at the end.
      rcases List.mem_append.mp mem with mem | mem
      · exact fitsItems entries mem
      · rw [List.mem_singleton.mp mem]
        exact fitsInner
  case h_2 => cases put

end Entries

/-- Digits in another base are read as an integer only if it fits. -/
theorem Number.fits_of_based? {base : Nat} {cs rest : List Char} {value : Value}
    (reads : Number.based? base cs = some (value, rest)) : value.Fits := by
  simp only [Number.based?, Option.bind_eq_bind, Option.bind_eq_some_iff, Prod.exists] at reads
  obtain ⟨digits, _, -, reads⟩ := reads
  split at reads
  case isTrue below =>
    cases reads
    -- The number is not negative, and the reader has compared it with the greatest.
    have low : Int64.minValue.toInt ≤ 0 := by decide
    have high : Int64.maxValue.toInt = 2 ^ 63 - 1 := by decide
    refine .int ⟨by omega, ?_⟩
    rw [high]
    exact Int.le_sub_one_of_lt (Int.ofNat_lt.mpr below)
  case isFalse => cases reads

/-- Digits in base 10 are read as an integer only if it fits. -/
theorem Number.fits_of_integer? {chars : List Char} {value : Value} (reads : Number.integer? chars = some value) :
    value.Fits := by
  -- The reader has compared the number with both ends.
  simp only [Number.integer?] at reads
  split at reads
  case isTrue fits =>
    cases reads
    exact .int fits
  case isFalse => cases reads

/-- A number with a fraction or an exponent is no integer. -/
theorem Number.fits_of_float? {chars : List Char} {value : Value} (reads : Number.float? chars = some value) :
    value.Fits := by
  -- What is read is a float, for which nothing is asked.
  simp only [Number.float?] at reads
  split at reads
  case isTrue => cases reads
  case isFalse =>
    cases reads
    exact .float _

/-- A number in base 10 fits. -/
theorem Number.fits_of_decimal? {cs rest : List Char} {value : Value}
    (reads : Number.decimal? cs = some (value, rest)) : value.Fits := by
  simp only [Number.decimal?] at reads
  split at reads
  -- The text is an infinity or no number.
  case h_1 =>
    unfold Number.special? at reads
    split at reads
    case h_1 | h_2 =>
      cases reads
      exact .float _
    case h_3 => cases reads
  -- A text without a fraction or an exponent is an integer, and that is read only if it fits.
  case h_2 =>
    simp only [Option.bind_eq_bind, Option.bind_eq_some_iff, Option.pure_def, Prod.exists] at reads
    obtain ⟨_, _, -, _, _, -, reads⟩ := reads
    split at reads
    · obtain ⟨number, spelled, paired⟩ := Option.bind_eq_some_iff.mp reads
      cases paired
      exact fits_of_integer? spelled
    · obtain ⟨number, spelled, paired⟩ := Option.bind_eq_some_iff.mp reads
      cases paired
      exact fits_of_float? spelled

/-- A number is no wider than 64 bits if it is an integer. -/
theorem Number.fits_of_read? {cs rest : List Char} {value : Value} (reads : Number.read? cs = some (value, rest)) :
    value.Fits := by
  -- Four forms begin with a zero and a letter or with neither, and each has a lemma.
  unfold Number.read? at reads
  split at reads
  case h_4 => exact fits_of_decimal? reads
  all_goals exact fits_of_based? reads

/-- A value that holds no other fits. -/
theorem fits_of_scalarValue? {cs rest : List Char} {value : Value} (reads : scalarValue? cs = some (value, rest)) :
    value.Fits := by
  unfold scalarValue? at reads
  split at reads
  case h_5 =>
    unfold momentOrNumber? at reads
    split at reads
    · cases reads
      exact .moment _
    · exact Number.fits_of_read? reads
  -- Strings and words are no numbers.
  all_goals
    simp only [Option.bind_eq_bind, Option.bind_eq_some_iff, Option.pure_def, Option.some.injEq, Prod.mk.injEq,
      Prod.exists] at reads
    grind [Value.Fits]

/-- What is read as a value within so many steps fits. -/
def ValuesFit (steps : Nat) : Prop :=
  ∀ {depth cs value rest}, value? steps depth cs = some (value, rest) → value.Fits

/-- What is read as the rest of an array within so many steps fits if what has been taken does. -/
def ItemsFit (steps : Nat) : Prop :=
  ∀ {depth taken cs value rest}, (∀ item ∈ taken, item.Fits) →
    items? steps depth taken cs = some (value, rest) → value.Fits

/-- What is read as the rest of a table in braces within so many steps fits if what has been taken does. -/
def FieldsFit (steps : Nat) : Prop :=
  ∀ {depth} {taken : Entries} {cs value rest}, taken.Fits →
    fields? steps depth taken cs = some (value, rest) → value.Fits

/-- A value fits if the array or the table that it opens does. -/
theorem ValuesFit.succ {steps : Nat} (items : ItemsFit steps) (fields : FieldsFit steps) :
    ValuesFit (steps + 1) := by
  intro depth cs value rest reads
  rw [value?.eq_def] at reads
  simp only at reads
  split at reads
  -- An array within the bound on its depth.
  case h_1 =>
    split at reads
    · exact items (by simp) reads
    · cases reads
  -- A table within the bound on its depth, which may be empty.
  case h_2 =>
    split at reads
    · split at reads
      · cases reads
        exact .table (by simp)
      · exact fields Entries.fits_nil reads
    · cases reads
  case h_3 => exact fits_of_scalarValue? reads

/-- An array fits if its next item and the rest of it do. -/
theorem ItemsFit.succ {steps : Nat} (values : ValuesFit steps) (items : ItemsFit steps) : ItemsFit (steps + 1) := by
  intro depth taken cs value rest fits reads
  simp only [items?] at reads
  -- Behind an item stands a comma or the end of the array.
  split at reads
  case h_1 =>
    cases reads
    exact .array (by simpa using fits)
  case h_2 =>
    simp only [Option.bind_eq_bind, Option.bind_eq_some_iff, Prod.exists] at reads
    obtain ⟨item, _, itemReads, reads⟩ := reads
    have taken := List.forall_mem_cons.mpr ⟨values itemReads, fits⟩
    split at reads
    · exact items taken reads
    · cases reads
      exact .array fun item mem => taken item (List.mem_reverse.mp mem)
    · cases reads

/-- A table in braces fits if its next field and the rest of it do. -/
theorem FieldsFit.succ {steps : Nat} (values : ValuesFit steps) (fields : FieldsFit steps) :
    FieldsFit (steps + 1) := by
  intro depth taken cs value rest fits reads
  simp only [fields?, Option.bind_eq_bind, Option.bind_eq_some_iff, Prod.exists] at reads
  obtain ⟨key, _, -, reads⟩ := reads
  -- Behind the equals sign stand the value and then a comma or the end of the table.
  split at reads
  case h_1 =>
    simp only [Option.bind_eq_some_iff, Prod.exists] at reads
    obtain ⟨field, _, fieldReads, next, added, reads⟩ := reads
    have taken := fits.add? (values fieldReads) added
    split at reads
    · exact fields taken reads
    · cases reads
      exact .table (entryValues_fits _ taken)
    · cases reads
  case h_2 => cases reads

/-- What a value, an array or a table in braces is read as fits, as far as what has been taken does. -/
theorem fits_of_value? (steps : Nat) : ValuesFit steps ∧ ItemsFit steps ∧ FieldsFit steps := by
  -- Induction on the steps, for the three readers together, as they call one another.
  induction steps with
  | zero => exact ⟨nofun, nofun, nofun⟩
  | succ steps ih =>
    obtain ⟨values, items, fields⟩ := ih
    exact ⟨ValuesFit.succ items fields, ItemsFit.succ values items, FieldsFit.succ values fields⟩

/-- Every integer in a draft fits. -/
structure Draft.Fits (draft : Draft) : Prop where
  complete : draft.complete.Fits
  current : draft.current.Fits

/-- The table that lines were added to is put into the document. -/
theorem Draft.Fits.close? {draft : Draft} {entries : Entries} (fits : draft.Fits)
    (closed : draft.close? = some entries) : entries.Fits := by
  -- The table was opened by the document, a heading, or a heading of an array.
  unfold Draft.close? at closed
  split at closed
  case h_1 =>
    cases closed
    exact fits.current
  case h_2 => exact fits.complete.closeTable? fits.current closed
  case h_3 => exact fits.complete.closeItem? fits.current closed

/-- A line keeps a draft in bounds. -/
theorem Draft.Fits.line? {draft next : Draft} (fits : draft.Fits) {cs rest : List Char}
    (reads : Toml.line? draft cs = some (next, rest)) : next.Fits := by
  unfold Toml.line? at reads
  split at reads
  -- The line is the heading of an array of tables.
  case h_1 =>
    simp only [Option.bind_eq_bind, Option.bind_eq_some_iff, Option.pure_def, Option.some.injEq, Prod.mk.injEq,
      Prod.exists, Draft.openItem?] at reads
    obtain ⟨key, _, -, _, ⟨entries, closed, complete, opened, rfl⟩, _, -, rfl, -⟩ := reads
    exact ⟨(fits.close? closed).openItem? opened, Entries.fits_nil⟩
  -- The line is the heading of a table.
  case h_2 =>
    simp only [Option.bind_eq_bind, Option.bind_eq_some_iff, Option.pure_def, Option.some.injEq, Prod.mk.injEq,
      Prod.exists, Draft.openTable?] at reads
    obtain ⟨key, _, -, _, ⟨entries, closed, current, complete, opened, rfl⟩, _, -, rfl, -⟩ := reads
    obtain ⟨fitsCurrent, fitsComplete⟩ := (fits.close? closed).openTable? opened
    exact ⟨fitsComplete, fitsCurrent⟩
  -- The line is a key with its value.
  case h_3 =>
    simp only [Option.bind_eq_bind, Option.bind_eq_some_iff, Option.pure_def, Prod.exists] at reads
    obtain ⟨key, _, -, reads⟩ := reads
    split at reads
    case h_2 => cases reads
    case h_1 =>
      simp only [Option.bind_eq_some_iff, Option.some.injEq, Prod.mk.injEq, Prod.exists, Draft.add?,
        Option.bind_eq_bind, Option.pure_def] at reads
      obtain ⟨value, _, valueReads, _, ⟨current, added, rfl⟩, rfl, -⟩ := reads
      exact ⟨fits.complete, fits.current.add? ((fits_of_value? _).1 valueReads) added⟩

/-- The lines of a document keep a draft in bounds. -/
theorem Draft.Fits.lines? {steps : Nat} {draft last : Draft} (fits : draft.Fits) {cs : List Char}
    (reads : Toml.lines? steps draft cs = some last) : last.Fits := by
  -- Induction on the steps, one for each line.
  induction steps generalizing draft cs with
  | zero => cases reads
  | succ steps ih =>
    rw [Toml.lines?] at reads
    split at reads
    case h_1 =>
      cases reads
      exact fits
    case h_2 =>
      simp only [Option.bind_eq_bind, Option.bind_eq_some_iff, Prod.exists] at reads
      obtain ⟨next, _, lineReads, _, -, reads⟩ := reads
      exact ih (fits.line? lineReads) reads

/-- Every integer in the value of a document fits into 64 bits with sign. -/
theorem fits_of_parse? {text : String} {value : Value} (reads : parse? text = some value) : value.Fits := by
  simp only [parse?, Option.bind_eq_bind, Option.bind_eq_some_iff, Option.pure_def, Option.some.injEq] at reads
  obtain ⟨draft, linesRead, entries, closed, rfl⟩ := reads
  -- The reading begins with a draft without entries.
  have fresh : Draft.Fits {} := ⟨Entries.fits_nil, Entries.fits_nil⟩
  exact .table (entryValues_fits _ ((fresh.lines? linesRead).close? closed))

end Toml

end Uplink
