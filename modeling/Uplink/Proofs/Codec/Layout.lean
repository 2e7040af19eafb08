import Mathlib.Data.List.Nodup
import Uplink.Proofs.Codec.Config

/-!
What a table says about a structure. The order of its entries does not matter, entries under keys that
no field has say nothing, and an entry may be left out if the structure with every default has it.

`Writes` is what a document form has to keep to for this; every structure with named fields does.
-/

namespace Uplink.Codec

/-- The entries of a table; other values have none. -/
def entriesOf : Value → List (String × Value)
  | .table entries => entries
  | _ => []

/-- The entries of a table are its own. -/
@[simp] theorem entriesOf_table (entries : List (String × Value)) : entriesOf (.table entries) = entries :=
  rfl

/-- A table says what another one says, where it leaves out what a third one has: its entries stand in
any order, and others with keys of their own may stand among them. -/
structure Abridges (entries whole standard : List (String × Value)) : Prop where
  faithful : ∀ entry ∈ entries, entry.1 ∈ whole.map (·.1) → entry ∈ whole
  full : ∀ entry ∈ whole, entry ∈ entries ∨ entry ∈ standard

/-- Nothing has to be left out. -/
theorem Abridges.refl (whole standard : List (String × Value)) : Abridges whole whole standard :=
  ⟨fun _ among _ => among, fun _ among => .inl among⟩

namespace Layout

variable {α : Type} {layout : Layout α} {encode : α → Value} {entries : List (String × Value)} {a : α}

/-- The document form of a structure is a table with an entry for each field, and to decode that entry
is to set that field. -/
structure Writes (layout : Layout α) (encode : α → Value) : Prop where
  keys : ∀ a, (entriesOf (encode a)).map (·.1) = layout.fields.map (·.key)
  distinct : (layout.fields.map (·.key)).Nodup
  /-- The structure is the one that the entry is from in one field more. -/
  visit : ∀ a b, ∀ form ∈ entriesOf (encode a), ∃ c, layout.visit b form = .ok c ∧ form ∈ entriesOf (encode c) ∧
    ∀ other ∈ entriesOf (encode a), other ∈ entriesOf (encode b) → other ∈ entriesOf (encode c)
  /-- The fields are the whole structure. -/
  whole : ∀ a b, (∀ form ∈ entriesOf (encode a), form ∈ entriesOf (encode b)) → b = a

/-- Under the key of a field stands what is decoded like the entry of a structure. -/
def Tells (layout : Layout α) (forms entries : List (String × Value)) : Prop :=
  ∀ entry ∈ entries, ∀ form ∈ forms, entry.1 = form.1 → ∀ b, layout.visit b entry = layout.visit b form

/-- An entry whose key no field has is passed over. -/
theorem visit_unknown {entry : String × Value} (unknown : entry.1 ∉ layout.fields.map (·.key)) (b : α) :
    layout.visit b entry = .ok b := by
  -- The search for a field with this key finds none, and then nothing is set.
  have none : layout.fields.find? (·.key = entry.1) = none := by
    simpa [List.find?_eq_none] using unknown
  rw [visit, none]

/-- The entries of a table leave nothing but the structure they tell of, and what was there before. -/
theorem Writes.foldlM (writes : layout.Writes encode) (told : layout.Tells (entriesOf (encode a)) entries) (b : α) :
    ∃ c, entries.foldlM layout.visit b = .ok c ∧
      ∀ form ∈ entriesOf (encode a), form.1 ∈ entries.map (·.1) ∨ form ∈ entriesOf (encode b) →
        form ∈ entriesOf (encode c) := by
  -- Induction on the entries; each one settles its own field and keeps the others.
  induction entries generalizing b with
  | nil => exact ⟨b, rfl, fun form _ settled => settled.resolve_left List.not_mem_nil⟩
  | cons entry entries ih =>
    rw [Tells, List.forall_mem_cons] at told
    obtain ⟨next, visited, settles, keeps⟩ : ∃ next, layout.visit b entry = .ok next ∧
        (∀ form ∈ entriesOf (encode a), form.1 = entry.1 → form ∈ entriesOf (encode next)) ∧
        ∀ form ∈ entriesOf (encode a), form ∈ entriesOf (encode b) → form ∈ entriesOf (encode next) := by
      by_cases known : entry.1 ∈ (entriesOf (encode a)).map (·.1)
      · -- A known key settles the field of that name, and the writer says what it leaves.
        obtain ⟨form, member, same⟩ := List.mem_map.mp known
        obtain ⟨next, visited, -, keeps⟩ := writes.visit a b form member
        refine ⟨next, (told.1 form member same.symm b).trans visited, fun other among equal => ?_, keeps⟩
        obtain ⟨after, also, settled, -⟩ := writes.visit a b other among
        rw [← told.1 other among equal.symm b, told.1 form member same.symm b, visited] at also
        cases also
        exact settled
      · -- An unknown key is passed over.
        refine ⟨b, visit_unknown (writes.keys a ▸ known) b, fun form member same => ?_, fun form _ settled => settled⟩
        exact absurd (same ▸ List.mem_map_of_mem member) known
    obtain ⟨c, others, settled⟩ := ih told.2 next
    refine ⟨c, ?_, fun form member stands => settled form member ?_⟩
    · rw [List.foldlM_cons, visited]
      exact others
    · -- A form is settled by this entry, by a later one, or was there before.
      rcases stands with among | before
      · rw [List.map_cons, List.mem_cons] at among
        exact among.symm.imp_right (settles form member)
      · exact .inr (keeps form member before)

/-- A table is decoded as the structure that its entries tell of, if those that are left out are those
of the structure with every default. -/
theorem Writes.ofEntries (writes : layout.Writes encode) (told : layout.Tells (entriesOf (encode a)) entries)
    (left : ∀ form ∈ entriesOf (encode a), form.1 ∈ entries.map (·.1) ∨ form ∈ entriesOf (encode layout.start))
    (needed : ∀ field ∈ layout.fields, field.required = true → field.key ∈ entries.map (·.1)) :
    layout.ofEntries entries = .ok a := by
  -- The entries are visited one by one, and what comes out says all that the structure says.
  obtain ⟨c, folded, settled⟩ := writes.foldlM told layout.start
  obtain rfl := writes.whole a c fun form member => settled form member (left form member)
  -- Each required field is among the keys, so none of them is missing.
  have complete : (layout.fields.find? fun field => field.required && (entries.lookup field.key).isNone) = none := by
    simp only [List.find?_eq_none, Bool.and_eq_true, not_and, Option.isNone_iff_eq_none]
    intro field member required missing
    obtain ⟨entry, among, same⟩ := List.mem_map.mp (needed field member required)
    exact absurd same.symm (by simpa using List.lookup_eq_none_iff.mp missing entry among)
  rw [Layout.ofEntries, folded]
  simp only [bind, Except.bind, complete]

/-- A table that abridges the document form of a structure is decoded as the structure, as long as what
it leaves out is the default and none of it is required. -/
theorem Writes.ofEntries_abridged (writes : layout.Writes encode) {standard : List (String × Value)}
    (abridged : Abridges entries (entriesOf (encode a)) standard)
    (defaults : ∀ form ∈ standard, form ∈ entriesOf (encode layout.start))
    (optional : ∀ field ∈ layout.fields, field.required = true → field.key ∉ standard.map (·.1)) :
    layout.ofEntries entries = .ok a := by
  have distinct : ((entriesOf (encode a)).map (·.1)).Nodup := writes.keys a ▸ writes.distinct
  refine writes.ofEntries (fun entry among form member same b => ?_) (fun form member => ?_)
    fun field member required => ?_
  · -- An entry with a key of the form is the entry of the form.
    have stands := abridged.faithful entry among (same ▸ List.mem_map_of_mem member)
    rw [List.inj_on_of_nodup_map distinct stands member same]
  · -- What is left out of the table is among the defaults.
    exact (abridged.full form member).imp (fun stands => List.mem_map_of_mem stands) (defaults form)
  · -- A required field has no default, so its entry is there.
    obtain ⟨form, stands, same⟩ := List.mem_map.mp (writes.keys a ▸ List.mem_map_of_mem member : field.key ∈ _)
    rcases abridged.full form stands with among | default
    · exact same ▸ List.mem_map_of_mem among
    · exact absurd (same ▸ List.mem_map_of_mem default) (optional field member required)

/-- The document form of a structure is decoded as the structure. -/
theorem Writes.ofEntries_self (writes : layout.Writes encode) (a : α) :
    layout.ofEntries (entriesOf (encode a)) = .ok a :=
  writes.ofEntries_abridged (.refl _ []) (fun _ none => absurd none List.not_mem_nil)
    fun _ _ _ => List.not_mem_nil

end Layout

end Uplink.Codec
