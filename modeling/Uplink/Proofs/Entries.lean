/-! Lists of named entries: looking a name up, and what changes of the list do to it. -/

namespace Uplink.Entries

variable {α : Type}

/-- An entry of another name is passed over. -/
theorem lookup_cons_of_ne {name other : Nat} (apart : name ≠ other) (kept : α)
    (rest : List (Nat × α)) : ((other, kept) :: rest).lookup name = rest.lookup name := by
  -- The search compares the names first.
  have test : (name == other) = false := beq_eq_false_iff_ne.mpr apart
  simp only [List.lookup_cons, test]

/-- An entry that is found stands in the list. -/
theorem mem_of_lookup {entries : List (Nat × α)} {name : Nat} {value : α}
    (found : entries.lookup name = some value) : (name, value) ∈ entries := by
  -- What is found splits the list at its own place.
  obtain ⟨before, after, rfl, -⟩ := List.lookup_eq_some_iff.mp found
  simp

/-- Where every name stands once, an entry of the list is the one that is found. -/
theorem lookup_of_mem {entries : List (Nat × α)} {name : Nat} {value : α}
    (once : (entries.map (·.1)).Nodup) (member : (name, value) ∈ entries) :
    entries.lookup name = some value := by
  -- An entry in front of it would bear its name a second time.
  induction entries with
  | nil => simp at member
  | cons entry rest ih =>
    obtain ⟨other, kept⟩ := entry
    simp only [List.map_cons, List.nodup_cons] at once
    rcases List.mem_cons.mp member with same | later
    · cases same
      simp
    · have apart : name ≠ other := by
        intro same
        subst same
        exact once.1 (List.mem_map.mpr ⟨_, later, rfl⟩)
      rw [lookup_cons_of_ne apart]
      exact ih once.2 later

/-- A name that no entry bears is not found. -/
theorem lookup_eq_none {entries : List (Nat × α)} {name : Nat}
    (absent : ∀ entry ∈ entries, entry.1 ≠ name) : entries.lookup name = none := by
  -- The library asks for it with the two names the other way round.
  simp only [List.lookup_eq_none_iff, bne_iff_ne, ne_eq]
  intro entry member same
  exact absent entry member same.symm

/-- A change of the values leaves every name at its place. -/
theorem lookup_map {change : Nat × α → Nat × α} (keeps : ∀ entry, (change entry).1 = entry.1)
    (entries : List (Nat × α)) (name : Nat) :
    (entries.map change).lookup name = (entries.lookup name).map fun value => (change (name, value)).2 := by
  -- The search compares names only, and the change keeps every name.
  induction entries with
  | nil => rfl
  | cons entry rest ih =>
    obtain ⟨other, kept⟩ := entry
    have first : change (other, kept) = (other, (change (other, kept)).2) :=
      Prod.ext (keeps (other, kept)) rfl
    rw [List.map_cons, first]
    by_cases same : name = other
    · subst same
      simp
    · rw [lookup_cons_of_ne same, lookup_cons_of_ne same, ih]

/-- Taking the entries of one name out loses no other. -/
theorem lookup_filter_ne (entries : List (Nat × α)) (gone name : Nat) :
    (entries.filter (·.1 ≠ gone)).lookup name = if name = gone then none else entries.lookup name := by
  split
  · rename_i same
    -- No entry of the name that goes is left to be found.
    apply lookup_eq_none
    intro entry member
    have apart := (List.mem_filter.mp member).2
    simp only [ne_eq, decide_not, Bool.not_eq_true', decide_eq_false_iff_not] at apart
    exact same ▸ apart
  · rename_i apart
    -- An entry that goes would have been passed over, and the others stay in their order.
    induction entries with
    | nil => rfl
    | cons entry rest ih =>
      obtain ⟨other, kept⟩ := entry
      by_cases out : other = gone
      · have past : name ≠ other := out ▸ apart
        simpa [out, lookup_cons_of_ne (out ▸ past : name ≠ gone)] using ih
      · by_cases same : name = other
        · subst same
          simp [out]
        · rw [List.filter_cons_of_pos (by simpa using out), lookup_cons_of_ne same,
            lookup_cons_of_ne same, ih]

/-- One entry changed, and the others left as they are. -/
def adjust (name : Nat) (change : α → α) (entries : List (Nat × α)) : List (Nat × α) :=
  entries.map fun (other, value) => if other = name then (other, change value) else (other, value)

/-- Changing an entry leaves every name at its place. -/
@[simp] theorem adjust_names (name : Nat) (change : α → α) (entries : List (Nat × α)) :
    (adjust name change entries).map (·.1) = entries.map (·.1) := by
  -- Both branches of the change keep the name of the entry.
  simp only [adjust, List.map_map]
  apply List.map_congr_left
  intro entry _
  obtain ⟨other, value⟩ := entry
  simp only [Function.comp_apply]
  split <;> rfl

/-- The entries after one was changed. -/
theorem mem_adjust {name : Nat} {change : α → α} {entries : List (Nat × α)} {entry : Nat × α} :
    entry ∈ adjust name change entries ↔ (entry ∈ entries ∧ entry.1 ≠ name) ∨
      ∃ value, (name, value) ∈ entries ∧ entry = (name, change value) := by
  -- An entry of the changed list comes from one of the old list; the name says whether it was
  -- changed.
  simp only [adjust, List.mem_map]
  constructor
  · intro adjusted
    obtain ⟨⟨other, value⟩, member, rfl⟩ := adjusted
    by_cases same : other = name
    · subst same
      exact .inr ⟨value, member, by simp⟩
    · exact .inl (by simp [same, member])
  · intro either
    rcases either with ⟨member, apart⟩ | ⟨value, member, rfl⟩
    · exact ⟨entry, member, by simp [apart]⟩
    · exact ⟨(name, value), member, by simp⟩

/-- Changing an entry leaves what is found under another name alone. -/
theorem lookup_adjust_of_ne {name other : Nat} (apart : other ≠ name) (change : α → α)
    (entries : List (Nat × α)) : (adjust name change entries).lookup other = entries.lookup other := by
  -- The change keeps every name, and what stands under this one is not touched by it.
  refine (lookup_map ?_ entries other).trans ?_
  · intro entry
    simp only
    split <;> rfl
  · simp [apart]

/-- Of two changes of one entry the second is made to what the first has left. -/
theorem adjust_adjust (name : Nat) (first second : α → α) (entries : List (Nat × α)) :
    adjust name second (adjust name first entries) = adjust name (second ∘ first) entries := by
  -- The two passes meet every entry once, so they agree entry by entry.
  simp only [adjust, List.map_map]
  apply List.map_congr_left
  intro entry _
  obtain ⟨other, value⟩ := entry
  by_cases same : other = name <;> simp [same]

/-- An entry that is taken out need not be changed before. -/
theorem filter_adjust (name : Nat) (change : α → α) (entries : List (Nat × α)) :
    (adjust name change entries).filter (·.1 ≠ name) = entries.filter (·.1 ≠ name) := by
  -- The change keeps the names, and the filter looks at nothing else.
  induction entries with
  | nil => rfl
  | cons entry rest ih =>
    obtain ⟨other, value⟩ := entry
    by_cases same : other = name
    · simpa [adjust, same] using ih
    · simpa [adjust, same] using ih

/-- A change that leaves the entry of a name as it is leaves all entries as they are. -/
theorem adjust_eq_self {name : Nat} {change : α → α} {entries : List (Nat × α)}
    (keeps : ∀ value, (name, value) ∈ entries → change value = value) :
    adjust name change entries = entries := by
  -- Entries of other names stay by definition, and that of this name because it would not change.
  refine Eq.trans (List.map_congr_left ?_) (List.map_id entries)
  intro entry member
  obtain ⟨other, value⟩ := entry
  by_cases same : other = name
  · subst same
    simp [keeps value member]
  · simp [same]

end Uplink.Entries
