import Mathlib.Data.List.Basic
import Uplink.Proofs.Text.Hex
import Uplink.Uuid

/-!
The written forms of an identifier: its 32 digits in letters of either case, alone or in groups with
hyphens between them, and in the latter form with a name in front or in braces. All of them are read
as the identifier, and nothing else is.
-/

namespace Uplink.Uuid

open Text

variable {uuid : Uuid} {cs ds : List Char} {ns : List Nat}

/-- The forms that digits are written in. -/
def forms (ds : List Char) : List (List Char) :=
  [ds, hyphenate groups ds, "urn:uuid:".toList ++ hyphenate groups ds, '\x7b' :: hyphenate groups ds ++ ['\x7d']]

/-- The text is a written form of the identifier, with letters of either case. -/
def Spells (uuid : Uuid) (text : String) : Prop :=
  ∃ ds : List Char, ds.map Char.toLower = Hex.digits 32 uuid.value.toNat ∧ text.toList ∈ forms ds

/-- There is a hyphen between each two groups. -/
theorem length_hyphenate (whole : cs.length = ns.sum) : (hyphenate ns cs).length = cs.length + (ns.length - 1) := by
  -- Induction along the writing: each group but the last is followed by a hyphen.
  fun_induction hyphenate ns cs with
  | case1 cs => rfl
  | case2 cs n => rfl
  | case3 n ns cs more ih =>
    rw [List.sum_cons] at whole
    have positive : 0 < ns.length := List.length_pos_iff.mpr more
    simp only [List.length_append, List.length_take, List.length_cons, List.length_drop] at ih ⊢
    rw [ih (by omega)]
    omega

/-- The hyphens are taken out again. -/
theorem ungroup?_hyphenate (whole : cs.length = ns.sum) : ungroup? ns (hyphenate ns cs) = some cs := by
  -- Induction along the writing, taking off the front group with its hyphen.
  fun_induction hyphenate ns cs with
  | case1 cs => simp [ungroup?, List.length_eq_zero_iff.mp whole]
  | case2 cs n => simp [ungroup?, whole]
  | case3 n ns cs more ih =>
    rw [List.sum_cons] at whole
    have front : (cs.take n).length = n := by
      rw [List.length_take]
      omega
    have behind : ungroup? ns (hyphenate ns (cs.drop n)) = some (cs.drop n) := ih (by simp; omega)
    rw [ungroup?, List.drop_left' front, List.take_left' front]
    · simp [behind]
    · exact more

/-- What hyphens can be taken out of is in groups. -/
theorem eq_hyphenate (taken : ungroup? ns cs = some ds) : ds.length = ns.sum ∧ cs = hyphenate ns ds := by
  -- Induction on the groups that are still to be taken off the front.
  fun_induction ungroup? ns cs generalizing ds with
  | case1 cs empty =>
    cases taken
    exact ⟨rfl, List.isEmpty_iff.mp empty⟩
  | case3 cs =>
    cases taken
    exact ⟨rfl, rfl⟩
  | case5 n ns cs more rest behind ih =>
    obtain ⟨others, takenBehind, rfl⟩ := Option.map_eq_some_iff.mp taken
    obtain ⟨length, rfl⟩ := ih takenBehind
    -- The group that is taken is as long as it should be.
    have front : (cs.take n).length = n := by
      have := congrArg List.length behind
      simp only [List.length_drop, List.length_cons] at this
      rw [List.length_take]
      omega
    refine ⟨by simp only [List.length_append, front, length, List.sum_cons], ?_⟩
    rw [hyphenate, List.take_left' front, List.drop_left' front, ← behind, List.take_append_drop]
    exact more
  | case2 => cases taken
  | case4 => cases taken
  | case6 => cases taken

/-- The digits of a written form are read as the identifier. -/
theorem ofDigits?_eq_some : ofDigits? ds = some uuid ↔ ds.map Char.toLower = Hex.digits 32 uuid.value.toNat := by
  unfold ofDigits?
  -- As many digits as make up the whole number are read as one that fits.
  constructor
  · intro read
    split at read
    case isFalse => cases read
    case isTrue whole =>
      obtain ⟨n, value, rfl⟩ := Option.map_eq_some_iff.mp read
      obtain ⟨fits, spelled⟩ := Hex.number?_eq_some.mp value
      rw [whole] at fits spelled
      rw [BitVec.toNat_ofNat, Nat.mod_eq_of_lt (by simpa using fits), spelled]
  · intro spelled
    have whole : ds.length = 32 := by simpa using congrArg List.length spelled
    have fits : uuid.value.toNat < 16 ^ ds.length := by
      rw [whole]
      exact uuid.value.isLt
    rw [if_pos whole, Hex.number?_eq_some.mpr ⟨fits, whole ▸ spelled⟩]
    simp

/-- Digits are taken out of any of their forms. -/
theorem bare?_of_mem (whole : ds.length = 32) (form : cs ∈ forms ds) : bare? cs = some ds := by
  have length : (hyphenate groups ds).length = 36 := by rw [length_hyphenate whole, whole]; rfl
  have grouped : ungroup? groups (hyphenate groups ds) = some ds := ungroup?_hyphenate whole
  -- Of the four forms the first has no hyphens, and the others have some in the same places.
  simp only [forms, List.mem_cons, List.not_mem_nil, or_false] at form
  rcases form with rfl | rfl | rfl | rfl
  · simp [bare?, whole]
  · simp [bare?, length, grouped]
  · simp [bare?, length, grouped]
  · simp [bare?, length, grouped]

/-- What digits are taken out of is one of their forms. -/
theorem mem_of_bare? (taken : bare? cs = some ds) : cs ∈ forms ds := by
  simp only [forms, List.mem_cons, List.not_mem_nil, or_false]
  -- The four forms are told apart by their length, then by their prefix, then by the brace.
  by_cases alone : cs.length = 32
  · simp only [bare?, alone, if_true, Option.some.injEq] at taken
    exact .inl taken
  by_cases hyphens : cs.length = 36
  · simp only [bare?, hyphens, if_true] at taken
    exact .inr (.inl (eq_hyphenate taken).2)
  by_cases named : cs.take "urn:uuid:".toList.length = "urn:uuid:".toList
  · simp only [bare?, alone, hyphens, named, if_true, if_false] at taken
    refine .inr (.inr (.inl ?_))
    rw [← (eq_hyphenate taken).2]
    exact (named ▸ List.take_append_drop _ cs).symm
  simp only [bare?, alone, hyphens, named, if_false] at taken
  -- What is left is the form in braces.
  split at taken
  · rename_i rest
    rw [Option.ite_none_right_eq_some] at taken
    obtain ⟨closed, taken⟩ := taken
    refine .inr (.inr (.inr ?_))
    rw [← (eq_hyphenate taken).2, List.cons_append, List.dropLast_append_getLast? _ closed]
  · cases taken

/-- An identifier is read from its written forms, and from nothing else. -/
theorem parse?_eq_some {text : String} : parse? text = some uuid ↔ uuid.Spells text := by
  -- Both sides speak of the same digits, which stand for the identifier.
  rw [parse?, Option.bind_eq_some_iff]
  constructor
  · rintro ⟨ds, taken, read⟩
    exact ⟨ds, ofDigits?_eq_some.mp read, mem_of_bare? taken⟩
  · rintro ⟨ds, spelled, form⟩
    have whole : ds.length = 32 := by simpa using congrArg List.length spelled
    exact ⟨ds, bare?_of_mem whole form, ofDigits?_eq_some.mpr spelled⟩

end Uplink.Uuid
