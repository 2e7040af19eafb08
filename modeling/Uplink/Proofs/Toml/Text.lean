import Uplink.Toml.Printer
import Uplink.Toml.Text

/-!
A string that is written can be read back: whichever of its forms it is written in, the reader comes
to the same characters and stops right after the closing mark.

The four forms share one shape. A text *spells* characters if it goes through them one by one, each
by a piece that the reader takes for that character and nothing else; the mark of the form may stand
for itself as long as fewer of them stand in a row than would end the string. What is read of such a
text does not depend on the form, so that each form has to be looked at for its pieces only.
-/

namespace Uplink.Toml

/-- A text that spells characters in a form, after a number of its marks in a row of which no more
than `limit` may stand as they are. -/
inductive Spells (piece? : List Char → Option (Piece × List Char)) (mark : Char) (limit : Nat) :
    Nat → List Char → List Char → Prop
  | done (run : Nat) : Spells piece? mark limit run [] []
  | mark {run : Nat} {text chars : List Char} :
      run < limit → Spells piece? mark limit (run + 1) text chars →
        Spells piece? mark limit run (mark :: text) (mark :: chars)
  | other {run : Nat} {first c : Char} (more : List Char) {text chars : List Char} :
      first ≠ mark → (∀ rest, piece? (first :: (more ++ rest)) = some (⟨[c], false⟩, rest)) →
        Spells piece? mark limit 0 text chars →
          Spells piece? mark limit run (first :: (more ++ text)) (c :: chars)

/-- A piece that is not the last is followed by what the rest of the string holds. -/
theorem gather_piece {piece? : List Char → Option (Piece × List Char)} {cs rest chars others tail : List Char}
    {steps : Nat} (reads : piece? cs = some (⟨chars, false⟩, rest))
    (goesOn : gather piece? steps rest = some (others, tail)) :
    gather piece? (steps + 1) cs = some (chars ++ others, tail) := by
  -- The step takes the piece, and the steps after it the rest.
  simp [gather, reads, goesOn]

namespace Spells

variable {piece? : List Char → Option (Piece × List Char)} {mark : Char} {limit run : Nat}
  {text chars rest : List Char} {steps : Nat}

/-- A text is at least as long as what it spells. -/
theorem length_le (spells : Spells piece? mark limit run text chars) : chars.length ≤ text.length := by
  -- Induction on how the text spells: each piece has at least as many characters as it stands for.
  induction spells with
  | done => exact Nat.le_refl _
  | mark _ _ ih => simpa using ih
  | other _ _ _ _ ih => simp only [List.length_cons, List.length_append]; omega

/-- There is a step for each character that a text in front of another one spells. -/
theorem length_lt (spells : Spells piece? mark limit run text chars) (rest : List Char) :
    chars.length < (text ++ rest).length + 1 := by
  -- What stands behind the text only adds to its length.
  have := spells.length_le
  rw [List.length_append]
  omega

/-- A string that one mark ends is read up to that mark. -/
theorem gather_short (spells : Spells piece? mark 0 run text chars)
    (ends : ∀ rest, piece? (mark :: rest) = some (⟨[], true⟩, rest)) (enough : chars.length < steps) :
    gather piece? steps (text ++ mark :: rest) = some (chars, rest) := by
  -- Induction on how the text spells; every piece takes one step.
  induction spells generalizing steps with
  | done =>
    obtain ⟨steps, rfl⟩ := Nat.exists_eq_add_of_lt enough
    simp [gather, ends]
  -- With one mark as the end none can stand inside.
  | mark inside => exact absurd inside (Nat.not_lt_zero _)
  | other _ _ reads _ ih =>
    obtain ⟨steps, rfl⟩ : ∃ before, steps = before + 1 := ⟨steps - 1, by simp at enough; omega⟩
    rw [List.length_cons, Nat.add_lt_add_iff_right] at enough
    rw [List.cons_append, List.append_assoc]
    exact gather_piece (reads _) (ih enough)

end Spells

/-- Of the marks before the end of a string over several lines, up to two are given back. -/
theorem multiEnd_replicate {mark : Char} {rest : List Char} (apart : ∀ tail, rest ≠ mark :: tail) {count : Nat}
    (few : count ≤ 2) :
    multiEnd mark (List.replicate count mark ++ rest) = (⟨List.replicate count mark, true⟩, rest) := by
  -- The marks are counted up to the first other character.
  have other : ∀ c tail, rest = c :: tail → c ≠ mark := fun c tail eq same => apart tail (same ▸ eq)
  obtain rfl | rfl | rfl : count = 0 ∨ count = 1 ∨ count = 2 := by omega
  · match rest, other with
    | [], _ => rfl
    | [c], other => simp [multiEnd, other c [] rfl]
    | c :: d :: tail, other => simp [multiEnd, other c (d :: tail) rfl]
  · match rest, other with
    | [], _ => simp [multiEnd]
    | c :: tail, other => simp [multiEnd, other c tail rfl]
  · simp [multiEnd, List.replicate]

/-- A string that three marks end is read up to the last of them: the reader takes a mark for itself
unless two more follow, and of the marks right before the end it gives up to two back. -/
theorem Spells.gather_long {piece? : List Char → Option (Piece × List Char)} {mark : Char} {run : Nat}
    {text chars rest : List Char} {steps : Nat} (spells : Spells piece? mark 2 run text chars)
    (inside : ∀ tail, (∀ rest, tail ≠ mark :: mark :: rest) → piece? (mark :: tail) = some (⟨[mark], false⟩, tail))
    (ends : ∀ rest, piece? (mark :: mark :: mark :: rest) = some (multiEnd mark rest))
    (apart : ∀ tail, rest ≠ mark :: tail) (enough : chars.length < steps) :
    gather piece? steps (text ++ mark :: mark :: mark :: rest) = some (chars, rest) := by
  have last : ∀ count ≤ 2, ∀ steps,
      gather piece? (steps + 1) (List.replicate count mark ++ mark :: mark :: mark :: rest) =
        some (List.replicate count mark, rest) := by
    intro count few steps
    have swap : List.replicate count mark ++ mark :: mark :: mark :: rest =
        mark :: mark :: mark :: (List.replicate count mark ++ rest) := by
      obtain rfl | rfl | rfl : count = 0 ∨ count = 1 ∨ count = 2 := by omega
      all_goals rfl
    rw [swap]
    simp [gather, ends, multiEnd_replicate apart few]
  -- Induction on what the string spells.
  induction spells generalizing steps with
  | done =>
    obtain ⟨steps, rfl⟩ := Nat.exists_eq_add_of_lt enough
    exact last 0 (by omega) _
  | other _ _ reads _ ih =>
    obtain ⟨steps, rfl⟩ : ∃ before, steps = before + 1 := ⟨steps - 1, by simp at enough; omega⟩
    rw [List.length_cons, Nat.add_lt_add_iff_right] at enough
    rw [List.cons_append, List.append_assoc]
    exact gather_piece (reads _) (ih enough)
  | mark below spells ih =>
    obtain ⟨steps, rfl⟩ : ∃ before, steps = before + 1 := ⟨steps - 1, by simp at enough; omega⟩
    rw [List.length_cons, Nat.add_lt_add_iff_right] at enough
    -- A mark stands for itself if another character is among the two after it, and belongs to the
    -- marks before the end otherwise.
    cases spells with
    | done => exact last 1 (by omega) steps
    | other _ differs =>
      exact gather_piece (inside _ (by simp [differs])) (ih enough)
    | mark below spells =>
      cases spells with
      | done => exact last 2 (by omega) steps
      | mark below => omega
      | other _ differs =>
        exact gather_piece (inside _ (by simp [differs])) (ih enough)

/-- Four digits in base 16 are written for a character of one byte and read back as it. -/
theorem scalar?_capitalDigit {n : Nat} (small : n < 128) :
    scalar? ['0', '0', Text.Hex.capitalDigit (n / 16), Text.Hex.capitalDigit (n % 16)] = some (Char.ofNat n) := by
  -- The characters below 128 are gone through one by one.
  have : ∀ n < 128,
      scalar? ['0', '0', Text.Hex.capitalDigit (n / 16), Text.Hex.capitalDigit (n % 16)] = some (Char.ofNat n) := by
    decide
  exact this n small

/-- Control characters are among the first 128. -/
theorem isControl.lt {c : Char} (control : isControl c = true) : c.toNat < 128 := by
  -- They are the first 32, and the last of the 128.
  simp only [isControl, Bool.or_eq_true, Bool.and_eq_true, decide_eq_true_eq] at control
  rcases control with ⟨⟨below, -⟩, -⟩ | rfl
  · exact Nat.lt_trans below (by decide)
  · decide

/-- An escape is a backslash before a letter that begins no blank rest of a line, and is read back as
the character it was written for. -/
theorem escapeOf?_reads {c : Char} {escape : List Char} (written : escapeOf? c = some escape) :
    ∃ letter more, escape = '\\' :: letter :: more ∧
      ∀ rest, isLineBlank (letter :: (more ++ rest)) = false ∧ escape? (letter :: (more ++ rest)) = some (c, rest) := by
  unfold escapeOf? at written
  split at written
  -- Five characters have a letter of their own.
  all_goals try (cases written; exact ⟨_, [], rfl, fun _ => ⟨rfl, rfl⟩⟩)
  split at written
  case isFalse => cases written
  -- Other control characters are written by their number.
  case isTrue control =>
    cases written
    refine ⟨_, _, rfl, fun rest => ⟨rfl, ?_⟩⟩
    simp [escape?, scalar?_capitalDigit (isControl.lt control), Char.ofNat_toNat]

/-- A character that is neither a control character nor the end of a line may stand as it is. -/
theorem isPlain_of_isControl {c : Char} (bare : isControl c = false) (inLine : c ≠ '\n') : isPlain c = true := by
  -- Of the characters below the blank the tab and the end of a line are no control characters here.
  simp only [isControl, Bool.or_eq_false_iff, Bool.and_eq_false_iff, decide_eq_false_iff_not] at bare
  obtain ⟨(printable | tab) | broken, inside⟩ := bare
  · simp [isPlain, inside, Char.not_lt.mp printable]
  · simp [isPlain, Decidable.not_not.mp tab]
  · exact absurd inLine broken

/-- A character is written as it is if it neither needs an escape nor begins one. -/
theorem escapeOf?_eq_none {c : Char} (bare : escapeOf? c = none) : isControl c = false ∧ c ≠ '\\' ∧ c ≠ '\r' := by
  unfold escapeOf? at bare
  split at bare
  all_goals try cases bare
  -- What has no letter of its own is escaped only if it is a control character.
  case h_6 _ _ _ carriage backslash =>
    split at bare
    case isTrue => cases bare
    case isFalse plain => exact ⟨Bool.eq_false_iff.mpr plain, backslash, carriage⟩

/-- What a character spells by itself in a form whose pieces take it as it is. -/
theorem Spells.plain {piece? : List Char → Option (Piece × List Char)} {mark c : Char} {limit run : Nat}
    {text chars : List Char} (differs : c ≠ mark)
    (reads : ∀ rest, piece? (c :: rest) = some (⟨[c], false⟩, rest))
    (spells : Spells piece? mark limit 0 text chars) :
    Spells piece? mark limit run (c :: text) (c :: chars) :=
  -- The piece has no characters behind the first.
  .other [] differs reads spells

/-- Between quotes a character without a meaning of its own is read as it stands. -/
theorem basicPiece?_plain {c : Char} (quote : c ≠ '"') (backslash : c ≠ '\\') (plain : isPlain c = true)
    (rest : List Char) : basicPiece? (c :: rest) = some (⟨[c], false⟩, rest) := by
  -- It is neither the end nor the beginning of an escape.
  simp [basicPiece?, plain?, plain]

/-- What is written between quotes spells the characters. -/
theorem spells_basicText (cs : List Char) (run : Nat) : Spells basicPiece? '"' 0 run (basicText cs) cs := by
  -- Induction along the writing: a quote, the end of a line, and any other character.
  fun_induction basicText cs generalizing run with
  | case1 => exact .done run
  | case2 rest ih => exact .other ['"'] (by decide) (fun _ => rfl) (ih 0)
  | case3 rest ih => exact .other ['n'] (by decide) (fun _ => rfl) (ih 0)
  | case4 c rest quote broken ih =>
    cases escape : escapeOf? c with
    -- It stands as it is.
    | none =>
      obtain ⟨control, backslash, -⟩ := escapeOf?_eq_none escape
      exact .plain quote (basicPiece?_plain quote backslash (isPlain_of_isControl control broken)) (ih 0)
    -- It is written as an escape.
    | some escape =>
      obtain ⟨letter, more, rfl, reads⟩ := escapeOf?_reads escape
      exact .other (letter :: more) (by decide) (fun rest => by simp [basicPiece?, (reads rest).2]) (ih 0)

/-- Between three quotes a character that neither has a meaning of its own nor ends a line is read as
it stands. -/
theorem multiBasicPiece?_plain {c : Char} (quote : c ≠ '"') (backslash : c ≠ '\\') (carriage : c ≠ '\r')
    (broken : c ≠ '\n') (plain : isPlain c = true) (rest : List Char) :
    multiBasicPiece? (c :: rest) = some (⟨[c], false⟩, rest) := by
  -- It is neither a quote, nor an escape, nor the end of a line.
  simp [multiBasicPiece?, lineEnd?, plain?, plain, quote, carriage, broken]

/-- Between three quotes a quote is read as it stands unless two more follow. -/
theorem multiBasicPiece?_quote {tail : List Char} (few : ∀ rest, tail ≠ '"' :: '"' :: rest) :
    multiBasicPiece? ('"' :: tail) = some (⟨['"'], false⟩, tail) := by
  -- The other patterns ask for three quotes.
  simp only [multiBasicPiece?]

/-- What is written between three quotes spells the characters. -/
theorem spells_multiBasicText (cs : List Char) {run : Nat} (few : run ≤ 2) :
    Spells multiBasicPiece? '"' 2 run (multiBasicText run cs) cs := by
  -- Induction on the characters, with the number of quotation marks that stand in a row; no three of them
  -- may.
  fun_induction multiBasicText run cs with
  | case1 run => exact .done run
  | case2 rest ih => exact .other ['"'] (by decide) (fun _ => rfl) (ih (by omega))
  | case3 run rest full ih => exact .mark (by omega) (ih (by omega))
  | case4 run rest ih => exact .plain (by decide) (fun _ => rfl) (ih (by omega))
  | case5 run c rest quote broken ih =>
    cases escape : escapeOf? c with
    | none =>
      obtain ⟨control, backslash, carriage⟩ := escapeOf?_eq_none escape
      exact .plain quote
        (multiBasicPiece?_plain quote backslash carriage broken (isPlain_of_isControl control broken)) (ih (by omega))
    | some escape =>
      obtain ⟨letter, more, rfl, reads⟩ := escapeOf?_reads escape
      exact .other (letter :: more) (by decide)
        (fun rest => by simp [multiBasicPiece?, (reads rest).1, (reads rest).2]) (ih (by omega))

/-- Between apostrophes a text spells itself if it needs no escapes, has no apostrophe and stands on
one line. -/
theorem spells_literal {cs : List Char} (control : cs.any isControl = false) (mark : '\'' ∉ cs) (inLine : '\n' ∉ cs)
    (run : Nat) : Spells literalPiece? '\'' 0 run cs cs := by
  -- Induction on the characters, each of which stands for itself.
  induction cs generalizing run with
  | nil => exact .done run
  | cons c cs ih =>
    simp only [List.any_cons, Bool.or_eq_false_iff] at control
    simp only [List.mem_cons, not_or] at mark inLine
    have plain := isPlain_of_isControl control.1 (Ne.symm inLine.1)
    refine .plain (Ne.symm mark.1) (fun rest => ?_) (ih control.2 mark.2 inLine.2 0)
    simp [literalPiece?, plain?, plain, Ne.symm mark.1]

/-- The longest run of a mark so far and the run that goes on, one character later. -/
def afterChar (mark : Char) (runs : Nat × Nat) (c : Char) : Nat × Nat :=
  if c = mark then (max runs.1 (runs.2 + 1), runs.2 + 1) else (runs.1, 0)

/-- The longest run only grows. -/
theorem le_foldl_afterChar (mark : Char) (cs : List Char) (runs : Nat × Nat) :
    runs.1 ≤ (cs.foldl (afterChar mark) runs).1 := by
  -- Induction on the characters: a mark may lengthen the longest run, and anything else leaves it.
  induction cs generalizing runs with
  | nil => exact Nat.le_refl _
  | cons c cs ih =>
    refine Nat.le_trans ?_ (ih (afterChar mark runs c))
    unfold afterChar
    split
    · exact Nat.le_max_left ..
    · exact Nat.le_refl _

/-- Between three apostrophes an apostrophe is read as it stands unless two more follow. -/
theorem multiLiteralPiece?_apostrophe {tail : List Char} (few : ∀ rest, tail ≠ '\'' :: '\'' :: rest) :
    multiLiteralPiece? ('\'' :: tail) = some (⟨['\''], false⟩, tail) := by
  -- The other patterns ask for three apostrophes.
  simp only [multiLiteralPiece?]

/-- Between three apostrophes a character other than the mark is read as it stands if it needs no
escape, and so is the end of a line. -/
theorem multiLiteralPiece?_plain {c : Char} (control : isControl c = false) (mark : c ≠ '\'') (rest : List Char) :
    multiLiteralPiece? (c :: rest) = some (⟨[c], false⟩, rest) := by
  -- The end of a line has a pattern of its own; any other character is plain.
  by_cases broken : c = '\n'
  · subst broken
    rfl
  · have carriage : c ≠ '\r' := by rintro rfl; exact absurd control (by decide)
    simp [multiLiteralPiece?, lineEnd?, plain?, isPlain_of_isControl control broken, mark, carriage, broken]

/-- Between three apostrophes a text spells itself if it needs no escapes and has three apostrophes in
a row nowhere. -/
theorem spells_multiLiteral {cs : List Char} (control : cs.any isControl = false) (few : longestRun '\'' cs ≤ 2) :
    Spells multiLiteralPiece? '\'' 2 0 cs cs := by
  -- What the runs of the whole text keep to, the rest of the text keeps to after a run of its beginning.
  suffices ∀ runs : Nat × Nat, (cs.foldl (afterChar '\'') runs).1 ≤ 2 →
      Spells multiLiteralPiece? '\'' 2 runs.2 cs cs from this (0, 0) few
  clear few
  intro runs few
  induction cs generalizing runs with
  | nil => exact .done runs.2
  | cons c cs ih =>
    simp only [List.any_cons, Bool.or_eq_false_iff] at control
    rw [List.foldl_cons] at few
    have longest := Nat.le_trans (le_foldl_afterChar '\'' cs _) few
    have goesOn := ih control.2 _ few
    by_cases mark : c = '\''
    · subst mark
      simp only [afterChar, if_true] at goesOn longest
      exact .mark (by omega) goesOn
    · rw [afterChar, if_neg mark] at goesOn
      exact .plain mark (multiLiteralPiece?_plain control.1 mark) goesOn

namespace StringForm

variable {cs : List Char}

/-- A string is written between apostrophes only if it can stand there. -/
theorem of_eq_literal (form : of cs = .literal) : cs.any isControl = false ∧ '\'' ∉ cs ∧ '\n' ∉ cs := by
  -- The form is chosen by these tests.
  simp only [of] at form
  grind

/-- A string is written between three apostrophes only if it can stand there. -/
theorem of_eq_multiLiteral (form : of cs = .multiLiteral) :
    cs.any isControl = false ∧ longestRun '\'' cs ≤ 2 := by
  -- The form is chosen by these tests.
  simp only [of] at form
  grind

end StringForm

/-- The rest of a string that one mark ends. -/
theorem stringRest?_short {piece? : List Char → Option (Piece × List Char)} {mark : Char} {run : Nat}
    {text chars : List Char} (spells : Spells piece? mark 0 run text chars)
    (ends : ∀ rest, piece? (mark :: rest) = some (⟨[], true⟩, rest)) (rest : List Char) :
    stringRest? piece? (text ++ mark :: rest) = some (String.ofList chars, rest) := by
  -- As many steps are given as there are characters, and one more.
  rw [stringRest?, spells.gather_short ends (spells.length_lt _)]
  rfl

/-- The rest of a string that three marks end, before the end of the line. -/
theorem stringRest?_long {piece? : List Char → Option (Piece × List Char)} {mark : Char} {run : Nat}
    {text chars : List Char} (spells : Spells piece? mark 2 run text chars)
    (inside : ∀ tail, (∀ rest, tail ≠ mark :: mark :: rest) → piece? (mark :: tail) = some (⟨[mark], false⟩, tail))
    (ends : ∀ rest, piece? (mark :: mark :: mark :: rest) = some (multiEnd mark rest)) (visible : mark ≠ '\n')
    (rest : List Char) :
    stringRest? piece? (text ++ mark :: mark :: mark :: '\n' :: rest) = some (String.ofList chars, '\n' :: rest) := by
  -- As many steps are given as there are characters, and one more.
  rw [stringRest?, spells.gather_long inside ends (by simp [visible.symm]) (spells.length_lt _)]
  rfl

/-- A text without a mark in front does not look like two marks in a row before the end of a line. -/
theorem Spells.ne_pair {piece? : List Char → Option (Piece × List Char)} {mark : Char} {run : Nat}
    {text chars : List Char} (spells : Spells piece? mark 0 run text chars) (visible : mark ≠ '\n')
    (rest tail : List Char) : text ++ mark :: '\n' :: rest ≠ mark :: mark :: tail := by
  -- The text is empty, or begins with something else than the mark.
  cases spells with
  | done => simp [visible.symm]
  | mark inside => exact absurd inside (Nat.not_lt_zero _)
  | other _ differs => simp [differs]

/-- A single quote opens a string of one line. -/
theorem string?_quote {cs : List Char} (single : ∀ tail, cs ≠ '"' :: '"' :: tail) :
    string? ('"' :: cs) = stringRest? basicPiece? cs := by
  rw [string?]
  · rfl
  · -- Two quotes more would open a string of several lines.
    rintro rest ⟨⟩
    exact single rest rfl
  · rintro rest ⟨⟩

/-- A single apostrophe opens a string of one line. -/
theorem string?_apostrophe {cs : List Char} (single : ∀ tail, cs ≠ '\'' :: '\'' :: tail) :
    string? ('\'' :: cs) = stringRest? literalPiece? cs := by
  rw [string?]
  · rfl
  · rintro rest ⟨⟩
  · -- Two apostrophes more would open a string of several lines.
    rintro rest ⟨⟩
    exact single rest rfl

/-- Only a string of several lines begins on a line of its own, and that end of a line is not part of
it. -/
theorem skipLineEnd_opening {cs body : List Char} (starts : '\n' ∉ cs → ∀ c ∈ body.head?, c ≠ '\n' ∧ c ≠ '\r') :
    skipLineEnd ((if cs.contains '\n' then "\n" else "").toList ++ body) = body := by
  -- With an end of a line inside, one is written in front and skipped; otherwise none is, and none is skipped.
  by_cases broken : '\n' ∈ cs
  · simp [broken, skipLineEnd, lineEnd?]
  · match body, starts broken with
    | [], _ => simp [broken, skipLineEnd, lineEnd?]
    | c :: body, starts =>
      obtain ⟨feed, carriage⟩ := starts c rfl
      simp [broken, skipLineEnd, lineEnd?, feed, carriage]

/-- Where the end of a line may stand in a string, it is read as a line feed. -/
theorem chars_of_lineEnd {first : Char} {rest tail : List Char} {piece : Piece}
    (breaks : first = '\n' ∨ first = '\r')
    (reads : (match lineEnd? (first :: rest) with
      | some rest => some (⟨['\n'], false⟩, rest)
      | none => plain? first rest) = some (piece, tail)) :
    piece.chars = ['\n'] := by
  split at reads
  · cases reads
    rfl
  · -- Were it no end of a line, it could not stand as it is either.
    rcases breaks with rfl | rfl
    · simp [plain?, isPlain] at reads
    · simp [plain?, isPlain] at reads

/-- A text that spells no line feed begins with no end of a line. -/
theorem Spells.head_ne {piece? : List Char → Option (Piece × List Char)} {mark : Char} {limit run : Nat}
    {text chars : List Char} (spells : Spells piece? mark limit run text chars)
    (breaks : ∀ first rest, first = '\n' ∨ first = '\r' → piece? (first :: rest) =
      match lineEnd? (first :: rest) with
      | some rest => some (⟨['\n'], false⟩, rest)
      | none => plain? first rest)
    (inLine : '\n' ∉ chars) (visible : mark ≠ '\n' ∧ mark ≠ '\r') (tail : List Char) :
    ∀ c ∈ (text ++ mark :: tail).head?, c ≠ '\n' ∧ c ≠ '\r' := by
  -- Only a piece that is no mark could begin with a line end, and such a piece would spell one.
  cases spells with
  | done => simpa using visible
  | mark => simpa using visible
  | @other _ first c more text chars differs reads =>
    have apart : ¬(first = '\n' ∨ first = '\r') := by
      intro broken
      have spelled := chars_of_lineEnd broken ((breaks _ _ broken).symm.trans (reads []))
      simp_all
    simpa [not_or] using apart

/-- Whatever its form, a string that is written is read back, up to the end of its line. -/
theorem string?_renderString (text : String) (rest : List Char) :
    string? ((renderString text).toList ++ '\n' :: rest) = some (text, '\n' :: rest) := by
  have whole : String.ofList text.toList = text := String.ofList_toList
  rw [renderString]
  split
  -- Between quotes, on one line.
  case h_1 =>
    have spells := spells_basicText text.toList 0
    simp only [String.toList_append, String.toList_ofList, List.append_assoc]
    refine (string?_quote (spells.ne_pair (by decide) rest)).trans ?_
    rw [stringRest?_short spells (fun _ => rfl), whole]
  -- Between apostrophes, on one line.
  case h_2 form =>
    obtain ⟨control, mark, inLine⟩ := StringForm.of_eq_literal form
    have spells := spells_literal control mark inLine 0
    simp only [String.toList_append, List.append_assoc]
    refine (string?_apostrophe (spells.ne_pair (by decide) rest)).trans ?_
    rw [stringRest?_short spells (fun _ => rfl), whole]
  -- Between three quotes, on several lines.
  case h_3 =>
    have spells := spells_multiBasicText text.toList (Nat.zero_le 2)
    have body := skipLineEnd_opening fun inLine =>
      spells.head_ne (by rintro _ _ (rfl | rfl) <;> rfl) inLine (by decide) ('"' :: '"' :: '\n' :: rest)
    simp only [String.toList_append, String.toList_ofList, List.append_assoc]
    refine (congrArg (stringRest? multiBasicPiece?) body).trans ?_
    rw [stringRest?_long spells (fun _ => multiBasicPiece?_quote) (fun _ => rfl) (by decide), whole]
  -- Between three apostrophes, on several lines.
  case h_4 form =>
    obtain ⟨control, few⟩ := StringForm.of_eq_multiLiteral form
    have spells := spells_multiLiteral control few
    have body := skipLineEnd_opening fun inLine =>
      spells.head_ne (by rintro _ _ (rfl | rfl) <;> rfl) inLine (by decide) ('\'' :: '\'' :: '\n' :: rest)
    simp only [String.toList_append, List.append_assoc]
    refine (congrArg (stringRest? multiLiteralPiece?) body).trans ?_
    rw [stringRest?_long spells (fun _ => multiLiteralPiece?_apostrophe) (fun _ => rfl) (by decide), whole]

end Uplink.Toml
