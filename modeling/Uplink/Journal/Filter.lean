import Uplink.Journal

/-!
Which entries of the journal are written.

A filter is a list of rules between commas. A rule is a level for everything, a target for everything
about it, or both with an equals sign between them. It concerns the targets whose names begin with
its own, and of the rules that concern a target the one with the longest name counts.
-/

namespace Uplink

/-- How much is written about the targets whose names begin with a text. -/
structure FilterRule where
  target : String := ""
  verbosity : Nat
deriving Repr, DecidableEq

/-- The rules of a filter. Of two rules with one target the later one counts. -/
structure Filter where
  rules : List FilterRule
deriving Repr, DecidableEq

/-- How much is written at a level of the settings, which may be a number too. -/
def verbosityOf? (text : String) : Option Nat :=
  match text.toLower with
  | "off" | "0" => some 0
  | "error" | "1" => some 1
  | "warn" | "2" => some 2
  | "info" | "3" => some 3
  | "debug" | "4" => some 4
  | "trace" | "5" => some 5
  | _ => none

namespace FilterRule

/-- Whether a text can be the name of a target. -/
def isTarget (cs : List Char) : Bool :=
  !cs.isEmpty && cs.all fun c => c.isAlphanum || c = '_' || c = ':' || c = '-'

/-- Everything about the targets whose names begin with a text. -/
def everything? (target : List Char) : Option FilterRule :=
  if isTarget target then some ⟨String.ofList target, Level.trace.verbosity⟩ else none

/-- The rule that a text spells. -/
def ofText? (text : String) : Option FilterRule :=
  let cs := text.toList
  let target := cs.takeWhile (· ≠ '=')
  match verbosityOf? text, cs.dropWhile (· ≠ '=') with
  | some verbosity, _ => some { verbosity }
  | none, '=' :: c :: rest => do
    return { ← everything? target with verbosity := ← verbosityOf? (String.ofList (c :: rest)) }
  | none, _ => everything? target

end FilterRule

namespace Filter

/-- Everything that is as grave as a level. -/
def ofLevel (level : Level) : Filter :=
  ⟨[{ verbosity := level.verbosity }]⟩

/-- The texts of the rules between the commas. -/
def ruleTexts (text : String) : List String :=
  (text.splitOn ",").filter (· ≠ "")

/-- The filter that a text spells. What is no rule is passed over, and without any rule only errors
are written. -/
def ofText (text : String) : Filter :=
  match (ruleTexts text).filterMap FilterRule.ofText? with
  | [] => ofLevel .error
  | rules => ⟨rules⟩

/-- The parts of a text that are no rules. -/
def strangers (text : String) : List String :=
  (ruleTexts text).filter fun part => (FilterRule.ofText? part).isNone

/-- The rule that counts for a target. -/
def rule? (filter : Filter) (target : String) : Option FilterRule :=
  (filter.rules.filter fun rule => target.startsWith rule.target).foldl (fun best rule =>
    match best with
    | none => some rule
    -- Of two names of one length the later one counts.
    | some other => if rule.target.length < other.target.length then some other else some rule) none

/-- Whether entries of a level about a target are written. -/
def permits (filter : Filter) (target : String) (level : Level) : Bool :=
  (filter.rule? target).any fun rule => level.verbosity ≤ rule.verbosity

end Filter

end Uplink
