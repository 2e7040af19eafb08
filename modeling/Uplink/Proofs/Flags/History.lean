import Uplink.Agenda
import Uplink.Flags.Register

/-! What a wait is to return and when, read off the history of its register alone. -/

namespace Uplink.Flags

/-- What happens to a register and to those who wait for it. -/
inductive Happening where
  | posted (mask : UInt32)
  | cleared
  /-- The wait of a task looks at the register for the first time. -/
  | called (task : TaskId) (condition : Condition) (timeout : Timeout)
  /-- A task has its turn and looks after its wait. -/
  | looked (task : TaskId)
  /-- The wait of a task is cancelled before it has returned. -/
  | cancelled (task : TaskId)
  /-- The clock comes to an instant. -/
  | passed (instant : Nat)
deriving Repr, DecidableEq

/-- What the clock shows and which bits are set. -/
structure Moment where
  now : Nat := 0
  bits : UInt32 := 0
deriving Repr, DecidableEq

namespace Moment

/-- The moment after a happening. -/
def after (moment : Moment) : Happening → Moment
  | .posted mask => { moment with bits := moment.bits ||| mask }
  | .cleared => { moment with bits := 0 }
  | .passed instant => { moment with now := instant }
  | .called .. | .looked _ | .cancelled _ => moment

/-- The moment after a history. -/
def afterAll (moment : Moment) (history : List Happening) : Moment :=
  history.foldl after moment

/-- The answer of a wait that is called now, if it does not park: the bits that meet its condition,
or none if it may only look. -/
def atOnce (moment : Moment) (condition : Condition) (timeout : Timeout) : Option (Nat × UInt32) :=
  match condition.matched moment.bits with
  | some bits => some (moment.now, bits)
  | none => if timeout = .noWait then some (moment.now, 0) else none

/-- The deadline of a wait that is called now; a span too large for the clock sets none. -/
def deadline (moment : Moment) : Timeout → Option Nat
  | .after span => if moment.now + span ≤ Agenda.horizon then some (moment.now + span) else none
  | .forever | .noWait => none

/-- The answer of a wait that is looked after, if its deadline has come. -/
def expiry (moment : Moment) (deadline : Option Nat) : Option (Nat × UInt32) :=
  (deadline.filter (· ≤ moment.now)).map fun instant => (instant, 0)

/-- The answer that a happening gives to the parked wait of a task: a post gives one if it meets the
condition, and a turn of the task if the deadline has come. -/
def granted (moment : Moment) (task : TaskId) (condition : Condition) (deadline : Option Nat) :
    Happening → Option (Nat × UInt32)
  | .posted mask => (condition.matched (moment.bits ||| mask)).map fun bits => (moment.now, bits)
  | .looked other => if other = task then moment.expiry deadline else none
  | .cleared | .called .. | .cancelled _ | .passed _ => none

end Moment

/-- The answer of the wait of a task that has parked: the first post that meets its condition, or the
first turn of its task once the deadline has come, whichever comes first. -/
def parkedAnswer (task : TaskId) (condition : Condition) (deadline : Option Nat) :
    Moment → List Happening → Option (Nat × UInt32)
  | _, [] => none
  | moment, happening :: later =>
    (moment.granted task condition deadline happening).or <|
      parkedAnswer task condition deadline (moment.after happening) later

/-- The answer of the wait of a task by what happens from a moment on. -/
def answerFrom (task : TaskId) : Moment → List Happening → Option (Nat × UInt32)
  | _, [] => none
  | moment, .called other condition timeout :: later =>
    if other = task then
      (moment.atOnce condition timeout).or <|
        parkedAnswer task condition (moment.deadline timeout) moment later
    else answerFrom task moment later
  | moment, happening :: later => answerFrom task (moment.after happening) later

/-- What the wait of a task returns, and when: its answer, unless it is cancelled before it has
returned. -/
def outcome (task : TaskId) (history : List Happening) : Option (Nat × UInt32) :=
  if .cancelled task ∈ history then none else answerFrom task {} history

/-! ### Histories that grow -/

/-- The moment at the end of a history that began with no bit set. -/
def momentOf (history : List Happening) : Moment :=
  ({} : Moment).afterAll history

/-- The moment at the end of a longer history. -/
@[simp] theorem momentOf_append (history : List Happening) (happening : Happening) :
    momentOf (history ++ [happening]) = (momentOf history).after happening := by
  -- The moment is a fold over the history, and this is its last step.
  simp [momentOf, Moment.afterAll]

/-- A parked wait keeps the answer it has, and otherwise gets one from what happens next. -/
theorem parkedAnswer_append (task : TaskId) (condition : Condition) (deadline : Option Nat)
    (moment : Moment) (later : List Happening) (happening : Happening) :
    parkedAnswer task condition deadline moment (later ++ [happening]) =
      (parkedAnswer task condition deadline moment later).or
        ((moment.afterAll later).granted task condition deadline happening) := by
  -- Induction on what has happened since the wait has parked, from every moment.
  induction later generalizing moment with
  | nil => simp [parkedAnswer, Moment.afterAll]
  | cons first rest ih =>
    have shifted : moment.afterAll (first :: rest) = (moment.after first).afterAll rest := rfl
    simp only [List.cons_append, parkedAnswer, ih, shifted, Option.or_assoc]

/-- The wait of a task has not been called. -/
def Uncalled (task : TaskId) (history : List Happening) : Prop :=
  ∀ condition timeout, .called task condition timeout ∉ history

/-- The wait of a task was called and has parked. -/
def Parked (task : TaskId) (condition : Condition) (deadline : Option Nat)
    (history : List Happening) : Prop :=
  ∃ before timeout later,
    history = before ++ .called task condition timeout :: later ∧ Uncalled task before ∧
      (momentOf before).atOnce condition timeout = none ∧
      deadline = (momentOf before).deadline timeout

variable {task : TaskId} {condition : Condition} {deadline : Option Nat} {history : List Happening}
  {happening : Happening}

/-- What happens before the call of a wait only changes the moment of the call. -/
theorem Uncalled.answerFrom_append (uncalled : Uncalled task history) (moment : Moment)
    (rest : List Happening) :
    answerFrom task moment (history ++ rest) = answerFrom task (moment.afterAll history) rest := by
  -- Induction on the happenings before the call; each of them is passed over.
  induction history generalizing moment with
  | nil => rfl
  | cons first later ih =>
    have tail : Uncalled task later := fun condition timeout member =>
      uncalled condition timeout (List.mem_cons_of_mem _ member)
    cases first with
    | called other condition timeout =>
      have apart : other ≠ task := by
        intro same
        subst same
        exact uncalled condition timeout List.mem_cons_self
      rw [List.cons_append, answerFrom, if_neg apart]
      exact ih tail moment
    | _ => exact ih tail _

/-- A wait that was not called has no answer. -/
theorem Uncalled.answerFrom_eq_none (uncalled : Uncalled task history) (moment : Moment) :
    answerFrom task moment history = none := by
  -- The answer is that of nothing more, which `answerFrom_append` leaves over.
  simpa [answerFrom] using uncalled.answerFrom_append moment []

/-- A wait stays uncalled as long as nothing that happens is its call. -/
theorem Uncalled.append (uncalled : Uncalled task history)
    (apart : ∀ condition timeout, happening ≠ .called task condition timeout) :
    Uncalled task (history ++ [happening]) := by
  intro condition timeout member
  -- A call in the longer history is an earlier one or the last happening.
  rcases List.mem_append.mp member with earlier | last
  · exact uncalled condition timeout earlier
  · exact apart condition timeout (List.mem_singleton.mp last).symm

/-- A wait that was called was called in every longer history. -/
theorem not_uncalled_append (called : ¬ Uncalled task history) (happening : Happening) :
    ¬ Uncalled task (history ++ [happening]) := fun uncalled =>
  -- An uncalled wait would be uncalled in the shorter history as well.
  called fun condition timeout member => uncalled condition timeout (by simp [member])

/-- What happens after the answer of a wait takes nothing back. -/
theorem answerFrom_append_of_some {answer : Nat × UInt32} {moment : Moment}
    (answered : answerFrom task moment history = some answer) (happening : Happening) :
    answerFrom task moment (history ++ [happening]) = some answer := by
  -- Induction on the history up to the call of the wait; what follows it is the matter of a parked
  -- wait.
  induction history generalizing moment with
  | nil => simp [answerFrom] at answered
  | cons first later ih =>
    cases first with
    | called other condition timeout =>
      rw [List.cons_append, answerFrom]
      rw [answerFrom] at answered
      split
      · -- From the call on, the wait has parked or was answered at once.
        rename_i same
        rw [if_pos same] at answered
        rw [parkedAnswer_append, ← Option.or_assoc, answered, Option.some_or]
      · rename_i apart
        rw [if_neg apart] at answered
        exact ih answered
    | _ => exact ih answered

/-- A wait that is called now has the answer that it gets at once, if any. -/
theorem Uncalled.answerFrom_called (uncalled : Uncalled task history) (condition : Condition)
    (timeout : Timeout) :
    answerFrom task {} (history ++ [.called task condition timeout]) =
      (momentOf history).atOnce condition timeout := by
  -- All that comes before the call makes up the moment of the call.
  rw [uncalled.answerFrom_append]
  simp [answerFrom, parkedAnswer, momentOf]

/-- A wait that is called now and not answered at once has parked. -/
theorem Uncalled.parked (uncalled : Uncalled task history) {timeout : Timeout}
    (parks : (momentOf history).atOnce condition timeout = none) :
    Parked task condition ((momentOf history).deadline timeout)
      (history ++ [.called task condition timeout]) :=
  -- The call is the last happening, so nothing comes after it.
  ⟨history, timeout, [], rfl, uncalled, parks, rfl⟩

/-- A wait that has parked was called. -/
theorem Parked.not_uncalled (parked : Parked task condition deadline history) :
    ¬ Uncalled task history := by
  -- The call stands in the history between what was before and what came later.
  obtain ⟨before, timeout, later, rfl, -⟩ := parked
  intro uncalled
  exact uncalled condition timeout (by simp)

/-- A wait stays parked in every longer history. -/
theorem Parked.append (parked : Parked task condition deadline history) (happening : Happening) :
    Parked task condition deadline (history ++ [happening]) := by
  -- The moment of the call is the same; only what came later is longer.
  obtain ⟨before, timeout, later, rfl, uncalled, parks, due⟩ := parked
  exact ⟨before, timeout, later ++ [happening], by simp, uncalled, parks, due⟩

/-- A parked wait keeps the answer it has, and otherwise gets one from the latest happening. -/
theorem Parked.answerFrom_append (parked : Parked task condition deadline history)
    (happening : Happening) :
    answerFrom task {} (history ++ [happening]) =
      (answerFrom task {} history).or
        ((momentOf history).granted task condition deadline happening) := by
  -- The history is split at the call, and what has happened since is what the parked wait sees.
  obtain ⟨before, timeout, later, rfl, uncalled, parks, rfl⟩ := parked
  have moment : momentOf (before ++ .called task condition timeout :: later) =
      (momentOf before).afterAll later := by
    simp [momentOf, Moment.afterAll, Moment.after]
  rw [List.append_assoc, uncalled.answerFrom_append, uncalled.answerFrom_append, moment]
  change answerFrom task (momentOf before) _ = (answerFrom task (momentOf before) _).or _
  simp [answerFrom, parks, parkedAnswer_append]

end Uplink.Flags
