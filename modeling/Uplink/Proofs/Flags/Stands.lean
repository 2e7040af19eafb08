import Uplink.Proofs.Flags.History
import Uplink.Proofs.Flags.Register
import Uplink.Flags.Waits

/-! Where a wait that has not ended stands: its place on the register and in line agree with the history. -/

namespace Uplink.Flags

/-- The wait has parked under a ticket. -/
def BackgroundWait.Holds (wait : BackgroundWait) (ticket : Ticket) : Prop :=
  ∃ deadline, wait.stage = .waiting (.parked ticket deadline)

/-- What happens neither moves the clock, nor raises bits, nor is about the wait of the task. -/
def Happening.Spares (task : TaskId) : Happening → Prop
  | .posted _ | .passed _ => False
  | .cleared => True
  | .called other _ _ | .looked other | .cancelled other => other ≠ task

/-- What spares the wait of a task does not answer it. -/
theorem Happening.Spares.granted_eq_none {task : TaskId} {happening : Happening}
    (spares : happening.Spares task) (moment : Moment) (condition : Condition) (deadline : Option Nat) :
    moment.granted task condition deadline happening = none := by
  -- Only posts and the turns of the task itself answer a parked wait.
  cases happening with
  | posted mask | passed instant => exact spares.elim
  | looked other => exact if_neg spares
  | cleared | called other condition timeout | cancelled other => rfl

/-- Where the wait of a task stands between turns: whoever has an answer to return stands in line, and
so does whoever has to look at a deadline that has come. -/
inductive Stands (history : List Happening) (agenda : Agenda) (register : Register) (task : TaskId) :
    BackgroundWait → Prop where
  /-- Its task has not run yet. -/
  | uncalled (condition : Condition) (timeout : Timeout) (uncalled : Uncalled task history)
      (kept : .cancelled task ∉ history) (ready : task ∈ agenda.ready) :
      Stands history agenda register task { label := task, stage := .called condition timeout }
  /-- It was answered as soon as it was called. -/
  | answered (bits : UInt32) (called : ¬ Uncalled task history) (kept : .cancelled task ∉ history)
      (ready : task ∈ agenda.ready) (answered : answerFrom task {} history = some (agenda.now, bits)) :
      Stands history agenda register task { label := task, stage := .waiting (.answered bits) }
  /-- It waits, and nothing has answered it. Its deadline is no earlier than this instant. -/
  | listed (condition : Condition) (ticket : Ticket) (deadline : Option Nat)
      (parked : Parked task condition deadline history) (kept : .cancelled task ∉ history)
      (lists : register.Lists ticket task condition)
      (prompt : agenda.reached deadline = true → task ∈ agenda.ready)
      (inTime : ∀ due, deadline = some due → agenda.now ≤ due)
      (unanswered : answerFrom task {} history = none) :
      Stands history agenda register task
        { label := task, stage := .waiting (.parked ticket deadline) }
  /-- A post has handed it bits at this instant. -/
  | handed (ticket : Ticket) (deadline : Option Nat) (bits : UInt32)
      (called : ¬ Uncalled task history) (kept : .cancelled task ∉ history)
      (hands : register.Hands ticket bits) (ready : task ∈ agenda.ready)
      (answered : answerFrom task {} history = some (agenda.now, bits)) :
      Stands history agenda register task
        { label := task, stage := .waiting (.parked ticket deadline) }
  /-- It was cancelled and is to go. -/
  | cancelled (stage : WaitStage) (given : .cancelled task ∈ history) (ready : task ∈ agenda.ready) :
      Stands history agenda register task { label := task, stage, cancelled := true }

namespace Stands

variable {history : List Happening} {agenda agenda' : Agenda} {register register' : Register}
  {task : TaskId} {wait : BackgroundWait} {instant : Nat}

/-- A wait goes by the name of its task. -/
theorem label_eq (stands : Stands history agenda register task wait) : wait.label = task := by
  -- Each of the ways to stand names the wait by its task.
  cases stands <;> rfl

/-- A wait that is not in line has parked, and waits for something that has not come. -/
theorem parked_of_not_ready (stands : Stands history agenda register task wait)
    (idle : task ∉ agenda.ready) :
    ∃ condition, Parked task condition wait.deadline? history ∧
      (∀ due, wait.deadline? = some due → agenda.now < due) ∧ outcome task history = none := by
  -- Of all places only the one in the list lets a task sleep, and there no deadline has come.
  cases stands with
  | listed condition ticket deadline parked kept lists prompt inTime unanswered =>
    refine ⟨condition, parked, ?_, by simp [outcome, unanswered]⟩
    intro due (same : deadline = some due)
    subst same
    have early : ¬ agenda.reached (some due) = true := fun come => idle (prompt come)
    simpa [Agenda.reached] using early
  | uncalled | answered | handed | cancelled => contradiction

/-- A wait stands where it stood as long as its entry on the register and its place in line are
left alone. -/
theorem frame (stands : Stands history agenda register task wait) (now : agenda'.now = agenda.now)
    (ready : task ∈ agenda.ready → task ∈ agenda'.ready)
    (lists : ∀ ticket condition, wait.Holds ticket → register.Lists ticket task condition →
      register'.Lists ticket task condition)
    (hands : ∀ ticket bits, wait.Holds ticket → register.Hands ticket bits →
      register'.Hands ticket bits) :
    Stands history agenda' register' task wait := by
  -- Each place asks for one thing on the register or in line, and that was left alone.
  cases stands with
  | uncalled condition timeout uncalled kept waits =>
    exact .uncalled condition timeout uncalled kept (ready waits)
  | answered bits called kept waits answered =>
    exact .answered bits called kept (ready waits) (now ▸ answered)
  | listed condition ticket deadline parked kept stood prompt inTime unanswered =>
    have still := lists ticket condition ⟨deadline, rfl⟩ stood
    refine .listed condition ticket deadline parked kept still ?_ (now ▸ inTime) unanswered
    intro come
    exact ready (prompt ((Agenda.reached_congr now deadline).symm.trans come))
  | handed ticket deadline bits called kept given waits answered =>
    have still := hands ticket bits ⟨deadline, rfl⟩ given
    exact .handed ticket deadline bits called kept still (ready waits) (now ▸ answered)
  | cancelled stage given waits => exact .cancelled stage given (ready waits)

/-- What happens to others leaves a wait where it stands. -/
theorem append (stands : Stands history agenda register task wait) (happening : Happening)
    (spares : happening.Spares task) : Stands (history ++ [happening]) agenda register task wait := by
  -- Such a happening is neither the call nor the end of this wait, and answers nobody.
  have notCall : ∀ condition timeout, happening ≠ .called task condition timeout := by
    intro condition timeout same
    subst same
    exact spares rfl
  have keeps : .cancelled task ∉ history → .cancelled task ∉ history ++ [happening] := by
    intro kept member
    rcases List.mem_append.mp member with earlier | last
    · exact kept earlier
    · obtain rfl := List.mem_singleton.mp last
      exact spares rfl
  -- Each way to stand is one in the longer history too.
  cases stands with
  | uncalled condition timeout uncalled kept ready =>
    exact .uncalled condition timeout (uncalled.append notCall) (keeps kept) ready
  | answered bits called kept ready answered =>
    exact .answered bits (not_uncalled_append called _) (keeps kept) ready
      (answerFrom_append_of_some answered happening)
  -- Only this one has no answer yet, and the happening brings none.
  | listed condition ticket deadline parked kept lists prompt inTime unanswered =>
    refine .listed condition ticket deadline (parked.append _) (keeps kept) lists prompt inTime ?_
    rw [parked.answerFrom_append, unanswered, spares.granted_eq_none, Option.or_none]
  | handed ticket deadline bits called kept hands ready answered =>
    exact .handed ticket deadline bits (not_uncalled_append called _) (keeps kept) hands ready
      (answerFrom_append_of_some answered happening)
  | cancelled stage given ready => exact .cancelled stage (by simp [given]) ready

/-- A post hands its bits to a wait whose condition it meets, and passes every other wait by. -/
theorem post (stands : Stands history agenda register task wait)
    (clock : (momentOf history).now = agenda.now) (shown : (momentOf history).bits = register.bits)
    (mask : UInt32) :
    Stands (history ++ [.posted mask]) (agenda.wakeAll (register.post mask).2) (register.post mask).1
      task wait := by
  -- A post gives an answer to nobody but a wait in the list.
  have keeps : .cancelled task ∉ history → .cancelled task ∉ history ++ [.posted mask] := by
    simp
  have waits : task ∈ agenda.ready → task ∈ (agenda.wakeAll (register.post mask).2).ready := by
    simp +contextual
  cases stands with
  | uncalled condition timeout uncalled kept ready =>
    exact .uncalled condition timeout (uncalled.append (by simp)) (keeps kept) (waits ready)
  | answered bits called kept ready answered =>
    refine .answered bits (not_uncalled_append called _) (keeps kept) (waits ready) ?_
    simpa using answerFrom_append_of_some answered (.posted mask)
  | listed condition ticket deadline parked kept lists prompt inTime unanswered =>
    -- Whether the post answers the wait is a matter of its condition alone: a deadline that has come
    -- counts for nothing as long as the task has not had its turn.
    have answer := parked.answerFrom_append (.posted mask)
    rw [unanswered, Option.none_or, Moment.granted, shown, clock] at answer
    cases met : condition.matched (register.bits ||| mask) with
    | none =>
      refine .listed condition ticket deadline (parked.append _) (keeps kept) (lists.post_unmet met)
        ?_ (by simpa using inTime) (by rw [answer, met, Option.map_none])
      intro come
      exact waits (prompt (by simpa using come))
    | some bits =>
      -- The post answers the wait, and its task is woken at this instant.
      obtain ⟨hands, woken⟩ := lists.post_met met
      refine .handed ticket deadline bits (parked.append _).not_uncalled (keeps kept) hands
        (by simp [woken]) ?_
      simp [answer, met]
  | handed ticket deadline bits called kept hands ready answered =>
    refine .handed ticket deadline bits (not_uncalled_append called _) (keeps kept) (hands.post mask) (waits ready) ?_
    simpa using answerFrom_append_of_some answered (.posted mask)
  | cancelled stage given ready => exact .cancelled stage (by simp [given]) (waits ready)

/-- When the clock moves while no task can run, and past no deadline, a wait goes on, and its task is
woken if the deadline has come. -/
theorem strike (stands : Stands history agenda register task wait) (quiet : agenda.ready = [])
    (now : agenda'.now = instant)
    (next : ∀ due, wait.deadline? = some due → agenda.now < due → instant ≤ due)
    (woken : agenda'.reached wait.deadline? = true → task ∈ agenda'.ready) :
    Stands (history ++ [.passed instant]) agenda' register task wait := by
  -- Everyone else would stand in line, and so would a wait whose deadline was this instant already.
  have idle : task ∉ agenda.ready := by
    simp [quiet]
  obtain ⟨-, -, ahead, -⟩ := stands.parked_of_not_ready idle
  cases stands with
  | listed condition ticket deadline parked kept lists prompt inTime unanswered =>
    refine .listed condition ticket deadline (parked.append _) (by simpa using kept) lists woken ?_ ?_
    · intro due same
      rw [now]
      exact next due same (ahead due same)
    · -- Time alone answers nobody.
      rw [parked.answerFrom_append, unanswered]
      rfl
  | uncalled | answered | handed | cancelled => contradiction

end Stands

end Uplink.Flags
