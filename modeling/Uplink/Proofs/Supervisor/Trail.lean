import Uplink.Proofs.Supervisor.Bookkeeping

/-! What is published of the phase: a path through the table of the phases. -/

namespace Uplink

/-- The phase that these deeds lead to, the latest of them first, if each event is one that the phase before it
has. -/
def Phase.follow? (phase : Phase) : List Deed → Option Phase
  | [] => some phase
  | .asked _ :: earlier => phase.follow? earlier
  | .moved event :: earlier => (phase.follow? earlier).bind (·.next? event)

/-- What is published of the phase, the latest first: from the first phase on every event is one that the phase
has, and a change is noted for every event that leads to another phase, once. -/
inductive Trail : Phase → List (Nat × Deed) → List PhaseChange → Prop where
  | opening : Trail .init [] []
  | asked {phase : Phase} {history : List (Nat × Deed)} {changes : List PhaseChange}
      (trail : Trail phase history changes) (now : Nat) (request : Request) :
      Trail phase ((now, .asked request) :: history) changes
  | moved {phase next : Phase} {event : PhaseEvent} {history : List (Nat × Deed)} {changes : List PhaseChange}
      (trail : Trail phase history changes) (leads : phase.next? event = some next) (other : next ≠ phase)
      (now : Nat) : Trail next ((now, .moved event) :: history) (⟨now, phase, next, event⟩ :: changes)
  | stayed {phase : Phase} {event : PhaseEvent} {history : List (Nat × Deed)} {changes : List PhaseChange}
      (trail : Trail phase history changes) (leads : phase.next? event = some phase) (now : Nat) :
      Trail phase ((now, .moved event) :: history) changes

/-! ### What a trail tells -/

variable {phase next : Phase} {event : PhaseEvent} {history : List (Nat × Deed)} {changes : List PhaseChange}

/-- The phases of a cycle lead to each other alone. -/
theorem Phase.cycle_of_leads (leads : phase.next? event = some next) (inside : phase ∈ Phase.cycle) :
    next ∈ Phase.cycle := by
  -- The table has one row for each phase with each of its events.
  cases phase <;> cases event <;> cases leads <;> revert inside <;> decide

/-- A phase of a cycle belongs to no setup, and not to its failure either. -/
theorem Phase.running_of_cycle (inside : phase ∈ Phase.cycle) : phase.isSetup = false ∧ phase ≠ .halted := by
  -- One case for each phase.
  cases phase <;> revert inside <;> decide

namespace Trail

/-- The deeds lead from the first phase to the present one. -/
theorem follows (trail : Trail phase history changes) :
    Phase.init.follow? (history.map Prod.snd) = some phase := by
  -- Induction on the deeds; each event was one that the phase had.
  induction trail with
  | opening => rfl
  | asked trail now request ih => exact ih
  | moved trail leads other now ih => simpa [Phase.follow?, ih] using leads
  | stayed trail leads now ih => simpa [Phase.follow?, ih] using leads

/-- The changes are as many as the events that led to another phase. -/
theorem length_changes (trail : Trail phase history changes) :
    changes.length = (history.filterMap fun
      | (_, .moved event) => some event
      | (_, .asked _) => none).countP (· ≠ .connectTimedOut) := by
  -- Induction on the deeds; one event alone leads back.
  induction trail with
  | opening => rfl
  | asked trail now request ih => exact ih
  | @moved phase next event history changes trail leads other now ih =>
    have onward : event ≠ .connectTimedOut := by
      rintro rfl
      exact other (by cases phase <;> cases leads; rfl)
    simp [ih, onward]
  | @stayed phase event history changes trail leads now ih =>
    have back : event = .connectTimedOut := (Phase.name_eq_iff leads).mp rfl
    simp [ih, back]

/-- Once the network was waited for, every later phase is one of a cycle. -/
theorem setup_over (trail : Trail phase history changes) :
    (changes.Pairwise fun later earlier => earlier.target = .waitNetwork → later.target ∈ Phase.cycle) ∧
      (∀ change ∈ changes, change.target = .waitNetwork → phase ∈ Phase.cycle) := by
  -- Induction on the deeds; from a phase of a cycle an event leads to another one of them.
  induction trail with
  | opening => exact ⟨.nil, List.forall_mem_nil _⟩
  | asked trail now request ih => exact ih
  | @moved phase next event history changes trail leads other now ih =>
    have inside : ∀ change ∈ changes, change.target = .waitNetwork → next ∈ Phase.cycle :=
      fun change member waits => Phase.cycle_of_leads leads (ih.2 change member waits)
    refine ⟨ih.1.cons inside, fun change member waits => ?_⟩
    rcases List.mem_cons.mp member with rfl | earlier
    · obtain rfl : next = .waitNetwork := waits
      decide
    · exact inside change earlier waits
  | stayed trail leads now ih => exact ih

end Trail

end Uplink
