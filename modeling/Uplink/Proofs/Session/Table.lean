import Uplink.Proofs.Session.Program

/-! The phase of a session keeps to the table of the phases, whatever happens and whatever the modem and the
transport say. -/

namespace Uplink.Session

variable {setting : Setting} {first last : Session}

/-- On every path from a fresh session the phase follows the table, and no event is a stray one. -/
theorem Fresh.trail (fresh : first.Fresh) (unpublished : first.supervisor.changes = [])
    (path : Path setting first last) :
    last.connection.strays = first.connection.strays ∧
      Trail last.supervisor.phase last.supervisor.history last.supervisor.changes := by
  -- Induction on the path; each thing that happens adds what the supervisor does at one instant.
  induction path with
  | refl =>
    rw [fresh.phase, fresh.history, unpublished]
    exact ⟨rfl, .opening⟩
  | tail earlier next ih =>
    obtain ⟨quiet, trail⟩ := ih
    obtain ⟨now, deeds, did⟩ := ((Reached.fresh fresh).path earlier).did next
    exact ⟨did.strays.trans quiet, did.trail trail⟩

/-- With one run of the supervisor on a fresh session no event is ever one that the phase does not have. What is
published is a path through the table from the first phase to the present one, each change is published and
counted once, and once the network was waited for no phase is one of the setup or of its failure. -/
theorem Fresh.phase_keeps_to_table (fresh : first.Fresh) (unpublished : first.supervisor.changes = [])
    (path : Path setting first last) :
    let supervisor := last.supervisor
    last.connection.strays = first.connection.strays ∧
    Phase.init.follow? (supervisor.history.map Prod.snd) = some supervisor.phase ∧
    Trail supervisor.phase supervisor.history supervisor.changes ∧
    last.connection.telemetry.metrics.phaseTransitions = .ofNat supervisor.changes.length ∧
    last.connection.telemetry.metrics.phase = supervisor.phase.name ∧
    (supervisor.changes.Pairwise fun later earlier =>
      earlier.target = .waitNetwork → later.target.isSetup = false ∧ later.target ≠ .halted) ∧
    (∀ change ∈ supervisor.changes, change.target = .waitNetwork →
      supervisor.phase.isSetup = false ∧ supervisor.phase ≠ .halted) := by
  intro supervisor
  obtain ⟨quiet, trail⟩ := fresh.trail unpublished path
  have balances := ((Reached.fresh fresh).path path).balances
  -- The counter goes by the events that led to another phase, and so does the list of the changes.
  have counted : last.connection.telemetry.metrics.phaseTransitions = .ofNat supervisor.changes.length := by
    rw [trail.length_changes]
    exact balances.booked.named.transitions
  obtain ⟨ahead, since⟩ := trail.setup_over
  refine ⟨quiet, trail.follows, trail, counted, balances.booked.named.name, ?_, ?_⟩
  · exact ahead.imp fun inside waits => Phase.running_of_cycle (inside waits)
  · exact fun change member waits => Phase.running_of_cycle (since change member waits)

/-- A session that has become ready was waiting for the network once, and has left the setup for good. -/
theorem ready_session_left_setup :
    ∃ first last : Session, first.Fresh ∧ Path ⟨false, false⟩ first last ∧
      last.connection.strays = 0 ∧ last.supervisor.phase = .waitDisconnect ∧
      last.connection.telemetry.metrics.phaseTransitions = 8 ∧
      (∃ change ∈ last.supervisor.changes, change.target = .waitNetwork) ∧
      last.supervisor.phase.isSetup = false := by
  -- Fifteen turns make the first session ready.
  have fresh := fresh_ofConfig (.ofAppVersion "1.0.0") 0
  have idle : (ofConfig (.ofAppVersion "1.0.0") 0).runTask = none := rfl
  have path := (Relation.ReflTransGen.refl.tail (.start idle)).trans (Path.settle ⟨false, false⟩ 15 _)
  obtain ⟨quiet, -, -, counted, -, -, left⟩ := fresh.phase_keeps_to_table rfl path
  have waited : ∃ change ∈ (Timed.settle 15 ((ofConfig (.ofAppVersion "1.0.0") 0).act .start).2).supervisor.changes,
      change.target = .waitNetwork := by decide +kernel
  obtain ⟨change, member, waits⟩ := waited
  exact ⟨_, _, fresh, path, quiet, rfl, counted, ⟨change, member, waits⟩, (left change member waits).1⟩

end Uplink.Session
