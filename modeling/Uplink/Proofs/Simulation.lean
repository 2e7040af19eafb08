import Uplink.Proofs.Session.Service
import Uplink.Simulation

/-! The end of a simulation: after a signal nothing holds it up but a message for which there is no connection. -/

namespace Uplink

open Flags (Register Ticket)
open Queue (Outgoing)

namespace Timed

variable {σ : Type} [Timed σ] {arrived : σ → Bool}

/-- Within so many turns and strikes the system comes to a standstill without having been where it was to go. -/
def stalls (arrived : σ → Bool) : Nat → σ → Bool
  | 0, _ => false
  | turns + 1, state =>
    !arrived state &&
      match turn? state with
      | some next => stalls arrived turns next
      | none =>
        match nextDue? state with
        | some instant => stalls arrived turns (strike instant state)
        | none => true

/-- A system that comes to a standstill gets nowhere however long its time passes. -/
theorem runTo_of_stalls (still : ∀ state instant, arrived (strike instant state) = arrived state) {turns : Nat}
    {state : σ} (stalled : stalls arrived turns state = true) (limit patience : Nat) :
    arrived (runTo arrived limit patience state) = false := by
  -- Induction on the turns until the standstill, with as much patience as is left.
  induction turns generalizing state patience with
  | zero => cases stalled
  | succ turns ih =>
    simp only [stalls, Bool.and_eq_true, Bool.not_eq_true'] at stalled
    obtain ⟨away, onward⟩ := stalled
    cases patience with
    -- Without patience left it is where it is.
    | zero => exact away
    | succ patience =>
      simp only [runTo, away, Bool.false_eq_true, if_false]
      split
      · rename_i next turned
        rw [turned] at onward
        exact ih onward patience
      · -- Nobody can run, so the clock goes to the next deadline or to the limit.
        rename_i quiet
        rw [quiet] at onward
        split
        · rename_i instant due
          rw [due] at onward
          split
          · exact ih onward patience
          · exact (still state limit).trans away
        · exact (still state limit).trans away

end Timed

namespace Simulation

variable {simulation : Simulation} {running : Running} {signal : Signal}

/-- The session of a simulation once its supervisor and its dispatcher were started. -/
abbrev started (simulation : Simulation) : Session :=
  simulation.session.start.startDispatcher

/-- The supervisor is started first, then the dispatcher. -/
theorem tasks_started (simulation : Simulation) :
    simulation.started.tasks = [(0, ⟨.supervise {}, false⟩), (1, ⟨.dispatch .starting, false⟩)] :=
  -- The two tasks are evaluated.
  rfl

/-- The dispatcher has everything before it. -/
theorem courier_started (simulation : Simulation) : simulation.started.courier = some .starting :=
  -- The place is evaluated.
  rfl

/-- The supervisor, which has only been started, waits for nothing yet. -/
theorem not_heldBeside_started (simulation : Simulation) (name : RegisterName) (ticket : Ticket) :
    ¬simulation.started.HeldBeside (· = 1) name ticket := by
  -- Of the two tasks one holds nothing, and the other is the dispatcher.
  rintro ⟨entry, member, other, has⟩
  rw [tasks_started] at member
  rcases List.mem_pair.mp member with rfl | rfl
  · exact has
  · exact other rfl

/-- A dispatcher that has just been started is in order. -/
theorem sound_started (simulation : Simulation) : (simulation.started.dispatching 1).Sound := by
  constructor
  case ordered =>
    intro name
    cases name <;> exact Register.orderly_new _
  case alone => exact Outgoing.alone_ofCapacity _ _ 1
  case stands =>
    -- It neither may receive yet nor stands in line for that.
    constructor
    · intro stood
      cases stood
    · intro queued
      cases queued
  -- It has not begun, so nothing is expected of it.
  case attends =>
    intro dispatcher there
    obtain rfl := Option.some.inj there
    exact .inl rfl
  case final =>
    intro gone
    cases gone

/-- The started dispatcher stands beside the supervisor alone, which queues nothing. -/
theorem serves_started (simulation : Simulation) : simulation.started.Serves 1 false := by
  have free := not_heldBeside_started simulation
  -- Two tasks are started, the supervisor and the dispatcher, and neither has begun to wait.
  constructor
  case named => rfl
  case below => exact Nat.lt_succ_self 1
  case numbered =>
    intro entry member
    rw [tasks_started] at member
    rcases List.mem_pair.mp member with rfl | rfl
    · exact Nat.zero_lt_two
    · exact Nat.one_lt_two
  case others =>
    intro entry member other
    rw [tasks_started] at member
    rcases List.mem_pair.mp member with rfl | rfl
    · trivial
    · exact absurd rfl other
  case runner =>
    intro entry member mine
    rw [tasks_started] at member
    rcases List.mem_pair.mp member with rfl | rfl
    · cases mine
    · exact ⟨.starting, rfl⟩
  case issued => exact fun name ticket held => absurd held (free name ticket)
  case apart => exact fun name ticket held => absurd held (free name ticket)
  -- The system of the queue and the dispatcher was looked at by itself.
  case sound => exact sound_started simulation
  case endless =>
    intro dispatcher there
    obtain rfl := Option.some.inj ((courier_started simulation).symm.trans there)
    trivial
  case ended => exact fun gone => by cases (courier_started simulation).symm.trans gone
  case closed => exact fun shut => by cases shut

/-- The dispatcher of a simulation is at its work once it was started. -/
theorem engaged_started (simulation : Simulation) : simulation.started.Engaged 1 false where
  -- It is not called yet, and it has not looked for a message.
  serves := serves_started simulation
  nobody := rfl
  looks checks := by cases (courier_started simulation).symm.trans checks

/-- The dispatcher of a simulation is at its work from the beginning. -/
theorem engaged_begin (simulation : Simulation) : simulation.begin.session.Engaged 1 false := by
  have sampled : (simulation.started.spawn (.sample (interval simulation.sampleEvery) .arriving)).2.Engaged 1 false :=
    (engaged_started simulation).spawn trivial fun _ _ => id
  -- The link is lost on purpose only where that was asked for.
  unfold begin
  simp only
  split
  · exact sampled
  · exact sampled.spawn trivial fun _ _ => id

/-- The tasks that a signal stops are others than the dispatcher's. -/
theorem ne_of_mem_drivers {driver : TaskId} (member : driver ∈ simulation.begin.drivers) : driver ≠ 1 := by
  -- The names of the tasks are given out in order, and these come behind the dispatcher's.
  unfold begin at member
  simp only at member
  split at member
  · obtain rfl := List.mem_singleton.mp member
    exact (by decide : (2 : Nat) ≠ 1)
  · rcases List.mem_pair.mp member with rfl | rfl
    · exact (by decide : (2 : Nat) ≠ 1)
    · exact (by decide : (3 : Nat) ≠ 1)

/-- A signal leaves the dispatcher at its work, and the queue is closed from then on. -/
theorem engaged_shutDown (engaged : running.session.Engaged 1 false)
    (apart : ∀ driver ∈ running.drivers, driver ≠ 1) (signal : Signal) : (running.shutDown signal).Engaged 1 true := by
  -- Induction on the tasks that are stopped, each of which is another than the dispatcher's.
  have stopped (drivers : List TaskId) (apart : ∀ driver ∈ drivers, driver ≠ 1) {session : Session}
      (engaged : session.Engaged 1 false) : (drivers.foldl Session.stop session).Engaged 1 false := by
    induction drivers generalizing session with
    | nil => exact engaged
    | cons driver later ih =>
      exact ih (fun other member => apart other (List.mem_cons_of_mem _ member))
        (engaged.stop (apart driver List.mem_cons_self))
  exact (stopped running.drivers apart (engaged.log _ _ _)).closeQueue

/-- As long as a simulation is not over after a signal, its dispatcher has not returned and is at its work. -/
theorem engaged_conclude {session : Session} (engaged : session.Engaged 1 true) {limit : Nat}
    (ongoing : (conclude session limit).completed = false) :
    (conclude session limit).session.Engaged 1 true ∧ (conclude session limit).session.dispatcherEnded = false := by
  -- A simulation is over when its dispatcher has returned; otherwise it has run on as far as it could.
  unfold conclude at ongoing ⊢
  simp only at ongoing ⊢
  split at ongoing
  · cases ongoing
  · rename_i away
    rw [if_neg away]
    exact ⟨engaged.runTo _ limit Timed.patience, by simpa using away⟩

/-- Nothing holds the end of a simulation up but a message for which there is no connection. Whatever the
configuration, the script, the intervals and the instant of the signal: wherever nothing can run any more after it, the
simulation is over, or its dispatcher holds a message out of the closed queue and waits, for as long as it takes, for
the network or for the session, with the bit that it waits for not set. -/
theorem shutdown_waits_for_connection_alone (simulation : Simulation) (signal : Signal) (instant grace : Nat)
    (quiet : (simulation.run signal instant grace).session.turn? = none) :
    let ending := simulation.run signal instant grace
    ending.completed = true ∨ ∃ task envelope wait,
      ending.session.Delivers task (.delivering envelope (.awaiting wait)) ∧
        ending.session.connection.queue.closed = true ∧ wait.Endless ∧ wait.Unmet ending.session.connection := by
  intro ending
  cases outcome : ending.completed with
  | true => exact .inl rfl
  | false =>
    -- Up to the signal the queue may be open; from then on it is closed, and only time passes.
    have passed := (engaged_begin simulation).runTo (fun _ => false) instant Timed.patience
    let running : Running := ⟨simulation.begin.session.runUntil instant, simulation.begin.drivers⟩
    have apart : ∀ driver ∈ running.drivers, driver ≠ 1 := fun _ => ne_of_mem_drivers
    have shut : (running.shutDown signal).Engaged 1 true := engaged_shutDown passed apart signal
    obtain ⟨engaged, unended⟩ := engaged_conclude shut outcome
    rcases engaged.at_rest quiet with ended | ⟨envelope, wait, delivers, endless, unmet⟩
    · cases unended.symm.trans ended
    · exact .inr ⟨1, envelope, wait, delivers, engaged.serves.closed rfl, endless, unmet⟩

/-- A simulation in which the link is lost every eleven seconds, and found again five seconds later. -/
def flapping : Simulation where
  config := .ofAppVersion "1.0"
  script := .ready
  dropEvery := some 11

/-- Where a signal comes just after the link was lost and a sample was queued, the dispatcher waits for the network
with that sample once nothing can run any more. -/
theorem lost_link_is_waited_for :
    let ending := flapping.run .terminate 12123 300077
    ending.session.turn? = none ∧ ∃ task envelope wait,
      ending.session.Delivers task (.delivering envelope (.awaiting wait)) ∧
        ending.session.connection.queue.closed = true ∧ wait.Endless ∧ wait.Unmet ending.session.connection := by
  -- That nothing can run and that it is not over is evaluated; what follows is the general statement.
  have quiet : (flapping.run .terminate 12123 300077).session.turn? = none := by
    rw [← Option.isNone_iff_eq_none]
    decide +kernel
  have unended : ¬(flapping.run .terminate 12123 300077).completed = true := by decide +kernel
  exact ⟨quiet, (shutdown_waits_for_connection_alone flapping .terminate 12123 300077 quiet).resolve_left unended⟩

/-- What is left of that simulation after the signal comes to a standstill while the dispatcher waits. -/
theorem stalls_flapping : Timed.stalls (·.dispatcherEnded) 200
    (Running.shutDown ⟨flapping.begin.session.runUntil 12123, flapping.begin.drivers⟩ .terminate) = true := by
  -- It is evaluated.
  decide +kernel

/-- Not every simulation ends after a signal: whoever has lost the link would find it again, but the signal has stopped
that, and the simulation is not over however long it is waited for. -/
theorem lost_link_holds_simulation_up : flapping.config.validate = .ok () ∧
    ∀ grace, (flapping.run .terminate 12123 grace).completed = false := by
  refine ⟨by decide +kernel, fun grace => ?_⟩
  -- That the clock is set ends nobody's task.
  have away := Timed.runTo_of_stalls (fun _ _ => rfl) stalls_flapping (12123 + grace) Timed.patience
  simp only [run, conclude]
  rw [if_neg (Bool.eq_false_iff.mp away)]

end Simulation

end Uplink
