import Uplink.Proofs.Supervisor.Vigil

/-! Where a run of the supervisor has no way past the network: it looks at the network before it goes on to
a session. -/

namespace Uplink.Supervisor

open Flags (Condition Register)

/-- The run has not got past its wait for the network in this cycle, or the session of the cycle is being
given up. -/
def Place.Grounded (connection : Connection) (task : TaskId) : Place → Prop
  | .calling .connectCloud | .calling .publishShadow | .awaitingCloud _ | .awaitingReady _
  | .awaitingDrop _ => False
  | .awaitingNetwork wait => ∃ ticket, wait = .parked ticket none ∧
      connection.network.Lists ticket task (.all Network.connected)
  | .starting | .calling _ | .cycleStart | .settling _ | .backingOff _ => True

/-- After a step the run is still grounded, if there is one. -/
def Stays (task : TaskId) : Stepped → Prop
  | (.next run, supervisor) => run.place.Grounded supervisor.connection task
  | (.parked run, supervisor) => run.place.Grounded supervisor.connection task
  | (.done _, _) => True

/-- Without the network a wait for it is not met. -/
theorem unmet_of_clear {connection : Connection} (clear : connection.network.isSet Network.connected = false) :
    (Condition.all Network.connected).matched connection.network.bits = none := by
  -- The mask is one bit, so either all of it is set or none.
  have none : connection.network.bits &&& Network.connected = 0 := by simpa [Register.isSet] using clear
  simp only [Condition.matched, none]
  rfl

/-- Without the network a wait for it parks. -/
theorem parks_of_clear {connection : Connection} (agenda : Agenda) (task : TaskId)
    (clear : connection.network.isSet Network.connected = false) :
    ∃ ticket,
      (connection.await agenda task .network (.all Network.connected) .forever).1 = .parked ticket none ∧
        (connection.await agenda task .network (.all Network.connected) .forever).2.network.Lists ticket task
          (.all Network.connected) := by
  -- Where the bit is not set the condition is not met, and the wait has no time limit that could end it.
  have unmet : (Condition.all Network.connected).matched (connection.register .network).bits = none :=
    unmet_of_clear clear
  simp only [Connection.await, Register.wait, unmet]
  exact ⟨_, rfl, Register.lists_park _ _ _ none⟩

variable {supervisor : Supervisor} {agenda : Agenda} {task : TaskId} {run : Run}

/-- Without the network a step of a grounded run leads nowhere else. -/
theorem step_stays (steps : ∀ request, run.place ≠ .calling request)
    (ordered : ∀ name, (supervisor.connection.register name).Orderly)
    (clear : supervisor.connection.network.isSet Network.connected = false)
    (grounded : run.place.Grounded supervisor.connection task) :
    Stays task (supervisor.step agenda task run) := by
  -- One case for each place; the wait for the network parks, and is not answered.
  obtain ⟨cycle, place⟩ := run
  cases place with
  | starting => exact trivial
  | calling request => exact absurd rfl (steps request)
  | cycleStart =>
    let waiting := ((supervisor.log .info "Waiting for connection to network..." []).indicate .waiting
      false).log .debug "Awaiting network connection" []
    have clear' : waiting.connection.network.isSet Network.connected = false := clear
    exact parks_of_clear agenda task clear'
  -- The ticket is on the list, and there is no deadline, so a look finds nothing.
  | awaitingNetwork wait =>
    obtain ⟨ticket, rfl, listed⟩ := grounded
    have unanswered : supervisor.connection.poll agenda .network (.parked ticket none) =
        (none, supervisor.connection) := by
      have ahead : agenda.reached none = false := rfl
      have still := (ordered .network).poll_open listed ahead
      simp only [Connection.poll, still]
      rfl
    simp only [step, unanswered]
    exact ⟨ticket, rfl, listed⟩
  -- These are not grounded.
  | awaitingCloud _ | awaitingReady _ | awaitingDrop _ => exact grounded.elim
  | settling due | backingOff due =>
    simp only [step]
    split <;> exact trivial

/-- Going on with a reply, a grounded run leads nowhere else. -/
theorem resume_stays {request : Request} (calls : run.place = .calling request)
    (grounded : run.place.Grounded supervisor.connection task) (reply : request.Reply) :
    Stays task (supervisor.resume agenda task run request reply) := by
  -- One case for each request, with its replies where they make a difference.
  rw [calls] at grounded
  cases request with
  | connectCloud | publishShadow => exact grounded.elim
  | registerClock | disconnectCloud => exact trivial
  | modemInit | requestPsm | enableEvents | connectNetwork => cases reply <;> exact trivial
  | transportInit =>
    rcases reply with error | ⟨⟨⟩⟩
    · exact trivial
    · simp only [resume]
      split <;> exact trivial

end Uplink.Supervisor
