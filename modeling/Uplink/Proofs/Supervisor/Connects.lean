import Uplink.Proofs.Supervisor.Deeds

/-! The stages of a cycle: only the reset leads back to an earlier one, and the transport is asked to connect
in the first two alone. -/

namespace Uplink

/-- How many of its steps from the network to the reset a cycle has made in this phase. -/
def Phase.stage : Phase → Nat
  | .connectingCloud => 1
  | .waitCloudReady => 2
  | .connected => 3
  | .waitDisconnect => 4
  | .resetting => 5
  | .init | .modemReady | .cloudClientReady | .networkBringupRequested | .waitNetwork | .backoff | .halted => 0

/-- No event but the end of the reset leads back to an earlier stage. -/
theorem Phase.stage_le {phase next : Phase} {event : PhaseEvent} (leads : phase.next? event = some next)
    (other : event ≠ .resetComplete) : phase.stage ≤ next.stage := by
  -- The table has one row for each phase with each of its events.
  cases phase <;> cases event <;> cases leads <;> first | decide | exact absurd rfl other

namespace Supervisor

/-- How often the transport was asked to connect. -/
def attempts (supervisor : Supervisor) : Nat :=
  supervisor.requests.count .connectCloud

/-- Moving to another phase is no attempt. -/
@[simp] theorem attempts_advance (supervisor : Supervisor) (now : Nat) (event : PhaseEvent) :
    (supervisor.advance now event).attempts = supervisor.attempts := by
  -- What is put on top of the history, if anything, is no request.
  unfold advance
  split
  · rfl
  · simp only
    split <;> rfl

/-- The supervisor has gone on: it is at no earlier stage, and it has made an attempt only where it tries to
connect. -/
structure Forward (tries : Prop) (before after : Supervisor) : Prop where
  stage : before.phase.stage ≤ after.phase.stage
  attempts : after.attempts = before.attempts ∨ tries

namespace Forward

variable {tries : Prop} {before supervisor : Supervisor} {agenda : Agenda} {run : Run}

/-- A supervisor that does nothing has gone on. -/
theorem refl (supervisor : Supervisor) : Forward tries supervisor supervisor :=
  -- The stage is the same, and no attempt is made.
  ⟨Nat.le_refl _, .inl rfl⟩

/-- Changes of the connection move no phase, and ask for nothing. -/
theorem share (forward : Forward tries before supervisor) (connection : Connection) :
    Forward tries before { supervisor with connection } :=
  -- Neither the stage nor the attempts are read off the connection.
  ⟨forward.stage, forward.attempts⟩

/-- Writing a log entry moves no phase, and asks for nothing. -/
theorem log (forward : Forward tries before supervisor) (level : Level) (message : String) (fields : Fields) :
    Forward tries before (supervisor.log level message fields) :=
  -- The entry goes to the connection.
  forward.share _

/-- Counting moves no phase, and asks for nothing. -/
theorem count (forward : Forward tries before supervisor) (event : Metrics.Count) :
    Forward tries before (supervisor.count event) :=
  -- The count goes to the connection.
  forward.share _

/-- Showing something moves no phase, and asks for nothing. -/
theorem indicate (forward : Forward tries before supervisor) (indication : Indication) (always : Bool) :
    Forward tries before (supervisor.indicate indication always) :=
  -- What is shown is logged.
  forward.log _ _ _

/-- Moving on by any event but the end of the reset leads to no earlier stage, and asks for nothing. -/
theorem advance (forward : Forward tries before supervisor) (now : Nat) (event : PhaseEvent)
    (other : event ≠ .resetComplete) : Forward tries before (supervisor.advance now event) := by
  refine ⟨forward.stage.trans ?_, forward.attempts.imp_left (attempts_advance _ _ _).trans⟩
  -- An event that the phase does not have leaves it where it is.
  unfold Supervisor.advance
  split
  · exact Nat.le_refl _
  · rename_i next leads
    exact Phase.stage_le leads other

/-- Asking for anything else is no attempt. -/
theorem ask (forward : Forward tries before supervisor) {request : Request} (other : request ≠ .connectCloud) :
    Forward tries before (supervisor.ask agenda run request).2 := by
  -- Another request does not count as an attempt.
  have same : (supervisor.ask agenda run request).2.attempts = supervisor.attempts := List.count_cons_of_ne other
  exact ⟨forward.stage, forward.attempts.imp_left same.trans⟩

/-- An attempt is made where the supervisor tries to connect. -/
theorem attempt (forward : Forward tries before supervisor) (connects : tries) :
    Forward tries before (supervisor.attempt agenda run).2 :=
  -- The attempt is allowed here, so nothing has to be said of how many there are.
  ⟨forward.stage, .inr connects⟩

/-- Giving up during the setup leads to no earlier stage, and asks for nothing. -/
theorem halt (forward : Forward tries before supervisor) (error : SetupError) :
    Forward tries before (supervisor.halt agenda error).2 :=
  -- The failure leads to the last stage of all.
  ((forward.log _ _ _).advance _ _ (by decide)).indicate _ _

end Forward

variable (supervisor : Supervisor) (agenda : Agenda) (task : TaskId) (run : Run)

/-- A step of a run leads to no earlier stage, and makes an attempt only while the network is waited for or
the connection of the transport. -/
theorem step_forward :
    Forward (run.place.phase = .waitNetwork ∨ run.place.phase = .connectingCloud) supervisor
      (supervisor.step agenda task run).2 := by
  -- One case for each place; where a wait is not answered yet, nothing is done.
  obtain ⟨cycle, place⟩ := run
  have still : Forward (place.phase = .waitNetwork ∨ place.phase = .connectingCloud) supervisor supervisor :=
    .refl supervisor
  cases place with
  | starting => exact ((still.indicate _ _).log _ _ _).ask (by decide)
  | calling request => exact still
  | cycleStart => exact ((still.log _ _ _).indicate _ _).share _
  -- The network is up, which is the first reason for an attempt.
  | awaitingNetwork wait =>
    simp only [step]
    split
    · exact still
    · exact ((((still.share _).log _ _ _).advance _ _ (by decide)).log _ _ _).attempt (.inl rfl)
  -- The time for the attempt is up, which is the other one.
  | awaitingCloud wait =>
    simp only [step]
    split
    · exact still
    · split
      · exact (((still.share _).log _ _ _).advance _ _ (by decide)).attempt (.inr rfl)
      · exact ((((still.share _).count _).advance _ .cloudConnected (by decide)).log _ _ _).share _
  | awaitingReady wait =>
    simp only [step]
    split
    · exact still
    · split
      · exact (((((still.share _).log _ _ _).count _).advance _ _ (by decide)).indicate _ _).ask (by decide)
      · exact ((((still.share _).log _ _ _).log _ _ _).count _).advance _ _ (by decide)
  | awaitingDrop wait =>
    simp only [step]
    split
    · exact still
    · exact ((still.share _).log _ _ _).advance _ _ (by decide)
  | settling due =>
    simp only [step]
    split
    · exact (still.log _ _ _).ask (by decide)
    · exact still
  | backingOff due =>
    simp only [step]
    split
    · exact still.advance _ _ (by decide)
    · exact still

/-- Going on with a reply leads to no earlier stage unless it is the reply to a disconnect, and makes no
attempt. -/
theorem resume_forward {request : Request} (other : request ≠ .disconnectCloud) (reply : request.Reply) :
    Forward False supervisor (supervisor.resume agenda task run request reply).2 := by
  -- One case for each request, with its replies where they make a difference.
  have still : Forward False supervisor supervisor := .refl supervisor
  cases request with
  | modemInit =>
    cases reply with
    | error error => exact still.halt _
    | ok start => cases start <;> exact (still.log _ _ _).ask (by decide)
  | registerClock => exact ((still.advance _ _ (by decide)).log _ _ _).ask (by decide)
  -- Either request that follows belongs to the setup.
  | transportInit =>
    rcases reply with error | ⟨⟨⟩⟩
    · exact still.halt _
    · have ready := (still.advance agenda.now .setupSucceeded (by decide)).log .info "Setting up network..." []
      simp only [resume]
      split
      · exact (ready.log _ _ _).ask (by decide)
      · exact ready.ask (by decide)
  | requestPsm | enableEvents =>
    cases reply with
    | error error => exact still.halt _
    | ok _ => exact (still.log _ _ _).ask (by decide)
  | connectNetwork =>
    cases reply with
    | error error => exact still.halt _
    | ok _ => exact ((still.advance _ _ (by decide)).advance _ _ (by decide)).log _ _ _
  | connectCloud =>
    rcases reply with error | ⟨⟨⟩⟩
    · exact ((still.log _ _ _).log _ _ _).share _
    · exact (still.log _ _ _).share _
  | publishShadow => exact ((still.share _).advance _ .shadowPublished (by decide)).share _
  -- This is the reply that is left out.
  | disconnectCloud => exact absurd rfl other

/-- Going on with a reply makes no attempt. -/
theorem resume_attempts (request : Request) (reply : request.Reply) :
    (supervisor.resume agenda task run request reply).2.attempts = supervisor.attempts := by
  -- Only the reply to a disconnect begins anew; the others are dealt with where the stages are.
  by_cases disconnects : request = .disconnectCloud
  · subst disconnects
    -- Whether it has failed is logged, and nothing is asked for.
    have noted : (supervisor.noteDisconnect reply).attempts = supervisor.attempts := by
      simp only [attempts, requests, (supervisor.noteDisconnect_deeds reply).2]
    exact (attempts_advance _ _ _).trans noted
  · exact (supervisor.resume_forward agenda task run disconnects reply).attempts.resolve_right id

end Supervisor

end Uplink
