import Uplink.Proofs.Supervisor.Bookkeeping
import Uplink.Proofs.Supervisor.Vigil

/-! What the steps of the supervisor do for good: its history only grows, and one step clears the cloud
register. -/

namespace Uplink.Supervisor

open Flags (Wait)

/-- The supervisor has gone on: it has forgotten nothing of what it did, and the cloud register has the
same bits. -/
structure Onward (before after : Supervisor) : Prop where
  history : before.history <:+ after.history
  bits : after.connection.cloud.bits = before.connection.cloud.bits

/-- Moving to another phase puts the event on top of what was done, if it leads anywhere. -/
theorem advance_history (supervisor : Supervisor) (now : Nat) (event : PhaseEvent) :
    supervisor.history <:+ (supervisor.advance now event).history := by
  -- An event that the phase does not have is entered nowhere.
  unfold advance
  split
  · exact List.suffix_refl _
  · simp only
    split <;> exact List.suffix_cons _ _

namespace Onward

variable {before supervisor : Supervisor} {agenda : Agenda} {run : Run}

/-- A supervisor that does nothing has gone on. -/
theorem refl (supervisor : Supervisor) : Onward supervisor supervisor :=
  -- The history is the same, and so are the bits.
  ⟨List.suffix_refl _, rfl⟩

/-- Changes of the connection that leave the bits as they are. -/
theorem share (onward : Onward before supervisor) {connection : Connection}
    (same : connection.cloud.bits = supervisor.connection.cloud.bits) :
    Onward before { supervisor with connection } :=
  -- The history is no part of the connection.
  ⟨onward.history, same.trans onward.bits⟩

/-- Writing a log entry is no deed. -/
theorem log (onward : Onward before supervisor) (level : Level) (message : String) (fields : Fields) :
    Onward before (supervisor.log level message fields) :=
  -- The entry goes to the connection, and raises no bit.
  onward.share rfl

/-- Counting is no deed. -/
theorem count (onward : Onward before supervisor) (event : Metrics.Count) :
    Onward before (supervisor.count event) :=
  -- The count goes to the connection, and raises no bit.
  onward.share rfl

/-- Showing something is no deed. -/
theorem indicate (onward : Onward before supervisor) (indication : Indication) (always : Bool) :
    Onward before (supervisor.indicate indication always) :=
  -- What is shown is logged.
  onward.log _ _ _

/-- Moving to another phase is a deed. -/
theorem advance (onward : Onward before supervisor) (now : Nat) (event : PhaseEvent) :
    Onward before (supervisor.advance now event) where
  -- The change of phase is put in front of the history, and raises no bit.
  history := onward.history.trans (advance_history _ _ _)
  bits := by
    rw [advance_cloud]
    exact onward.bits

/-- Asking for something is a deed. -/
theorem ask (onward : Onward before supervisor) (request : Request) :
    Onward before (supervisor.ask agenda run request).2 :=
  -- The request is put in front of the history.
  ⟨onward.history.trans (List.suffix_cons _ _), onward.bits⟩

/-- An attempt is counted and asked for. -/
theorem attempt (onward : Onward before supervisor) : Onward before (supervisor.attempt agenda run).2 :=
  -- The count is no deed, and the request is one.
  (onward.count _).ask _

/-- Giving up during the setup is logged, and moves the phase. -/
theorem halt (onward : Onward before supervisor) (error : SetupError) :
    Onward before (supervisor.halt agenda error).2 :=
  -- The three parts, one after the other.
  ((onward.log _ _ _).advance _ _).indicate _ _

end Onward

variable {supervisor : Supervisor} {agenda : Agenda} {task : TaskId} {run : Run}

/-- Looking after a wait is no deed. -/
theorem onward_poll {connection : Connection} {name : RegisterName} {wait : Wait} {answer : Option UInt32}
    (looked : supervisor.connection.poll agenda name wait = (answer, connection)) :
    Onward supervisor { supervisor with connection } := by
  -- A look may take the wait out of its register, but no bit.
  refine (Onward.refl supervisor).share ?_
  have kept := poll_cloud_bits supervisor.connection agenda name wait
  rwa [looked] at kept

/-- A step of a run forgets nothing, and clears nothing. -/
theorem step_onward (supervisor : Supervisor) (agenda : Agenda) (task : TaskId) (run : Run) :
    Onward supervisor (supervisor.step agenda task run).2 := by
  -- One case for each place; where a wait is not answered yet, nothing is done.
  have still := Onward.refl supervisor
  obtain ⟨cycle, place⟩ := run
  cases place with
  | starting => exact ((still.indicate _ _).log _ _ _).ask _
  | calling request => exact still
  | cycleStart =>
    have waiting := (still.log .info "Waiting for connection to network..." []).indicate .waiting false
    simp only [step, goTo, Connection.awaitNetwork]
    exact waiting.share (await_cloud_bits _ _ _ _ _ _)
  | awaitingNetwork wait =>
    simp only [step]
    split
    · exact still
    · rename_i answered
      exact ((((onward_poll answered).log _ _ _).advance _ _).log _ _ _).attempt
  -- After the time for the attempt a new one is made, and otherwise the next wait begins.
  | awaitingCloud wait =>
    simp only [step]
    split
    · exact still
    · rename_i answered
      have looked := onward_poll answered
      split
      · exact ((looked.log _ _ _).advance _ _).attempt
      · have connected := ((looked.count .cloudConnectionEstablished).advance agenda.now .cloudConnected).log
          .info "Connected to cloud, waiting for session to become ready" []
        simp only [goTo, Connection.awaitReady]
        exact connected.share (await_cloud_bits _ _ _ _ _ _)
  -- The session is ready, or it is given up.
  | awaitingReady wait =>
    simp only [step]
    split
    · exact still
    · rename_i answered
      have looked := onward_poll answered
      split
      · exact ((((looked.log _ _ _).count _).advance _ _).indicate _ _).ask _
      · exact (((looked.log _ _ _).log _ _ _).count _).advance _ _
  | awaitingDrop wait =>
    simp only [step]
    split
    · exact still
    · rename_i answered
      exact ((onward_poll answered).log _ _ _).advance _ _
  -- The pauses come to their deadline or go on.
  | settling due =>
    simp only [step]
    split
    · exact (still.log _ _ _).ask _
    · exact still
  | backingOff due =>
    simp only [step]
    split
    · exact still.advance _ _
    · exact still

/-- Going on with a reply forgets nothing, and clears nothing unless it is the reply to a disconnect. -/
theorem resume_onward (supervisor : Supervisor) (agenda : Agenda) (task : TaskId) (run : Run)
    {request : Request} (other : request ≠ .disconnectCloud) (reply : request.Reply) :
    Onward supervisor (supervisor.resume agenda task run request reply).2 := by
  -- One case for each request, with its replies where they make a difference.
  have still := Onward.refl supervisor
  cases request with
  | modemInit =>
    cases reply with
    | error error => exact still.halt _
    | ok start => cases start <;> exact (still.log _ _ _).ask _
  | registerClock => exact ((still.advance _ _).log _ _ _).ask _
  -- The power saving mode is asked for if it is wanted.
  | transportInit =>
    rcases reply with error | ⟨⟨⟩⟩
    · exact still.halt _
    · have ready := (still.advance agenda.now .setupSucceeded).log .info "Setting up network..." []
      simp only [resume]
      split
      · exact (ready.log _ _ _).ask _
      · exact ready.ask _
  | requestPsm =>
    cases reply with
    | error error => exact still.halt _
    | ok _ => exact (still.log _ _ _).ask _
  | enableEvents =>
    cases reply with
    | error error => exact still.halt _
    | ok _ => exact (still.log _ _ _).ask _
  | connectNetwork =>
    cases reply with
    | error error => exact still.halt _
    | ok _ => exact ((still.advance _ _).advance _ _).log _ _ _
  -- Beginning the wait changes no bit.
  | connectCloud =>
    simp only [resume, goTo, Connection.awaitCloud]
    rcases reply with error | ⟨⟨⟩⟩
    · have failed := still.log .error "Cloud connection request failed" [("error", .text error.message)]
      exact (failed.log .info "Waiting for cloud connection" _).share (await_cloud_bits _ _ _ _ _ _)
    · exact (still.log .info "Waiting for cloud connection" _).share (await_cloud_bits _ _ _ _ _ _)
  | publishShadow =>
    have noted : Onward supervisor
        { supervisor with connection := supervisor.connection.notePublish reply } := by
      refine still.share ?_
      cases reply <;> rfl
    simp only [resume, goTo, Connection.awaitDisconnection]
    exact (noted.advance agenda.now .shadowPublished).share (await_cloud_bits _ _ _ _ _ _)
  | disconnectCloud => exact absurd rfl other

/-- The reply to a disconnect moves no phase, and is no deed. -/
theorem noteDisconnect_deeds (supervisor : Supervisor) (reply : Request.disconnectCloud.Reply) :
    (supervisor.noteDisconnect reply).phase = supervisor.phase ∧
      (supervisor.noteDisconnect reply).history = supervisor.history := by
  -- The replies differ in what is logged alone.
  unfold noteDisconnect
  split <;> exact ⟨rfl, rfl⟩

/-- Going on with the reply to a disconnect, whatever it is, clears the cloud register and begins the pause. -/
theorem resume_disconnect (supervisor : Supervisor) (agenda : Agenda) (task : TaskId) (run : Run)
    (reply : Request.disconnectCloud.Reply) :
    (supervisor.resume agenda task run .disconnectCloud reply).2.connection.cloud.bits = 0 ∧
      ∃ due, (supervisor.resume agenda task run .disconnectCloud reply).1 =
        .next { run with place := .backingOff due } := by
  refine ⟨?_, _, rfl⟩
  -- The register is cleared before the phase moves on, and the move keeps it so.
  simp only [resume, goTo, advance_cloud]
  rfl

/-- While the connection is being reset, the reply to a disconnect completes the reset. -/
theorem resume_resetComplete {supervisor : Supervisor} (resetting : supervisor.phase = .resetting)
    (agenda : Agenda) (task : TaskId) (run : Run) (reply : Request.disconnectCloud.Reply) :
    (supervisor.resume agenda task run .disconnectCloud reply).2.history =
      (agenda.now, .moved .resetComplete) :: supervisor.history := by
  -- In this phase the event leads to the pause.
  obtain ⟨phase, history⟩ := supervisor.noteDisconnect_deeds reply
  have still : (supervisor.noteDisconnect reply).phase = .resetting := phase.trans resetting
  simp [resume, goTo, Supervisor.advance, Supervisor.log, Supervisor.count, still, Phase.next?, history]

/-- Going on with a reply forgets nothing that was done. -/
theorem resume_history (supervisor : Supervisor) (agenda : Agenda) (task : TaskId) (run : Run)
    (request : Request) (reply : request.Reply) :
    supervisor.history <:+ (supervisor.resume agenda task run request reply).2.history := by
  by_cases disconnects : request = .disconnectCloud
  · subst disconnects
    -- Before the phase moves the history is as it was.
    have noted := (supervisor.noteDisconnect_deeds reply).2
    simp only [resume, goTo]
    refine List.IsSuffix.trans ?_ (advance_history _ _ _)
    exact noted ▸ List.suffix_refl _
  · exact (supervisor.resume_onward agenda task run disconnects reply).history

/-! ### What is kept of the deeds -/

/-- An event that has moved the phase stays one. -/
theorem events_suffix {before after : Supervisor} (suffix : before.history <:+ after.history) :
    before.events <:+ after.events :=
  -- The events are picked out of the history in its order.
  suffix.filterMap _

end Uplink.Supervisor
