import Uplink.Proofs.Session.Jobs

/-! What the steps of the supervisor do to the connection: no ticket is lost, and no other wait is touched. -/

namespace Uplink

open Flags (Register Ticket Timeout Wait)

/-- The supervisor may do everything that any part may do, but for the delivery of messages. -/
abbrev Liberty.supervisor : Liberty where
  clears := true
  counts := true
  posts := true
  delivers := false

/-- Whoever runs the supervisor may count everything but what was handed to the transport. -/
theorem Connection.Touches.tally {liberty : Liberty} {before after : Connection}
    {held : RegisterName → Ticket → Prop} (touches : before.Touches liberty held after)
    (governs : liberty.counts = true) (event : Metrics.Count)
    (unsent : ∀ metrics : Metrics, (metrics.count event).postage = metrics.postage) :
    before.Touches liberty held (after.count event) :=
  -- Whoever governs counts, and is none of the others.
  touches.count event (fun others => absurd governs (by simp [others])) fun _ => unsent

namespace Supervisor

variable {liberty : Liberty} {before : Connection} {held : RegisterName → Ticket → Prop} {supervisor : Supervisor}

/-- Moving to another phase is logged and counted. -/
theorem touches_advance (governs : liberty.counts = true)
    (touches : before.Touches liberty held supervisor.connection) (now : Nat)
    (event : PhaseEvent) : before.Touches liberty held (supervisor.advance now event).connection := by
  -- An event that the phase does not have is logged as ignored, and nothing moves.
  unfold advance
  split
  · exact touches.log _ _ _
  · rename_i next leads
    have unsent : ∀ metrics : Metrics, (metrics.count (.setPhase next.name)).postage = metrics.postage := by
      intro metrics
      simp only [Metrics.count]
      split <;> rfl
    -- A change of the phase is logged before it is counted, and another move is only counted.
    simp only
    split
    · exact touches.tally governs _ unsent
    · exact (touches.log _ _ _).tally governs _ unsent

/-- Asking the transport to connect is counted. -/
theorem touches_attempt (governs : liberty.counts = true)
    (touches : before.Touches liberty held supervisor.connection) (agenda : Agenda) (run : Run) :
    before.Touches liberty held (supervisor.attempt agenda run).2.connection :=
  -- The request itself is no matter of the connection.
  touches.tally governs .connectAttempt fun _ => rfl

/-- Giving up during the setup is logged and counted. -/
theorem touches_halt (governs : liberty.counts = true)
    (touches : before.Touches liberty held supervisor.connection) (agenda : Agenda)
    (error : SetupError) : before.Touches liberty held (supervisor.halt agenda error).2.connection := by
  -- The error is logged, the phase moves on, and both are shown.
  have failed := touches.log .error "Fatal: connection setup failed" [("error", .text error.message)]
  exact (touches_advance governs failed agenda.now .setupFailed).log _ _ _

/-- A step leads from one place to the next with changes of the one wait that the place holds. -/
theorem step_passes (governs : liberty.counts = true) (supervisor : Supervisor) (agenda : Agenda)
    (task : TaskId) (run : Run) :
    supervisor.connection.Passes liberty run.place.Holds (supervisor.step agenda task run).2.connection
      ((supervisor.step agenda task run).1.Holds fun run => run.place.Holds) := by
  -- One case for each place; a place with a wait looks after that wait first.
  have untouched : supervisor.connection.Touches liberty run.place.Holds supervisor.connection := .refl
  obtain ⟨cycle, place⟩ := run
  cases place with
  | starting => exact .free ((untouched.log _ _ _).log _ _ _)
  | calling request => exact .kept untouched fun _ _ => id
  | cycleStart =>
    exact .begun (((untouched.log _ _ _).log _ _ _).log _ _ _) agenda task .network _ .forever
  -- A look that finds nothing keeps the wait; an answer ends it.
  | awaitingNetwork wait =>
    simp only [step]
    split
    · exact .kept untouched fun _ _ => id
    · rename_i answered
      have looked : supervisor.connection.Touches liberty (Place.awaitingNetwork wait).Holds _ :=
        .of_look answered fun _ has => ⟨rfl, has⟩
      exact .free (touches_attempt governs ((touches_advance governs (looked.log _ _ _) _ _).log _ _ _) agenda _)
  | awaitingCloud wait =>
    simp only [step]
    split
    · exact .kept untouched fun _ _ => id
    · rename_i bits connection answered
      have looked : supervisor.connection.Touches liberty (Place.awaitingCloud wait).Holds _ :=
        .of_look answered fun _ has => ⟨rfl, has⟩
      split
      · exact .free (touches_attempt governs (touches_advance governs (looked.log _ _ _) _ _) agenda _)
      · -- The wait for the session to become ready begins in the same step.
        let counted := { supervisor with connection }.count .cloudConnectionEstablished
        have touched : supervisor.connection.Touches liberty (Place.awaitingCloud wait).Holds
            counted.connection := looked.tally governs .cloudConnectionEstablished fun _ => rfl
        have connected := touches_advance governs touched agenda.now .cloudConnected
        simp only [goTo, Supervisor.log, Connection.awaitReady]
        exact .begun ((connected.log _ _ _).log _ _ _) agenda task .cloud _ _
  -- Ready or not, no wait is begun here.
  | awaitingReady wait =>
    simp only [step]
    split
    · exact .kept untouched fun _ _ => id
    · rename_i answered
      have looked : supervisor.connection.Touches liberty (Place.awaitingReady wait).Holds _ :=
        .of_look answered fun _ has => ⟨rfl, has⟩
      split
      · exact .free ((touches_advance governs
          ((looked.log _ _ _).tally governs .cloudReady fun _ => rfl) _ _).log _ _ _)
      · exact .free (touches_advance governs
          (((looked.log _ _ _).log _ _ _).tally governs .readyTimeout fun _ => rfl) _ _)
  | awaitingDrop wait =>
    simp only [step]
    split
    · exact .kept untouched fun _ _ => id
    · rename_i answered
      have looked : supervisor.connection.Touches liberty (Place.awaitingDrop wait).Holds _ :=
        .of_look answered fun _ has => ⟨rfl, has⟩
      exact .free (touches_advance governs (looked.log _ _ _) _ _)
  | settling due =>
    simp only [step]
    split
    · exact .free (untouched.log _ _ _)
    · exact .free untouched
  | backingOff due =>
    simp only [step]
    split
    · exact .free (touches_advance governs untouched _ _)
    · exact .free untouched

/-- Going on with a reply begins a wait, or clears the cloud register, or does neither. -/
theorem resume_passes (governs : liberty.counts = true) (supervisor : Supervisor) (agenda : Agenda) (task : TaskId)
    {run : Run} {request : Request} (clears : request = .disconnectCloud → liberty.clears = true)
    (calls : run.place = .calling request) (reply : request.Reply) :
    supervisor.connection.Passes liberty run.place.Holds
      (supervisor.resume agenda task run request reply).2.connection
      ((supervisor.resume agenda task run request reply).1.Holds fun run => run.place.Holds) := by
  -- One case for each request; a failed one ends the run if it belongs to the setup.
  have untouched : supervisor.connection.Touches liberty run.place.Holds supervisor.connection := .refl
  cases request with
  | modemInit =>
    cases reply with
    | error error => exact .free (touches_halt governs untouched agenda _)
    | ok start => cases start <;> exact .free (untouched.log _ _ _)
  | registerClock => exact .free ((touches_advance governs untouched _ _).log _ _ _)
  -- In either branch another request is made, which needs no wait.
  | transportInit =>
    cases reply with
    | error error => exact .free (touches_halt governs untouched agenda _)
    | ok _ =>
      have ready := (touches_advance governs untouched agenda.now .setupSucceeded).log .info
        "Setting up network..." []
      simp only [resume]
      split
      · exact .free (ready.log _ _ _)
      · exact .free ready
  | requestPsm =>
    cases reply with
    | error error => exact .free (touches_halt governs untouched agenda _)
    | ok _ => exact .free (untouched.log _ _ _)
  | enableEvents =>
    cases reply with
    | error error => exact .free (touches_halt governs untouched agenda _)
    | ok _ => exact .free (untouched.log _ _ _)
  | connectNetwork =>
    cases reply with
    | error error => exact .free (touches_halt governs untouched agenda _)
    | ok _ => exact .free ((touches_advance governs (touches_advance governs untouched _ _) _ _).log _ _ _)
  | connectCloud =>
    -- A request that failed is waited for like any other.
    simp only [resume, goTo, Supervisor.log, Connection.awaitCloud]
    cases reply with
    | error error =>
      exact .begun (((untouched.log _ _ _).log _ _ _).log _ _ _) agenda task .cloud _ _
    | ok _ => exact .begun ((untouched.log _ _ _).log _ _ _) agenda task .cloud _ _
  -- The result is noted, and the wait for the session to drop begins.
  | publishShadow =>
    have noted : supervisor.connection.Touches liberty run.place.Holds
        (supervisor.connection.notePublish reply) := untouched.notePublish governs reply
    have published : supervisor.connection.Touches liberty run.place.Holds
        ({ supervisor with connection := supervisor.connection.notePublish reply }.advance agenda.now
          .shadowPublished).connection := touches_advance governs noted agenda.now .shadowPublished
    exact .begun published agenda task .cloud _ .forever
  | disconnectCloud =>
    have noted : supervisor.connection.Touches liberty run.place.Holds
        (supervisor.noteDisconnect reply).connection := by
      unfold noteDisconnect
      split
      · exact untouched.log _ _ _
      · exact untouched.log _ _ _
      · exact untouched.log _ _ _
    -- The reset clears the cloud register, and nothing else does.
    have cleared : supervisor.connection.Touches liberty run.place.Holds
        (supervisor.noteDisconnect reply).connection.clearCloud := noted.clear .cloud fun _ => clears rfl
    exact .free (touches_advance governs ((cleared.tally governs .resetPerformed fun _ => rfl).log _ _ _) _ _)

/-- A step that does not lead on leaves the run where it is. -/
theorem step_parked {agenda : Agenda} {task : TaskId} {run onward : Run}
    (parked : (supervisor.step agenda task run).1 = .parked onward) : onward = run := by
  -- Only a wait without an answer and a pause that has not passed lead nowhere.
  obtain ⟨cycle, place⟩ := run
  cases place with
  | starting | cycleStart => cases parked
  | calling request => exact (Progress.parked.inj parked).symm
  | awaitingNetwork wait | awaitingDrop wait =>
    simp only [step] at parked
    split at parked
    · exact (Progress.parked.inj parked).symm
    · cases parked
  -- An answer leads on whatever it says.
  | awaitingCloud wait | awaitingReady wait =>
    simp only [step] at parked
    split at parked
    · exact (Progress.parked.inj parked).symm
    · split at parked <;> cases parked
  | settling due | backingOff due =>
    simp only [step] at parked
    split at parked
    · cases parked
    · exact (Progress.parked.inj parked).symm

/-- A run always goes on with a reply at once. -/
theorem resume_ne_parked {agenda : Agenda} {task : TaskId} {run onward : Run} {request : Request}
    (reply : request.Reply) : (supervisor.resume agenda task run request reply).1 ≠ .parked onward := by
  -- One case for each request: every reply leads on or ends the run.
  intro parked
  cases request with
  | registerClock | connectCloud | publishShadow | disconnectCloud => cases parked
  | modemInit | requestPsm | enableEvents | connectNetwork => cases reply <;> cases parked
  | transportInit =>
    rcases reply with error | ⟨⟨⟩⟩
    · cases parked
    · -- The setup goes on with or without the power saving mode.
      simp only [resume] at parked
      split at parked <;> cases parked

end Supervisor

end Uplink
