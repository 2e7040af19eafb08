import Uplink.Proofs.Supervisor.Bookkeeping

/-! The steps of the supervisor keep its ledger balanced, whatever it finds and whatever reply it gets. -/

namespace Uplink.Supervisor

open Flags (Condition Timeout Wait)

variable {supervisor : Supervisor} {agenda : Agenda} {task : TaskId} {run : Run} {connection : Connection}

/-! ### What is not in the ledger -/

/-- Looking after a wait is not in the ledger. -/
theorem ledger_poll {name : RegisterName} {wait : Wait} {answer : Option UInt32}
    (looked : supervisor.connection.poll agenda name wait = (answer, connection)) :
    { supervisor with connection }.ledger = supervisor.ledger := by
  -- A look replaces a register at most, and no counter is kept in one.
  apply ledger_connection
  have same : connection.telemetry = supervisor.connection.telemetry := by
    have after : connection = (supervisor.connection.poll agenda name wait).2 := by rw [looked]
    rw [after]
    exact Connection.setRegister_telemetry _ _ _
  rw [same]

/-- Beginning a wait is not in the ledger. -/
theorem ledger_await (supervisor : Supervisor) (agenda : Agenda) (task : TaskId) (name : RegisterName)
    (condition : Condition) (timeout : Timeout) :
    { supervisor with connection :=
        (supervisor.connection.await agenda task name condition timeout).2 }.ledger = supervisor.ledger := by
  -- Beginning a wait replaces a register at most, and no counter is kept in one.
  apply ledger_connection
  have same := Connection.setRegister_telemetry supervisor.connection name
    ((supervisor.connection.register name).wait agenda task condition timeout).2
  exact congrArg (fun telemetry => telemetry.metrics.cycle) same

/-! ### Steps -/

/-- A failed setup leaves a balanced ledger, in whatever phase of the setup it failed. -/
theorem balanced_halt {phase : Phase} (balanced : supervisor.ledger.Balanced phase 0)
    (setup : phase.isSetup = true) (error : SetupError) :
    (supervisor.halt agenda error).2.ledger.Balanced .halted 0 := by
  -- Each phase of the setup has the event of its failure.
  rw [ledger_halt]
  have leads : phase.next? .setupFailed = some .halted := by
    cases phase <;> simp [Phase.isSetup] at setup <;> rfl
  exact balanced.move leads rfl

/-- Moving on by an event that nothing is counted for keeps the ledger balanced. -/
theorem balanced_advance {phase next : Phase} {pending : Nat} {event : PhaseEvent} {now : Nat}
    (balanced : supervisor.ledger.Balanced phase pending) (leads : phase.next? event = some next)
    (alone : event.counts = []) : (supervisor.advance now event).ledger.Balanced next pending := by
  -- In the ledger it is a move that counts nothing.
  rw [ledger_advance]
  exact balanced.move leads alone

/-- A step of a run keeps the ledger balanced. -/
theorem balanced_step (balanced : supervisor.ledger.Balanced run.place.phase run.place.pending) :
    (supervisor.step agenda task run).2.ledger.Balanced
      (Standing.after (supervisor.step agenda task run).1).phase
      (Standing.after (supervisor.step agenda task run).1).pending := by
  -- One case for each place; where a wait is not answered yet, nothing is entered.
  obtain ⟨cycle, place⟩ := run
  cases place with
  | starting => exact balanced.ask (by decide)
  | calling request => exact balanced
  | cycleStart =>
    -- The wait for the network is not in the ledger, and neither is what is said about it.
    let waiting := ((supervisor.log .info "Waiting for connection to network...").indicate .waiting false).log
      .debug "Awaiting network connection"
    have same := ledger_await waiting agenda task .network (.all Network.connected) .forever
    exact (same ▸ balanced : Ledger.Balanced .waitNetwork 0 _)
  | awaitingNetwork wait =>
    simp only [step]
    split
    · exact balanced
    · rename_i bits connection answered
      -- The modem has registered: the phase moves and the first attempt is made.
      rw [ledger_attempt, ledger_log, ledger_advance, ledger_log, ledger_poll answered]
      exact balanced.attempt rfl (.inl rfl)
  | awaitingCloud wait =>
    simp only [step]
    split
    · exact balanced
    · rename_i bits connection answered
      split
      -- The time for the attempt is up: another one is made in the same phase.
      · rw [ledger_attempt, ledger_advance, ledger_log, ledger_poll answered]
        exact balanced.attempt rfl (.inr rfl)
      · -- The wait for the session to become ready is not in the ledger.
        let entered := ((({ supervisor with connection }.count .cloudConnectionEstablished).advance agenda.now
          .cloudConnected).log .info "Connected to cloud, waiting for session to become ready").log .debug
            "Awaiting cloud ready"
        have ledger : entered.ledger =
            (supervisor.ledger.count .cloudConnectionEstablished).advance .cloudConnected := by
          simp only [entered]
          rw [ledger_log, ledger_log, ledger_advance, ledger_count _ fun _ => rfl, ledger_poll answered]
        have counted : entered.ledger.Balanced .waitCloudReady 0 :=
          ledger ▸ balanced.enter rfl (List.mem_singleton.mpr rfl) (.inl rfl)
        exact (ledger_await entered agenda task .cloud (.any (Cloud.ready ||| Cloud.disconnected))
          (.after (ConnectionSection.millis supervisor.config.connection.readyTimeout)) ▸ counted :
            Ledger.Balanced .waitCloudReady 0 _)
  | awaitingReady wait =>
    simp only [step]
    split
    · exact balanced
    · rename_i bits connection answered
      split
      -- The session is ready: its shadow is to be published.
      · rw [ledger_ask, ledger_indicate, ledger_advance, ledger_count _ fun _ => rfl, ledger_log,
          ledger_poll answered]
        exact balanced.publish
      · simp only [letSettle, goTo]
        -- It has dropped or has taken too long: the supervisor gives it up and lets things settle.
        rw [ledger_advance, ledger_count _ fun _ => rfl, ledger_log, ledger_log, ledger_poll answered]
        exact balanced.enter rfl (List.mem_singleton.mpr rfl) (.inr (.inl rfl))
  | awaitingDrop wait =>
    simp only [step]
    split
    · exact balanced
    · rename_i bits connection answered
      simp only [letSettle, goTo]
      rw [ledger_advance, ledger_log, ledger_poll answered]
      exact balanced.move rfl rfl
  | settling due =>
    simp only [step]
    split
    · exact balanced.disconnect
    · exact balanced
  | backingOff due =>
    simp only [step]
    split
    · simp only [nextCycle]
      rw [ledger_advance]
      exact balanced.move rfl rfl
    · exact balanced

/-- Going on with a reply keeps the ledger balanced, whatever the reply is. -/
theorem balanced_resume {request : Request} (calls : run.place = .calling request)
    (balanced : supervisor.ledger.Balanced run.place.phase run.place.pending) (reply : request.Reply) :
    (supervisor.resume agenda task run request reply).2.ledger.Balanced
      (Standing.after (supervisor.resume agenda task run request reply).1).phase
      (Standing.after (supervisor.resume agenda task run request reply).1).pending := by
  -- One case for each request, with its replies where they make a difference.
  rw [calls] at balanced
  cases request with
  | modemInit =>
    cases reply with
    | error error => exact balanced_halt balanced rfl _
    | ok start => cases start <;> exact balanced.ask (by decide)
  | registerClock =>
    have ready : (supervisor.advance agenda.now .setupSucceeded).ledger.Balanced .modemReady 0 :=
      balanced_advance balanced rfl rfl
    exact ready.ask (by decide)
  -- The setup is done, and whether the power saving mode is asked for makes no difference to the ledger.
  | transportInit =>
    rcases reply with error | ⟨⟨⟩⟩
    · exact balanced_halt balanced rfl _
    · have ready : (supervisor.advance agenda.now .setupSucceeded).ledger.Balanced .cloudClientReady 0 :=
        balanced_advance balanced rfl rfl
      simp only [resume]
      split
      · exact ready.ask (by decide)
      · exact ready.ask (by decide)
  | requestPsm =>
    cases reply with
    | error error => exact balanced_halt balanced rfl _
    | ok _ => exact balanced.ask (by decide)
  | enableEvents =>
    cases reply with
    | error error => exact balanced_halt balanced rfl _
    | ok _ => exact balanced.ask (by decide)
  -- The last request of the setup leads to the wait for the network over two phases.
  | connectNetwork =>
    cases reply with
    | error error => exact balanced_halt balanced rfl _
    | ok _ =>
      have requested : Ledger.Balanced .networkBringupRequested 0
          (supervisor.advance agenda.now .setupSucceeded).ledger := balanced_advance balanced rfl rfl
      exact balanced_advance requested rfl rfl
  | connectCloud =>
    -- Neither a failed request nor the wait that follows is in the ledger.
    have begun (asked : Supervisor) (timeout : Timeout) (same : asked.ledger = supervisor.ledger) :
        Ledger.Balanced .connectingCloud 0 { asked with connection :=
          (asked.connection.await agenda task .cloud (.any Cloud.connected) timeout).2 }.ledger := by
      rw [ledger_await, same]
      exact balanced
    rcases reply with error | ⟨⟨⟩⟩
    · exact begun (((supervisor.log .error _ _).log .info _ _).log .debug _ _) (.after _) rfl
    · exact begun ((supervisor.log .info _ _).log .debug _ _) (.after _) rfl
  | publishShadow =>
    -- The wait for the session to drop is not in the ledger.
    have begun (noted : Supervisor) {count : Metrics.Count}
        (counts : count ∈ PhaseEvent.shadowPublished.counts) (same : noted.ledger = supervisor.ledger.count count) :
        Ledger.Balanced .waitDisconnect 0 { noted.advance agenda.now .shadowPublished with connection :=
          ((noted.advance agenda.now .shadowPublished).connection.await agenda task .cloud
            (.any Cloud.disconnected) .forever).2 }.ledger := by
      rw [ledger_await, ledger_advance, same]
      exact balanced.enter rfl counts (.inr (.inr rfl))
    rcases reply with error | ⟨⟨⟩⟩
    · exact begun ((supervisor.log .error _ _).count .shadowFailed) (by decide) (ledger_count _ fun _ => rfl)
    · exact begun ((supervisor.log .info _ _).count .shadowUpdated) (by decide) (ledger_count _ fun _ => rfl)
  | disconnectCloud =>
    -- The replies to a disconnect differ in what is logged, and the reset follows on all of them.
    have noted : (supervisor.noteDisconnect reply).ledger = supervisor.ledger := by
      unfold noteDisconnect
      split <;> rfl
    have cleared : { supervisor.noteDisconnect reply with
        connection := (supervisor.noteDisconnect reply).connection.clearCloud }.ledger = supervisor.ledger :=
      (ledger_connection _ rfl).trans noted
    simp only [resume, goTo]
    rw [ledger_advance, ledger_log, ledger_count _ fun _ => rfl, cleared]
    exact balanced.reset

end Uplink.Supervisor
