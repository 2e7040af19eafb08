import Uplink.Proofs.Alongside

/-! Two supervisors whose connections differ in their journals only take the same steps. -/

namespace Uplink

open Flags (Timeout Wait)

/-- The other supervisor is the same, apart from the journal of its connection and so many more forced disconnects. -/
def Supervisor.Echoes (extra : Nat) (one other : Supervisor) : Prop :=
  ∃ connection : Connection, one.connection.Echoes extra connection ∧ other = { one with connection }

namespace Supervisor.Echoes

variable {one other : Supervisor} {extra : Nat} (echoes : one.Echoes extra other)
include echoes

/-- The connections are the same, apart from their journals. -/
theorem shared : one.connection.Echoes extra other.connection := by
  -- The other supervisor is the first one with this connection.
  obtain ⟨connection, same, rfl⟩ := echoes
  exact same

/-- The configurations are the same. -/
theorem config : other.config = one.config := by
  -- The supervisors differ in the connection only.
  obtain ⟨connection, -, rfl⟩ := echoes
  rfl

/-- Connections that are alike, put in, make no difference. -/
theorem setConnection {connection connection' : Connection} (same : connection.Echoes extra connection') :
    Supervisor.Echoes extra { one with connection } { other with connection := connection' } := by
  -- The old connection of the other is overwritten, so it does not matter how much it was ahead.
  obtain ⟨_, -, rfl⟩ := echoes
  exact ⟨connection', same, rfl⟩

/-- An entry in both journals makes no difference. -/
theorem log (level : Level) (message : String) (fields : Fields) :
    (one.log level message fields).Echoes extra (other.log level message fields) :=
  -- The entry goes to the connection.
  echoes.setConnection (echoes.shared.log level message fields)

/-- What is counted in both makes no difference. -/
theorem count (event : Metrics.Count) (kept : event ≠ .reset) :
    (one.count event).Echoes extra (other.count event) :=
  -- The count goes to the connection.
  echoes.setConnection (echoes.shared.count event kept)

/-- What is shown at both makes no difference. -/
theorem indicate (indication : Indication) (always : Bool) :
    (one.indicate indication always).Echoes extra (other.indicate indication always) := by
  -- What is shown depends on the configuration, which is the same.
  unfold Supervisor.indicate
  rw [echoes.config]
  exact echoes.log _ _ _

/-- Both move to the same phase. -/
theorem advance (now : Nat) (event : PhaseEvent) : (one.advance now event).Echoes extra (other.advance now event) := by
  -- The phases are the same, so the event leads to the same one; what is logged and counted of it goes to the
  -- connections.
  obtain ⟨connection, same, rfl⟩ := echoes
  unfold Supervisor.advance
  dsimp only
  split
  · exact ⟨_, same.log _ _ _, rfl⟩
  · split
    · exact ⟨_, same.count (.setPhase _) nofun, rfl⟩
    · exact ⟨_, (same.log _ _ _).count (.setPhase _) nofun, rfl⟩

/-- Both go on from the same place. -/
theorem goTo (run : Run) (place : Place) :
    Paired (Supervisor.Echoes extra) (one.goTo run place) (other.goTo run place) :=
  -- The place is given and does not depend on the supervisor.
  .intro echoes

/-- Both ask for the same. -/
theorem ask (agenda : Agenda) (run : Run) (request : Request) :
    Paired (Supervisor.Echoes extra) (one.ask agenda run request) (other.ask agenda run request) := by
  -- The request is entered in the history, which the two share.
  obtain ⟨connection, same, rfl⟩ := echoes
  exact .intro ⟨connection, same, rfl⟩

/-- Both stop for the same reason. -/
theorem halt (agenda : Agenda) (error : SetupError) :
    Paired (Supervisor.Echoes extra) (one.halt agenda error) (other.halt agenda error) :=
  -- The error is logged in both before they stop.
  .intro (((echoes.log _ _ _).advance _ _).indicate _ _)

/-- Both ask the transport to connect. -/
theorem attempt (agenda : Agenda) (run : Run) :
    Paired (Supervisor.Echoes extra) (one.attempt agenda run) (other.attempt agenda run) :=
  -- The attempt is counted in both before they ask.
  (echoes.count .connectAttempt nofun).ask agenda run .connectCloud

/-- Both let late events arrive for as long. -/
theorem letSettle (agenda : Agenda) (run : Run) :
    Paired (Supervisor.Echoes extra) (one.letSettle agenda run) (other.letSettle agenda run) := by
  -- The time is that of the configuration, which is the same.
  unfold Supervisor.letSettle
  rw [echoes.config]
  exact echoes.goTo _ _

/-- Both have the same modem. -/
theorem noteModemStart (start : ModemStart) :
    (one.noteModemStart start).Echoes extra (other.noteModemStart start) := by
  -- One entry for each way to start.
  cases start <;> exact echoes.log _ _ _

/-- Both have disconnected, or neither has. -/
theorem noteDisconnect (result : Except TransportError Unit) :
    (one.noteDisconnect result).Echoes extra (other.noteDisconnect result) := by
  -- A failure is logged in another way than a success, and both have the same reply.
  unfold Supervisor.noteDisconnect
  split <;> exact echoes.log _ _ _

/-- A wait that both begin leads them to the same place. -/
theorem wait {begun begun' : Wait × Connection} (awaits : Paired (Connection.Echoes extra) begun begun') (run : Run)
    (place : Wait → Place) :
    Paired (Supervisor.Echoes extra) (Supervisor.goTo { one with connection := begun.2 } run (place begun.1))
      (Supervisor.goTo { other with connection := begun'.2 } run (place begun'.1)) := by
  -- The waits are the same, so the places are.
  cases awaits with
  | intro same => exact (echoes.setConnection same).goTo _ _

/-- Both begin to wait for the session, for as long. -/
theorem waitReady (agenda : Agenda) (task : TaskId) (run : Run) :
    let timeout (supervisor : Supervisor) :=
      -- The timeout is that of the configuration, which is a part of the supervisors in which they agree.
      Timeout.after (ConnectionSection.millis supervisor.config.connection.readyTimeout)
    let begun (supervisor : Supervisor) := supervisor.connection.awaitReady agenda task (timeout supervisor) true
    Paired (Supervisor.Echoes extra)
      (Supervisor.goTo { one with connection := (begun one).2 } run (.awaitingReady (begun one).1))
      (Supervisor.goTo { other with connection := (begun other).2 } run (.awaitingReady (begun other).1)) := by
  obtain ⟨connection, same, rfl⟩ := echoes
  exact wait ⟨connection, same, rfl⟩ (same.awaitReady agenda task _ true) run .awaitingReady

/-- Both begin to wait for the transport, for as long. -/
theorem waitCloud (agenda : Agenda) (task : TaskId) (run : Run) :
    let retry (supervisor : Supervisor) := supervisor.config.connection.retryTimeout
    let logged (supervisor : Supervisor) :=
      supervisor.log .info "Waiting for cloud connection" [("retry_timeout_secs", .int (retry supervisor).toNat)]
    let begun (supervisor : Supervisor) := (logged supervisor).connection.awaitCloud agenda task
      (.after (ConnectionSection.millis (retry supervisor)))
    Paired (Supervisor.Echoes extra)
      (Supervisor.goTo { logged one with connection := (begun one).2 } run (.awaitingCloud (begun one).1))
      (Supervisor.goTo { logged other with connection := (begun other).2 } run (.awaitingCloud (begun other).1)) := by
  obtain ⟨connection, same, rfl⟩ := echoes
  -- The entry tells the timeout of the configuration, the same for both.
  have logged := same.log .info "Waiting for cloud connection"
    [("retry_timeout_secs", .int one.config.connection.retryTimeout.toNat)]
  exact wait ⟨_, logged, rfl⟩ (logged.awaitCloud agenda task _) run .awaitingCloud

/-- Both pause for as long. -/
theorem backOff (agenda : Agenda) (run : Run) :
    let pause (supervisor : Supervisor) := ConnectionSection.millis supervisor.config.connection.reestablishDelay
    Paired (Supervisor.Echoes extra) (one.goTo run (.backingOff (agenda.deadline (pause one))))
      (other.goTo run (.backingOff (agenda.deadline (pause other)))) := by
  -- The time is that of the configuration, which is the same.
  dsimp only
  rw [echoes.config]
  exact echoes.goTo _ _

/-- Both take the same step. -/
theorem step (agenda : Agenda) (task : TaskId) (run : Run) :
    Paired (Supervisor.Echoes extra) (one.step agenda task run) (other.step agenda task run) := by
  obtain ⟨cycle, place⟩ := run
  have looks (name : RegisterName) (wait : Wait) := echoes.shared.poll agenda name wait
  -- What a step goes by are the registers, which are the same in both; every deed that follows is alike.
  cases place with
  | starting => exact ((echoes.indicate _ _).log _ _ _).ask _ _ _
  | calling request => exact .intro echoes
  | cycleStart =>
    have waits := (echoes.log .info "Waiting for connection to network..." []).indicate .waiting false
    exact waits.wait (waits.shared.awaitNetwork agenda task .forever) _ .awaitingNetwork
  -- Each wait is looked at in the same way, and its answer taken apart where there is one.
  | awaitingNetwork wait =>
    have polled := looks .network wait
    simp only [Supervisor.step]
    generalize one.connection.poll agenda .network wait = looked,
      other.connection.poll agenda .network wait = looked' at polled
    cases polled with | @intro answer _ _ same => ?_
    cases answer with
    | none => exact .intro echoes
    | some bits => exact ((((echoes.setConnection same).log _ _ _).advance _ _).log _ _ _).attempt _ _
  | awaitingCloud wait =>
    have polled := looks .cloud wait
    simp only [Supervisor.step]
    generalize one.connection.poll agenda .cloud wait = looked,
      other.connection.poll agenda .cloud wait = looked' at polled
    cases polled with | @intro answer _ _ same => ?_
    cases answer with
    | none => exact .intro echoes
    | some bits =>
      have found := echoes.setConnection same
      dsimp only
      split
      · exact ((found.log _ _ _).advance _ _).attempt _ _
      · exact (((found.count .cloudConnectionEstablished nofun).advance _ _).log _ _ _).waitReady
          agenda task _
  | awaitingReady wait =>
    have polled := looks .cloud wait
    simp only [Supervisor.step]
    generalize one.connection.poll agenda .cloud wait = looked,
      other.connection.poll agenda .cloud wait = looked' at polled
    cases polled with | @intro answer _ _ same => ?_
    cases answer with
    | none => exact .intro echoes
    | some bits =>
      have found := echoes.setConnection same
      dsimp only
      split
      · exact ((((found.log _ _ _).count .cloudReady nofun).advance _ _).indicate _ _).ask _ _ _
      · exact ((((found.log _ _ _).log _ _ _).count .readyTimeout nofun).advance _ _).letSettle _ _
  | awaitingDrop wait =>
    have polled := looks .cloud wait
    simp only [Supervisor.step]
    generalize one.connection.poll agenda .cloud wait = looked,
      other.connection.poll agenda .cloud wait = looked' at polled
    cases polled with | @intro answer _ _ same => ?_
    cases answer with
    | none => exact .intro echoes
    | some bits => exact (((echoes.setConnection same).log _ _ _).advance _ _).letSettle _ _
  -- The pauses go by the clock, which is the same in both.
  | settling due =>
    simp only [Supervisor.step]
    split
    · exact (echoes.log _ _ _).ask _ _ _
    · exact .intro echoes
  | backingOff due =>
    simp only [Supervisor.step]
    split
    · exact .intro (echoes.advance _ _)
    · exact .intro echoes

/-- Both go on alike with the same reply. -/
theorem resume (agenda : Agenda) (task : TaskId) (run : Run) (request : Request) (reply : request.Reply) :
    Paired (Supervisor.Echoes extra) (one.resume agenda task run request reply)
      (other.resume agenda task run request reply) := by
  -- The reply is the same in both, so the same branch is taken; every deed in it is alike.
  cases request with
  | modemInit =>
    rcases reply with error | start
    · exact echoes.halt _ _
    · exact (echoes.noteModemStart start).ask _ _ _
  | registerClock => exact ((echoes.advance _ _).log _ _ _).ask _ _ _
  -- What is asked next goes by the configuration, which is the same in both.
  | transportInit =>
    rcases reply with error | ⟨⟨⟩⟩
    · exact echoes.halt _ _
    · have ready := (echoes.advance agenda.now .setupSucceeded).log .info "Setting up network..." []
      simp only [Supervisor.resume, ready.config]
      split
      · exact (ready.log _ _ _).ask _ _ _
      · exact ready.ask _ _ _
  | requestPsm =>
    rcases reply with error | ⟨⟨⟩⟩
    · exact echoes.halt _ _
    · exact (echoes.log _ _ _).ask _ _ _
  | enableEvents =>
    rcases reply with error | ⟨⟨⟩⟩
    · exact echoes.halt _ _
    · exact (echoes.log _ _ _).ask _ _ _
  | connectNetwork =>
    rcases reply with error | ⟨⟨⟩⟩
    · exact echoes.halt _ _
    · exact .intro (((echoes.advance _ _).advance _ _).log _ _ _)
  | connectCloud =>
    rcases reply with error | ⟨⟨⟩⟩
    · exact (echoes.log _ _ _).waitCloud agenda task run
    · exact echoes.waitCloud agenda task run
  | publishShadow =>
    have published := (echoes.setConnection (echoes.shared.notePublish reply)).advance agenda.now .shadowPublished
    exact published.wait (published.shared.await agenda task .cloud _ .forever) run .awaitingDrop
  -- The reset clears the register in both.
  | disconnectCloud =>
    have noted := echoes.noteDisconnect reply
    have cleared := (((noted.setConnection (noted.shared.clear .cloud)).count .resetPerformed nofun).log
      .info "Cloud connection state reset" []).advance agenda.now .resetComplete
    exact cleared.backOff agenda run

/-- A run that is given up is given up in both. -/
theorem abandon (run : Run) : (one.abandon run).Echoes extra (other.abandon run) := by
  -- Four places hold a wait, which is given up in both; the others hold none.
  unfold Supervisor.abandon
  split
  · exact echoes.setConnection (echoes.shared.abandon _ _)
  · exact echoes.setConnection (echoes.shared.abandon _ _)
  · exact echoes.setConnection (echoes.shared.abandon _ _)
  · exact echoes.setConnection (echoes.shared.abandon _ _)
  · exact echoes

end Supervisor.Echoes

end Uplink
