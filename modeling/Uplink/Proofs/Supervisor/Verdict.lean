import Uplink.Proofs.Supervisor.Balance
import Uplink.Proofs.Supervisor.Vigil

/-! How the supervisor's wait for the session to become ready begins, and how it ends. -/

namespace Uplink

open Flags (Condition Register Wait)

/-- What the supervisor waits for once the transport is connected. -/
abbrev Cloud.decides : Condition :=
  .any (Cloud.ready ||| Cloud.disconnected)

/-- A wait that has just begun knows its answer if the bits have one, and stands in the list otherwise. -/
theorem Flags.Register.told_wait (register : Register) (agenda : Agenda) (task : TaskId)
    (condition : Condition) (span : Nat) :
    let after := (register.wait agenda task condition (.after span)).2
    let wait := (register.wait agenda task condition (.after span)).1
    match condition.matched after.bits with
    | some bits => wait = .answered bits
    | none => ∃ ticket, wait = .parked ticket (agenda.deadline span) ∧ after.Lists ticket task condition := by
  intro after wait
  have same : after.bits = register.bits := register.wait_bits agenda task condition (.after span)
  rw [same]
  -- Only bits that meet the condition answer a wait that may last.
  cases met : condition.matched register.bits with
  | some bits => exact congrArg Prod.fst (wait_met met agenda (.after span))
  | none =>
    have parks : register.wait agenda task condition (.after span) =
        register.park task condition (agenda.deadline span) := by simp [Register.wait, met]
    refine ⟨register.nextTicket, congrArg Prod.fst parks, ?_⟩
    have stands := lists_park register task condition (agenda.deadline span)
    rwa [← parks] at stands

namespace Supervisor

variable {supervisor : Supervisor} {agenda : Agenda} {task : TaskId} {run : Run} {wait : Wait}
  {bits : UInt32} {connection : Connection}

/-- If the step leads to the wait for the session to become ready, the wait knows its answer from the bits that
are set, or stands in the list until the deadline. -/
def Opens (agenda : Agenda) (task : TaskId) : Stepped → Prop
  | (.next run, supervisor) => ∀ wait, run.place = .awaitingReady wait →
    match Cloud.decides.matched supervisor.connection.cloud.bits with
    | some bits => wait = .answered bits
    | none => ∃ ticket, wait = .parked ticket
        (agenda.deadline (ConnectionSection.millis supervisor.config.connection.readyTimeout)) ∧
      supervisor.connection.cloud.Lists ticket task Cloud.decides
  | _ => True

/-- A step that leads somewhere else opens no wait for the session to become ready. -/
theorem opens_elsewhere {place : Place} (elsewhere : ∀ wait, place ≠ .awaitingReady wait) :
    Opens agenda task (supervisor.goTo run place) :=
  -- There is no place of the kind to speak of.
  fun wait there => absurd there (elsewhere wait)

/-- The wait for the session to become ready begins as it should. -/
theorem step_opens (supervisor : Supervisor) (agenda : Agenda) (task : TaskId) (run : Run) :
    Opens agenda task (supervisor.step agenda task run) := by
  -- Only the step that finds the transport connected opens it.
  obtain ⟨cycle, place⟩ := run
  cases place with
  | starting | cycleStart => exact opens_elsewhere (by simp)
  | calling request => exact trivial
  | awaitingNetwork waited | awaitingDrop waited =>
    simp only [step]
    split
    · exact trivial
    · exact opens_elsewhere (by simp)
  | awaitingReady waited =>
    simp only [step]
    split
    · exact trivial
    · split <;> exact opens_elsewhere (by simp)
  -- A pause opens no wait when it is over.
  | settling due =>
    simp only [step]
    split
    · exact opens_elsewhere (by simp)
    · exact trivial
  | backingOff due =>
    simp only [step]
    split
    · exact fun wait there => by cases there
    · exact trivial
  -- The transport has connected, or another attempt is made.
  | awaitingCloud waited =>
    simp only [step]
    split
    · exact trivial
    · rename_i bits connection answered
      split
      · exact opens_elsewhere (by simp)
      · simp only [goTo, Connection.awaitReady]
        intro wait there
        cases there
        let connected := ((({ supervisor with connection }.count .cloudConnectionEstablished).advance
          agenda.now .cloudConnected).log .info
            "Connected to cloud, waiting for session to become ready").log .debug "Awaiting cloud ready"
        have told := connected.connection.cloud.told_wait agenda task Cloud.decides
          (ConnectionSection.millis connected.config.connection.readyTimeout)
        exact told

/-- No reply leads to the wait for the session to become ready. -/
theorem resume_opens (supervisor : Supervisor) (agenda : Agenda) (task : TaskId) (run : Run)
    (request : Request) (reply : request.Reply) :
    Opens agenda task (supervisor.resume agenda task run request reply) := by
  -- One case for each request, with its replies where they make a difference.
  cases request with
  | modemInit | requestPsm | enableEvents | connectNetwork =>
    cases reply with
    | error error => exact trivial
    | ok value => exact fun wait there => by cases there
  | transportInit =>
    rcases reply with error | ⟨⟨⟩⟩
    · exact trivial
    · simp only [resume]
      split <;> exact opens_elsewhere (by simp)
  | registerClock | connectCloud | publishShadow | disconnectCloud => exact opens_elsewhere (by simp)

/-- As long as there is no answer the wait goes on. -/
theorem step_waits (task : TaskId) (waiting : run.place = .awaitingReady wait)
    (looked : (supervisor.connection.poll agenda .cloud wait).1 = none) :
    supervisor.step agenda task run = (.parked run, supervisor) := by
  -- The step looks at the wait before anything else, and finds no answer.
  simp only [step, waiting]
  split
  · rfl
  · rename_i answered
    rw [answered] at looked
    cases looked

/-- The answer to the wait decides whether the shadow is published or the connection is reset. -/
theorem step_decides (task : TaskId) (waiting : run.place = .awaitingReady wait)
    (phase : supervisor.phase = .waitCloudReady)
    (looked : supervisor.connection.poll agenda .cloud wait = (some bits, connection)) :
    (supervisor.step agenda task run).2.phase = (if bits = Cloud.ready then .connected else .resetting) ∧
      (supervisor.step agenda task run).2.events =
        (if bits = Cloud.ready then .cloudReady else .readyTimedOut) :: supervisor.events := by
  have here : supervisor.ledger.phase = .waitCloudReady := phase
  -- What the ledger says of a supervisor is what the supervisor says itself.
  have entered : (supervisor.step agenda task run).2.ledger.phase =
        (if bits = Cloud.ready then .connected else .resetting) ∧
      (supervisor.step agenda task run).2.ledger.events =
        (if bits = Cloud.ready then .cloudReady else .readyTimedOut) :: supervisor.ledger.events := by
    simp only [step, waiting, looked]
    split
    · -- Ready: the shadow is to be published.
      rw [ledger_ask, ledger_indicate, ledger_advance, ledger_count _ fun _ => rfl, ledger_log,
        ledger_poll looked]
      have leads : (supervisor.ledger.count .cloudReady).phase.next? .cloudReady = some .connected := by
        rw [Ledger.count_phase, here]
        rfl
      rw [Ledger.advance_eq leads]
      exact ⟨rfl, rfl⟩
    · -- Not ready: the connection is to be reset.
      simp only [letSettle, goTo]
      rw [ledger_advance, ledger_count _ fun _ => rfl, ledger_log, ledger_log, ledger_poll looked]
      have leads : (supervisor.ledger.count .readyTimeout).phase.next? .readyTimedOut = some .resetting := by
        rw [Ledger.count_phase, here]
        rfl
      rw [Ledger.advance_eq leads]
      exact ⟨rfl, rfl⟩
  exact entered

end Supervisor

/-! ### One decision in a cycle -/

/-- A stretch of a cycle is passed once at most. -/
theorem Phase.since_le (phase first : Phase) : phase.since first ≤ 1 := by
  -- It is one where the phase comes after the first, and none before.
  unfold Phase.since
  split <;> decide

/-- The decision that ends the wait for the session to become ready is the only one of its cycle. -/
theorem Ledger.decided_once {opening closing : Phase} {first waiting last : List PhaseEvent} {event : PhaseEvent}
    (conserved : Conserved opening first) (conserved' : Conserved .waitCloudReady waiting)
    (conserved'' : Conserved closing last) (earlier : first <:+ waiting) (later : event :: waiting <:+ last)
    (cycle : first.count .backoffElapsed = last.count .backoffElapsed)
    (decides : event = .cloudReady ∨ event = .readyTimedOut) :
    last.count .cloudReady = first.count .cloudReady + (if event == .cloudReady then 1 else 0) ∧
      last.count .readyTimedOut = first.count .readyTimedOut + (if event == .readyTimedOut then 1 else 0) := by
  -- In the cycle of the wait nothing was decided before it.
  have open' : waiting.count .cloudReady + waiting.count .readyTimedOut = waiting.count .backoffElapsed + 0 :=
    conserved'.decided
  have once := closing.since_le .connected
  have sum := conserved.decided
  have sum' := conserved''.decided
  -- Nothing that was decided is forgotten.
  have grows (other : PhaseEvent) := earlier.sublist.count_le other
  have grows' (other : PhaseEvent) := later.sublist.count_le other
  have ready := grows .cloudReady
  have timeout := grows .readyTimedOut
  have elapsed := grows .backoffElapsed
  have ready' := grows' .cloudReady
  have timeout' := grows' .readyTimedOut
  have elapsed' := grows' .backoffElapsed
  rw [List.count_cons] at ready' timeout' elapsed'
  rcases decides with rfl | rfl <;> simp only [reduceCtorEq, beq_iff_eq, if_true, if_false] at * <;> omega

end Uplink
