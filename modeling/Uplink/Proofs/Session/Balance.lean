import Uplink.Proofs.Session.Reached
import Uplink.Proofs.Supervisor.Balance

/-! The counters of a session: one reset for each cycle, and one published shadow for each ready session. -/

namespace Uplink.Session

open Flags (Register Ticket Wait)

variable {setting : Setting} {session before after : Session}

/-! ### What goes on beside the run is not in the ledger -/

/-- What goes on beside the run leaves it where it is. -/
theorem Aside.standing {clears : Bool} (aside : Aside clears before after) :
    after.standing = before.standing := by
  -- The task is the same, and it is found with the same job.
  unfold Session.standing
  rw [aside.runTask rfl]
  cases runs : before.runTask with
  | none => rfl
  | some task => simp only [aside.lookup task runs]

/-- What goes on beside the run leaves the ledger as it is. -/
theorem Aside.ledger {clears : Bool} (aside : Aside clears before after) :
    after.supervisor.ledger = before.supervisor.ledger := by
  -- Others count nothing of the connection cycle.
  have same := aside.touches.cycle rfl
  rw [aside.supervisor rfl]
  exact Supervisor.ledger_connection _ same

/-! ### Balance -/

/-- The ledger is balanced for where the run stands. -/
def Balances (session : Session) : Prop :=
  session.supervisor.ledger.Balanced session.standing.phase session.standing.pending

/-- A fresh session has an empty ledger. -/
theorem Fresh.balances (fresh : session.Fresh) : session.Balances := by
  -- Nothing was done and nothing was counted.
  have empty : session.supervisor.ledger = {} := by
    have metrics : session.supervisor.connection.telemetry.metrics = {} := fresh.metrics
    simp [Supervisor.ledger, Supervisor.events, Supervisor.requests, fresh.phase, fresh.history, metrics]
    rfl
  have idle : session.standing = .idle := by simp [standing, fresh.runTask]
  unfold Balances
  rw [empty, idle]
  exact ⟨rfl, .opening, rfl, rfl, rfl⟩

/-- The phase of a run that is found is that of its place. -/
theorem Balances.phase_of_runs {task : TaskId} {run : Supervisor.Run} (balances : session.Balances)
    (runs : session.Runs task run) : session.supervisor.phase = run.place.phase := by
  -- A balanced ledger is in the phase of the run, and the run is at its place.
  have here : session.supervisor.phase = session.standing.phase := balances.phase
  rw [here, runs.standing]
  rfl

/-- Every stride keeps the ledger balanced. -/
theorem Balances.stride (balances : before.Balances) (staffed : before.Staffed)
    (stride : Stride setting before after) : after.Balances := by
  -- Only the steps of the run write to the ledger; each of them keeps it balanced for where it
  -- leads.
  cases stride with
  | aside aside =>
    unfold Balances
    rw [aside.standing, aside.ledger]
    exact balances
  | flush => exact balances
  | start idle =>
    -- The run begins in the phase in which the supervisor was before it.
    have standing : before.standing = .idle := by simp [Session.standing, idle]
    have started : before.start.standing = .running {} := staffed.start_runs.standing
    unfold Balances at balances ⊢
    rw [standing] at balances
    rw [started]
    exact balances
  | step head runs steps =>
    unfold Balances at balances ⊢
    rw [runs.standing] at balances
    rw [standing_carryOn runs, carryOn_supervisor]
    exact Supervisor.balanced_step balances
  | resume head runs calls reply =>
    unfold Balances at balances ⊢
    rw [runs.standing] at balances
    rw [standing_carryOn runs, carryOn_supervisor]
    exact Supervisor.balanced_resume calls balances reply
  | suspend head runs calls allowed => exact balances
  | gone head absent => exact balances

/-- Strides keep the ledger balanced. -/
theorem Balances.strides (balances : before.Balances) (staffed : before.Staffed)
    (strides : Strides setting before after) : after.Balances := by
  -- Induction on the strides.
  induction strides with
  | refl => exact balances
  | tail earlier stride ih => exact ih.stride (staffed.strides earlier) stride

/-- In every session that can be reached the ledger is balanced. -/
theorem Reached.balances (reached : Reached setting session) : session.Balances :=
  -- It is balanced when fresh, and every stride keeps it so.
  (reached.keeps (fun _ fresh => fresh.balances) fun _ _ staffed balances stride =>
    balances.stride staffed stride).2

/-! ### Calls that do not suspend -/

/-- While calls do not suspend, the supervisor's task can run whenever it waits for a reply. -/
def Attends (setting : Setting) (session : Session) : Prop :=
  setting.suspends = false → ∀ task run request, session.Runs task run → run.place = .calling request →
    task ∈ session.agenda.ready

/-- In a fresh session nobody waits for a reply. -/
theorem Fresh.attends (fresh : session.Fresh) (setting : Setting) : Attends setting session := by
  -- A fresh session has no run, and whoever waits for a reply is one.
  intro prompt task run request runs
  cases fresh.runTask.symm.trans runs.runTask

/-- The supervisor's task keeps its place when a task that has ended leaves the line. -/
theorem Runs.ready_yield {task current : TaskId} {run : Supervisor.Run} {rest : List TaskId}
    (runs : session.Runs task run) (head : session.agenda.ready = current :: rest)
    (absent : session.tasks.lookup current = none) (ready : task ∈ session.agenda.ready) :
    task ∈ session.agenda.yield.ready := by
  -- The head of the line has no task any more, so it is not the supervisor.
  rw [head] at ready
  rcases List.mem_cons.mp ready with rfl | later
  · cases absent.symm.trans runs.listed
  · simpa [Agenda.yield, head] using later

/-- Every stride keeps the supervisor's task in line while it waits for a reply. -/
theorem Attends.stride (attends : Attends setting before) (stride : Stride setting before after) :
    Attends setting after := by
  intro prompt task run request runs calls
  -- The task stands in line when its step leads to a call, and nothing but a suspension takes it
  -- away.
  cases stride with
  | aside aside =>
    have earlier := runs.of_aside aside
    exact aside.ready task earlier.runTask (attends prompt task run request earlier calls)
  | flush =>
    exact Agenda.mem_wakeAll.mpr (.inl (attends prompt task run request ⟨runs.runTask, runs.listed⟩ calls))
  | start idle =>
    obtain rfl := Option.some.inj runs.runTask
    exact List.mem_append_right _ List.mem_cons_self
  | @step current rest earlier head ran steps =>
    obtain ⟨rfl, onward⟩ := ran.of_carryOn runs
    cases progress : (before.supervisor.step before.agenda task earlier).1 with
    | next run' =>
      -- A step that leads on at once leaves its task at the head of the line.
      rw [carryOn_agenda progress, head]
      exact List.mem_cons_self
    | parked run' =>
      -- A run that does not wait for a reply does not wait for one when its step leads nowhere.
      rw [progress] at onward
      obtain rfl := Standing.running.inj onward
      obtain rfl := Supervisor.step_parked progress
      exact absurd calls (steps request)
    | done error => simp [progress, Standing.after] at onward
  | @resume current rest earlier asked head ran called reply =>
    obtain ⟨rfl, onward⟩ := ran.of_carryOn runs
    cases progress : (before.supervisor.resume before.agenda task earlier asked reply).1 with
    | next run' =>
      rw [carryOn_agenda progress, head]
      exact List.mem_cons_self
    | parked run' => exact absurd progress (Supervisor.resume_ne_parked reply)
    | done error => simp [progress, Standing.after] at onward
  | suspend head ran called allowed => simp [prompt] at allowed
  | @gone current rest head absent =>
    have earlier : before.Runs task run := ⟨runs.runTask, runs.listed⟩
    exact earlier.ready_yield head absent (attends prompt task run request earlier calls)

/-! ### The counters of a session that can be reached -/

/-- Once nobody can run any more, no request is left to be answered. -/
theorem Attends.answered (attends : Attends setting session) (staffed : session.Staffed)
    (prompt : setting.suspends = false) (quiet : session.turn? = none) : session.standing.request? = none := by
  -- A run that is calling stands in line, and nobody does.
  cases stands : session.standing with
  | idle | ended => rfl
  | running run =>
    obtain ⟨task, runs⟩ := staffed.runs_of_standing stands
    have waits : ∀ request, run.place ≠ .calling request := by
      intro request calls
      have ready := attends prompt task run request runs calls
      rw [ready_of_quiet quiet] at ready
      exact absurd ready List.not_mem_nil
    obtain ⟨cycle, place⟩ := run
    cases place with
    | calling request => exact absurd rfl (waits request)
    | _ => rfl

/-- The attempts that are counted are the connect requests of the supervisor. -/
theorem Balances.attempts (balances : session.Balances) :
    session.connection.telemetry.metrics.connectAttempts =
      .ofNat (session.supervisor.requests.count .connectCloud) := by
  -- Both are the times that the network came up or an attempt had to be made again.
  have tallied : Ledger.Tallied session.connection.telemetry.metrics.cycle session.supervisor.events :=
    balances.booked.tallied
  have connects : session.supervisor.requests.count .connectCloud =
      session.supervisor.events.count .networkUp + session.supervisor.events.count .connectTimedOut :=
    balances.connects
  exact connects ▸ tallied.attempts

/-- The resets that are counted, with the one that waits for its reply, are the disconnect requests. -/
theorem Balances.resets (balances : session.Balances) :
    session.connection.telemetry.metrics.resets + .ofNat session.standing.pending =
      .ofNat (session.supervisor.requests.count .disconnectCloud) := by
  -- What is pending makes up for the request that the reset has not counted yet.
  have tallied : Ledger.Tallied session.connection.telemetry.metrics.cycle session.supervisor.events :=
    balances.booked.tallied
  have resets : session.connection.telemetry.metrics.resets =
      .ofNat (session.supervisor.events.count .resetComplete) := tallied.resets
  rw [resets, ← UInt64.ofNat_add]
  exact congrArg UInt64.ofNat balances.disconnects.symm

/-- In every session that can be reached the counters and the calls of the transport are given by the
cycles that have ended, the attempts that were repeated, and the phase. -/
theorem Reached.cycles_balance (reached : Reached setting session) :
    let metrics := session.connection.telemetry.metrics
    let supervisor := session.supervisor
    let phase := supervisor.phase
    let cycles := supervisor.events.count .backoffElapsed
    let retries := supervisor.events.count .connectTimedOut
    metrics.connectAttempts = .ofNat (retries + cycles + phase.since .connectingCloud) ∧
    metrics.cloudConnections = .ofNat (cycles + phase.since .waitCloudReady) ∧
    metrics.cloudReady + metrics.readyTimeouts = .ofNat (cycles + phase.since .connected) ∧
    metrics.shadowUpdates + metrics.shadowFailures = metrics.cloudReady - .ofNat (phase.at .connected) ∧
    metrics.resets = .ofNat (cycles + phase.at .backoff) ∧
    metrics.phase = phase.name ∧
    metrics.phaseTransitions = .ofNat (supervisor.events.countP (· ≠ .connectTimedOut)) ∧
    metrics.connectAttempts = .ofNat (supervisor.requests.count .connectCloud) ∧
    metrics.cloudReady = .ofNat (supervisor.requests.count .publishShadow) ∧
    metrics.resets + .ofNat session.standing.pending = .ofNat (supervisor.requests.count .disconnectCloud) ∧
    (setting.suspends = false → session.turn? = none →
      metrics.resets = .ofNat (supervisor.requests.count .disconnectCloud)) := by
  intro metrics supervisor phase cycles retries
  -- Both invariants hold along every run, whoever moves.
  obtain ⟨staffed, balances⟩ := reached.keeps (fun _ fresh => fresh.balances)
    fun _ _ staffed balances stride => balances.stride staffed stride
  obtain ⟨-, attends⟩ := reached.keeps (fun _ fresh => fresh.attends setting)
    fun _ _ _ attends stride => attends.stride stride
  -- The counters are numbers of events, and the events of a cycle come in turns.
  have tallied : Ledger.Tallied metrics.cycle supervisor.events := balances.booked.tallied
  have conserved : Ledger.Conserved phase supervisor.events := balances.booked.conserved
  have attempts : metrics.connectAttempts = .ofNat (retries + cycles + phase.since .connectingCloud) := by
    have same : supervisor.events.count .networkUp + retries =
        retries + cycles + phase.since .connectingCloud := by
      have connecting := conserved.connecting
      omega
    exact same ▸ tallied.attempts
  have decided : metrics.cloudReady + metrics.readyTimeouts = .ofNat (cycles + phase.since .connected) := by
    have ready : metrics.cloudReady = _ := tallied.ready
    have timeouts : metrics.readyTimeouts = _ := tallied.timeouts
    rw [ready, timeouts, ← UInt64.ofNat_add, conserved.decided]
  have shadows : metrics.shadowUpdates + metrics.shadowFailures =
      metrics.cloudReady - .ofNat (phase.at .connected) := by
    have ready : metrics.cloudReady = _ := tallied.ready
    have shadows : metrics.shadowUpdates + metrics.shadowFailures = _ := tallied.shadows
    rw [ready, shadows, ← conserved.published, UInt64.ofNat_add, UInt64.add_sub_cancel]
  have resets : metrics.resets = .ofNat (supervisor.events.count .resetComplete) := tallied.resets
  -- The other equations are read off the invariants one by one.
  refine ⟨attempts, ?_, decided, shadows, ?_, ?_, ?_, balances.attempts, ?_, balances.resets, ?_⟩
  · exact conserved.waiting ▸ tallied.connections
  · exact conserved.reset ▸ resets
  · exact balances.booked.named.name
  · exact balances.booked.named.transitions
  · have publishes : supervisor.requests.count .publishShadow = supervisor.events.count .cloudReady :=
      balances.publishes
    exact publishes ▸ tallied.ready
  · intro prompt quiet
    -- No disconnect is pending once nobody can run any more.
    have nothing := Standing.pending_of_answered (attends.answered staffed prompt quiet)
    have resets : metrics.resets + .ofNat session.standing.pending = _ := balances.resets
    rw [← resets, nothing]
    simp

/-- After a requested disconnect and one whole cycle the second session is ready: two attempts were made,
two shadows were published, and the transport was disconnected once. -/
theorem second_session_balances :
    ∃ session, Reached ⟨false, false⟩ session ∧ session.supervisor.phase = .waitDisconnect ∧
      session.connection.telemetry.metrics.connectAttempts = .ofNat (0 + 1 + 1) ∧
      session.connection.telemetry.metrics.shadowUpdates +
        session.connection.telemetry.metrics.shadowFailures =
          session.connection.telemetry.metrics.cloudReady - .ofNat 0 ∧
      session.connection.telemetry.metrics.resets = .ofNat (1 + 0) ∧
      session.connection.telemetry.metrics.resets =
        .ofNat (session.supervisor.requests.count .disconnectCloud) := by
  -- Fifteen turns make the first session ready, and four more see the request to disconnect.
  have idle : (ofConfig (.ofAppVersion "1.0.0") 0).runTask = none := rfl
  have ready : Reached ⟨false, false⟩ _ := (Reached.start (.fresh (fresh_ofConfig _ 0)) idle).settle 15
  have allowed : Action.Aside false .requestDisconnect := trivial
  have asked : Reached ⟨false, false⟩ _ := (Reached.act ready allowed).settle 4
  -- Late events get their time, and then the pause before the next cycle passes.
  have settled : Reached ⟨false, false⟩ _ := (asked.strike 60000 (by decide)).settle 4
  have again : Reached ⟨false, false⟩ _ := (settled.strike 120000 (by decide)).settle 15
  obtain ⟨attempts, -, -, shadows, resets, -, -, -, -, -, disconnects⟩ := again.cycles_balance
  exact ⟨_, again, rfl, attempts, shadows, resets, disconnects rfl rfl⟩

end Uplink.Session
