import Uplink.Proofs.Session.Balance
import Uplink.Proofs.Supervisor.Vigil

/-! The supervisor never sleeps on a signal that is already there. -/

namespace Uplink.Session

open Flags (Covers Register)

variable {setting : Setting} {session before after : Session} {task : TaskId} {run : Supervisor.Run}

/-- The task stands in line, or is to be woken before the next turn. -/
def Awake (session : Session) (task : TaskId) : Prop :=
  task ∈ session.agenda.ready ∨ task ∈ session.connection.woken

/-- What goes on beside the run leaves its task awake. -/
theorem Awake.aside {clears : Bool} (awake : before.Awake task) (runs : before.Runs task run)
    (aside : Aside clears before after) : after.Awake task :=
  -- Whoever was in line still is, and whoever was to be woken still is.
  awake.imp (aside.ready task runs.runTask) aside.touches.woken

/-- The run waits for a reply that may take its time. -/
def Suspended (setting : Setting) (run : Supervisor.Run) : Prop :=
  setting.suspends = true ∧ ∃ request, run.place = .calling request

/-- The run of the supervisor, wherever it is, misses nothing; only a call may keep it from its work. -/
def Vigils (setting : Setting) (session : Session) : Prop :=
  ∀ task run, session.Runs task run →
    run.place.Vigil session.connection (session.Awake task ∨ Suspended setting run) task

/-- In a fresh session there is no run that could miss anything. -/
theorem Fresh.vigils (fresh : session.Fresh) (setting : Setting) : Vigils setting session := by
  -- A fresh session has no run.
  intro task run runs
  cases fresh.runTask.symm.trans runs.runTask

/-- A step of the run that misses nothing leaves a run that misses nothing. -/
theorem vigils_carryOn {stepped : Supervisor.Stepped} {rest : List TaskId}
    (head : before.agenda.ready = task :: rest) (ran : before.Runs task run)
    (vigilant : Supervisor.Vigilant task stepped) : Vigils setting (before.carryOn task stepped) := by
  -- The run that is found after the step is the one that the step led to.
  intro other onward runs
  obtain ⟨rfl, onto⟩ := ran.of_carryOn runs
  have connection : (before.carryOn other stepped).connection = stepped.2.connection :=
    congrArg Supervisor.connection (carryOn_supervisor before other stepped)
  rw [connection]
  obtain ⟨progress, supervisor⟩ := stepped
  cases progress with
  | next run' =>
    -- The task keeps its place at the head of the line.
    obtain rfl := Standing.running.inj onto
    have awake : (before.carryOn other (.next run', supervisor)).Awake other := by
      refine .inl ?_
      rw [carryOn_agenda rfl, head]
      exact List.mem_cons_self
    exact vigilant.mono fun _ => .inl awake
  | parked run' =>
    obtain rfl := Standing.running.inj onto
    exact vigilant.mono False.elim
  | done error => cases onto

/-- Every stride leaves a run that misses nothing. -/
theorem Vigils.stride (vigils : Vigils setting before) (staffed : before.Staffed)
    (keeps : setting.clears = false) (stride : Stride setting before after) : Vigils setting after := by
  cases stride with
  | aside aside =>
    -- The others neither hold the wait of the run nor take it out of the line.
    intro task run runs
    have earlier := runs.of_aside aside
    have listed := Entries.mem_of_lookup earlier.listed
    let ready := Suspended setting run ∨ task ∈ before.agenda.ready
    have vigil : run.place.Vigil before.connection (ready ∨ task ∈ before.connection.woken) task := by
      refine (vigils task run earlier).mono ?_
      rintro ((up | woken) | suspended)
      · exact .inl (.inr up)
      · exact .inr woken
      · exact .inl (.inl suspended)
    have kept := vigil.touches aside.touches keeps (staffed.apart _ listed earlier.runTask)
      (staffed.held _ listed earlier.runTask)
    refine kept.mono ?_
    rintro ((suspended | up) | woken)
    · exact .inr suspended
    · exact .inl (.inl (aside.ready task earlier.runTask up))
    · exact .inl (.inr woken)
  | flush =>
    intro task run runs
    have earlier := vigils task run ⟨runs.runTask, runs.listed⟩
    -- Those who were to be woken stand in line now.
    have awake : before.Awake task → before.flush.Awake task :=
      fun awake => .inl (Agenda.mem_wakeAll.mpr awake)
    have moved : run.place.Vigil before.connection (before.flush.Awake task ∨ Suspended setting run) task :=
      earlier.mono (.imp_left awake)
    exact { moved with heeds := fun name => by cases name <;> exact moved.heeds _ }
  | start idle =>
    intro task run runs
    -- A new run has work to do, and its task stands in line.
    have started := staffed.start_runs
    obtain rfl := Option.some.inj (started.runTask.symm.trans runs.runTask)
    obtain rfl := Standing.running.inj (started.standing.symm.trans runs.standing)
    have awake : before.start.Awake before.agenda.unused :=
      .inl (List.mem_append_right _ List.mem_cons_self)
    have busy : Supervisor.Place.starting.Vigil before.start.connection True before.agenda.unused :=
      .busy rfl rfl
    exact busy.mono fun _ => .inl awake
  -- A step and a reply find the task at the head of the line, so it is awake.
  | step head runs steps =>
    have awake := (vigils _ _ runs).mono fun _ => trivial
    exact vigils_carryOn head runs (Supervisor.step_vigilant before.agenda staffed.orderly steps awake)
  | resume head runs calls reply =>
    have awake := (vigils _ _ runs).mono fun _ => trivial
    exact vigils_carryOn head runs (Supervisor.resume_vigilant before.agenda calls awake reply)
  | @suspend current rest earlier request head ran called allowed =>
    intro task run runs
    -- The run that leaves the line is the one that waits for the reply.
    have ran' : before.Runs task run := ⟨runs.runTask, runs.listed⟩
    obtain rfl := Standing.running.inj (ran'.standing.symm.trans ran.standing)
    exact (vigils task run ran').mono fun _ => .inr ⟨allowed, request, called⟩
  | @gone current rest head absent =>
    intro task run runs
    have earlier : before.Runs task run := ⟨runs.runTask, runs.listed⟩
    exact (vigils task run earlier).mono (.imp_left (.imp_left (earlier.ready_yield head absent)))

/-- In a session that can be reached the run of the supervisor misses nothing. -/
theorem Reached.vigils (reached : Reached setting session) (keeps : setting.clears = false) :
    Vigils setting session :=
  -- It holds in a fresh session, and every stride keeps it.
  (reached.keeps (fun _ fresh => fresh.vigils setting) fun _ _ staffed vigils stride =>
    vigils.stride staffed keeps stride).2

/-- Where no task can run the supervisor sleeps, unless it waits for a reply. -/
theorem Reached.rests (reached : Reached setting session) (keeps : setting.clears = false)
    (quiet : session.turn? = none) (runs : session.Runs task run) :
    run.place.Vigil session.connection (Suspended setting run) task := by
  -- Nobody is awake where no task can run.
  refine (reached.vigils keeps task run runs).mono ?_
  rintro ((ready | woken) | suspended)
  · simp [ready_of_quiet quiet] at ready
  · simp [reached.woken] at woken
  · exact suspended

/-- While calls do not suspend, the run of the supervisor sleeps where no task can run. -/
theorem Reached.asleep (reached : Reached ⟨false, false⟩ session) (quiet : session.turn? = none)
    (runs : session.Runs task run) : run.place.Vigil session.connection False task :=
  -- Nobody is suspended where calls do not suspend.
  (reached.rests rfl quiet runs).mono fun suspended => absurd suspended.1 (by simp)

/-! ### What is there while everything sleeps -/

/-- The bits that a sleeping supervisor has seen in a phase are set, and those that would wake it are not. -/
def Unsignalled (connection : Connection) : Phase → Prop
  | .waitNetwork => connection.network.isSet Network.connected = false
  | .connectingCloud => connection.cloud.isSet Cloud.connected = false
  | .waitCloudReady => connection.cloud.isSet Cloud.connected = true ∧
      connection.cloud.isSet Cloud.ready = false ∧ connection.cloud.isSet Cloud.disconnected = false
  | .waitDisconnect => connection.cloud.isSet Cloud.connected = true ∧
      connection.cloud.isSet Cloud.ready = true ∧ connection.cloud.isSet Cloud.disconnected = false
  | .connected => False
  | _ => True

/-- A run that sleeps has no signal to act on, whatever its place. -/
theorem unsignalled_of_asleep {place : Supervisor.Place} {connection : Connection}
    (ordered : ∀ name, (connection.register name).Orderly) (asleep : place.Vigil connection False task) :
    Unsignalled connection place.phase := by
  -- No bit of a mask is set while a wait for any of them goes on.
  have clear : ∀ mask wait, place.wait? = some (.cloud, .any mask, wait) → ∀ bit, mask &&& bit = bit →
      connection.cloud.isSet bit = false := by
    intro mask wait waits bit within
    have unmet := (asleep.heeds .cloud _ wait waits).unmet (ordered .cloud)
    have none : connection.cloud.bits &&& mask = 0 := Flags.Condition.any_unmet unmet
    have without : connection.cloud.bits &&& bit = 0 := by
      rw [← within, ← UInt32.and_assoc, none, UInt32.zero_and]
    simp [Register.isSet, without]
  -- A part of what the run has seen is still there.
  have seen : ∀ bit, bit ≠ 0 → place.seen &&& bit = bit → connection.cloud.isSet bit = true := by
    intro bit some within
    exact Covers.isSet (within ▸ asleep.seen.part bit) some
  -- Where there is work to do the run would be awake, and the two pauses wait for no signal.
  cases place with
  | starting | calling request | cycleStart => exact (asleep.works trivial).elim
  | awaitingNetwork wait =>
    -- The mask of the network register is one bit, so a wait for all of it sees none of it.
    have unmet : (Flags.Condition.all Network.connected).matched connection.network.bits = none :=
      (asleep.heeds .network _ wait rfl).unmet (ordered .network)
    have unset : connection.network.bits &&& Network.connected ≠ Network.connected := by
      simpa [Flags.Condition.matched] using unmet
    have without : connection.network.bits &&& Network.connected = 0 :=
      (Flags.single_bit connection.network.bits (by decide : Network.connected.toNat = 2 ^ 1)).resolve_right unset
    simp [Unsignalled, Supervisor.Place.phase, Register.isSet, without]
  | awaitingCloud wait => exact clear _ wait rfl _ UInt32.and_self
  | awaitingReady wait =>
    refine ⟨seen _ (by decide) UInt32.and_self, ?_, ?_⟩
    · exact clear _ wait rfl _ (by decide)
    · exact clear _ wait rfl _ (by decide)
  | awaitingDrop wait =>
    have connected : (Cloud.connected ||| Cloud.ready) &&& Cloud.connected = Cloud.connected := by decide
    have ready : (Cloud.connected ||| Cloud.ready) &&& Cloud.ready = Cloud.ready := by decide
    exact ⟨seen _ (by decide) connected, seen _ (by decide) ready, clear _ wait rfl _ UInt32.and_self⟩
  | settling due | backingOff due => exact trivial

/-- In every session that can be reached while calls do not suspend and nobody else clears the cloud
register, the signal that the phase waits for is not there when no task can run. -/
theorem Reached.sleeps_on_no_signal (reached : Reached ⟨false, false⟩ session) (quiet : session.turn? = none) :
    let phase := session.supervisor.phase
    let network := session.connection.network
    let cloud := session.connection.cloud
    (phase = .waitNetwork → network.isSet Network.connected = false) ∧
    (phase = .connectingCloud → cloud.isSet Cloud.connected = false) ∧
    (phase = .waitCloudReady → cloud.isSet Cloud.connected = true ∧ cloud.isSet Cloud.ready = false ∧
      cloud.isSet Cloud.disconnected = false) ∧
    (phase = .waitDisconnect → cloud.isSet Cloud.connected = true ∧ cloud.isSet Cloud.ready = true ∧
      cloud.isSet Cloud.disconnected = false) ∧
    phase ≠ .connected := by
  intro phase network cloud
  obtain ⟨staffed, balances⟩ := reached.keeps (fun _ fresh => fresh.balances)
    fun _ _ staffed balances stride => balances.stride staffed stride
  -- The phase is that of the place at which the run stands, and the run sleeps there.
  have here : phase = session.standing.phase := balances.phase
  have unsignalled : Unsignalled session.connection phase := by
    rw [here]
    cases stands : session.standing with
    | idle | ended => exact trivial
    | running run =>
      obtain ⟨task, runs⟩ := staffed.runs_of_standing stands
      exact unsignalled_of_asleep staffed.orderly (reached.asleep quiet runs)
  refine ⟨?_, ?_, ?_, ?_, ?_⟩ <;> (intro same; rw [same] at unsignalled; exact unsignalled)

/-- Once the first session is ready and nothing is left to do, the transport is connected and the session
is ready, and nobody has asked for a disconnect. -/
theorem ready_session_sleeps :
    ∃ session, Reached ⟨false, false⟩ session ∧ session.turn? = none ∧
      session.supervisor.phase = .waitDisconnect ∧ session.connection.cloud.isSet Cloud.connected = true ∧
      session.connection.cloud.isSet Cloud.ready = true ∧
      session.connection.cloud.isSet Cloud.disconnected = false := by
  have idle : (ofConfig (.ofAppVersion "1.0.0") 0).runTask = none := rfl
  -- Twenty turns are more than the first session takes to be ready.
  have ready : Reached ⟨false, false⟩ _ := (Reached.start (.fresh (fresh_ofConfig _ 0)) idle).settle 20
  -- The general statement says what it means that nothing is left to do in this phase.
  obtain ⟨-, -, -, waiting, -⟩ := ready.sleeps_on_no_signal rfl
  exact ⟨_, ready, rfl, rfl, waiting rfl⟩

end Uplink.Session
