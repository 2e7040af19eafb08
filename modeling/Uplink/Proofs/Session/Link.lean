import Uplink.Proofs.Session.Program
import Uplink.Proofs.Supervisor.Grounded

/-! No session outlives its link: a link that is lost is noticed by the monitor while the transport is
connected, and by the supervisor before it goes past the network again. Between the two a loss goes
unnoticed, until the session ends: the next one has to wait for the network. -/

namespace Uplink.Session

open Flags (Covers Register Ticket)

variable {setting : Setting} {session before middle after last : Session} {task : TaskId}
  {run : Supervisor.Run}

/-! ### Links that are cut -/

/-- The link is down, and the session is being disconnected or the run has not got past the network. -/
structure Cut (session : Session) : Prop where
  clear : session.connection.network.isSet Network.connected = false
  noticed : session.connection.isDisconnecting = true ∨
    ∀ task run, session.Runs task run → run.place.Grounded session.connection task

/-- A step of a grounded run leaves it grounded. -/
theorem grounded_carryOn {stepped : Supervisor.Stepped} (ran : session.Runs task run)
    (stays : Supervisor.Stays task stepped) {other : TaskId} {onward : Supervisor.Run}
    (runs : ((session.carryOn task stepped).within []).Runs other onward) :
    onward.place.Grounded ((session.carryOn task stepped).within []).connection other := by
  -- The run that is found after the step is the one that the step led to.
  obtain ⟨rfl, onto⟩ := ran.of_carryOn runs.of_within
  have inside : onward.place.Grounded (session.carryOn other stepped).connection other := by
    rw [connection, carryOn_supervisor]
    obtain ⟨progress, supervisor⟩ := stepped
    cases progress with
    | next run' | parked run' =>
      obtain rfl := Standing.running.inj onto
      exact stays
    | done error => cases onto
  exact inside

/-- Those who move to the line are no matter of the registers. -/
theorem grounded_flush {place : Supervisor.Place} :
    place.Grounded session.flush.connection task ↔ place.Grounded session.connection task :=
  -- Both sides read the same registers.
  Iff.rfl

/-- What goes on beside a grounded run leaves it grounded as long as the network is not back. -/
theorem Informs.grounded (informs : before.Informs after) (staffed : before.Staffed)
    (runs : before.Runs task run) (clear : after.connection.network.isSet Network.connected = false)
    (grounded : run.place.Grounded before.connection task) :
    run.place.Grounded after.connection task := by
  -- Only the wait for the network looks at a register.
  have listed := Entries.mem_of_lookup runs.listed
  have apart := staffed.apart _ listed runs.runTask
  have issued := staffed.held _ listed runs.runTask
  obtain ⟨cycle, place⟩ := run
  cases place with
  | awaitingNetwork wait =>
    obtain ⟨ticket, rfl, stands⟩ := grounded
    rcases informs .network _ ticket task trivial (apart .network ticket ⟨rfl, rfl⟩)
      (issued .network ticket ⟨rfl, rfl⟩) stands with still | ⟨-, bits, met, -⟩
    · exact ⟨ticket, rfl, still⟩
    · -- Nobody is told of a network that is not there.
      rw [show (after.connection.register .network).bits = after.connection.network.bits from rfl,
        Supervisor.unmet_of_clear clear] at met
      cases met
  | awaitingCloud _ | awaitingReady _ | awaitingDrop _ => exact grounded.elim
  | calling request => cases request <;> first | exact trivial | exact grounded.elim
  | starting | cycleStart | settling _ | backingOff _ => exact trivial

/-- What happens next leaves a link that is cut noticed as long as the network is not back. -/
theorem Cut.happens (cut : before.Cut) (staffed : before.Staffed) (balances : before.Balances)
    (keeps : setting.clears = false) (happens : Happens setting before after)
    (clear : after.connection.network.isSet Network.connected = false) : after.Cut := by
  refine ⟨clear, ?_⟩
  rcases cut.noticed with disconnecting | grounded
  · -- The bit is kept, or the reset that clears it begins a pause.
    rcases happens.keeps balances keeps with kept | resets
    · exact .inl (kept.keeps_set disconnecting)
    · obtain ⟨task, rest, run, due, -, -, -, onward⟩ := resets.returned
      refine .inr fun other found runs => ?_
      obtain rfl := Standing.running.inj (runs.standing.symm.trans onward.standing)
      exact trivial
  · refine .inr ?_
    cases happens with
    | beside aside informs =>
      intro task run runs
      have earlier := runs.of_aside aside
      exact informs.grounded staffed earlier clear (grounded task run earlier)
    | start idle =>
      intro task run runs
      obtain rfl := Standing.running.inj (staffed.start_runs.standing.symm.trans runs.standing)
      exact trivial
    | @step stepping rest earlier head ran steps =>
      intro task run runs
      let opened := before.within earlier.spans
      have ordered : ∀ name, (opened.supervisor.connection.register name).Orderly := by
        intro name
        have same := register_within before earlier.spans name
        exact same ▸ staffed.orderly name
      have still : earlier.place.Grounded opened.supervisor.connection stepping := grounded _ _ ran
      -- A step without the network leaves the place grounded, or goes to one that is.
      have stays : Supervisor.Stays stepping (opened.supervisor.step before.agenda stepping earlier) :=
        Supervisor.step_stays steps ordered cut.clear still
      exact grounded_carryOn (ran.within _) stays runs
    | @resume replied asking rest later run request head ran calls aside head' reply =>
      intro task onward runs
      -- Whatever was raised meanwhile, a place that waits for a reply looks at no register.
      have still : run.place.Grounded replied.connection asking := by
        have here := grounded _ _ ran
        rw [calls] at here ⊢
        cases request <;> first | exact trivial | exact here.elim
      exact grounded_carryOn (ran.aside aside) (Supervisor.resume_stays calls still reply) runs
    | suspend head ran calls allowed => exact fun task run runs => grounded task run ⟨runs.runTask, runs.listed⟩
    | gone head absent => exact fun task run runs => grounded task run ⟨runs.runTask, runs.listed⟩

/-! ### Losses -/

/-- The link has been down since the beginning, or since a loss that the transport was connected at or the
supervisor was not on its way from the network to the cloud at, or since before a moment between two sessions. -/
inductive Unlinked (setting : Setting) : Session → Prop where
  | fresh {session : Session} (fresh : session.Fresh) : Unlinked setting session
  | lost {session : Session} {status : Registration} (reached : Reached setting session)
      (lost : status.isRegistered = false)
      (noticed : session.connection.isConnected = true ∨
        session.supervisor.phase ≠ .waitNetwork ∧ session.supervisor.phase ≠ .connectingCloud) :
      Unlinked setting (session.act (.link (.registration status))).2
  | between {session : Session} (reached : Reached setting session)
      (down : session.connection.network.isSet Network.connected = false)
      (between : session.supervisor.phase = .resetting ∨ session.supervisor.phase = .backoff) :
      Unlinked setting session
  | next {session after : Session} (earlier : Unlinked setting session) (next : Next setting session after)
      (clear : after.connection.network.isSet Network.connected = false) : Unlinked setting after

/-- A modem that has lost its standing clears the network register. -/
theorem onRegistration_network (connection : Connection) {status : Registration}
    (lost : status.isRegistered = false) :
    (connection.onRegistration status).register .network = (connection.register .network).reset := by
  -- What may follow on the clearing is a matter of the cloud register.
  have apart : RegisterName.network ≠ .cloud := by decide
  simp only [Connection.onRegistration, lost, Bool.false_eq_true, if_false]
  split <;> simp [Connection.requestDisconnect, Connection.register_post_of_ne apart]

/-- A link that was lost and noticed is cut. -/
theorem Reached.cut (reached : Reached setting session) (keeps : setting.clears = false)
    {status : Registration} (lost : status.isRegistered = false)
    (noticed : session.connection.isConnected = true ∨
      session.supervisor.phase ≠ .waitNetwork ∧ session.supervisor.phase ≠ .connectingCloud) :
    (session.act (.link (.registration status))).2.Cut := by
  constructor
  case clear =>
    -- The loss clears the network register.
    have clear : (session.connection.onRegistration status).network = session.connection.network.reset :=
      onRegistration_network session.connection lost
    have unset : (session.connection.onRegistration status).network.isSet Network.connected = false := by
      simp [clear, Register.isSet, Register.reset]
    exact unset
  case noticed =>
    by_cases connected : session.connection.isConnected = true
    · have source : Action.Disconnects session.connection (.link (.registration status)) := ⟨lost, connected⟩
      exact .inl (session.isDisconnecting_of_source source)
    · obtain ⟨network, cloud⟩ := noticed.resolve_left connected
      refine .inr fun task run runs => ?_
      have ran : session.Runs task run := ⟨runs.runTask, runs.listed⟩
      rw [reached.balances.phase_of_runs ran] at network cloud
      -- A run that has seen the transport connected would still see it so.
      have seen := (reached.vigils keeps task run ran).seen
      have unseen : ¬Covers session.connection.cloud.bits Cloud.connected :=
        fun kept => connected (kept.isSet (by decide))
      have part : (Cloud.connected ||| Cloud.ready) &&& Cloud.connected = Cloud.connected := by decide
      obtain ⟨cycle, place⟩ := run
      -- The places are those outside a session, those that look for the network, and those that have seen it.
      cases place with
      | starting | settling _ | backingOff _ => exact trivial
      | cycleStart | awaitingNetwork _ => exact absurd rfl network
      | awaitingCloud _ => exact absurd rfl cloud
      | awaitingReady _ => exact absurd seen unseen
      | awaitingDrop _ => exact absurd (part ▸ seen.part Cloud.connected) unseen
      | calling request =>
        cases request with
        | connectCloud => exact absurd rfl cloud
        | publishShadow => exact absurd (part ▸ seen.part Cloud.connected) unseen
        | modemInit | registerClock | transportInit | requestPsm | enableEvents | connectNetwork
        | disconnectCloud => exact trivial

/-- Between two sessions the run has not got past the network. -/
theorem Reached.grounded_between (reached : Reached setting session)
    (between : session.supervisor.phase = .resetting ∨ session.supervisor.phase = .backoff)
    (runs : session.Runs task run) : run.place.Grounded session.connection task := by
  -- The phase is that of the place at which the run stands, and a place of these phases looks at no register.
  rw [reached.balances.phase_of_runs runs] at between
  obtain ⟨cycle, place⟩ := run
  cases place with
  | starting | cycleStart | settling _ | backingOff _ => exact trivial
  | awaitingNetwork _ | awaitingCloud _ | awaitingReady _ | awaitingDrop _ => simp [Supervisor.Place.phase] at between
  | calling request =>
    cases request with
    | connectCloud | publishShadow => simp [Supervisor.Place.phase] at between
    | modemInit | registerClock | transportInit | requestPsm | enableEvents | connectNetwork
    | disconnectCloud => exact trivial

/-- A link that has been down as long as the supervisor knows can be reached, and is cut. -/
theorem Unlinked.cut (unlinked : Unlinked setting session) (keeps : setting.clears = false) :
    Reached setting session ∧ session.Cut := by
  -- Induction on what has happened since; the network is not back after any of it.
  induction unlinked with
  | @fresh session fresh =>
    obtain ⟨text, new⟩ := fresh.registers .network
    have clear : session.connection.network = { name := text } := new
    refine ⟨.fresh fresh, by simp [clear, Register.isSet], .inr fun task run runs => ?_⟩
    cases fresh.runTask.symm.trans runs.runTask
  | lost reached lost noticed => exact ⟨.act reached trivial, reached.cut keeps lost noticed⟩
  | between reached down between => exact ⟨reached, down, .inr fun _ _ runs => reached.grounded_between between runs⟩
  | @next session after earlier next clear ih =>
    obtain ⟨reached, cut⟩ := ih
    refine ⟨reached.next next, ?_⟩
    obtain ⟨middle, happens, rfl⟩ := next.happens reached.staffed reached.woken
    have kept := cut.happens reached.staffed reached.balances keeps happens clear
    exact ⟨kept.clear, kept.noticed.imp_right fun grounded task run runs =>
      grounded_flush.mpr (grounded task run ⟨runs.runTask, runs.listed⟩)⟩

/-- What can happen one thing after the other while the network is down. -/
inductive Outage (setting : Setting) (first : Session) : Session → Prop where
  | refl (down : first.connection.network.isSet Network.connected = false) : Outage setting first first
  | tail {before after : Session} (earlier : Outage setting first before) (next : Next setting before after)
      (down : after.connection.network.isSet Network.connected = false) : Outage setting first after

/-- The supervisor pauses after a reset. -/
theorem Proceeds.pauses {heard : Option Heard} (proceeds : Proceeds setting before heard after)
    (balances : after.Balances)
    (more : before.supervisor.events.count .resetComplete < after.supervisor.events.count .resetComplete) :
    after.supervisor.phase = .backoff := by
  -- The only step that a reset is noted on is the one that the reply to a disconnect leads to.
  cases proceeds with
  | @beside middle aside quiet pending =>
    have history : middle.flush.supervisor.history = before.supervisor.history := aside.history
    simp only [Supervisor.events, history] at more
    exact absurd more (Nat.lt_irrefl _)
  | starts idle | suspends head runs held | gone head absent => exact absurd more (Nat.lt_irrefl _)
  | waits head runs steps early runs' now did pending => cases did.moved more
  | steps head runs steps runs' awake now did pending => exact absurd (did.moved more) steps.not_reset
  | resumes head runs calls aside sound resumes runs' awake now did pending =>
    obtain ⟨due, place⟩ := resumes.backs_off (did.moved more)
    rw [balances.phase_of_runs runs', place]
    rfl
  | fails head runs calls fault ended outcome did => simpa using did.moved more

/-- A link that is down since before a reset is one that has been down as long as the supervisor knows. -/
theorem Outage.unlinked (outage : Outage setting session last) (reached : Reached setting session) :
    Reached setting last ∧ last.connection.network.isSet Network.connected = false ∧
      (session.supervisor.events.count .resetComplete < last.supervisor.events.count .resetComplete →
        Unlinked setting last) := by
  -- Induction on what has happened meanwhile: the reset lies before the latest of it, or is the latest.
  induction outage with
  | refl down => exact ⟨reached, down, fun more => absurd more (Nat.lt_irrefl _)⟩
  | @tail before after earlier next down ih =>
    obtain ⟨before_reached, -, reset⟩ := ih
    have after_reached := before_reached.next next
    refine ⟨after_reached, down, fun more => ?_⟩
    by_cases already : session.supervisor.events.count .resetComplete < before.supervisor.events.count .resetComplete
    · exact .next (reset already) next down
    · obtain ⟨heard, hears⟩ := next.hears
      have latest := Nat.lt_of_le_of_lt (Nat.le_of_not_lt already) more
      exact .between after_reached down (.inr ((before_reached.proceeds hears).pauses after_reached.balances latest))

/-- A session that is treated as up while no task can run is not being disconnected, and its run is past
the network. -/
theorem Reached.up (reached : Reached setting session) (keeps : setting.clears = false)
    (quiet : session.turn? = none) (up : session.supervisor.phase = .waitDisconnect) :
    session.connection.isDisconnecting = false ∧
      ∃ task run, session.Runs task run ∧ ¬run.place.Grounded session.connection task := by
  have here : session.supervisor.phase = session.standing.phase := reached.balances.phase
  rw [up] at here
  -- The run is at the one place of this phase, where it sleeps until the bit is set.
  cases stands : session.standing with
  | idle | ended => simp [stands, Standing.phase] at here
  | running run =>
    obtain ⟨task, runs⟩ := reached.staffed.runs_of_standing stands
    rw [stands] at here
    have rests := reached.rests keeps quiet runs
    obtain ⟨cycle, place⟩ := run
    cases place with
    | awaitingDrop wait =>
      -- No other place belongs to the phase, and here no call is suspended.
      have asleep : Supervisor.Place.Vigil (.awaitingDrop wait) session.connection False task :=
        rests.mono fun suspended => by
          obtain ⟨-, request, calls⟩ := suspended
          cases calls
      have unsignalled : Unsignalled session.connection .waitDisconnect :=
        unsignalled_of_asleep reached.staffed.orderly asleep
      exact ⟨unsignalled.2.2, task, _, runs, id⟩
    | calling request => cases request <;> cases here
    | starting | cycleStart | awaitingNetwork _ | awaitingCloud _ | awaitingReady _ | settling _
    | backingOff _ => cases here

/-! ### No session outlives its link -/

/-- While the link is down since the beginning or a loss that was noticed, no session is treated as up. After
a loss at which the transport was connected, the connection is reset before one is. Whatever the loss was, after
the next reset no session is treated as up before the network is back. -/
theorem lost_link_ends_session (suspends : Bool) :
    (∀ session, Unlinked ⟨suspends, false⟩ session → session.turn? = none →
      session.supervisor.phase ≠ .waitDisconnect) ∧
    (∀ session status last, Reached ⟨suspends, false⟩ session → status.isRegistered = false →
      session.connection.isConnected = true →
      Path ⟨suspends, false⟩ (session.act (.link (.registration status))).2 last → last.turn? = none →
      last.supervisor.phase = .waitDisconnect →
      session.supervisor.events.count .resetComplete < last.supervisor.events.count .resetComplete) ∧
    (∀ session last, Reached ⟨suspends, false⟩ session → Outage ⟨suspends, false⟩ session last →
      session.supervisor.events.count .resetComplete < last.supervisor.events.count .resetComplete →
      last.turn? = none → last.supervisor.phase ≠ .waitDisconnect) := by
  have never (session : Session) (unlinked : Unlinked ⟨suspends, false⟩ session) (quiet : session.turn? = none) :
      session.supervisor.phase ≠ .waitDisconnect := by
    intro up
    obtain ⟨reached, cut⟩ := unlinked.cut rfl
    obtain ⟨connected, task, run, runs, past⟩ := reached.up rfl quiet up
    -- The bit of the loss is set, or the supervisor has not gone past the network since.
    rcases cut.noticed with disconnecting | grounded
    · simp [connected] at disconnecting
    · exact past (grounded task run runs)
  refine ⟨never, ?_, fun session last reached outage reset quiet =>
    never last ((outage.unlinked reached).2.2 reset) quiet⟩
  intro session status last reached lost connected path quiet up
  have source : Action.Disconnects session.connection (.link (.registration status)) := ⟨lost, connected⟩
  have cut : Reached ⟨suspends, false⟩ (session.act (.link (.registration status))).2 := .act reached trivial
  -- A session that is up again at rest has no disconnect asked for, so the one of the loss was taken back
  -- by a reset.
  obtain ⟨idle, -⟩ := (cut.path path).up rfl quiet up
  rcases cut.asked_or_reset rfl (session.isDisconnecting_of_source source) path with asked | reset
  · simp [idle] at asked
  · exact reset

/-- A link that is lost under a session that was ready leaves the supervisor resetting and then pausing, and the
next session is ready after one reset, as the link is back. -/
theorem lost_link_resets_session :
    ∃ session paused last : Session, Unlinked ⟨false, false⟩ session ∧ session.turn? = none ∧
      session.supervisor.phase = .resetting ∧ session.supervisor.phase ≠ .waitDisconnect ∧
      Outage ⟨false, false⟩ session paused ∧ paused.turn? = none ∧ paused.supervisor.phase = .backoff ∧
      paused.supervisor.phase ≠ .waitDisconnect ∧
      last.supervisor.phase = .waitDisconnect ∧ 0 < last.supervisor.events.count .resetComplete := by
  -- Fifteen turns make the first session ready, and then the modem searches.
  have idle : (ofConfig (.ofAppVersion "1.0.0") 0).runTask = none := rfl
  have ready : Reached ⟨false, false⟩ _ := (Reached.start (.fresh (fresh_ofConfig _ 0)) idle).settle 15
  have lost : Unlinked ⟨false, false⟩ _ := .lost ready (rfl : Registration.searching.isRegistered = false) (.inl rfl)
  have asleep : Unlinked ⟨false, false⟩ _ := .next (.next lost (.turn rfl) rfl) (.turn rfl) rfl
  obtain ⟨down, reset, later⟩ := lost_link_ends_session false
  obtain ⟨reached, cut⟩ := asleep.cut rfl
  -- One minute later the supervisor disconnects the transport, with the link still down.
  have struck : Outage ⟨false, false⟩ _ _ := (Outage.refl cut.clear).tail (.strike 60000 (by decide)) rfl
  have paused := ((struck.tail (.turn rfl) rfl).tail (.turn rfl) rfl).tail (.turn rfl) rfl
  -- The link is back before the connection is set up again, two minutes later.
  have settling : Path ⟨false, false⟩ ((Timed.settle 15 ((ofConfig (.ofAppVersion "1.0.0") 0).act
      .start).2).act (.link (.registration .searching))).2 _ := Path.settle ⟨false, false⟩ 2 _
  have found : Action.Aside false (.link (.registration .registeredHome)) := trivial
  have settled := (settling.tail (.strike 60000 (by decide))).trans (Path.settle ⟨false, false⟩ 4 _)
  have again := ((settled.tail (.act found)).tail (.strike 120000 (by decide))).trans
    (Path.settle ⟨false, false⟩ 20 _)
  exact ⟨_, _, _, asleep, rfl, rfl, down _ asleep rfl, paused, rfl, rfl, later _ _ reached paused (by decide) rfl,
    rfl, reset _ _ _ ready rfl rfl again rfl rfl⟩

/-- A link that is lost after the network was waited for and before the transport is connected is outlived: the
session becomes ready, and is treated as up without a network. -/
theorem unnoticed_loss_is_outlived :
    ∃ session : Session, Reached ⟨false, false⟩ session ∧ session.turn? = none ∧
      session.connection.network.isSet Network.connected = false ∧
      session.supervisor.phase = .waitDisconnect := by
  -- The cloud pauses for a second before each of its three events.
  let first : Session := { ofConfig (.ofAppVersion "1.0.0") 0 with cloud := { pause := some 1000 } }
  have fresh : first.Fresh := (fresh_ofConfig _ 0).withCloud _
  have idle : first.runTask = none := rfl
  have asked : Reached ⟨false, false⟩ _ := (Reached.start (.fresh fresh) idle).settle 15
  -- The modem loses its standing before the first of them.
  have searching : Action.Aside false (.link (.registration .searching)) := trivial
  have lost := (Reached.act asked searching).settle 5
  have connecting := (lost.strike 1000 (by decide)).settle 5
  have connected := (connecting.strike 2000 (by decide)).settle 8
  have ready := (connected.strike 3000 (by decide)).settle 10
  refine ⟨_, ready, ?_, ?_, ?_⟩
  · exact Option.isNone_iff_eq_none.mp (by decide +kernel)
  · decide +kernel
  · decide +kernel

end Uplink.Session
