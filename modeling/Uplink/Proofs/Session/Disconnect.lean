import Uplink.Proofs.Session.Balance
import Uplink.Proofs.Supervisor.Deeds

/-! A disconnect is never forgotten: only the return of the transport's disconnect clears the cloud
register. -/

namespace Uplink

open Flags (Covers Register)

/-! ### Sources -/

/-- What asks for a disconnect: the transport that has dropped or failed, the link that is lost under a
session, the account that the device was added to, and the application. -/
def Action.Disconnects (connection : Connection) : Action → Prop
  | .requestDisconnect | .cloud .disconnected | .cloud (.error _) => True
  | .cloud .userAssociated => connection.cloud.isSet Cloud.associationRequest = true
  | .link (.registration status) => status.isRegistered = false ∧ connection.isConnected = true
  | _ => False

/-- Bits that were raised are set. -/
theorem Flags.Register.isSet_post (register : Register) {mask : UInt32} (some : mask ≠ 0) :
    (register.post mask).1.isSet mask = true := by
  -- The raised bits contain the mask, and the mask has a bit.
  have raised : Covers (register.post mask).1.bits mask := by
    have more := Covers.raise mask register.bits
    rwa [UInt32.or_comm] at more
  exact raised.isSet some

/-- To ask for a disconnect sets the bit. -/
theorem Connection.isDisconnecting_requestDisconnect (connection : Connection) :
    connection.requestDisconnect.isDisconnecting = true := by
  -- The request raises this bit, and it is one.
  have set := connection.cloud.isSet_post (by decide : Cloud.disconnected ≠ 0)
  exact set

/-- A link that is lost under a session leads to a disconnect, or finds one under way. -/
theorem Connection.isDisconnecting_onRegistration (connection : Connection) {status : Registration}
    (lost : status.isRegistered = false) (connected : connection.isConnected = true) :
    (connection.onRegistration status).isDisconnecting = true := by
  -- The cloud register is as it was when the monitor looks at it.
  have up : ((connection.log .debug "Network registration status"
      [("status", .text status.label)]).clear .network).isConnected = true := connected
  simp only [onRegistration, lost, Bool.false_eq_true, if_false]
  split
  · exact isDisconnecting_requestDisconnect _
  · rename_i idle
    simpa [up] using idle

/-- Whatever asks for a disconnect sets the bit. -/
theorem Session.isDisconnecting_of_source (session : Session) {action : Action}
    (source : action.Disconnects session.connection) :
    (session.act action).2.connection.isDisconnecting = true := by
  -- One case for each of the sources.
  cases action with
  | requestDisconnect => exact session.connection.isDisconnecting_requestDisconnect
  | link event =>
    cases event with
    | registration status =>
      exact session.connection.isDisconnecting_onRegistration source.1 source.2
    | psmUpdate _ _ | edrxUpdate _ _ | rrcUpdate _ | cellUpdate _ _ | lteModeUpdate _ | modemEvent _ =>
      exact source.elim
  -- Of the events of the cloud these end the session at once.
  | cloud event =>
    cases event with
    | disconnected | error status => exact Connection.isDisconnecting_requestDisconnect _
    | userAssociated =>
      -- An association does so if it was asked for, behind its entries and its count.
      let noted := ((session.connection.log .debug "Cloud transport event"
        [("event", .text CloudEvent.userAssociated.name)]).log .info
          "Device successfully associated with cloud!" []).count .forcedDisconnect
      have associated : session.connection.onCloudEvent .userAssociated = noted.requestDisconnect :=
        if_pos source
      have set : (session.connection.onCloudEvent .userAssociated).isDisconnecting = true :=
        associated ▸ noted.isDisconnecting_requestDisconnect
      exact set
    | connected | connecting | connectError _ | userAssociationRequest | ready | sensorDataAck
    | rxDataGeneral _ | rxDataShadow _ | fotaStart | fotaDone _ | fotaError => exact source.elim
  | _ => exact source.elim

namespace Session

variable {setting : Setting} {session before middle after last : Session} {task : TaskId}
  {run : Supervisor.Run}

/-! ### Resets -/

/-- The supervisor's call to disconnect has returned, and the cloud register was cleared on it, with all of
its bits. -/
structure Resets (before after : Session) : Prop where
  returned : ∃ task rest run due, before.agenda.ready = task :: rest ∧ before.Runs task run ∧
    run.place = .calling .disconnectCloud ∧ after.Runs task { run with place := .backingOff due }
  cleared : after.connection.cloud.bits = 0
  counted : after.supervisor.events = .resetComplete :: before.supervisor.events

/-- Those who are woken after a reset change neither the register nor the history. -/
theorem Resets.flush (resets : before.Resets after) : before.Resets after.flush := by
  -- Waking is a matter of the line alone.
  obtain ⟨⟨task, rest, run, due, head, runs, calls, onward⟩, cleared, counted⟩ := resets
  exact ⟨⟨task, rest, run, due, head, runs, calls, onward.runTask, onward.listed⟩, cleared, counted⟩

/-- A step of the run leaves it where the step leads to. -/
theorem Runs.carryOn (runs : session.Runs task run) {stepped : Supervisor.Stepped} {onward : Supervisor.Run}
    (onto : .after stepped.1 = Standing.running onward) : (session.carryOn task stepped).Runs task onward := by
  -- A step that ends the run leads nowhere; any other leaves its task in the list.
  refine ⟨(carryOn_runTask _ _ _).trans runs.runTask, ?_⟩
  obtain ⟨progress, supervisor⟩ := stepped
  have listed : { session with supervisor }.tasks.lookup task = some ⟨.supervise run, false⟩ := runs.listed
  cases progress with
  | next run' | parked run' =>
    obtain rfl := Standing.running.inj onto
    exact lookup_setJob listed (.supervise run')
  | done error => cases onto

/-- What goes on beside the run is none of the supervisor's deeds. -/
theorem Aside.history {clears : Bool} (aside : Aside clears before after) :
    after.supervisor.history = before.supervisor.history := by
  -- Whoever goes on beside the run does not count, and so leaves the supervisor as it is.
  rw [aside.supervisor rfl]

/-- What goes on beside the run moves no phase. -/
theorem Aside.phase {clears : Bool} (aside : Aside clears before after) :
    after.supervisor.phase = before.supervisor.phase := by
  -- Whoever goes on beside the run does not count, and so leaves the supervisor as it is.
  rw [aside.supervisor rfl]

/-- What happens next forgets nothing that the supervisor did. -/
theorem Happens.history (happens : Happens setting before after) :
    before.supervisor.history <:+ after.supervisor.history := by
  -- Only a step of the run adds to the history; everybody else leaves it alone.
  cases happens with
  | beside aside informs => exact aside.history ▸ List.suffix_refl _
  | start idle => exact List.suffix_refl _
  | suspend head runs calls allowed => exact List.suffix_refl _
  | gone head absent => exact List.suffix_refl _
  | @step task rest run head runs steps =>
    let opened := before.within run.spans
    have history : opened.supervisor.history <:+
        (opened.carryOn task (opened.supervisor.step before.agenda task run)).supervisor.history := by
      rw [carryOn_supervisor]
      exact (opened.supervisor.step_onward before.agenda task run).history
    exact history
  -- What others did before the reply is no deed either.
  | @resume replied task rest later run request head runs calls aside head' reply =>
    have history : replied.supervisor.history <:+ (replied.carryOn task
        (replied.supervisor.resume replied.agenda task run request reply)).supervisor.history := by
      rw [carryOn_supervisor]
      exact replied.supervisor.resume_history replied.agenda task run request reply
    exact aside.history ▸ history

/-- The reply to a disconnect, whatever it is, clears the register, and the reset is noted. -/
theorem Balances.resets_of_disconnect {replied : Session} {rest : List TaskId} (balances : before.Balances)
    (head : before.agenda.ready = task :: rest) (runs : before.Runs task run)
    (calls : run.place = .calling .disconnectCloud) {clears : Bool} (aside : Aside clears before replied)
    (reply : Request.disconnectCloud.Reply) :
    before.Resets ((replied.carryOn task
      (replied.supervisor.resume replied.agenda task run .disconnectCloud reply)).within []) := by
  obtain ⟨zero, due, next⟩ := replied.supervisor.resume_disconnect replied.agenda task run reply
  -- While the answer was awaited nobody but the supervisor could change the phase.
  have resetting : replied.supervisor.phase = .resetting := by
    have phase : before.supervisor.phase = before.standing.phase := balances.phase
    rw [aside.phase, phase, runs.standing, Standing.phase, calls]
    rfl
  have noted := Supervisor.resume_resetComplete resetting replied.agenda task run reply
  -- The run goes on to its pause.
  have onto : .after (replied.supervisor.resume replied.agenda task run .disconnectCloud reply).1 =
      Standing.running { run with place := .backingOff due } := by
    rw [next]
    rfl
  have cloud : (replied.carryOn task
      (replied.supervisor.resume replied.agenda task run .disconnectCloud reply)).connection.cloud.bits = 0 := by
    rw [connection, carryOn_supervisor]
    exact zero
  have events : (replied.carryOn task
      (replied.supervisor.resume replied.agenda task run .disconnectCloud reply)).supervisor.events =
        .resetComplete :: before.supervisor.events := by
    simp only [Supervisor.events, carryOn_supervisor, noted, aside.history]
    rfl
  exact ⟨⟨task, rest, run, due, head, runs, calls, ((runs.aside aside).carryOn onto).within []⟩, cloud, events⟩

/-- What happens next keeps every bit of the cloud register unless it is a reset. -/
theorem Happens.keeps (happens : Happens setting before after) (balances : before.Balances)
    (keeps : setting.clears = false) :
    Covers after.connection.cloud.bits before.connection.cloud.bits ∨ before.Resets after := by
  cases happens with
  | beside aside informs => exact .inl (aside.touches.covers keeps)
  | start idle => exact .inl (.refl _)
  | suspend head runs calls allowed => exact .inl (.refl _)
  | gone head absent => exact .inl (.refl _)
  | @step task rest run head runs steps =>
    let opened := before.within run.spans
    have bits : (opened.carryOn task (opened.supervisor.step before.agenda task run)).connection.cloud.bits =
        before.connection.cloud.bits := by
      rw [connection, carryOn_supervisor]
      exact (opened.supervisor.step_onward before.agenda task run).bits
    exact .inl (bits ▸ .refl _)
  | @resume replied task rest later run request head runs calls aside head' reply =>
    -- Only with the reply to a disconnect the register is cleared.
    by_cases disconnects : request = .disconnectCloud
    · subst disconnects
      exact .inr (balances.resets_of_disconnect head runs calls aside reply)
    · -- Any other reply: what others have raised meanwhile is kept, and nothing is cleared.
      have bits : (replied.carryOn task
          (replied.supervisor.resume replied.agenda task run request reply)).connection.cloud.bits =
            replied.connection.cloud.bits := by
        rw [connection, carryOn_supervisor]
        exact (replied.supervisor.resume_onward replied.agenda task run disconnects reply).bits
      have covers : Covers replied.connection.cloud.bits before.connection.cloud.bits :=
        aside.touches.covers keeps
      exact .inl (bits ▸ covers)

/-! ### Whatever happens -/

/-- What can happen next forgets nothing that the supervisor did. -/
theorem Reached.history (reached : Reached setting before) (next : Next setting before after) :
    before.supervisor.history <:+ after.supervisor.history := by
  -- It is shown for what happens first, and waking those who are called adds no deed.
  obtain ⟨middle, happens, rfl⟩ := next.happens reached.staffed reached.woken
  exact happens.history

/-- Nothing that the supervisor did is forgotten on a path. -/
theorem Reached.history_along (reached : Reached setting session) (path : Path setting session last) :
    session.supervisor.history <:+ last.supervisor.history := by
  -- Induction on the path.
  induction path with
  | refl => exact List.suffix_refl _
  | tail path next ih => exact ih.trans ((reached.path path).history next)

/-- What can happen next keeps every bit of the cloud register unless it is a reset. -/
theorem Reached.keeps_or_resets (reached : Reached setting before) (keeps : setting.clears = false)
    (next : Next setting before after) :
    Covers after.connection.cloud.bits before.connection.cloud.bits ∨ before.Resets after := by
  -- It is shown for what happens first, and waking those who are called clears no bit.
  obtain ⟨middle, happens, rfl⟩ := next.happens reached.staffed reached.woken
  exact (happens.keeps reached.balances keeps).imp_right Resets.flush

/-- The session is being disconnected, and it stays so from one thing that happens to the next. -/
abbrev Disconnecting (setting : Setting) : Session → Session → Prop :=
  Relation.ReflTransGen fun before after =>
    Next setting before after ∧ after.connection.isDisconnecting = true

/-- A disconnect that stays under way is under way at the end. -/
theorem Disconnecting.set (disconnecting : Disconnecting setting session last)
    (asked : session.connection.isDisconnecting = true) : last.connection.isDisconnecting = true := by
  -- Either nothing has happened at all, or the last step has kept the bit.
  rcases Relation.ReflTransGen.cases_tail disconnecting with same | ⟨_, _, _, set⟩
  · exact same ▸ asked
  · exact set

/-- What happens while a disconnect is under way is a part of what can happen. -/
theorem Disconnecting.path (disconnecting : Disconnecting setting session last) :
    Path setting session last := by
  -- Induction on the path, step by step.
  induction disconnecting with
  | refl => exact .refl
  | tail _ step ih => exact ih.tail step.1

/-- A disconnect that is under way stays so until the first reset. -/
theorem Reached.until_reset (reached : Reached setting session) (keeps : setting.clears = false)
    (asked : session.connection.isDisconnecting = true) (path : Path setting session last) :
    Disconnecting setting session last ∨
      ∃ before after, Disconnecting setting session before ∧ Next setting before after ∧
        before.Resets after ∧ Path setting after last := by
  -- Induction on the path: the bit is still there, or the first reset was on the way.
  induction path with
  | refl => exact .inl .refl
  | @tail middle after path next ih =>
    rcases ih with disconnecting | ⟨before, reset, disconnecting, resets⟩
    · have set : middle.connection.isDisconnecting = true := Disconnecting.set disconnecting asked
      rcases (reached.path path).keeps_or_resets keeps next with kept | resets
      · exact .inl (disconnecting.tail ⟨next, kept.keeps_set set⟩)
      · exact .inr ⟨middle, after, disconnecting, next, resets, .refl⟩
    · obtain ⟨first, cleared, later⟩ := resets
      exact .inr ⟨before, reset, disconnecting, first, cleared, later.tail next⟩

/-- A disconnect that is under way stays so unless a reset is counted. -/
theorem Reached.asked_or_reset (reached : Reached setting session) (keeps : setting.clears = false)
    (asked : session.connection.isDisconnecting = true) (path : Path setting session last) :
    last.connection.isDisconnecting = true ∨
      session.supervisor.events.count .resetComplete < last.supervisor.events.count .resetComplete := by
  rcases reached.until_reset keeps asked path with disconnecting | resets
  · exact .inl (Disconnecting.set disconnecting asked)
  · obtain ⟨before, after, disconnecting, next, resets, later⟩ := resets
    have leads := Disconnecting.path disconnecting
    have earlier := Supervisor.events_suffix (reached.history_along leads)
    have onward := Supervisor.events_suffix (((reached.path leads).next next).history_along later)
    -- The reset comes on top of what was done before it, and nothing of it is forgotten.
    refine .inr ?_
    calc session.supervisor.events.count .resetComplete
        ≤ before.supervisor.events.count .resetComplete := earlier.sublist.count_le _
      _ < after.supervisor.events.count .resetComplete := by rw [resets.counted]; simp
      _ ≤ last.supervisor.events.count .resetComplete := onward.sublist.count_le _

/-- Where nobody else clears the cloud register, it loses no bit but by a reset, right after the transport's
disconnect has returned. Each source of a disconnect sets the bit, and once a disconnect is under way, it stays
so until such a reset. -/
theorem Reached.disconnect_never_forgotten (reached : Reached setting session)
    (keeps : setting.clears = false) :
    (∀ after, Next setting session after →
      Covers after.connection.cloud.bits session.connection.cloud.bits ∨ session.Resets after) ∧
    (∀ action, Action.Disconnects session.connection action →
      (session.act action).2.connection.isDisconnecting = true) ∧
    (session.connection.isDisconnecting = true → ∀ last, Path setting session last →
      Disconnecting setting session last ∨
        ∃ before after, Disconnecting setting session before ∧ Next setting before after ∧
          before.Resets after ∧ Path setting after last) :=
  -- One lemma for each part: a step, a source, and a path.
  ⟨fun _ next => reached.keeps_or_resets keeps next, fun _ source => session.isDisconnecting_of_source source,
    fun asked _ path => reached.until_reset keeps asked path⟩

/-- After a requested disconnect the late events get their time, and then the register is reset: the
disconnect was under way until the transport's disconnect returned. -/
theorem requested_disconnect_resets :
    ∃ session last : Session, session.connection.isDisconnecting = true ∧
      last.connection.isDisconnecting = false ∧
      ∃ before after, Disconnecting ⟨false, false⟩ session before ∧
        Next ⟨false, false⟩ before after ∧ before.Resets after ∧ Path ⟨false, false⟩ after last := by
  -- Fifteen turns make the first session ready; then the application asks for a disconnect.
  have idle : (ofConfig (.ofAppVersion "1.0.0") 0).runTask = none := rfl
  have ready : Reached ⟨false, false⟩ _ := (Reached.start (.fresh (fresh_ofConfig _ 0)) idle).settle 15
  have allowed : Action.Aside false .requestDisconnect := trivial
  have asked : Reached ⟨false, false⟩ _ := Reached.act ready allowed
  -- The supervisor lets things settle for a minute before it disconnects.
  have settling := Path.settle ⟨false, false⟩ 4 ((Timed.settle 15 ((ofConfig (.ofAppVersion "1.0.0") 0).act
    .start).2).act .requestDisconnect).2
  have settled := (settling.tail (.strike 60000 (by decide))).trans (Path.settle ⟨false, false⟩ 4 _)
  obtain ⟨-, -, kept⟩ := asked.disconnect_never_forgotten rfl
  rcases kept rfl _ settled with disconnecting | resets
  · -- The bit would still be set, but it is not.
    cases Disconnecting.set disconnecting rfl
  · exact ⟨_, _, rfl, rfl, resets⟩

end Session

end Uplink
