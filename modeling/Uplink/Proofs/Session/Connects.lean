import Uplink.Proofs.Session.Disconnect
import Uplink.Proofs.Supervisor.Connects

/-! What a call to connect finds: between a session that was up and the next call lies a reset, and a disconnect
that is pending at a call has come when no session was up. -/

namespace Uplink

/-- Whether the transport was seen connected and the connection is not reset yet. -/
def Phase.inSession : Phase → Bool
  | .waitCloudReady | .connected | .waitDisconnect | .resetting => true
  | _ => false

/-- The phases of a session are those after the first stage. -/
theorem Phase.inSession_iff {phase : Phase} : phase.inSession = true ↔ 2 ≤ phase.stage := by
  -- One case for each phase.
  cases phase <;> decide

namespace Session

variable {setting : Setting} {session before after : Session}

/-! ### Stages -/

/-- What happens next leads to no earlier stage unless it is a reset. -/
theorem Happens.stage (happens : Happens setting before after) (balances : before.Balances) :
    before.supervisor.phase.stage ≤ after.supervisor.phase.stage ∨ before.Resets after := by
  -- Only a step of the run moves the phase.
  cases happens with
  | beside aside informs => exact .inl (aside.phase ▸ Nat.le_refl _)
  | start idle | suspend head runs calls allowed | gone head absent => exact .inl (Nat.le_refl _)
  | @step task rest run head runs steps =>
    let opened := before.within run.spans
    have stage : opened.supervisor.phase.stage ≤
        (opened.carryOn task (opened.supervisor.step before.agenda task run)).supervisor.phase.stage := by
      rw [carryOn_supervisor]
      exact (opened.supervisor.step_forward before.agenda task run).stage
    exact .inl stage
  | @resume replied task rest later run request head runs calls aside head' reply =>
    -- Of the replies only that to a disconnect leads back.
    by_cases disconnects : request = .disconnectCloud
    · subst disconnects
      exact .inr (balances.resets_of_disconnect head runs calls aside reply)
    · have stage : replied.supervisor.phase.stage ≤ (replied.carryOn task
          (replied.supervisor.resume replied.agenda task run request reply)).supervisor.phase.stage := by
        rw [carryOn_supervisor]
        exact (replied.supervisor.resume_forward replied.agenda task run disconnects reply).stage
      exact .inl (aside.phase ▸ stage)

/-- What can happen next leads to no earlier stage unless it is a reset. -/
theorem Reached.stage_or_resets (reached : Reached setting before) (next : Next setting before after) :
    before.supervisor.phase.stage ≤ after.supervisor.phase.stage ∨ before.Resets after := by
  -- It is shown for what happens first, and waking those who are called changes no phase.
  obtain ⟨middle, happens, rfl⟩ := next.happens reached.staffed reached.woken
  exact (happens.stage reached.balances).imp_right Resets.flush

/-! ### Calls to connect -/

/-- The supervisor asks the transport to connect, for the first time in a cycle or again. -/
def Connects (before after : Session) : Prop :=
  before.supervisor.attempts < after.supervisor.attempts

/-- The transport is asked to connect only while the network is waited for or the connection of the
transport. -/
theorem Happens.connects (happens : Happens setting before after) (balances : before.Balances)
    (connects : before.Connects after) :
    before.supervisor.phase = .waitNetwork ∨ before.supervisor.phase = .connectingCloud := by
  unfold Connects at connects
  -- Attempts are counted by the supervisor alone, and only in a step that asks for one.
  cases happens with
  | beside aside informs =>
    simp only [Supervisor.attempts, Supervisor.requests, aside.history] at connects
    exact absurd connects (Nat.lt_irrefl _)
  | start idle | suspend head runs calls allowed | gone head absent => exact absurd connects (Nat.lt_irrefl _)
  | @step task rest run head runs steps =>
    let opened := before.within run.spans
    have phase : before.supervisor.phase = run.place.phase := balances.phase_of_runs runs
    have made : opened.supervisor.attempts <
        (opened.carryOn task (opened.supervisor.step before.agenda task run)).supervisor.attempts := connects
    rw [carryOn_supervisor] at made
    exact phase ▸ (opened.supervisor.step_forward before.agenda task run).attempts.resolve_left made.ne'
  | @resume replied task rest later run request head runs calls aside head' reply =>
    -- A reply leads to no attempt, and what others do makes none.
    have same : (replied.carryOn task (replied.supervisor.resume replied.agenda task run request
        reply)).supervisor.attempts = before.supervisor.attempts := by
      rw [carryOn_supervisor, Supervisor.resume_attempts]
      simp only [Supervisor.attempts, Supervisor.requests, aside.history]
    exact absurd connects (same ▸ Nat.lt_irrefl _)

/-- Whoever asks the transport to connect is at one of the first two stages. -/
theorem Reached.connects (reached : Reached setting before) (next : Next setting before after)
    (connects : before.Connects after) :
    before.supervisor.phase = .waitNetwork ∨ before.supervisor.phase = .connectingCloud := by
  -- It is shown for what happens first, and waking those who are called changes no phase.
  obtain ⟨middle, happens, rfl⟩ := next.happens reached.staffed reached.woken
  exact happens.connects reached.balances connects

/-! ### Courses -/

/-- A course of events: a fresh session, and the sessions that what happened led to, one after the other. -/
structure Course (setting : Setting) (states : Nat → Session) (length : Nat) : Prop where
  fresh : (states 0).Fresh
  next : ∀ i < length, Next setting (states i) (states (i + 1))

namespace Course

variable {states : Nat → Session} {length : Nat}

/-- Every session of a course can be reached. -/
theorem reached (course : Course setting states length) {i : Nat} (within : i ≤ length) :
    Reached setting (states i) := by
  -- Induction on the number of the session.
  induction i with
  | zero => exact .fresh course.fresh
  | succ i ih => exact (ih (by omega)).next (course.next i (by omega))

/-- While no reset happens, a course leads to no earlier stage. -/
theorem stage_le (course : Course setting states length) {i j : Nat} (order : i ≤ j) (within : j ≤ length)
    (still : ∀ k, i ≤ k → k < j → ¬(states k).Resets (states (k + 1))) :
    (states i).supervisor.phase.stage ≤ (states j).supervisor.phase.stage := by
  -- Induction on the part of the course in between.
  induction j, order using Nat.le_induction with
  | base => exact Nat.le_refl _
  | succ j order ih =>
    have earlier := ih (by omega) fun k from_ below => still k from_ (by omega)
    have last := ((course.reached (by omega)).stage_or_resets (course.next j (by omega))).resolve_right
      (still j order (by omega))
    exact earlier.trans last

/-- Between a moment of a course and a later one at an earlier stage lies a reset. -/
theorem exists_resets (course : Course setting states length) {i j : Nat} (order : i ≤ j) (within : j ≤ length)
    (back : (states j).supervisor.phase.stage < (states i).supervisor.phase.stage) :
    ∃ k, i ≤ k ∧ k < j ∧ (states k).Resets (states (k + 1)) := by
  -- Without a reset the stage could only have gone up.
  by_contra none
  have still := course.stage_le order within fun k from_ below resets => none ⟨k, from_, below, resets⟩
  omega

/-- A disconnect that is pending has come at some moment, and has been pending ever since. -/
theorem exists_landing (course : Course setting states length)
    (pending : (states length).connection.isDisconnecting = true) :
    ∃ i < length, (states i).connection.isDisconnecting = false ∧
      ∀ j, i < j → j ≤ length → (states j).connection.isDisconnecting = true := by
  -- Induction on the length: it has come in the last step, or was pending before it.
  induction length with
  | zero =>
    obtain ⟨text, new⟩ := course.fresh.registers .cloud
    have clear : (states 0).connection.cloud = { name := text } := new
    simp [Connection.isDisconnecting, clear, Flags.Register.isSet] at pending
  | succ length ih =>
    cases earlier : (states length).connection.isDisconnecting with
    | false =>
      refine ⟨length, by omega, earlier, fun j after upTo => ?_⟩
      obtain rfl : j = length + 1 := by omega
      exact pending
    | true =>
      obtain ⟨i, below, quiet, since⟩ := ih ⟨course.fresh, fun i below => course.next i (by omega)⟩ earlier
      refine ⟨i, by omega, quiet, fun j after upTo => ?_⟩
      rcases Nat.lt_or_eq_of_le upTo with inside | rfl
      · exact since j after (by omega)
      · exact pending

/-- In every course, between a moment in a session and the next call to connect the cloud register is cleared
as a whole, and so it is between a moment of the attempts of a cycle and the first call of a later one. A disconnect
that is pending at a call has come when no session was up, and has been pending ever since. -/
theorem connects_after_reset (course : Course setting states (length + 1))
    (connects : (states length).Connects (states (length + 1))) :
    (∀ i ≤ length, (states i).supervisor.phase.inSession = true ∨
        (states i).supervisor.phase = .connectingCloud ∧ (states length).supervisor.phase = .waitNetwork →
      ∃ k, i ≤ k ∧ k < length ∧ (states k).Resets (states (k + 1))) ∧
    ((states length).connection.isDisconnecting = false ∨
      ∃ i < length, (states i).connection.isDisconnecting = false ∧
        (∀ j, i < j → j ≤ length → (states j).connection.isDisconnecting = true) ∧
        (states i).supervisor.phase.inSession = false) := by
  have upTo : Course setting states length := ⟨course.fresh, fun i below => course.next i (by omega)⟩
  -- The call is made at one of the first two stages.
  have early : (states length).supervisor.phase.stage < 2 := by
    rcases (upTo.reached (Nat.le_refl _)).connects (course.next length (by omega)) connects with phase | phase <;>
      simp [phase, Phase.stage]
  constructor
  · -- Any later stage can only have been left by a reset.
    intro i order later
    refine upTo.exists_resets order (Nat.le_refl _) ?_
    rcases later with session | ⟨trying, first⟩
    · exact early.trans_le (Phase.inSession_iff.mp session)
    · simp [trying, first, Phase.stage]
  · -- A bit that is set at the call has been set since some moment.
    cases pending : (states length).connection.isDisconnecting with
    | false => exact .inl rfl
    | true =>
      obtain ⟨i, below, quiet, since⟩ := upTo.exists_landing pending
      refine .inr ⟨i, below, quiet, since, ?_⟩
      -- Nothing was reset since, so the stage was no later than at the call.
      have still : ∀ k, i ≤ k → k < length → ¬(states k).Resets (states (k + 1)) := by
        intro k after below resets
        have cleared : (states (k + 1)).connection.isDisconnecting = false := by
          simp [Connection.isDisconnecting, Flags.Register.isSet, resets.cleared]
        rw [since (k + 1) (by omega) (by omega)] at cleared
        cases cleared
      have earlier := upTo.stage_le below.le (Nat.le_refl _) still
      by_contra session
      have stage := Phase.inSession_iff.mp (Bool.not_eq_false _ ▸ session)
      omega

/-- A fresh session begins a course. -/
theorem new {first : Session} (fresh : first.Fresh) : Course setting (fun _ => first) 0 :=
  -- There is nothing that has happened in it.
  ⟨fresh, nofun⟩

/-- A course goes on with what happens next. -/
theorem snoc (course : Course setting states length) (ends : states length = before)
    (next : Next setting before after) :
    ∃ longer, Course setting longer (length + 1) ∧ longer (length + 1) = after ∧
      ∀ i ≤ length, longer i = states i := by
  -- The course is continued behind its end, and is read as before up to there.
  subst ends
  refine ⟨fun i => if i ≤ length then states i else after, ⟨course.fresh, fun i below => ?_⟩, by simp, ?_⟩
  · rcases Nat.lt_succ_iff_lt_or_eq.mp below with inside | rfl
    · -- Both sessions lie in the course as it was.
      have here : i ≤ length := by omega
      have there : i + 1 ≤ length := by omega
      simpa only [if_pos here, if_pos there] using course.next i inside
    · -- Only the last step is new.
      have beyond : ¬i + 1 ≤ i := by omega
      simpa only [if_pos (Nat.le_refl i), if_neg beyond] using next
  · intro i within
    exact if_pos within

/-- A course goes on along a path. -/
theorem extend (course : Course setting states length) (ends : states length = before)
    (path : Path setting before after) :
    ∃ longer more, length ≤ more ∧ Course setting longer more ∧ longer more = after ∧
      ∀ i ≤ length, longer i = states i := by
  -- Induction on the path.
  induction path with
  | refl => exact ⟨states, length, Nat.le_refl _, course, ends, fun _ _ => rfl⟩
  | tail _ next ih =>
    obtain ⟨longer, more, order, onward, here, same⟩ := ih
    obtain ⟨longest, farther, there, kept⟩ := onward.snoc here next
    exact ⟨longest, more + 1, by omega, farther, there, fun i within =>
      (kept i (by omega)).trans (same i within)⟩

/-- A disconnect in a session and another one in the pause after it: the first is reset, and the second is
pending at the next call to connect. -/
theorem second_call_follows_reset :
    ∃ (states : Nat → Session) (length i : Nat), Course ⟨false, false⟩ states (length + 1) ∧
      (states length).Connects (states (length + 1)) ∧ i ≤ length ∧
      (states i).supervisor.phase.inSession = true ∧ (states i).connection.isDisconnecting = true ∧
      (∃ k, i ≤ k ∧ k < length ∧ (states k).Resets (states (k + 1))) ∧
      (states length).connection.isDisconnecting = true ∧
      ∃ j < length, (states j).connection.isDisconnecting = false ∧
        (∀ k, j < k → k ≤ length → (states k).connection.isDisconnecting = true) ∧
        (states j).supervisor.phase.inSession = false := by
  -- Fifteen turns make the first session ready; then the application asks for a disconnect.
  let session : Session :=
    ((Timed.settle 15 ((ofConfig (.ofAppVersion "1.0.0") 0).act .start).2).act .requestDisconnect).2
  have idle : (ofConfig (.ofAppVersion "1.0.0") 0).runTask = none := rfl
  have asks : Action.Aside false .requestDisconnect := trivial
  have asked : Path ⟨false, false⟩ (ofConfig (.ofAppVersion "1.0.0") 0) session :=
    ((Relation.ReflTransGen.refl.tail (.start idle)).trans (Path.settle _ 15 _)).tail (.act asks)
  -- The reset follows after a minute, and the application asks again in the pause.
  have settled := (Path.settle ⟨false, false⟩ 4 session).tail (.strike 60000 (by decide))
  have pausing := (settled.trans (Path.settle _ 4 _)).tail (.act asks)
  let paused : Session := ((Timed.settle 4 ((Timed.settle 4 session).strike 60000)).act .requestDisconnect).2
  have again : Path ⟨false, false⟩ session (Timed.settle 2 (paused.strike 120000)) :=
    (pausing.tail (.strike 120000 (by decide))).trans (Path.settle _ 2 _)
  have call : Next ⟨false, false⟩ (Timed.settle 2 (paused.strike 120000)) (Timed.settle 3 (paused.strike 120000)) :=
    Next.settle (by decide +kernel)
  -- The paths are put together into one course, with the moments of interest numbered.
  obtain ⟨states, i, -, course, here, -⟩ := (new (fresh_ofConfig (.ofAppVersion "1.0.0") 0)).extend rfl asked
  obtain ⟨longer, length, order, onward, before, same⟩ := course.extend here again
  obtain ⟨whole, ends, after, kept⟩ := onward.snoc before call
  have landed : whole i = session := (kept i order).trans ((same i (Nat.le_refl _)).trans here)
  have last : whole length = _ := (kept length (Nat.le_refl _)).trans before
  -- What is seen at these moments is evaluated.
  have calls : (whole length).Connects (whole (length + 1)) := by
    rw [last, after]
    unfold Connects
    decide +kernel
  have inSession : (whole i).supervisor.phase.inSession = true := by
    rw [landed]
    decide +kernel
  have set : (whole i).connection.isDisconnecting = true := by
    rw [landed]
    decide +kernel
  have pending : (whole length).connection.isDisconnecting = true := by
    rw [last]
    decide +kernel
  obtain ⟨resets, lands⟩ := ends.connects_after_reset calls
  exact ⟨whole, length, i, ends, calls, order, inSession, set, resets i order (.inl inSession), pending,
    lands.resolve_left (by simp [pending])⟩

/-- The application may ask for a disconnect before the network is there, and then the transport is asked to connect
while the disconnect is pending. -/
theorem call_finds_disconnect :
    ∃ (states : Nat → Session) (length : Nat), Course ⟨false, false⟩ states (length + 1) ∧
      (states length).Connects (states (length + 1)) ∧ (states length).connection.isDisconnecting = true := by
  -- The modem does not attach by itself, so that the supervisor waits for the network.
  let first : Session := { ofConfig (.ofAppVersion "1.0.0") 0 with
    modem := { registers := false }, cloud := { script := .silent } }
  have configured := fresh_ofConfig (.ofAppVersion "1.0.0") 0
  have fresh : first.Fresh := (configured.withModem { registers := false }).withCloud { script := .silent }
  have idle : first.runTask = none := rfl
  have asks : Action.Aside false .requestDisconnect := trivial
  have attaches : Action.Aside false (.link (.registration .registeredHome)) := trivial
  let attached : Session := (((Timed.settle 8 (first.act .start).2).act .requestDisconnect).2.act
    (.link (.registration .registeredHome))).2
  -- After the request the network comes, and then the call.
  have waiting := (Relation.ReflTransGen.refl.tail (.start idle)).trans (Path.settle ⟨false, false⟩ 8 _)
  have there : Path ⟨false, false⟩ first attached := (waiting.tail (.act asks)).tail (.act attaches)
  have call : Next ⟨false, false⟩ (Timed.settle 0 attached) (Timed.settle 1 attached) :=
    Next.settle (by decide +kernel)
  obtain ⟨states, length, -, course, before, -⟩ := (new fresh).extend rfl there
  obtain ⟨whole, ends, after, kept⟩ := course.snoc before call
  have last : whole length = attached := (kept length (Nat.le_refl _)).trans before
  refine ⟨whole, length, ends, ?_, ?_⟩
  · rw [last, after]
    unfold Connects
    decide +kernel
  · rw [last]
    decide +kernel

end Course

end Session

end Uplink
