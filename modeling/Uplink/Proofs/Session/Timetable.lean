import Uplink.Proofs.Session.Program
import Uplink.Proofs.Supervisor.Timetable

/-! The timetable of a session whose clock stops at every deadline, and whose calls do not take time. -/

namespace Uplink

open Flags (Covers Register)
open Supervisor (Timetabled Place)

/-- A wait for any bit of a mask that is heeded ends without a bit only at its deadline. -/
theorem Flags.Register.Heeds.due_of_none {register : Register} {firm awake : Prop} {task : TaskId} {mask : UInt32}
    {wait : Flags.Wait} {agenda : Agenda} (heeds : register.Heeds firm awake task (.any mask) wait) (holds : firm)
    (orderly : register.Orderly) (nothing : (register.poll agenda wait).1 = some 0) :
    agenda.reached wait.deadline? = true := by
  -- Whatever was handed over is a bit at least.
  have some (answers : register.Answers firm (.any mask) 0) : False := by
    obtain ⟨earlier, met, covers⟩ := answers
    exact (Answers.any ⟨earlier, met, fun _ => covers holds⟩).1 rfl
  cases wait with
  | answered bits =>
    obtain rfl := Option.some.inj nothing
    exact (some heeds.2).elim
  | parked ticket deadline =>
    rcases heeds with listed | ⟨-, bits, handed, answers⟩
    · by_contra early
      have ahead : agenda.reached deadline = false := Bool.eq_false_of_not_eq_true early
      rw [orderly.poll_open listed ahead] at nothing
      cases nothing
    · rw [orderly.poll_handed handed] at nothing
      obtain rfl := Option.some.inj nothing
      exact (some answers).elim

/-- Bits that a session was waited for with and that are not the ready bit alone tell of a disconnect. -/
theorem Connection.isDisconnecting_of_other {connection : Connection} {bits : UInt32} (some : bits ≠ 0)
    (within : bits &&& (Cloud.ready ||| Cloud.disconnected) = bits) (other : bits ≠ Cloud.ready)
    (covers : Covers connection.cloud.bits bits) : connection.isDisconnecting = true := by
  by_contra clear
  have unset : connection.cloud.bits &&& Cloud.disconnected = 0 := by
    simpa [Connection.isDisconnecting, Register.isSet] using clear
  -- Without the one bit of the mask, only the other one is left.
  have none : bits &&& Cloud.disconnected = 0 := by
    have part : bits &&& connection.cloud.bits = bits := covers
    rw [← part, UInt32.and_assoc, unset, UInt32.and_zero]
  have split : bits &&& (Cloud.ready ||| Cloud.disconnected) =
      bits &&& Cloud.ready ||| bits &&& Cloud.disconnected := by
    rw [← UInt32.toNat_inj]
    simp [Nat.and_or_distrib_left]
  rw [split, none, UInt32.or_zero] at within
  rcases Flags.single_bit bits (by decide : Cloud.ready.toNat = 2 ^ 2) with zero | whole
  · exact some (within.symm.trans zero)
  · exact other (within.symm.trans whole)

/-- How long the supervisor stays in a phase at most, or for each attempt in it, if there is a limit. -/
def Phase.span? (config : Config) : Phase → Option Nat
  | .connectingCloud => some config.retrySpan
  | .waitCloudReady => some config.readySpan
  | .resetting => some config.settleSpan
  | .backoff => some config.pauseSpan
  | _ => none

/-- The latest event of a history. -/
def Supervisor.latestEvent? (history : List (Nat × Deed)) : Option (Nat × PhaseEvent) :=
  history.findSome? fun
    | (instant, .moved event) => some (instant, event)
    | (_, .asked _) => none

namespace Session

/-! ### Keeping the clock -/

/-- One thing that can happen while the clock is kept: something at the present instant, or the clock moves on
where no task can run, to the next deadline at most. -/
inductive Timely (setting : Setting) (session : Session) : Session → Prop where
  | still {after : Session} (next : Next setting session after) (same : after.agenda.now = session.agenda.now) :
      Timely setting session after
  | strike (instant : Nat) (quiet : session.turn? = none) (later : session.agenda.now ≤ instant)
      (shown : instant ≤ Agenda.horizon) (next : ∀ due, Timed.nextDue? session = some due → instant ≤ due) :
      Timely setting session (session.strike instant)

/-- Things that happen one after the other while the clock is kept. -/
abbrev TimelyPath (setting : Setting) : Session → Session → Prop :=
  Relation.ReflTransGen (Timely setting)

/-- The supervisor of a session keeps to the timetable. -/
structure Scheduled (session : Session) : Prop where
  clock : session.agenda.now ≤ Agenda.horizon
  tabled : Timetabled session.supervisor.config session.supervisor.history
  opening : ∀ entry, session.supervisor.history.getLast? = some entry → entry.2 = .asked .modemInit
  idle : session.runTask = none → session.supervisor.history = []
  onTime : ∀ task run, session.Runs task run →
    (run.place = .starting ∧ session.supervisor.history = []) ∨
      ∃ entry, session.supervisor.history.head? = some entry ∧
        run.place.OnTime session.supervisor.config session.agenda.now entry
  punctual : ∀ task run, session.Runs task run → session.agenda.reached run.place.deadline? = true →
    task ∈ session.agenda.ready

variable {setting : Setting} {first last session before after : Session} {task : TaskId} {run onward : Supervisor.Run}
  {heard : Option Heard} {deeds : List Deed}

/-- What can happen while the clock is kept is a part of what can happen. -/
theorem Timely.next (timely : Timely setting before after) : Next setting before after := by
  -- The clock may be set to any later instant where it is not kept, so to the next deadline as well.
  cases timely with
  | still next same => exact next
  | strike instant quiet later shown next => exact .strike instant later

/-- A path on which the clock is kept is one of those that can happen. -/
theorem TimelyPath.path (path : TimelyPath setting first last) : Path setting first last := by
  -- Induction on the path.
  induction path with
  | refl => exact .refl
  | tail _ timely ih => exact ih.tail timely.next

/-- A turn is something that happens at the present instant. -/
theorem Timely.turn {next : Session} (turned : session.turn? = some next) : Timely setting session next :=
  -- A turn takes no time.
  .still (.turn turned) (now_turn turned)

/-- Whoever lets the time of a session pass keeps the clock. -/
theorem TimelyPath.runTo (setting : Setting) (arrived : Session → Bool) {limit : Nat} (shown : limit ≤ Agenda.horizon)
    (turns : Nat) (session : Session) (later : session.agenda.now ≤ limit) :
    TimelyPath setting session (Timed.runTo arrived limit turns session) := by
  -- Induction on the turns; the clock moves on only where there is none.
  induction turns generalizing session with
  | zero => exact .refl
  | succ turns ih =>
    unfold Timed.runTo
    split
    · exact .refl
    · split
      · rename_i next turned
        exact .head (.turn turned) (ih next ((now_turn turned).trans_le later))
      · rename_i quiet
        split
        · -- The clock goes to the next deadline, or to the limit if that is nearer.
          rename_i due stops
          have ahead : session.agenda.now ≤ due := Nat.le_of_lt (Agenda.lt_of_nextOf stops)
          have first : ∀ other, Timed.nextDue? session = some other → due ≤ other := fun other same =>
            Nat.le_of_eq (Option.some.inj (stops.symm.trans same))
          split
          · rename_i within
            have struck : (session.strike due).agenda.now ≤ limit := by
              rw [show (session.strike due).agenda.now = due from Agenda.wakeAll_now _ _]
              exact within
            exact .head (.strike due quiet ahead (Nat.le_trans within shown) first) (ih _ struck)
          · rename_i beyond
            refine .single (.strike limit quiet later shown fun other same => ?_)
            exact Nat.le_trans (Nat.le_of_not_le beyond) (first other same)
        · rename_i never
          refine .single (.strike limit quiet later shown fun other same => ?_)
          cases never.symm.trans same

/-! ### Everything keeps to the timetable -/

/-- A fresh session has done nothing yet. -/
theorem Fresh.scheduled (fresh : first.Fresh) (clock : first.agenda.now ≤ Agenda.horizon) : first.Scheduled where
  -- Its history is empty, and it has no run.
  clock := clock
  tabled := by rw [fresh.history]; exact .nil
  opening := by simp [fresh.history]
  idle := fun _ => fresh.history
  onTime := fun task run runs => by cases fresh.runTask.symm.trans runs.runTask
  punctual := fun task run runs => by cases fresh.runTask.symm.trans runs.runTask

namespace Scheduled

/-- Where the supervisor does nothing, the runs and the clock stay as they are, and whoever has come to his
deadline is in line, the supervisor keeps to the timetable. -/
theorem keep (scheduled : before.Scheduled) (config : after.supervisor.config = before.supervisor.config)
    (history : after.supervisor.history = before.supervisor.history)
    (now : after.agenda.now = before.agenda.now) (runTask : after.runTask = before.runTask)
    (runs : ∀ task run, after.Runs task run → before.Runs task run)
    (punctual : ∀ task run, after.Runs task run → before.agenda.reached run.place.deadline? = true →
      task ∈ after.agenda.ready) : after.Scheduled where
  -- Every field speaks of the history, the clock or the runs, and those have not changed.
  clock := now ▸ scheduled.clock
  tabled := by rw [config, history]; exact scheduled.tabled
  opening := by rw [history]; exact scheduled.opening
  idle := fun none => by rw [history]; exact scheduled.idle (runTask ▸ none)
  onTime := fun task run found => by rw [config, history, now]; exact scheduled.onTime task run (runs task run found)
  punctual := fun task run found come =>
    punctual task run found ((Agenda.reached_congr now run.place.deadline?).symm.trans come)

/-- What is done on top of a history that began with the setup leaves it so, and what is done on top of a history
that keeps to the timetable has to keep to it from the latest deed on. -/
theorem append (scheduled : before.Scheduled) {entry : Nat × Deed} {new : List (Nat × Deed)}
    (head : before.supervisor.history.head? = some entry)
    (tabled : Timetabled before.supervisor.config (new ++ [entry])) :
    Timetabled before.supervisor.config (new ++ before.supervisor.history) ∧
      ∀ first, (new ++ before.supervisor.history).getLast? = some first → first.2 = .asked .modemInit := by
  obtain ⟨rest, history⟩ := List.head?_eq_some_iff.mp head
  have earlier := scheduled.tabled
  have began := scheduled.opening
  rw [history] at earlier began ⊢
  -- The two histories share the latest deed of the earlier one.
  constructor
  · have whole := tabled.append_overlap (show Timetabled _ ([entry] ++ rest) from earlier) (by simp)
    rwa [List.append_assoc] at whole
  · intro first last
    rw [List.getLast?_append_of_ne_nil _ (by simp)] at last
    exact began first last

/-- A run that stands in line keeps to the timetable if it is on time with its latest deed. -/
theorem of_runs (clock : session.agenda.now ≤ Agenda.horizon)
    (tabled : Timetabled session.supervisor.config session.supervisor.history)
    (opening : ∀ entry, session.supervisor.history.getLast? = some entry → entry.2 = .asked .modemInit)
    (runs : session.Runs task run) {latest : Nat × Deed} (head : session.supervisor.history.head? = some latest)
    (onTime : run.place.OnTime session.supervisor.config session.agenda.now latest)
    (awake : task ∈ session.agenda.ready) : session.Scheduled where
  -- There is one run, so what is said of any run is said of this one.
  clock := clock
  tabled := tabled
  opening := opening
  idle := fun none => by cases none.symm.trans runs.runTask
  onTime := fun other found there => by
    obtain rfl := Standing.running.inj (there.standing.symm.trans runs.standing)
    exact .inr ⟨latest, head, onTime⟩
  punctual := fun other found there _ => by
    obtain rfl := Option.some.inj (there.runTask.symm.trans runs.runTask)
    exact awake

/-- A run that goes on as the timetable says keeps to it. -/
theorem goOn (scheduled : before.Scheduled) {entry : Nat × Deed}
    (head : before.supervisor.history.head? = some entry) (runs : after.Runs task onward)
    (did : Supervisor.Did before.agenda.now deeds before.supervisor after.supervisor)
    (now : after.agenda.now = before.agenda.now) (awake : task ∈ after.agenda.ready)
    (tabled : Timetabled before.supervisor.config (deeds.map (before.agenda.now, ·) ++ [entry]))
    (onTime : onward.place.OnTime before.supervisor.config before.agenda.now
      ((deeds.map (before.agenda.now, ·)).headD entry)) : after.Scheduled := by
  obtain ⟨whole, began⟩ := scheduled.append head tabled
  -- The latest deed is the last of the new ones, or the one before if there are none.
  have latest : after.supervisor.history.head? = some ((deeds.map (before.agenda.now, ·)).headD entry) := by
    rw [did.history, List.head?_append, head]
    cases deeds <;> rfl
  refine of_runs (now ▸ scheduled.clock) ?_ ?_ runs latest ?_ awake
  · rwa [did.config, did.history]
  · rwa [did.history]
  · rwa [did.config, now]

/-- The first step of a run begins the timetable. -/
theorem begin (scheduled : before.Scheduled) {cloud : Register} (nothing : before.supervisor.history = [])
    (steps : Supervisor.Steps before.supervisor.config cloud before.agenda .starting deeds onward.place)
    (runs : after.Runs task onward)
    (did : Supervisor.Did before.agenda.now deeds before.supervisor after.supervisor)
    (now : after.agenda.now = before.agenda.now) (awake : task ∈ after.agenda.ready) : after.Scheduled := by
  generalize calls : onward.place = place at steps
  -- The one step from the start asks the modem to come up.
  cases steps
  have history : after.supervisor.history = [(before.agenda.now, .asked .modemInit)] := by
    rw [did.history, nothing]
    rfl
  refine of_runs (now ▸ scheduled.clock) ?_ ?_ runs (congrArg List.head? history) ?_ awake
  · rw [history]
    exact .singleton _
  · simp [history]
  · rw [calls, now]
    exact Supervisor.onTime_calling _ _ _

/-- A run that has ended keeps to the timetable if its last deed does. -/
theorem endRun (scheduled : before.Scheduled) {entry : Nat × Deed}
    (head : before.supervisor.history.head? = some entry) (ended : after.standing = .ended)
    (did : Supervisor.Did after.agenda.now deeds before.supervisor after.supervisor)
    (now : after.agenda.now = before.agenda.now)
    (tabled : Timetabled before.supervisor.config (deeds.map (after.agenda.now, ·) ++ [entry])) :
    after.Scheduled := by
  obtain ⟨whole, began⟩ := scheduled.append head tabled
  -- Nobody runs any longer, so nobody has to be on time.
  have nobody {task : TaskId} {run : Supervisor.Run} (found : after.Runs task run) : False := by
    cases found.standing.symm.trans ended
  constructor
  case clock => exact now ▸ scheduled.clock
  case tabled => rwa [did.config, did.history]
  case opening => rwa [did.history]
  case idle => exact fun none => by simp [standing, none] at ended
  case onTime => exact fun _ _ found => (nobody found).elim
  case punctual => exact fun _ _ found => (nobody found).elim

/-- A run that stays at its place while no task can run is before the end of its time there. -/
theorem ahead (scheduled : before.Scheduled) (reached : Reached ⟨false, false⟩ before) (quiet : before.turn? = none)
    (runs : before.Runs task run) {entry : Nat × Deed} {span : Nat}
    (onTime : run.place.OnTime before.supervisor.config before.agenda.now entry)
    (limit : run.place.span? before.supervisor.config = some span) :
    before.agenda.now < entry.1 + span ∧
      (entry.1 + span ≤ Agenda.horizon → run.place.deadline? = some (entry.1 + span)) := by
  have deadline := onTime.due.asleep limit (reached.asleep quiet runs)
  -- Whose deadline has come would stand in line.
  have early : before.agenda.reached run.place.deadline? = false := by
    by_contra come
    have stands := scheduled.punctual task run runs (by simpa using come)
    simp [ready_of_quiet quiet] at stands
  by_cases shown : entry.1 + span ≤ Agenda.horizon
  · have due : run.place.deadline? = some (entry.1 + span) := deadline.trans (if_pos shown)
    rw [due] at early
    have before : ¬entry.1 + span ≤ before.agenda.now := of_decide_eq_false early
    exact ⟨Nat.lt_of_not_le before, fun _ => due⟩
  · have clock := scheduled.clock
    exact ⟨by omega, fun shows => absurd shows shown⟩

/-- The clock moves on to the next deadline at most, so nobody misses his. -/
theorem strike (scheduled : before.Scheduled) (reached : Reached ⟨false, false⟩ before) (quiet : before.turn? = none)
    {instant : Nat} (later : before.agenda.now ≤ instant) (shown : instant ≤ Agenda.horizon)
    (next : ∀ due, Timed.nextDue? before = some due → instant ≤ due) : (before.strike instant).Scheduled := by
  have now : (before.strike instant).agenda.now = instant := Agenda.wakeAll_now _ _
  have kept {task : TaskId} {run : Supervisor.Run} (found : (before.strike instant).Runs task run) :
      before.Runs task run := ⟨found.runTask, found.listed⟩
  constructor
  case clock =>
    rw [now]
    exact shown
  case tabled => exact scheduled.tabled
  case opening => exact scheduled.opening
  case idle => exact scheduled.idle
  -- What was on time is so still, as the clock has not passed the deadline of the run.
  case onTime =>
    intro task run found
    refine (scheduled.onTime task run (kept found)).imp_right ?_
    rintro ⟨entry, head, onTime⟩
    refine ⟨entry, head, onTime.opens, ?_, fun span limit => ?_, onTime.due⟩
    · rw [now]
      exact Nat.le_trans onTime.begun later
    · -- The deadline of the run is one of those that the clock stops at.
      rw [now]
      obtain ⟨ahead, deadline⟩ := scheduled.ahead reached quiet (kept found) onTime limit
      by_cases shows : entry.1 + span ≤ Agenda.horizon
      · have member : some (entry.1 + span) ∈ before.tasks.map (·.2.job.deadline?) :=
          List.mem_map.mpr ⟨_, Entries.mem_of_lookup found.listed, deadline shows⟩
        obtain ⟨due, stops⟩ := Agenda.nextOf_isSome member ahead
        exact Nat.le_trans (next due stops) (Agenda.nextOf_le stops member ahead)
      · omega
  case punctual =>
    intro task run found come
    -- Those whose deadline has come with the clock are woken.
    have listed := Entries.mem_of_lookup (kept found).listed
    have come' : ({ before.agenda with now := instant } : Agenda).reached run.place.deadline? = true :=
      (Agenda.reached_congr now.symm _).trans come
    refine Agenda.mem_wakeAll.mpr (.inr (List.mem_map.mpr ⟨_, List.mem_filter.mpr ⟨listed, ?_⟩, rfl⟩))
    exact come'

end Scheduled

/-- What happens at the present instant keeps to the timetable. -/
theorem Proceeds.scheduled (proceeds : Proceeds ⟨false, false⟩ before heard after)
    (reached : Reached ⟨false, false⟩ before) (scheduled : before.Scheduled)
    (still : after.agenda.now = before.agenda.now) : after.Scheduled := by
  -- One case for each thing that can happen to the run.
  cases proceeds with
  | @beside middle aside quiet pending =>
    have config : middle.supervisor.config = before.supervisor.config := by rw [aside.supervisor rfl]
    have history : middle.supervisor.history = before.supervisor.history := aside.history
    have kept {task : TaskId} {run : Supervisor.Run} (found : middle.flush.Runs task run) : before.Runs task run :=
      (⟨found.runTask, found.listed⟩ : middle.Runs task run).of_aside aside
    -- What the others do leaves the deeds, the run and its deadline alone.
    refine scheduled.keep config history still (aside.runTask rfl) (fun _ _ => kept) fun task run found come => ?_
    have stood := scheduled.punctual task run (kept found) come
    exact Agenda.mem_wakeAll.mpr (.inl (aside.ready task (kept found).runTask stood))
  | starts idle =>
    -- The new run has no deadline yet, and nothing was done before it.
    have begun : before.start.Runs before.agenda.unused {} := reached.staffed.start_runs
    have nothing : before.supervisor.history = [] := scheduled.idle idle
    have fresh {task : TaskId} {run : Supervisor.Run} (found : before.start.flush.Runs task run) : run = {} :=
      Standing.running.inj ((⟨found.runTask, found.listed⟩ : before.start.Runs task run).standing.symm.trans
        begun.standing)
    constructor
    case clock => exact still ▸ scheduled.clock
    case tabled => exact scheduled.tabled
    case opening => exact scheduled.opening
    case idle => exact fun none => nomatch none
    case onTime => exact fun task run found => .inl ⟨by rw [fresh found], nothing⟩
    case punctual => exact fun task run found come => by rw [fresh found] at come; cases come
  -- A step that is too early does nothing.
  | waits head runs steps early runs' now did pending =>
    refine scheduled.keep did.config did.history still (runs'.runTask.trans runs.runTask.symm)
      (fun task run found => ?_) fun task run found come => ?_
    · obtain rfl := Option.some.inj (found.runTask.symm.trans runs'.runTask)
      obtain rfl := Standing.running.inj (found.standing.symm.trans runs'.standing)
      exact runs
    · obtain rfl := Standing.running.inj (found.standing.symm.trans runs'.standing)
      cases early.symm.trans come
  | @steps _ task rest run onward deeds head runs steps runs' awake now did pending =>
    rcases scheduled.onTime task run runs with ⟨start, nothing⟩ | ⟨entry, latest, onTime⟩
    · exact scheduled.begin nothing (start ▸ steps) runs' did now awake
    · -- A wait without an answer has come to its deadline, as the run misses nothing.
      have late : ∀ wait, run.place = .awaitingCloud wait →
          (before.connection.cloud.poll before.agenda wait).1 = some 0 →
            before.agenda.reached wait.deadline? = true := by
        intro wait waits nothing
        have heeds := (reached.vigils rfl task run runs).heeds .cloud (.any Cloud.connected) wait (by rw [waits]; rfl)
        exact heeds.due_of_none rfl (reached.staffed.orderly .cloud) nothing
      obtain ⟨tabled, onTime'⟩ := steps.onTime onTime late
      exact scheduled.goOn latest runs' did now awake tabled onTime'
  -- A reply is heard at the instant of its request.
  | @resumes replied _ task rest run onward request reply deeds head runs calls aside sound resumes runs' awake now did
      pending =>
    have same : replied.agenda.now = before.agenda.now := now.symm.trans still
    rcases scheduled.onTime task run runs with ⟨start, nothing⟩ | ⟨entry, latest, onTime⟩
    · cases start.symm.trans calls
    · rw [calls, ← same] at onTime
      obtain ⟨tabled, onTime'⟩ := resumes.onTime onTime
      rw [same] at tabled onTime' did
      exact scheduled.goOn latest runs' did still awake tabled onTime'
  | @fails _ task rest run request reply error head runs calls fault ended outcome did =>
    rcases scheduled.onTime task run runs with ⟨start, nothing⟩ | ⟨⟨since, deed⟩, latest, onTime⟩
    · cases start.symm.trans calls
    · -- Only a request of the setup can fail it.
      rw [calls] at onTime
      obtain rfl : deed = .asked request := onTime.opens
      have setup : request.isSetup = true := by
        by_contra cyclic
        rw [Request.failure?_of_cycle (Bool.eq_false_of_not_eq_true cyclic)] at fault
        cases fault
      have tabled : Timetabled before.supervisor.config
          [(after.agenda.now, .moved .setupFailed), (since, .asked request)] :=
        .cons_cons (.setup setup rfl (still ▸ onTime.begun)) (.singleton _)
      exact scheduled.endRun latest ended did still tabled
  | suspends head runs held => cases held.1
  | gone head absent =>
    refine scheduled.keep rfl rfl rfl rfl (fun _ _ found => ⟨found.runTask, found.listed⟩) fun task run found come => ?_
    have earlier : before.Runs task run := ⟨found.runTask, found.listed⟩
    exact earlier.ready_yield head absent (scheduled.punctual task run earlier come)

/-- What happens while the clock is kept keeps to the timetable. -/
theorem Scheduled.timely (scheduled : before.Scheduled) (reached : Reached ⟨false, false⟩ before)
    (timely : Timely ⟨false, false⟩ before after) : after.Scheduled := by
  -- Either something happens at the present instant, or the clock strikes the next deadline.
  cases timely with
  | still next same =>
    obtain ⟨heard, hears⟩ := next.hears
    exact (reached.proceeds hears).scheduled reached scheduled same
  | strike instant quiet later shown next => exact scheduled.strike reached quiet later shown next

/-- On every path from a fresh session on which the clock is kept, the supervisor keeps to the timetable of its
configuration. -/
theorem Fresh.scheduled_along (fresh : first.Fresh) (clock : first.agenda.now ≤ Agenda.horizon)
    (path : TimelyPath ⟨false, false⟩ first last) :
    Reached ⟨false, false⟩ last ∧ last.Scheduled ∧ last.supervisor.config = first.supervisor.config := by
  -- Induction on the path.
  induction path with
  | refl => exact ⟨.fresh fresh, fresh.scheduled clock, rfl⟩
  | tail _ timely ih =>
    obtain ⟨reached, scheduled, config⟩ := ih
    obtain ⟨now, deeds, did⟩ := reached.did timely.next
    exact ⟨reached.next timely.next, scheduled.timely reached timely, did.config.trans config⟩

/-! ### What the timetable says of a session -/

/-- A deed that does not begin the setup was preceded by another one. -/
theorem Scheduled.preceded (scheduled : last.Scheduled) {entry : Nat × Deed}
    (head : last.supervisor.history.head? = some entry) (later : entry.2 ≠ .asked .modemInit) :
    ∃ earlier rest, last.supervisor.history = entry :: earlier :: rest ∧
      Supervisor.Follows last.supervisor.config earlier entry := by
  obtain ⟨rest, history⟩ := List.head?_eq_some_iff.mp head
  cases rest with
  -- With no other deed before it, this one would open the history.
  | nil => exact absurd (scheduled.opening entry (by simp [history])) later
  | cons earlier rest =>
    have tabled := scheduled.tabled
    rw [history] at tabled
    exact ⟨earlier, rest, history, (List.isChain_cons_cons.mp tabled).1⟩

/-- A phase with a limit has not lasted for longer, and has not come to its limit where no task can run. -/
theorem Scheduled.within_phase (scheduled : last.Scheduled) (reached : Reached ⟨false, false⟩ last) {span : Nat}
    (limit : last.supervisor.phase.span? last.supervisor.config = some span) :
    ∃ since event, Supervisor.latestEvent? last.supervisor.history = some (since, event) ∧
      last.agenda.now ≤ since + span ∧ (last.turn? = none → last.agenda.now < since + span) := by
  have here : last.supervisor.phase = last.standing.phase := reached.balances.phase
  rw [here] at limit
  cases stands : last.standing with
  -- Without a run the phase has no limit.
  | idle | ended =>
    rw [stands] at limit
    cases limit
  | running run =>
    obtain ⟨task, runs⟩ := reached.staffed.runs_of_standing stands
    replace limit : run.place.phase.span? last.supervisor.config = some span := by rwa [stands] at limit
    rcases scheduled.onTime task run runs with ⟨start, -⟩ | ⟨⟨since, deed⟩, head, onTime⟩
    · rw [start] at limit
      cases limit
    · -- Where the latest deed is an event, the time of the place is the time of the phase.
      have placed (span : Nat) (same : run.place.span? last.supervisor.config = some span) :
          last.agenda.now ≤ since + span ∧ (last.turn? = none → last.agenda.now < since + span) :=
        ⟨onTime.within span same, fun quiet => (scheduled.ahead reached quiet runs onTime same).1⟩
      obtain ⟨rest, history⟩ := List.head?_eq_some_iff.mp head
      -- Nobody waits for a reply where no task can run.
      have busy (request : Request) (calls : run.place = .calling request) (quiet : last.turn? = none) : False := by
        refine (reached.asleep quiet runs).works ?_
        rw [calls]
        exact trivial
      have opens := onTime.opens
      cases place : run.place with
      | starting | cycleStart | awaitingNetwork wait | awaitingDrop wait =>
        rw [place] at limit
        cases limit
      | awaitingReady wait | backingOff due =>
        rw [place] at opens limit
        obtain rfl : deed = _ := opens
        exact ⟨since, _, by rw [history]; rfl, placed span (by rw [place]; exact limit)⟩
      | settling due =>
        rw [place] at opens limit
        rcases opens with same | same <;>
          exact ⟨since, _, by rw [history, show deed = _ from same]; rfl, placed span (by rw [place]; exact limit)⟩
      -- The wait for a session is opened by a request, and the request by an event.
      | awaitingCloud wait =>
        rw [place] at opens limit
        obtain rfl : deed = _ := opens
        obtain ⟨earlier, rest, history, follows⟩ := scheduled.preceded head (by simp)
        have spans := placed span (by rw [place]; exact limit)
        rcases Supervisor.before_connect follows with rfl | rfl <;>
          exact ⟨since, _, by rw [history]; rfl, spans⟩
      | calling request =>
        -- The request was made at this instant, on an event of this instant or after the settling time.
        rw [place] at opens limit onTime
        obtain rfl : deed = .asked request := opens
        have now : last.agenda.now ≤ since := onTime.within 0 rfl
        cases request with
        | modemInit | registerClock | transportInit | requestPsm | enableEvents | connectNetwork | publishShadow =>
          cases limit
        | connectCloud =>
          obtain ⟨earlier, rest, history, follows⟩ := scheduled.preceded head (by simp)
          have spans : last.agenda.now ≤ since + span ∧ (last.turn? = none → last.agenda.now < since + span) :=
            ⟨Nat.le_add_right_of_le now, fun quiet => (busy _ place quiet).elim⟩
          rcases Supervisor.before_connect follows with rfl | rfl <;>
            exact ⟨since, _, by rw [history]; rfl, spans⟩
        -- A session is dropped at the end of the settling time.
        | disconnectCloud =>
          obtain rfl := Option.some.inj limit
          obtain ⟨earlier, rest, history, follows⟩ := scheduled.preceded head (by simp)
          obtain ⟨entered, event, rfl, -, spaced⟩ := Supervisor.before_disconnectCloud follows
          exact ⟨entered, event, by rw [history]; rfl, spaced ▸ now, fun quiet => (busy _ place quiet).elim⟩

/-- What was done in one thing that has happened, where the history has got one deed more. -/
theorem deeds_of_history {now now' : Nat} {deed : Deed} {before after : Supervisor}
    (did : Supervisor.Did now' deeds before after) (more : after.history = (now, deed) :: before.history) :
    deeds = [deed] ∧ now' = now := by
  -- The new deeds stand in front of the same history, so they are the difference of the two.
  have new : deeds.map (now', ·) = [(now, deed)] :=
    List.append_cancel_right (did.history.symm.trans more)
  obtain ⟨only, rfl, same⟩ := List.map_eq_singleton_iff.mp new
  obtain ⟨rfl, rfl⟩ := Prod.mk.inj same
  exact ⟨rfl, rfl⟩

/-- Only the answer to the wait for a session that has not become ready gives the session up. -/
theorem Proceeds.given_up (proceeds : Proceeds setting before heard after) {now : Nat}
    (given : after.supervisor.history = (now, .moved .readyTimedOut) :: before.supervisor.history) :
    now = before.agenda.now ∧ ∃ task run wait bits, before.Runs task run ∧ run.place = .awaitingReady wait ∧
      (before.connection.cloud.poll before.agenda wait).1 = some bits ∧ bits ≠ Cloud.ready := by
  have nothing {after : Supervisor} (same : after.history = before.supervisor.history)
      (given : after.history = (now, .moved .readyTimedOut) :: before.supervisor.history) : False :=
    List.cons_ne_self _ _ (given.symm.trans same)
  -- One case for each thing that can happen to the run.
  cases proceeds with
  | beside aside quiet pending => exact (nothing aside.history given).elim
  | starts idle => exact (nothing rfl given).elim
  | suspends head runs held => exact (nothing rfl given).elim
  | gone head absent => exact (nothing rfl given).elim
  | waits head runs steps early runs' now' did pending => exact (nothing did.history given).elim
  | @steps _ task rest run onward deeds head runs steps runs' awake now' did pending =>
    obtain ⟨rfl, rfl⟩ := deeds_of_history did given
    generalize here : run.place = place at steps
    generalize onto : onward.place = next at steps
    cases steps with
    | failed answered other => exact ⟨rfl, task, run, _, _, runs, here, answered, other⟩
  -- A reply gives up no session.
  | resumes head runs calls aside sound resumes runs' awake now' did pending =>
    obtain ⟨rfl, rfl⟩ := deeds_of_history did given
    nomatch resumes
  | fails head runs calls fault ended outcome did =>
    cases (deeds_of_history did given).1

/-- A session that is given up as not ready, though no disconnect is under way, has had all of its time. -/
theorem Scheduled.gives_up (scheduled : last.Scheduled) (reached : Reached ⟨false, false⟩ last)
    (timely : Timely ⟨false, false⟩ last after) {now : Nat}
    (given : after.supervisor.history = (now, .moved .readyTimedOut) :: last.supervisor.history)
    (clear : last.connection.isDisconnecting = false) :
    ∃ since rest, last.supervisor.history = (since, .moved .cloudConnected) :: rest ∧
      now = since + last.supervisor.config.readySpan := by
  obtain ⟨heard, hears⟩ := timely.next.hears
  obtain ⟨rfl, task, run, wait, bits, runs, place, answered, other⟩ := (reached.proceeds hears).given_up given
  rcases scheduled.onTime task run runs with ⟨start, -⟩ | ⟨⟨since, deed⟩, head, onTime⟩
  · cases start.symm.trans place
  · have vigil := reached.vigils rfl task run runs
    rw [place] at onTime vigil
    obtain rfl : deed = .moved .cloudConnected := onTime.opens
    obtain ⟨rest, history⟩ := List.head?_eq_some_iff.mp head
    -- The answer is not of a disconnect, so there was none before the deadline.
    have none : bits = 0 := by
      rcases vigil.answer reached.staffed.orderly rfl answered with none | ⟨some, within, covers⟩
      · exact none
      · have asked := Connection.isDisconnecting_of_other some within other covers
        cases clear.symm.trans asked
    rw [none] at answered
    have due := (vigil.heeds .cloud _ wait rfl).due_of_none rfl (reached.staffed.orderly .cloud) answered
    have passed : since + last.supervisor.config.readySpan ≤ last.agenda.now := onTime.due.late rfl due
    exact ⟨since, rest, history, Nat.le_antisymm (onTime.within _ rfl) passed⟩

/-- The cloud register is reset the settling time after the phase of the reset was entered. -/
theorem Scheduled.resets_on_time (scheduled : last.Scheduled) (resets : last.Resets after) :
    ∃ since event rest,
      last.supervisor.history = (last.agenda.now, .asked .disconnectCloud) :: (since, .moved event) :: rest ∧
      (event = .readyTimedOut ∨ event = .disconnected) ∧
      last.agenda.now = since + last.supervisor.config.settleSpan := by
  obtain ⟨task, _, run, due, -, runs, calls, -⟩ := resets.returned
  rcases scheduled.onTime task run runs with ⟨start, -⟩ | ⟨⟨asked, deed⟩, head, onTime⟩
  · cases start.symm.trans calls
  · -- The disconnect was asked for at this instant, as calls take no time.
    rw [calls] at onTime
    obtain rfl : deed = .asked .disconnectCloud := onTime.opens
    obtain rfl : last.agenda.now = asked := Nat.le_antisymm (onTime.within 0 rfl) onTime.begun
    obtain ⟨earlier, rest, history, follows⟩ := scheduled.preceded head (by simp)
    obtain ⟨since, event, rfl, leads, spaced⟩ := Supervisor.before_disconnectCloud follows
    exact ⟨since, event, rest, history, leads, spaced⟩

/-- **The intervals of every cycle are fixed** while the clock is kept and calls take no time, whatever happens
when. What the supervisor does keeps to its timetable; the attempts of one cycle are the time for an attempt apart,
one by one, and those of different cycles the settling time and the pause at least. No phase with a limit lasts for
longer, a session that is given up with no disconnect under way has had all of its time, and the cloud register
loses bits in a reset only, the settling time after the phase of the reset was entered. -/
theorem Fresh.keeps_timetable (fresh : first.Fresh) (clock : first.agenda.now ≤ Agenda.horizon)
    (path : TimelyPath ⟨false, false⟩ first last) :
    let config := first.supervisor.config
    let history := last.supervisor.history
    Timetabled config history ∧
    (∀ later between earlier t t',
      history = later ++ (t', .asked .connectCloud) :: (between ++ (t, .asked .connectCloud) :: earlier) →
      ((∀ entry ∈ between, entry.2 ≠ .asked .connectCloud) → (∀ entry ∈ between, entry.2 ≠ .moved .backoffElapsed) →
        t' = t + config.retrySpan) ∧
      ((∃ u, (u, .moved .backoffElapsed) ∈ between) → t + config.settleSpan + config.pauseSpan ≤ t')) ∧
    (∀ span, last.supervisor.phase.span? config = some span →
      ∃ since event, Supervisor.latestEvent? history = some (since, event) ∧
        last.agenda.now ≤ since + span ∧ (last.turn? = none → last.agenda.now < since + span)) ∧
    (∀ after now, Timely ⟨false, false⟩ last after →
      after.supervisor.history = (now, .moved .readyTimedOut) :: history →
      last.connection.isDisconnecting = false →
      ∃ since rest, history = (since, .moved .cloudConnected) :: rest ∧ now = since + config.readySpan) ∧
    (∀ after, Timely ⟨false, false⟩ last after →
      (Covers after.connection.cloud.bits last.connection.cloud.bits ∨ last.Resets after) ∧
      (last.Resets after → ∃ since event rest,
        history = (last.agenda.now, .asked .disconnectCloud) :: (since, .moved event) :: rest ∧
        (event = .readyTimedOut ∨ event = .disconnected) ∧ last.agenda.now = since + config.settleSpan)) := by
  intro config history
  -- The whole timetable is an invariant of the run, and each part is read off it.
  obtain ⟨reached, scheduled, same⟩ := fresh.scheduled_along clock path
  have tabled : Timetabled config history := by
    have tabled := scheduled.tabled
    rwa [same] at tabled
  refine ⟨tabled, ?_, ?_, ?_, ?_⟩
  · intro later between earlier t t' parts
    rw [parts] at tabled
    exact ⟨Timetabled.spaced_in_cycle tabled, fun ⟨u, pause⟩ => Timetabled.spaced_between_cycles tabled pause⟩
  · intro span limit
    exact scheduled.within_phase reached (same ▸ limit)
  · -- Who gives the session up has waited for all of the time.
    intro after now timely given clear
    obtain ⟨since, rest, entered, spaced⟩ := scheduled.gives_up reached timely given clear
    rw [same] at spaced
    exact ⟨since, rest, entered, spaced⟩
  · -- What clears the register is a reset.
    intro after timely
    refine ⟨reached.keeps_or_resets rfl timely.next, fun resets => ?_⟩
    obtain ⟨since, event, rest, entered, leads, spaced⟩ := scheduled.resets_on_time resets
    rw [same] at spaced
    exact ⟨since, event, rest, entered, leads, spaced⟩

/-- A transport that never connects is asked again after half a minute. -/
theorem silent_transport_is_asked_again :
    ∃ (first last : Session) (earlier : List (Nat × Deed)), first.Fresh ∧ first.agenda.now ≤ Agenda.horizon ∧
      TimelyPath ⟨false, false⟩ first last ∧
      last.supervisor.history = (30000, .asked .connectCloud) ::
        ([(30000, .moved .connectTimedOut)] ++ (0, .asked .connectCloud) :: earlier) ∧
      30000 = 0 + first.supervisor.config.retrySpan := by
  -- The network is there at once, so the first attempt is made at the beginning.
  let first : Session := { ofConfig (.ofAppVersion "1.0.0") 0 with cloud := { script := .silent } }
  have fresh : first.Fresh := (fresh_ofConfig (.ofAppVersion "1.0.0") 0).withCloud { script := .silent }
  let started : Session := (first.act .start).2
  let last : Session := Timed.runTo (fun _ => false) 30000 40 started
  have begun : TimelyPath ⟨false, false⟩ first started := .single (.still (.start rfl) rfl)
  have path : TimelyPath ⟨false, false⟩ first last :=
    begun.trans (TimelyPath.runTo ⟨false, false⟩ (fun _ => false) (by decide) 40 started (by decide +kernel))
  have asked : last.supervisor.history = [] ++ (30000, .asked .connectCloud) ::
      ([(30000, .moved .connectTimedOut)] ++ (0, .asked .connectCloud) :: last.supervisor.history.drop 3) := by
    decide +kernel
  obtain ⟨-, spaced, -⟩ := fresh.keeps_timetable (by decide) path
  exact ⟨first, last, _, fresh, by decide, path, asked, (spaced _ _ _ _ _ asked).1 (by simp) (by simp)⟩

end Session

end Uplink
