import Mathlib.Data.List.Chain
import Uplink.Proofs.Supervisor.Setup

/-! The timetable of the supervisor: which of its deeds come one after the other, and how much time passes from
the one to the other. -/

namespace Uplink

namespace Config

variable (config : Config)

/-- How long the transport gets to connect, in milliseconds. -/
def retrySpan : Nat := ConnectionSection.millis config.connection.retryTimeout

/-- How long a connected session gets to become ready, in milliseconds. -/
def readySpan : Nat := ConnectionSection.millis config.connection.readyTimeout

/-- How long late events get to arrive, in milliseconds. -/
def settleSpan : Nat := ConnectionSection.millis config.connection.settleDelay

/-- How long the supervisor pauses between two cycles, in milliseconds. -/
def pauseSpan : Nat := ConnectionSection.millis config.connection.reestablishDelay

end Config

/-- Whether a deed belongs to the setup. -/
def Deed.isSetup : Deed → Bool
  | .asked request => request.isSetup
  | .moved event => event = .setupSucceeded || event = .setupFailed

namespace Supervisor

open Flags (Register)

/-- The timetable: a deed at an instant, and the deed that comes right after it. -/
inductive Follows (config : Config) : Nat × Deed → Nat × Deed → Prop where
  | setup {earlier later : Nat × Deed} (before : earlier.2.isSetup = true) (after : later.2.isSetup = true)
      (le : earlier.1 ≤ later.1) : Follows config earlier later
  | firstCycle {t t' : Nat} (le : t ≤ t') : Follows config (t, .moved .setupSucceeded) (t', .moved .networkUp)
  | nextCycle {t t' : Nat} (le : t ≤ t') : Follows config (t, .moved .backoffElapsed) (t', .moved .networkUp)
  | connect {t : Nat} : Follows config (t, .moved .networkUp) (t, .asked .connectCloud)
  | timedOut {t : Nat} : Follows config (t, .asked .connectCloud) (t + config.retrySpan, .moved .connectTimedOut)
  | reconnect {t : Nat} : Follows config (t, .moved .connectTimedOut) (t, .asked .connectCloud)
  | connected {t t' : Nat} (le : t ≤ t') (within : t' ≤ t + config.retrySpan) :
      Follows config (t, .asked .connectCloud) (t', .moved .cloudConnected)
  | ready {t t' : Nat} (le : t ≤ t') (within : t' ≤ t + config.readySpan) :
      Follows config (t, .moved .cloudConnected) (t', .moved .cloudReady)
  | failed {t t' : Nat} (le : t ≤ t') (within : t' ≤ t + config.readySpan) :
      Follows config (t, .moved .cloudConnected) (t', .moved .readyTimedOut)
  | publish {t : Nat} : Follows config (t, .moved .cloudReady) (t, .asked .publishShadow)
  | published {t : Nat} : Follows config (t, .asked .publishShadow) (t, .moved .shadowPublished)
  | dropped {t t' : Nat} (le : t ≤ t') : Follows config (t, .moved .shadowPublished) (t', .moved .disconnected)
  | disconnect {t : Nat} {event : PhaseEvent} (resets : event = .readyTimedOut ∨ event = .disconnected) :
      Follows config (t, .moved event) (t + config.settleSpan, .asked .disconnectCloud)
  | reset {t : Nat} : Follows config (t, .asked .disconnectCloud) (t, .moved .resetComplete)
  | rest {t : Nat} : Follows config (t, .moved .resetComplete) (t + config.pauseSpan, .moved .backoffElapsed)

/-- What was done, the latest first, keeps to the timetable. -/
abbrev Timetabled (config : Config) (history : List (Nat × Deed)) : Prop :=
  history.IsChain fun later earlier => Follows config earlier later

variable {config : Config} {history rest later between earlier : List (Nat × Deed)} {entry last : Nat × Deed}

/-- The clock does not go back. -/
theorem Follows.le {earlier later : Nat × Deed} (follows : Follows config earlier later) : earlier.1 ≤ later.1 := by
  -- Every rule puts the later deed at the same instant, a span later, or at any later one.
  cases follows <;> first | assumption | exact Nat.le_refl _ | exact Nat.le_add_right _ _

/-- The setup comes first. -/
theorem Follows.isSetup {earlier later : Nat × Deed} (follows : Follows config earlier later)
    (setup : later.2.isSetup = true) : earlier.2.isSetup = true := by
  -- Only one rule leads to a deed of the setup, and it comes from one.
  cases follows with
  | setup before _ _ => exact before
  | _ => simp [Deed.isSetup, Request.isSetup] at setup

/-! ### What comes before a deed -/

/-- Before an attempt comes the event that has led to it. -/
theorem before_connect {t : Nat} (follows : Follows config entry (t, .asked .connectCloud)) :
    entry = (t, .moved .networkUp) ∨ entry = (t, .moved .connectTimedOut) := by
  -- Of the rules these two lead to the request.
  cases follows with
  | setup _ after _ => simp [Deed.isSetup, Request.isSetup] at after
  | connect => exact .inl rfl
  | reconnect => exact .inr rfl

/-- A cycle begins after the setup or after a pause. -/
theorem before_networkUp {t : Nat} (follows : Follows config entry (t, .moved .networkUp)) :
    entry.2 = .moved .setupSucceeded ∨ entry.2 = .moved .backoffElapsed := by
  -- Of the rules these two lead to the event.
  cases follows with
  | setup _ after _ => simp [Deed.isSetup] at after
  | firstCycle _ => exact .inl rfl
  | nextCycle _ => exact .inr rfl

/-- An attempt times out after its time, and nothing comes in between. -/
theorem before_connectTimedOut {t : Nat} (follows : Follows config entry (t, .moved .connectTimedOut)) :
    ∃ since, entry = (since, .asked .connectCloud) ∧ t = since + config.retrySpan := by
  -- One rule leads to the event.
  cases follows with
  | setup _ after _ => simp [Deed.isSetup] at after
  | timedOut => exact ⟨_, rfl, rfl⟩

/-- A request to disconnect comes the settling time after what has led to it. -/
theorem before_disconnectCloud {t : Nat} (follows : Follows config entry (t, .asked .disconnectCloud)) :
    ∃ since event, entry = (since, .moved event) ∧ (event = .readyTimedOut ∨ event = .disconnected) ∧
      t = since + config.settleSpan := by
  -- One rule leads to the request.
  cases follows with
  | setup _ after _ => simp [Deed.isSetup, Request.isSetup] at after
  | disconnect resets => exact ⟨_, _, rfl, resets, rfl⟩

namespace Timetabled

/-- What goes back along the timetable holds of everything that was done before. -/
theorem along {P : Nat × Deed → Prop}
    (back : ∀ {earlier later : Nat × Deed}, Follows config earlier later → P later → P earlier)
    (tabled : Timetabled config (last :: rest)) (holds : P last) : ∀ entry ∈ rest, P entry := by
  -- Induction on what was done before, from the latest deed on.
  induction rest generalizing last with
  | nil => exact fun _ member => nomatch member
  | cons next rest ih =>
    obtain ⟨follows, further⟩ := List.isChain_cons_cons.mp tabled
    have here : P next := back follows holds
    exact List.forall_mem_cons.mpr ⟨here, ih further here⟩

/-- What was done before was done no later. -/
theorem le (tabled : Timetabled config (last :: rest)) : ∀ entry ∈ rest, entry.1 ≤ last.1 :=
  -- Along the history the clock goes one way.
  tabled.along (fun follows earlier => Nat.le_trans follows.le earlier) (Nat.le_refl _)

/-- Before a deed of the setup there are only deeds of the setup. -/
theorem setup (tabled : Timetabled config (last :: rest)) (setup : last.2.isSetup = true) :
    ∀ entry ∈ rest, entry.2.isSetup = true :=
  -- Along the history the setup goes back to its beginning.
  tabled.along Follows.isSetup setup

/-- Two attempts of one cycle, one right after the other, are as far apart as the configuration says. -/
theorem spaced_in_cycle {t t' : Nat}
    (tabled : Timetabled config
      (later ++ (t', .asked .connectCloud) :: (between ++ (t, .asked .connectCloud) :: earlier)))
    (alone : ∀ entry ∈ between, entry.2 ≠ .asked .connectCloud)
    (same : ∀ entry ∈ between, entry.2 ≠ .moved .backoffElapsed) : t' = t + config.retrySpan := by
  -- Back from the later attempt: first the event that has led to it, and then what came before that event.
  have attempt := tabled.right_of_append
  cases between with
  | nil =>
    have follows := (List.isChain_cons_cons.mp attempt).1
    rcases before_connect follows with same | same <;> cases same
  | cons event between =>
    obtain ⟨follows, further⟩ := List.isChain_cons_cons.mp attempt
    rcases before_connect follows with rfl | rfl
    · -- A cycle that begins does so after a pause, or after the setup, before which there was no attempt.
      exfalso
      cases between with
      | nil =>
        rcases before_networkUp (List.isChain_cons_cons.mp further).1 with same | same <;> cases same
      | cons start between =>
        obtain ⟨begins, before⟩ := List.isChain_cons_cons.mp further
        rcases before_networkUp begins with setup | pause
        · have first : (t, Deed.asked .connectCloud).2.isSetup = true :=
            Timetabled.setup before (by simp [setup, Deed.isSetup]) _ (by simp)
          simp [Deed.isSetup, Request.isSetup] at first
        · exact same start (by simp) pause
    · -- The attempt that has timed out is the other one.
      cases between with
      | nil =>
        obtain ⟨since, this, spaced⟩ := before_connectTimedOut (List.isChain_cons_cons.mp further).1
        cases this
        exact spaced
      | cons other between =>
        obtain ⟨since, this, -⟩ := before_connectTimedOut (List.isChain_cons_cons.mp further).1
        exact absurd (congrArg Prod.snd this) (alone other (by simp))

/-- The settling time and the pause pass between an attempt and the end of a pause after it. -/
theorem rested {t u : Nat} (tabled : Timetabled config ((u, .moved .backoffElapsed) :: rest))
    (member : (t, .asked .connectCloud) ∈ rest) : t + config.settleSpan + config.pauseSpan ≤ u := by
  -- Back from the end of the pause: the reset, the request to disconnect, and what has led to it.
  obtain _ | ⟨reset, rest⟩ := rest
  · nomatch member
  obtain ⟨rests, reset⟩ := List.isChain_cons_cons.mp tabled
  cases rests with
  | setup _ after _ => simp [Deed.isSetup] at after
  | rest =>
    replace member : (t, .asked .connectCloud) ∈ rest := by simpa using member
    -- Before the reset there is the request to disconnect.
    obtain _ | ⟨request, rest⟩ := rest
    · nomatch member
    obtain ⟨resets, request⟩ := List.isChain_cons_cons.mp reset
    cases resets with
    | setup _ after _ => simp [Deed.isSetup] at after
    | reset =>
      replace member : (t, .asked .connectCloud) ∈ rest := by simpa using member
      -- Before that request the phase of the reset was entered.
      obtain _ | ⟨entered, rest⟩ := rest
      · nomatch member
      obtain ⟨disconnects, entry⟩ := List.isChain_cons_cons.mp request
      cases disconnects with
      | setup _ after _ => simp [Deed.isSetup, Request.isSetup] at after
      | @disconnect since event resets =>
        replace member : (t, .asked .connectCloud) ∈ rest := by
          rcases resets with rfl | rfl <;> simpa using member
        have earlier : t ≤ since := Timetabled.le entry _ member
        omega

/-- Two attempts of different cycles are apart by the settling time and the pause at least. -/
theorem spaced_between_cycles {t t' u : Nat}
    (tabled : Timetabled config
      (later ++ (t', .asked .connectCloud) :: (between ++ (t, .asked .connectCloud) :: earlier)))
    (pause : (u, .moved .backoffElapsed) ∈ between) : t + config.settleSpan + config.pauseSpan ≤ t' := by
  have attempt := tabled.right_of_append
  obtain ⟨after, before, rfl⟩ := List.append_of_mem pause
  -- The pause ends before the later attempt, and long after the other one.
  have ended : u ≤ t' := Timetabled.le attempt (u, .moved .backoffElapsed) (by simp)
  have rests : Timetabled config
      ((u, .moved .backoffElapsed) :: (before ++ (t, .asked .connectCloud) :: earlier)) := by
    have tail := attempt.tail
    simp only [List.tail_cons, List.append_assoc] at tail
    exact tail.right_of_append
  exact Nat.le_trans (rests.rested (by simp)) ended

end Timetabled

/-! ### Where a run stands in the timetable -/

/-- The deeds with which a run comes to a place. -/
def Place.Opens : Place → Deed → Prop
  | .starting, _ => False
  | .calling request, deed => deed = .asked request
  | .cycleStart, deed | .awaitingNetwork _, deed => deed = .moved .setupSucceeded ∨ deed = .moved .backoffElapsed
  | .awaitingCloud _, deed => deed = .asked .connectCloud
  | .awaitingReady _, deed => deed = .moved .cloudConnected
  | .awaitingDrop _, deed => deed = .moved .shadowPublished
  | .settling _, deed => deed = .moved .readyTimedOut ∨ deed = .moved .disconnected
  | .backingOff _, deed => deed = .moved .resetComplete

/-- How long a run stays at a place at most, if there is a limit. Its calls do not take time. -/
def Place.span? (config : Config) : Place → Option Nat
  | .calling _ => some 0
  | .awaitingCloud _ => some config.retrySpan
  | .awaitingReady _ => some config.readySpan
  | .settling _ => some config.settleSpan
  | .backingOff _ => some config.pauseSpan
  | _ => none

/-- The deadline of a place is that of a span which began at this instant. -/
def Place.Due (config : Config) (since : Nat) : Place → Prop
  | .awaitingCloud wait => Begun { now := since } config.retrySpan wait
  | .awaitingReady wait => Begun { now := since } config.readySpan wait
  | .settling due => due = Agenda.deadline { now := since } config.settleSpan
  | .backingOff due => due = Agenda.deadline { now := since } config.pauseSpan
  | _ => True

/-- A run has come to its place with this entry, and has not stayed there for too long. -/
structure Place.OnTime (config : Config) (now : Nat) (entry : Nat × Deed) (place : Place) : Prop where
  opens : place.Opens entry.2
  begun : entry.1 ≤ now
  within : ∀ span, place.span? config = some span → now ≤ entry.1 + span
  due : place.Due config entry.1

variable {agenda : Agenda} {place next : Place} {deeds : List Deed} {since span : Nat}

/-- The deadline of a span that began at some instant does not come before the span has passed. -/
theorem le_of_reached (come : agenda.reached (Agenda.deadline { now := since } span) = true) :
    since + span ≤ agenda.now := by
  -- Either the clock can show the deadline, and it is the end of the span, or there is none to be reached.
  unfold Agenda.deadline at come
  split at come
  · simpa [Agenda.reached] using come
  · cases come

/-- Where a place has a deadline that has come, its time has passed. -/
theorem Place.Due.late (due : place.Due config since) (limit : place.span? config = some span)
    (come : agenda.reached place.deadline? = true) : since + span ≤ agenda.now := by
  -- A wait that has been answered has no deadline any more.
  cases place with
  | awaitingCloud wait | awaitingReady wait =>
    obtain rfl := Option.some.inj limit
    cases wait with
    | answered bits => cases come
    | parked ticket deadline =>
      obtain rfl : deadline = _ := due
      exact le_of_reached come
  | settling deadline | backingOff deadline =>
    obtain rfl := Option.some.inj limit
    obtain rfl : deadline = _ := due
    exact le_of_reached come
  | calling request => cases come
  | starting | cycleStart | awaitingNetwork wait | awaitingDrop wait => cases limit

/-- A run that may sleep at a place for a limited time has the deadline of that time. -/
theorem Place.Due.asleep {connection : Connection} {task : TaskId} (due : place.Due config since)
    (limit : place.span? config = some span) (asleep : place.Vigil connection False task) :
    place.deadline? = Agenda.deadline { now := since } span := by
  -- Whoever sleeps does not wait for a reply, and has no answer to pick up.
  cases place with
  | awaitingCloud wait | awaitingReady wait =>
    obtain rfl := Option.some.inj limit
    cases wait with
    | answered bits => exact (asleep.heeds .cloud _ _ rfl).1.elim
    | parked ticket deadline => exact due
  | settling deadline | backingOff deadline =>
    obtain rfl := Option.some.inj limit
    exact due
  | calling request => exact (asleep.works trivial).elim
  | starting | cycleStart | awaitingNetwork wait | awaitingDrop wait => cases limit

/-- A call is on time at the instant of its request. -/
theorem onTime_calling (config : Config) (now : Nat) (request : Request) :
    (Place.calling request).OnTime config now (now, .asked request) :=
  -- The instant of the request is the present one.
  ⟨rfl, Nat.le_refl _, fun _ _ => Nat.le_add_right _ _, trivial⟩

/-- A step of a run on time keeps to the timetable, and leaves the run on time. -/
theorem Steps.onTime {cloud : Register} (steps : Steps config cloud agenda place deeds next)
    (onTime : place.OnTime config agenda.now entry)
    (late : ∀ wait, place = .awaitingCloud wait → (cloud.poll agenda wait).1 = some 0 →
      agenda.reached wait.deadline? = true) :
    Timetabled config (deeds.map (agenda.now, ·) ++ [entry]) ∧
      next.OnTime config agenda.now ((deeds.map (agenda.now, ·)).headD entry) := by
  -- One case for each step; where a deadline is waited for, the time of the place has just passed.
  obtain ⟨since, deed⟩ := entry
  obtain ⟨opens, begun, within, due⟩ := onTime
  cases steps with
  | starting => exact opens.elim
  | cycleStart lasting => exact ⟨.singleton _, opens, begun, fun _ limit => (nomatch limit), trivial⟩
  | networkUp =>
    refine ⟨.cons_cons .connect (.cons_cons ?_ (.singleton _)), onTime_calling _ _ _⟩
    rcases opens with same | same
    · obtain rfl : deed = _ := same
      exact .firstCycle begun
    · obtain rfl : deed = _ := same
      exact .nextCycle begun
  | @retry wait unanswered =>
    obtain rfl : deed = _ := opens
    have passed : since + config.retrySpan ≤ agenda.now := due.late rfl (late wait rfl unanswered)
    have now : agenda.now = since + config.retrySpan := Nat.le_antisymm (within _ rfl) passed
    refine ⟨.cons_cons .reconnect (.cons_cons ?_ (.singleton _)), onTime_calling _ _ _⟩
    rw [now]
    exact .timedOut
  -- From here on each deed opens a place of its own.
  | connected answered met begins =>
    obtain rfl : deed = _ := opens
    refine ⟨.cons_cons (.connected begun (within _ rfl)) (.singleton _), rfl, Nat.le_refl _,
      fun _ _ => Nat.le_add_right _ _, ?_⟩
    exact begins
  | ready answered =>
    obtain rfl : deed = _ := opens
    exact ⟨.cons_cons .publish (.cons_cons (.ready begun (within _ rfl)) (.singleton _)), onTime_calling _ _ _⟩
  | failed answered other =>
    obtain rfl : deed = _ := opens
    exact ⟨.cons_cons (.failed begun (within _ rfl)) (.singleton _), .inl rfl, Nat.le_refl _,
      fun _ _ => Nat.le_add_right _ _, rfl⟩
  | dropped =>
    obtain rfl : deed = _ := opens
    exact ⟨.cons_cons (.dropped begun) (.singleton _), .inr rfl, Nat.le_refl _,
      fun _ _ => Nat.le_add_right _ _, rfl⟩
  -- The settling time has just passed, and not more than that.
  | settled come =>
    have passed : since + config.settleSpan ≤ agenda.now := due.late rfl come
    have now : agenda.now = since + config.settleSpan := Nat.le_antisymm (within _ rfl) passed
    refine ⟨.cons_cons ?_ (.singleton _), onTime_calling _ _ _⟩
    rw [now]
    rcases opens with same | same
    · obtain rfl : deed = _ := same
      exact .disconnect (.inl rfl)
    · obtain rfl : deed = _ := same
      exact .disconnect (.inr rfl)
  | rested come =>
    obtain rfl : deed = _ := opens
    have passed : since + config.pauseSpan ≤ agenda.now := due.late rfl come
    have now : agenda.now = since + config.pauseSpan := Nat.le_antisymm (within _ rfl) passed
    refine ⟨.cons_cons ?_ (.singleton _), .inr rfl, Nat.le_refl _, fun _ limit => (nomatch limit), trivial⟩
    rw [now]
    exact .rest

/-- A reply at the instant of its request keeps to the timetable, and leaves the run on time. -/
theorem Resumes.onTime {request : Request} {reply : request.Reply}
    (resumes : Resumes config agenda request reply deeds next)
    (onTime : (Place.calling request).OnTime config agenda.now entry) :
    Timetabled config (deeds.map (agenda.now, ·) ++ [entry]) ∧
      next.OnTime config agenda.now ((deeds.map (agenda.now, ·)).headD entry) := by
  -- One case for each request.
  obtain ⟨since, deed⟩ := entry
  obtain ⟨opens, begun, within, due⟩ := onTime
  obtain rfl : deed = .asked request := opens
  have now : agenda.now = since := Nat.le_antisymm (within 0 rfl) begun
  subst now
  cases resumes with
  | modemUp start =>
    exact ⟨.cons_cons (.setup rfl rfl (Nat.le_refl _)) (.singleton _), onTime_calling _ _ _⟩
  | clockHeard | transportUp wanted | transportUpPlain unwanted =>
    refine ⟨.cons_cons (.setup rfl rfl (Nat.le_refl _)) ?_, onTime_calling _ _ _⟩
    exact .cons_cons (.setup rfl rfl (Nat.le_refl _)) (.singleton _)
  | saving | eventsOn =>
    exact ⟨.cons_cons (.setup rfl rfl (Nat.le_refl _)) (.singleton _), onTime_calling _ _ _⟩
  | bringUp =>
    refine ⟨.cons_cons (.setup rfl rfl (Nat.le_refl _)) ?_, .inl rfl, Nat.le_refl _,
      fun _ limit => (nomatch limit), trivial⟩
    exact .cons_cons (.setup rfl rfl (Nat.le_refl _)) (.singleton _)
  -- The time for the attempt begins with the request.
  | connect result begins =>
    exact ⟨.singleton _, rfl, Nat.le_refl _, fun _ _ => Nat.le_add_right _ _, begins⟩
  | publish result lasting =>
    exact ⟨.cons_cons .published (.singleton _), rfl, Nat.le_refl _, fun _ limit => (nomatch limit), trivial⟩
  | disconnect result =>
    exact ⟨.cons_cons .reset (.singleton _), rfl, Nat.le_refl _, fun _ _ => Nat.le_add_right _ _, rfl⟩

end Supervisor

end Uplink
