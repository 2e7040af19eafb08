import Mathlib.Data.List.Induction
import Uplink.Metrics

/-!
What the collector tells is a matter of what has happened since it was last reset, and of nothing
before: each counter is the number of its events, the phase is the name that was set last, and its
changes are those of the names that were set.
-/

namespace Uplink.Metrics

/-- The names that the phase was set to, in order. -/
def phaseNames (events : List Count) : List String :=
  events.filterMap fun event =>
    match event with
    | .setPhase name => some name
    | _ => none

/-- How many of the names in a line differ from the one before them. -/
def changes : List String → Nat
  | [] => 0
  | [_] => 0
  | one :: other :: rest => (if one = other then 0 else 1) + changes (other :: rest)

/-- The events that begin or end a session, in order. -/
def sessionEvents (events : List Count) : List Count :=
  events.filter fun event => event = .cloudReady ∨ event = .resetPerformed

/-- The counters of a snapshot, each with the event that it counts. -/
def Snapshot.counters (snapshot : Snapshot) : List (Count × UInt64) :=
  [ (.connectAttempt, snapshot.connection.connectAttempts),
    (.cloudConnectionEstablished, snapshot.connection.cloudConnections),
    (.cloudReady, snapshot.connection.cloudReady),
    (.readyTimeout, snapshot.connection.readyTimeouts),
    (.resetPerformed, snapshot.connection.resets),
    (.linkLost, snapshot.connection.linkLosses),
    (.forcedDisconnect, snapshot.connection.forcedDisconnects),
    (.messageEnqueued, snapshot.messages.enqueued),
    (.messageRejected, snapshot.messages.rejected),
    (.messageSent, snapshot.messages.sent),
    (.messageSendFailed, snapshot.messages.sendFailures),
    (.inboundMessage, snapshot.messages.inbound),
    (.shadowUpdated, snapshot.messages.shadowUpdates),
    (.shadowFailed, snapshot.messages.shadowFailures) ]

variable {events : List Count} {event : Count}

/-! ### One more event -/

/-- An event that is counted last is counted after all others. -/
theorem countAll_concat (metrics : Metrics) (events : List Count) (event : Count) :
    metrics.countAll (events ++ [event]) = (metrics.countAll events).count event := by
  -- Counting all is a fold, and this is its last step.
  simp [countAll]

/-- An event goes to its own counter and to no other. -/
theorem counters_count (metrics : Metrics) (kept : event ≠ .reset) :
    (metrics.count event).snapshot.counters =
      metrics.snapshot.counters.map fun counter =>
        (counter.1, counter.2 + if event = counter.1 then 1 else 0) := by
  -- One case for each event. The phase has a counter of its own changes, which is none of these.
  cases event with
  | reset => contradiction
  | setPhase name =>
    by_cases same : metrics.phase = name
    all_goals simp [count, same, snapshot, Snapshot.counters]
  | _ => simp [count, snapshot, Snapshot.counters]

/-- A session is up from the event that begins one to the event that ends one. -/
theorem connected_count (metrics : Metrics) (kept : event ≠ .reset) :
    (metrics.count event).connected =
      if event = .cloudReady then true else if event = .resetPerformed then false else metrics.connected := by
  -- Two events say whether a session is up; the others leave it as it is.
  cases event with
  | reset => contradiction
  | setPhase name =>
    by_cases same : metrics.phase = name
    all_goals simp [count, same]
  | _ => simp [count]

/-- The phase bears the name that it was set to, and only a new name is a change. -/
theorem count_setPhase (metrics : Metrics) (name : String) :
    (metrics.count (.setPhase name)).phase = name ∧
      (metrics.count (.setPhase name)).phaseTransitions =
        metrics.phaseTransitions + if metrics.phase = name then 0 else 1 := by
  -- The name is compared with the one before.
  by_cases same : metrics.phase = name
  all_goals simp [count, same]

/-- One more name is one more change if it differs from the last one. -/
theorem changes_concat (first : String) (names : List String) (name : String) :
    changes (first :: (names ++ [name])) =
      changes (first :: names) + if names.getLast?.getD first = name then 0 else 1 := by
  -- Induction on the names, with the first one free: every name is the first of those behind it.
  induction names generalizing first with
  | nil => exact (Nat.zero_add _).symm
  | cons other names ih =>
    -- The last name is counted from whatever name comes first.
    have last : (other :: names).getLast?.getD first = names.getLast?.getD other := by
      simp [List.getLast?_cons]
    rw [List.cons_append, changes, ih, changes, last, Nat.add_assoc]

/-! ### All events -/

/-- Each counter is the number of its events. -/
theorem counters_countAll (kept : .reset ∉ events) :
    (({} : Metrics).countAll events).snapshot.counters =
      ({} : Metrics).snapshot.counters.map fun counter => (counter.1, UInt64.ofNat (events.count counter.1)) := by
  -- Induction from the end, as the counters are brought up by the latest event.
  induction events using List.reverseRecOn with
  | nil => rfl
  | append_singleton events event ih =>
    simp only [List.mem_append, List.mem_singleton, not_or] at kept
    rw [countAll_concat, counters_count _ (Ne.symm kept.2), ih kept.1, List.map_map]
    refine List.map_congr_left fun counter _ => ?_
    -- Each counter is looked at alone: the event is its own or another one.
    by_cases same : event = counter.1
    · simp [same, List.count_append]
    · simp [same, List.count_append]

/-- A session is up if one has begun after the last one has ended. -/
theorem connected_countAll (kept : .reset ∉ events) :
    (({} : Metrics).countAll events).connected = true ↔ (sessionEvents events).getLast? = some .cloudReady := by
  -- Induction from the end. The latest event begins a session, ends one, or does neither.
  induction events using List.reverseRecOn with
  | nil => simp [countAll, sessionEvents]
  | append_singleton events event ih =>
    simp only [List.mem_append, List.mem_singleton, not_or] at kept
    rw [countAll_concat, connected_count _ (Ne.symm kept.2)]
    by_cases begins : event = .cloudReady
    · simp [begins, sessionEvents]
    · by_cases ends : event = .resetPerformed
      · simp [ends, sessionEvents]
      · simpa [begins, ends, sessionEvents] using ih kept.1

/-- The phase is the name that was set last, and its changes are those of the names. -/
theorem phase_countAll (kept : .reset ∉ events) :
    (({} : Metrics).countAll events).phase = (phaseNames events).getLast?.getD "init" ∧
      (({} : Metrics).countAll events).phaseTransitions = UInt64.ofNat (changes ("init" :: phaseNames events)) := by
  -- Induction from the last event. Only a change of the phase matters, and it is a transition if the name
  -- differs from the one before.
  induction events using List.reverseRecOn with
  | nil => exact ⟨rfl, rfl⟩
  | append_singleton events event ih =>
    simp only [List.mem_append, List.mem_singleton, not_or] at kept
    obtain ⟨phase, transitions⟩ := ih kept.1
    rw [countAll_concat]
    cases event with
    | reset => exact absurd rfl kept.2
    | setPhase name =>
      have names : phaseNames (events ++ [.setPhase name]) = phaseNames events ++ [name] := by
        simp [phaseNames]
      obtain ⟨set, counted⟩ := count_setPhase (({} : Metrics).countAll events) name
      rw [set, counted, names, changes_concat, phase, transitions]
      refine ⟨by simp, ?_⟩
      split <;> simp
    | _ => simpa [phaseNames, count] using And.intro phase transitions

/-- A reset forgets everything: what is told afterwards is what a new collector would tell. And until
the first one each counter is the number of its events, a session is up if one has begun since the
last one ended, the phase is the name set last, and the changes of the phase are those of its names. -/
theorem reset_forgets_everything :
    (∀ before after : List Count, (({} : Metrics).countAll (before ++ .reset :: after)).snapshot =
        (({} : Metrics).countAll after).snapshot) ∧
      ∀ events : List Count, .reset ∉ events →
        let told := (({} : Metrics).countAll events).snapshot
        (∀ counter ∈ told.counters, counter.2.toNat = events.count counter.1 % UInt64.size) ∧
          (told.connection.connected = true ↔ (sessionEvents events).getLast? = some .cloudReady) ∧
          told.phase = (phaseNames events).getLast?.getD "init" ∧
          told.phaseTransitions.toNat = changes ("init" :: phaseNames events) % UInt64.size := by
  constructor
  · intro before after
    -- What a reset leaves is a new collector, whatever it was before.
    simp [countAll, List.foldl_append, count]
  · intro events kept told
    obtain ⟨phase, transitions⟩ := phase_countAll kept
    refine ⟨fun counter among => ?_, connected_countAll kept, phase, ?_⟩
    · rw [counters_countAll kept] at among
      obtain ⟨before, -, rfl⟩ := List.mem_map.mp among
      simp
    · simp [told, snapshot, transitions]

/-- Two attempts, a session that began and ended, and a phase set to the name that it has. -/
theorem repeated_phase_is_no_change :
    let events : List Count :=
      [.setPhase "connecting", .connectAttempt, .connectAttempt, .cloudReady, .setPhase "connecting", .resetPerformed]
    let told := (({} : Metrics).countAll events).snapshot
    .reset ∉ events ∧ told.connection.connectAttempts.toNat = 2 ∧ told.connection.connected ≠ true ∧
      told.phase = "connecting" ∧ told.phaseTransitions.toNat = 1 := by
  intro events told
  have kept : .reset ∉ events := by decide
  -- The first counter is read off the general statement, and the session is told by its last event.
  obtain ⟨counters, connected, phase, transitions⟩ := reset_forgets_everything.2 events kept
  refine ⟨kept, counters (.connectAttempt, told.connection.connectAttempts) List.mem_cons_self, ?_, phase,
    transitions⟩
  exact (not_congr connected).mpr (by decide)

end Uplink.Metrics
