import Uplink.Proofs.Flags.Stands

/-! A register with its waits agrees with its history, and keeps agreeing whatever happens to it. -/

namespace Uplink.Flags

/-- No two waits have parked under one ticket, and each ticket was issued. -/
structure Waits.Ticketed (waits : Waits) : Prop where
  sole : ∀ one ∈ waits.pending, ∀ other ∈ waits.pending, ∀ ticket,
    one.2.Holds ticket → other.2.Holds ticket → one.1 = other.1
  issued : ∀ entry ∈ waits.pending, ∀ ticket, entry.2.Holds ticket → ticket < waits.register.nextTicket

/-- The clock, the bits, the waits that have ended and those that have not are as the history has
them. -/
structure Faithful (history : List Happening) (waits : Waits) : Prop where
  clock : (momentOf history).now = waits.agenda.now
  shown : (momentOf history).bits = waits.register.bits
  orderly : waits.register.Orderly
  /-- Every wait has a task of its own. -/
  names : (waits.pending.map (·.1)).Nodup
  stands : ∀ entry ∈ waits.pending, Stands history waits.agenda waits.register entry.1 entry.2
  ticketed : waits.Ticketed
  started : ∀ entry ∈ waits.pending, entry.1 < waits.agenda.unused
  /-- Nothing has happened to a task that has not been started. -/
  fresh : ∀ task, waits.agenda.unused ≤ task → Uncalled task history ∧ .cancelled task ∉ history
  /-- No wait is lost: one that was started goes on, has ended or was cancelled. -/
  accounted : ∀ task < waits.agenda.unused, task ∈ waits.pending.map (·.1) ∨
    task ∈ waits.ended.map (·.label) ∨ .cancelled task ∈ history
  answered : ∀ ended ∈ waits.ended, outcome ended.label history = some (ended.instant, ended.bits)
  once : (waits.ended.map (·.label)).Nodup
  past : ∀ ended ∈ waits.ended, ended.label ∉ waits.pending.map (·.1)

/-- What happens is neither the call nor the end of the wait of a task. -/
def Happening.Leaves (happening : Happening) (task : TaskId) : Prop :=
  (∀ condition timeout, happening ≠ .called task condition timeout) ∧ happening ≠ .cancelled task

namespace Faithful

variable {history : List Happening} {waits : Waits} {task : TaskId} {wait : BackgroundWait}

/-- A new register has no history. -/
theorem named (name : String) : Faithful [] (.named name) where
  -- Every field speaks of an entry, a waiter or a ticket, and there is none yet.
  clock := rfl
  shown := rfl
  orderly := Register.orderly_new name
  names := List.nodup_nil
  stands := by simp [Waits.named]
  ticketed := by constructor <;> simp [Waits.named]
  started := by simp [Waits.named]
  fresh := by simp [Uncalled]
  accounted := by simp [Waits.named]
  answered := by simp [Waits.named]
  once := List.nodup_nil
  past := by simp [Waits.named]

/-- The wait of a task that can be found is one of the waits, and the only one of this task. -/
theorem lookup_iff (faithful : Faithful history waits) :
    waits.pending.lookup task = some wait ↔ (task, wait) ∈ waits.pending :=
  -- A search finds the first entry of a task, and the names say that there is no second.
  ⟨Entries.mem_of_lookup, Entries.lookup_of_mem faithful.names⟩

/-- A task has one wait. -/
theorem unique (faithful : Faithful history waits) {other : BackgroundWait}
    (member : (task, wait) ∈ waits.pending) (member' : (task, other) ∈ waits.pending) : other = wait :=
  -- The search of the task has one result, and both waits are it.
  Option.some.inj ((faithful.lookup_iff.mpr member').symm.trans (faithful.lookup_iff.mpr member))

/-- What happens to others takes no answer back. -/
theorem outcome_append {answer : Nat × UInt32} {happening : Happening}
    (answered : outcome task history = some answer) (kept : happening ≠ .cancelled task) :
    outcome task (history ++ [happening]) = some answer := by
  -- The wait is not cancelled by what happens, so its answer is still its outcome.
  unfold outcome at answered ⊢
  split at answered
  · contradiction
  · rename_i before
    have after : .cancelled task ∉ history ++ [happening] := by
      simp [before, kept.symm]
    rw [if_neg after]
    exact answerFrom_append_of_some answered happening

/-- The outcome of a wait that was not cancelled is its answer. -/
theorem outcome_of_kept (kept : .cancelled task ∉ history) :
    outcome task history = answerFrom task {} history :=
  -- The outcome asks for a cancellation first.
  if_neg kept

/-- A wait that was not started has no outcome. -/
theorem lt_unused_of_outcome (faithful : Faithful history waits) {answer : Nat × UInt32}
    (answered : outcome task history = some answer) : task < waits.agenda.unused := by
  -- A task that was not started was not called, and so has no answer.
  by_contra late
  obtain ⟨uncalled, kept⟩ := faithful.fresh task (Nat.le_of_not_lt late)
  rw [outcome_of_kept kept, uncalled.answerFrom_eq_none] at answered
  contradiction

/-- Nothing has happened to a task that has not been started, as long as what happens leaves it. -/
theorem fresh_append (faithful : Faithful history waits) {happening : Happening}
    (about : ∀ task ∉ waits.pending.map (·.1), happening.Leaves task)
    (late : waits.agenda.unused ≤ task) :
    Uncalled task (history ++ [happening]) ∧ .cancelled task ∉ history ++ [happening] := by
  -- A task that was not started is not among the waits, so nothing is about it.
  have absent : task ∉ waits.pending.map (·.1) := by
    intro member
    obtain ⟨entry, kept, rfl⟩ := List.mem_map.mp member
    exact Nat.not_lt.mpr late (faithful.started entry kept)
  obtain ⟨uncalled, kept⟩ := faithful.fresh task late
  obtain ⟨notCall, notCancel⟩ := about task absent
  exact ⟨uncalled.append notCall, by simp [kept, notCancel.symm]⟩

/-- A wait that has ended has returned its outcome, whatever happens to those that have not. -/
theorem answered_append (faithful : Faithful history waits) {happening : Happening}
    (about : ∀ task ∉ waits.pending.map (·.1), happening.Leaves task) :
    ∀ ended ∈ waits.ended,
      outcome ended.label (history ++ [happening]) = some (ended.instant, ended.bits) := by
  intro ended member
  -- A wait that has ended is not among the waits either.
  exact outcome_append (faithful.answered ended member)
    (about ended.label (faithful.past ended member)).2

/-- What a happening leaves to be shown, where it neither starts nor ends a wait. -/
theorem happens (faithful : Faithful history waits) {happening : Happening} {next : Waits}
    (clock : (momentOf (history ++ [happening])).now = next.agenda.now)
    (shown : (momentOf (history ++ [happening])).bits = next.register.bits)
    (orderly : next.register.Orderly) (ticketed : next.Ticketed)
    (stands : ∀ entry ∈ next.pending,
      Stands (history ++ [happening]) next.agenda next.register entry.1 entry.2)
    (names : next.pending.map (·.1) = waits.pending.map (·.1)) (ended : next.ended = waits.ended)
    (unused : next.agenda.unused = waits.agenda.unused)
    (about : ∀ task ∉ waits.pending.map (·.1), happening.Leaves task) :
    Faithful (history ++ [happening]) next where
  clock := clock
  shown := shown
  orderly := orderly
  names := names ▸ faithful.names
  stands := stands
  ticketed := ticketed
  started := by
    intro entry member
    -- The names stay, and with them the tasks that were started.
    have stood : entry.1 ∈ waits.pending.map (·.1) := names ▸ List.mem_map_of_mem member
    obtain ⟨before, kept, same⟩ := List.mem_map.mp stood
    rw [unused, ← same]
    exact faithful.started before kept
  fresh := fun _ late => faithful.fresh_append about (unused ▸ late)
  -- Everybody is accounted for as before, by a wait, an answer or a cancellation.
  accounted := by
    intro task early
    rw [names, ended]
    rcases faithful.accounted task (unused ▸ early) with pending | past | given
    · exact .inl pending
    · exact .inr (.inl past)
    · exact .inr (.inr (by simp [given]))
  answered := ended ▸ faithful.answered_append about
  once := ended ▸ faithful.once
  past := by
    rw [ended, names]
    exact faithful.past

/-! ### What is done to the register -/

/-- Raising bits. -/
theorem post (faithful : Faithful history waits) (mask : UInt32) :
    Faithful (history ++ [.posted mask]) (waits.post mask) := by
  -- Only the bits and what was handed over change; each wait is looked at on its own.
  apply faithful.happens
  case clock => simpa [Waits.post, Moment.after] using faithful.clock
  case shown => simp [Waits.post, Register.post, Moment.after, faithful.shown]
  case orderly => exact faithful.orderly.post mask
  case ticketed => exact ⟨faithful.ticketed.sole, faithful.ticketed.issued⟩
  case stands =>
    intro entry member
    exact (faithful.stands entry member).post faithful.clock faithful.shown mask
  case names => rfl
  case ended => rfl
  case unused => simp [Waits.post]
  case about => simp [Happening.Leaves]

/-- Clearing the bits. -/
theorem reset (faithful : Faithful history waits) : Faithful (history ++ [.cleared]) waits.reset := by
  -- No wait can be answered by bits that are cleared.
  apply faithful.happens
  case clock => simpa [Waits.reset, Moment.after] using faithful.clock
  case shown => simp [Waits.reset, Register.reset, Moment.after]
  case orderly => exact faithful.orderly.reset
  case ticketed => exact ⟨faithful.ticketed.sole, faithful.ticketed.issued⟩
  case stands =>
    intro entry member
    have stands := (faithful.stands entry member).append .cleared trivial
    exact stands.frame rfl id (fun _ _ _ lists => lists) (fun _ _ _ hands => hands)
  case names => rfl
  case ended => rfl
  case unused => rfl
  case about => simp [Happening.Leaves]

/-! ### What is done to a wait -/

/-- Starting a wait. -/
theorem start (faithful : Faithful history waits) (condition : Condition) (timeout : Timeout) :
    Faithful history (waits.start waits.agenda.unused condition timeout) where
  clock := faithful.clock
  shown := faithful.shown
  orderly := faithful.orderly
  names := by
    -- The name of the new task was not used before.
    simp only [Waits.start, List.map_append, List.nodup_append]
    refine ⟨faithful.names, by simp, ?_⟩
    intro name member other last same
    obtain ⟨entry, kept, rfl⟩ := List.mem_map.mp member
    have used := faithful.started entry kept
    simp only [Agenda.spawn, List.map_cons, List.map_nil, List.mem_singleton] at last
    rw [same, last] at used
    exact Nat.lt_irrefl _ used
  stands := by
    intro entry member
    rcases List.mem_append.mp member with kept | last
    · refine (faithful.stands entry kept).frame rfl ?_ (fun _ _ _ lists => lists) (fun _ _ _ hands => hands)
      intro ready
      simp [Waits.start, Agenda.spawn, ready]
    · obtain rfl := List.mem_singleton.mp last
      -- No happening is about the new task yet.
      obtain ⟨uncalled, kept⟩ := faithful.fresh _ (Nat.le_refl _)
      exact .uncalled condition timeout uncalled kept (by simp [Waits.start, Agenda.spawn])
  ticketed := by
    -- The new wait holds no ticket.
    have holds : ∀ entry ∈ (waits.start waits.agenda.unused condition timeout).pending, ∀ ticket,
        entry.2.Holds ticket → entry ∈ waits.pending := by
      intro entry member ticket holds
      obtain ⟨deadline, stage⟩ := holds
      rcases List.mem_append.mp member with kept | last
      · exact kept
      · obtain rfl := List.mem_singleton.mp last
        contradiction
    constructor
    · intro one member other member' ticket held held'
      exact faithful.ticketed.sole one (holds one member ticket held) other (holds other member' ticket held')
        ticket held held'
    · intro entry member ticket held
      exact faithful.ticketed.issued entry (holds entry member ticket held) ticket held
  -- The new name is below the one that comes next.
  started := by
    intro entry member
    rcases List.mem_append.mp member with kept | last
    · exact Nat.lt_succ_of_lt (faithful.started entry kept)
    · obtain rfl := List.mem_singleton.mp last
      exact Nat.lt_succ_self _
  fresh := fun task late => faithful.fresh task (Nat.le_of_succ_le late)
  -- The new task is accounted for by its wait.
  accounted := by
    intro task early
    rcases Nat.lt_succ_iff_lt_or_eq.mp early with before | rfl
    · rcases faithful.accounted task before with pending | rest
      · exact .inl (by simp only [Waits.start, List.map_append, List.mem_append]; exact .inl pending)
      · exact .inr rest
    · exact .inl (by simp [Waits.start, Agenda.spawn])
  answered := faithful.answered
  once := faithful.once
  past := by
    intro ended member pending
    simp only [Waits.start, List.map_append, List.mem_append] at pending
    rcases pending with kept | last
    · exact faithful.past ended member kept
    -- An answer of that name would be one of a task that was not started.
    · have early := faithful.lt_unused_of_outcome (faithful.answered ended member)
      simp only [Agenda.spawn, List.map_cons, List.map_nil, List.mem_singleton] at last
      rw [last] at early
      exact Nat.lt_irrefl _ early

/-- A label that is pending is the name of the task of a wait. -/
theorem of_isPending (faithful : Faithful history waits) {label : Nat}
    (pending : waits.isPending label = true) : ∃ wait, (label, wait) ∈ waits.pending := by
  -- The wait that bears the label has the task of that name.
  obtain ⟨⟨task, wait⟩, member, test⟩ := List.any_eq_true.mp pending
  have named : wait.label = task := (faithful.stands _ member).label_eq
  have called : wait.label = label := by
    simp only [Bool.and_eq_true, decide_eq_true_eq] at test
    exact test.1
  exact ⟨wait, called ▸ named ▸ member⟩

/-- Cancelling the wait of a task wakes it and marks it. -/
theorem cancel_eq (faithful : Faithful history waits) (member : (task, wait) ∈ waits.pending) :
    waits.cancel task = { waits with
      agenda := waits.agenda.wake task
      pending := Entries.adjust task ({ · with cancelled := true }) waits.pending } := by
  -- The search by label finds the entry of the task, since the two are the same name.
  unfold Waits.cancel
  split
  · rename_i missing
    have stood := List.find?_eq_none.mp missing _ member
    simp only [decide_eq_true_eq] at stood
    exact absurd (faithful.stands _ member).label_eq stood
  · rename_i other value found
    have label : value.label = task := by
      simpa using List.find?_some found
    have name : value.label = other := (faithful.stands _ (List.mem_of_find?_eq_some found)).label_eq
    obtain rfl : other = task := name.symm.trans label
    rfl

/-- Cancelling a wait that has not ended. -/
theorem cancel (faithful : Faithful history waits) {label : Nat}
    (pending : waits.isPending label = true) :
    Faithful (history ++ [.cancelled label]) (waits.cancel label) := by
  obtain ⟨wait, member⟩ := faithful.of_isPending pending
  rw [faithful.cancel_eq member]
  -- A mark changes neither the stages nor the tickets.
  have staged : ∀ entry ∈ Entries.adjust label ({ · with cancelled := true }) waits.pending,
      ∃ before ∈ waits.pending, before.1 = entry.1 ∧ before.2.stage = entry.2.stage := by
    intro entry adjusted
    rcases Entries.mem_adjust.mp adjusted with ⟨kept, -⟩ | ⟨value, kept, rfl⟩
    · exact ⟨entry, kept, rfl, rfl⟩
    · exact ⟨_, kept, rfl, rfl⟩
  apply faithful.happens
  case clock => simpa [Moment.after] using faithful.clock
  case shown => simpa [Moment.after] using faithful.shown
  case orderly => exact faithful.orderly
  -- Two holders of a ticket would have been two before the mark.
  case ticketed =>
    constructor
    · intro one first other second ticket holds holds'
      obtain ⟨deadline, held⟩ := holds
      obtain ⟨deadline', held'⟩ := holds'
      obtain ⟨before, kept, name, stage⟩ := staged one first
      obtain ⟨before', kept', name', stage'⟩ := staged other second
      rw [← name, ← name']
      exact faithful.ticketed.sole before kept before' kept' ticket
        ⟨deadline, stage.trans held⟩ ⟨deadline', stage'.trans held'⟩
    · intro entry adjusted ticket holds
      obtain ⟨deadline, held⟩ := holds
      obtain ⟨before, kept, -, stage⟩ := staged entry adjusted
      exact faithful.ticketed.issued before kept ticket ⟨deadline, stage.trans held⟩
  case stands =>
    intro entry (adjusted : entry ∈ Entries.adjust label ({ · with cancelled := true }) waits.pending)
    rcases Entries.mem_adjust.mp adjusted with ⟨kept, apart⟩ | ⟨value, kept, rfl⟩
    · have stands := (faithful.stands entry kept).append (.cancelled label) apart.symm
      refine stands.frame (by simp) ?_ (fun _ _ _ lists => lists) (fun _ _ _ hands => hands)
      intro ready
      simp [ready]
    -- The entry of the label is the one with the mark, and it goes by its task.
    · have name : value.label = label := (faithful.stands _ kept).label_eq
      obtain ⟨_, stage, _⟩ := value
      obtain rfl := name
      exact .cancelled stage (by simp) (by simp)
  case names => simp
  case ended => rfl
  case unused => simp
  -- Nobody but the one who is cancelled hears of it.
  case about =>
    intro task absent
    refine ⟨by simp, ?_⟩
    intro same
    cases same
    exact absent (List.mem_map_of_mem member)

/-! ### Turns -/

/-- A task that has nothing to do takes its turn. -/
theorem yield (faithful : Faithful history waits) {rest : List TaskId}
    (line : waits.agenda.ready = task :: rest)
    (idle : ∀ wait, (task, wait) ∈ waits.pending →
      Stands (history ++ [.looked task]) waits.agenda.yield waits.register task wait) :
    Faithful (history ++ [.looked task]) { waits with agenda := waits.agenda.yield } := by
  apply faithful.happens
  case clock => simpa [Agenda.yield, Moment.after] using faithful.clock
  case shown => simpa [Moment.after] using faithful.shown
  case orderly => exact faithful.orderly
  case ticketed => exact ⟨faithful.ticketed.sole, faithful.ticketed.issued⟩
  case stands =>
    -- Everybody else who stood in line still stands there when the head has been taken away.
    intro entry member
    obtain ⟨other, wait⟩ := entry
    by_cases same : other = task
    · exact same ▸ idle wait (same ▸ member)
    · have stands := (faithful.stands _ member).append (.looked task) (Ne.symm same)
      refine stands.frame rfl ?_ (fun _ _ _ lists => lists) (fun _ _ _ hands => hands)
      intro ready
      rw [line, List.mem_cons] at ready
      simpa [Agenda.yield, line] using ready.resolve_left same
  case names => rfl
  case ended => rfl
  case unused => rfl
  case about => simp [Happening.Leaves]

/-- The wait of the task at the head of the line ends in its turn: it was cancelled, or it returns its
outcome. The other waits are left alone on the register. -/
theorem leave (faithful : Faithful history waits) {rest : List TaskId}
    (line : waits.agenda.ready = task :: rest) (member : (task, wait) ∈ waits.pending)
    {register : Register} (orderly : register.Orderly) (shown : register.bits = waits.register.bits)
    (tickets : register.nextTicket = waits.register.nextTicket)
    (lists : ∀ ticket, ¬ wait.Holds ticket → ∀ owner condition,
      waits.register.Lists ticket owner condition → register.Lists ticket owner condition)
    (hands : ∀ ticket, ¬ wait.Holds ticket → ∀ bits,
      waits.register.Hands ticket bits → register.Hands ticket bits)
    {ended : List Ended}
    (ends : (ended = waits.ended ∧ .cancelled task ∈ history) ∨
      ∃ instant bits, ended = ⟨task, instant, bits⟩ :: waits.ended ∧
        outcome task (history ++ [.looked task]) = some (instant, bits)) :
    Faithful (history ++ [.looked task]) ({ waits with register, ended }.remove task) := by
  -- What is left are the waits of the other tasks, whose tickets are not touched.
  have inPending : ∀ {entry}, entry ∈ waits.pending.filter (·.1 ≠ task) ↔
      entry ∈ waits.pending ∧ entry.1 ≠ task := by
    simp [List.mem_filter]
  have named : ∀ {other}, other ∈ (waits.pending.filter (·.1 ≠ task)).map (·.1) ↔
      other ∈ waits.pending.map (·.1) ∧ other ≠ task := by
    intro other
    simp only [List.mem_map, inPending]
    constructor
    · intro left
      obtain ⟨entry, ⟨kept, apart⟩, rfl⟩ := left
      exact ⟨⟨entry, kept, rfl⟩, apart⟩
    · intro stood
      obtain ⟨⟨entry, kept, rfl⟩, apart⟩ := stood
      exact ⟨entry, ⟨kept, apart⟩, rfl⟩
  have present : task ∈ waits.pending.map (·.1) := List.mem_map_of_mem member
  -- A turn neither calls nor cancels a wait.
  have about : ∀ other ∉ waits.pending.map (·.1), (Happening.looked task).Leaves other := by
    simp [Happening.Leaves]
  have returned := faithful.answered_append about
  constructor
  case clock => simpa [Waits.remove, Agenda.yield, Moment.after] using faithful.clock
  case shown => simpa [Waits.remove, Moment.after] using faithful.shown.trans shown.symm
  case orderly => exact orderly
  case names => exact List.Nodup.sublist (List.filter_sublist.map _) faithful.names
  case stands =>
    intro entry (kept : entry ∈ waits.pending.filter (·.1 ≠ task))
    obtain ⟨stood, apart⟩ := inPending.mp kept
    -- No other wait has parked under the ticket of this one.
    have foreign : ∀ ticket, entry.2.Holds ticket → ¬ wait.Holds ticket := fun ticket holds held =>
      apart (faithful.ticketed.sole entry stood _ member ticket holds held)
    refine ((faithful.stands entry stood).append (.looked task) (Ne.symm apart)).frame rfl ?_ ?_ ?_
    · intro ready
      rw [line, List.mem_cons] at ready
      simpa [Waits.remove, Agenda.yield, line] using ready.resolve_left apart
    · exact fun ticket condition holds => lists ticket (foreign ticket holds) _ condition
    · exact fun ticket bits holds => hands ticket (foreign ticket holds) bits
  -- Those who are left hold what they held.
  case ticketed =>
    constructor
    · intro one first other second
      exact faithful.ticketed.sole one (inPending.mp first).1 other (inPending.mp second).1
    · intro entry kept ticket holds
      have before := faithful.ticketed.issued entry (inPending.mp kept).1 ticket holds
      exact tickets ▸ before
  case started => exact fun entry kept => faithful.started entry (inPending.mp kept).1
  case fresh => exact fun _ => faithful.fresh_append about
  case accounted =>
    intro other early
    -- The wait that ends is accounted for by its answer or by its cancellation.
    by_cases same : other = task
    · rcases ends with ⟨-, given⟩ | ⟨instant, bits, rfl, -⟩
      · exact .inr (.inr (by simp [same, given]))
      · exact .inr (.inl (by simp [Waits.remove, same]))
    · rcases faithful.accounted other early with pending | past | given
      · exact .inl (named.mpr ⟨pending, same⟩)
      · rcases ends with ⟨rfl, -⟩ | ⟨instant, bits, rfl, -⟩
        · exact .inr (.inl past)
        · exact .inr (.inl (List.mem_cons_of_mem _ past))
      · exact .inr (.inr (by simp [given]))
  case answered =>
    rcases ends with ⟨rfl, -⟩ | ⟨instant, bits, rfl, answered⟩
    · exact returned
    · intro answer last
      rcases List.mem_cons.mp last with rfl | earlier
      · exact answered
      · exact returned answer earlier
  case once =>
    rcases ends with ⟨rfl, -⟩ | ⟨instant, bits, rfl, -⟩
    · exact faithful.once
    · refine List.nodup_cons.mpr ⟨?_, faithful.once⟩
      -- A second answer for the task would mean that its wait had ended before.
      intro twice
      obtain ⟨answer, earlier, same⟩ := List.mem_map.mp twice
      exact faithful.past answer earlier (same ▸ present)
  case past =>
    rcases ends with ⟨rfl, -⟩ | ⟨instant, bits, rfl, -⟩
    · exact fun answer earlier still => faithful.past answer earlier (named.mp still).1
    · intro answer last still
      rcases List.mem_cons.mp last with rfl | earlier
      · exact (named.mp still).2 rfl
      · exact faithful.past answer earlier (named.mp still).1

end Faithful

end Uplink.Flags
