import Mathlib.Data.List.Nodup
import Uplink.Proofs.Agenda
import Uplink.Proofs.Entries
import Uplink.Flags.Register

/-! Tickets of a register: a wait that has parked stands in the list until its bits are handed to it. -/

namespace Uplink.Flags

/-- A condition that some bits do not meet is not met without any bits. -/
theorem Condition.matched_zero {condition : Condition} {bits : UInt32}
    (unmet : condition.matched bits = none) : condition.matched 0 = none := by
  cases condition with
  | any mask => simp [matched]
  | all mask =>
    -- The empty mask would have been met by any bits.
    simp only [matched, ite_eq_right_iff, reduceCtorEq, imp_false, UInt32.zero_and] at unmet ⊢
    intro same
    subst same
    exact unmet UInt32.and_zero

namespace Register

/-- The wait of this ticket stands in the list, and nobody has given it up. -/
def Lists (register : Register) (ticket : Ticket) (owner : TaskId) (condition : Condition) : Prop :=
  ⟨ticket, owner, condition, false⟩ ∈ register.waiters

/-- These bits were handed to the wait of this ticket, which has not picked them up. -/
def Hands (register : Register) (ticket : Ticket) (bits : UInt32) : Prop :=
  (ticket, bits) ∈ register.handed

/-- Tickets are issued once, a wait either stands in the list or was handed its bits, and the bits
meet the condition of nobody who still waits. -/
structure Orderly (register : Register) : Prop where
  listed : (register.waiters.map (·.ticket)).Nodup
  handed : (register.handed.map (·.1)).Nodup
  listedIssued : ∀ waiter ∈ register.waiters, waiter.ticket < register.nextTicket
  handedIssued : ∀ grant ∈ register.handed, grant.1 < register.nextTicket
  apart : ∀ waiter ∈ register.waiters, ∀ grant ∈ register.handed, waiter.ticket ≠ grant.1
  unmet : ∀ waiter ∈ register.waiters, waiter.gone = false →
    waiter.condition.matched register.bits = none

variable {register : Register} {ticket other : Ticket} {owner : TaskId} {condition : Condition}
  {bits mask : UInt32}

/-- Nobody waits on a new register. -/
theorem orderly_new (name : String) : Orderly { name } := by
  -- Its lists are empty, so that each field holds of no entry.
  constructor <;> simp

/-- What was handed to a ticket is what a look under that ticket finds. -/
theorem Orderly.lookup_of_hands (orderly : register.Orderly) (hands : register.Hands ticket bits) :
    register.handed.lookup ticket = some bits :=
  -- No ticket has two answers, and the search finds the only one.
  Entries.lookup_of_mem orderly.handed hands

/-- A wait in the list has been handed nothing. -/
theorem Orderly.lookup_of_lists (orderly : register.Orderly)
    (lists : register.Lists ticket owner condition) : register.handed.lookup ticket = none := by
  -- Tickets in the list and tickets with bits are kept apart.
  apply Entries.lookup_eq_none
  intro grant member
  exact (orderly.apart _ lists grant member).symm

/-! ### Raising and clearing bits -/

/-- A post satisfies those in the list who are still there and whose condition is met. -/
theorem mem_satisfied {waiter : Waiter} :
    waiter ∈ register.satisfied bits ↔ waiter ∈ register.waiters ∧ waiter.gone = false ∧
      (waiter.condition.matched bits).isSome := by
  -- The filter of those present and the filter of those satisfied, taken as one.
  simp only [satisfied, present, List.mem_filter, List.mem_reverse, Bool.not_eq_true', and_assoc]

/-- A post hands bits to nobody but those whom it satisfies. -/
theorem hands_post {grant : Ticket × UInt32} :
    grant ∈ (register.post mask).1.handed ↔ grant ∈ register.handed ∨
      ∃ waiter ∈ register.waiters, waiter.gone = false ∧ waiter.ticket = grant.1 ∧
        waiter.condition.matched (register.bits ||| mask) = some grant.2 := by
  -- What is handed over anew comes from those whom the post satisfies, each with its own ticket.
  obtain ⟨ticket, bits⟩ := grant
  simp only [post, List.mem_append, List.mem_filterMap, mem_satisfied, Option.map_eq_some_iff,
    Prod.mk.injEq]
  constructor
  · intro given
    rcases given with kept | ⟨waiter, ⟨member, there, -⟩, matched, met, rfl, rfl⟩
    · exact .inl kept
    · exact .inr ⟨waiter, member, there, rfl, met⟩
  · intro given
    rcases given with kept | ⟨waiter, member, there, rfl, met⟩
    · exact .inl kept
    · exact .inr ⟨waiter, ⟨member, there, by simp [met]⟩, bits, met, rfl, rfl⟩

/-- A post keeps those in the list who are still there and whose condition is not met. -/
theorem mem_waiters_post {waiter : Waiter} :
    waiter ∈ (register.post mask).1.waiters ↔ waiter ∈ register.waiters ∧ waiter.gone = false ∧
      waiter.condition.matched (register.bits ||| mask) = none := by
  -- The waiters that a post leaves are a filter, whose two conditions these are.
  simp [post]

/-- A post does not issue a ticket and leaves the order as it is. -/
theorem Orderly.post (orderly : register.Orderly) (mask : UInt32) :
    (register.post mask).1.Orderly where
  listed := by
    apply List.Nodup.sublist _ orderly.listed
    exact List.filter_sublist.map _
  handed := by
    -- Those who are handed bits had tickets of their own, and none was handed anything before.
    have fresh : (((register.satisfied (register.bits ||| mask)).filterMap fun waiter =>
        (waiter.condition.matched (register.bits ||| mask)).map
          fun bits => (waiter.ticket, bits)).map (·.1)).Nodup := by
      have order : ((register.satisfied (register.bits ||| mask)).map (·.ticket)).Nodup := by
        apply List.Nodup.sublist (List.filter_sublist.map _)
        simp only [present, List.map_reverse, List.nodup_reverse]
        exact List.Nodup.sublist (List.filter_sublist.map _) orderly.listed
      rw [List.Nodup, List.pairwise_map] at order ⊢
      rw [List.pairwise_filterMap]
      apply order.imp
      intro one another apart grant granted grant' granted'
      obtain ⟨-, -, rfl⟩ := Option.map_eq_some_iff.mp granted
      obtain ⟨-, -, rfl⟩ := Option.map_eq_some_iff.mp granted'
      exact apart
    -- Neither does any of them have an answer from before.
    simp only [Register.post, List.map_append]
    refine List.Nodup.append orderly.handed fresh ?_
    intro ticket old new
    obtain ⟨grant, kept, rfl⟩ := List.mem_map.mp old
    obtain ⟨grant', granted, same⟩ := List.mem_map.mp new
    obtain ⟨waiter, satisfied, matched⟩ := List.mem_filterMap.mp granted
    obtain ⟨_, _, rfl⟩ := Option.map_eq_some_iff.mp matched
    exact orderly.apart waiter (mem_satisfied.mp satisfied).1 grant kept same
  listedIssued := fun waiter member => orderly.listedIssued waiter (mem_waiters_post.mp member).1
  -- Answers go to tickets that had them, or to those of waiters.
  handedIssued := by
    intro grant member
    rcases hands_post.mp member with kept | ⟨waiter, stood, -, same, -⟩
    · exact orderly.handedIssued grant kept
    · exact same ▸ orderly.listedIssued waiter stood
  apart := by
    intro waiter member grant granted same
    obtain ⟨stood, there, unmet⟩ := mem_waiters_post.mp member
    rcases hands_post.mp granted with kept | ⟨waiter', stood', -, same', met⟩
    · exact orderly.apart waiter stood grant kept same
    · -- The one who was handed the bits would be the one who is left in the list.
      obtain rfl := List.inj_on_of_nodup_map orderly.listed stood stood' (same.trans same'.symm)
      simp [met] at unmet
  unmet := fun waiter member _ => (mem_waiters_post.mp member).2.2

/-- A wait whose condition a post does not meet stays in the list. -/
theorem Lists.post_unmet (lists : register.Lists ticket owner condition)
    (unmet : condition.matched (register.bits ||| mask) = none) :
    (register.post mask).1.Lists ticket owner condition :=
  -- The waiter fails the filter of those who go.
  mem_waiters_post.mpr ⟨lists, rfl, unmet⟩

/-- A wait whose condition a post meets is handed its bits, and its task is woken. -/
theorem Lists.post_met (lists : register.Lists ticket owner condition)
    (met : condition.matched (register.bits ||| mask) = some bits) :
    (register.post mask).1.Hands ticket bits ∧ owner ∈ (register.post mask).2 := by
  constructor
  · -- The answers of this post come after those that were there.
    exact hands_post.mpr (.inr ⟨_, lists, rfl, rfl, met⟩)
  · -- Whoever is satisfied is woken.
    exact List.mem_map.mpr ⟨_, mem_satisfied.mpr ⟨lists, rfl, by simp [met]⟩, rfl⟩

/-- A post takes back nothing that was handed over. -/
theorem Hands.post (hands : register.Hands ticket bits) (mask : UInt32) :
    (register.post mask).1.Hands ticket bits :=
  -- A post adds answers in front of those that were there.
  hands_post.mpr (.inl hands)

/-- Without any bits nobody's condition is met. -/
theorem Orderly.reset (orderly : register.Orderly) : register.reset.Orderly where
  -- Only `unmet` has changed: it is about the bits, and there are none.
  listed := orderly.listed
  handed := orderly.handed
  listedIssued := orderly.listedIssued
  handedIssued := orderly.handedIssued
  apart := orderly.apart
  unmet := fun waiter member there => Condition.matched_zero (orderly.unmet waiter member there)

/-! ### Beginning a wait -/

/-- A wait that finds its condition met is answered at once. -/
theorem wait_met (met : condition.matched register.bits = some bits) (agenda : Agenda) (timeout : Timeout) :
    register.wait agenda owner condition timeout = (.answered bits, register) := by
  -- The condition is the first thing that a wait looks at.
  simp [wait, met]

/-- A wait that parks gets the next ticket. -/
theorem Orderly.park (orderly : register.Orderly) (unmet : condition.matched register.bits = none)
    (owner : TaskId) (deadline : Option Nat) :
    (register.park owner condition deadline).2.Orderly where
  listed := by
    simp only [Register.park, List.map_cons, List.nodup_cons]
    refine ⟨fun member => ?_, orderly.listed⟩
    -- The new ticket is above every ticket in the list.
    obtain ⟨waiter, stood, same⟩ := List.mem_map.mp member
    exact absurd (orderly.listedIssued waiter stood) (by simp [same])
  handed := orderly.handed
  listedIssued := by
    intro waiter member
    rcases List.mem_cons.mp member with rfl | stood
    · exact Nat.lt_succ_self _
    · exact Nat.lt_succ_of_lt (orderly.listedIssued waiter stood)
  handedIssued := fun grant kept => Nat.lt_succ_of_lt (orderly.handedIssued grant kept)
  apart := by
    intro waiter member grant kept
    rcases List.mem_cons.mp member with rfl | stood
    -- Nor were any bits handed to it.
    · exact Nat.ne_of_gt (orderly.handedIssued grant kept)
    · exact orderly.apart waiter stood grant kept
  unmet := by
    intro waiter member there
    rcases List.mem_cons.mp member with rfl | stood
    · exact unmet
    · exact orderly.unmet waiter stood there

/-- A wait that has just parked stands in the list. -/
theorem lists_park (register : Register) (owner : TaskId) (condition : Condition)
    (deadline : Option Nat) :
    (register.park owner condition deadline).2.Lists register.nextTicket owner condition :=
  -- It is put at the head of the list.
  List.mem_cons_self

/-- A wait that parks pushes nobody out of the list. -/
theorem Lists.park (lists : register.Lists ticket owner condition) (parker : TaskId)
    (condition' : Condition) (deadline : Option Nat) :
    (register.park parker condition' deadline).2.Lists ticket owner condition :=
  -- The new one goes to the head, and the others follow.
  List.mem_cons_of_mem _ lists

/-! ### Giving a wait up -/

/-- Marking a ticket leaves every ticket at its place. -/
theorem markGone_tickets (ticket : Ticket) (waiters : List Waiter) :
    (markGone ticket waiters).map (·.ticket) = waiters.map (·.ticket) := by
  -- Induction on the list: the mark changes the first waiter of the ticket and not its ticket.
  induction waiters with
  | nil => rfl
  | cons waiter older ih =>
    by_cases same : waiter.ticket = ticket <;> simp [markGone, same, ih]

/-- A waiter after marking is one from before, or one from before that has gone. -/
theorem mem_markGone {waiter : Waiter} {waiters : List Waiter}
    (member : waiter ∈ markGone ticket waiters) :
    waiter ∈ waiters ∨ ∃ before ∈ waiters, waiter = { before with gone := true } := by
  -- Induction on the list, as far as the first waiter of the ticket.
  induction waiters with
  | nil => simp [markGone] at member
  | cons first older ih =>
    unfold markGone at member
    split at member
    · rcases List.mem_cons.mp member with rfl | later
      · exact .inr ⟨first, by simp, rfl⟩
      · exact .inl (by simp [later])
    · rcases List.mem_cons.mp member with rfl | later
      · exact .inl (by simp)
      · rcases ih later with stood | ⟨before, stood, rfl⟩
        · exact .inl (by simp [stood])
        · exact .inr ⟨before, by simp [stood], rfl⟩

/-- Marking a ticket changes no waiter of another ticket. -/
theorem mem_markGone_of_ne {waiter : Waiter} {waiters : List Waiter} (apart : waiter.ticket ≠ ticket)
    (member : waiter ∈ waiters) : waiter ∈ markGone ticket waiters := by
  -- Induction on the list: the waiter that is marked is another one.
  induction waiters with
  | nil => simp at member
  | cons first older ih =>
    unfold markGone
    rcases List.mem_cons.mp member with rfl | later
    · simp [apart]
    · split
      · simp [later]
      · simp [ih later]

/-- Giving a wait up leaves the order as it is. -/
theorem Orderly.abandon (orderly : register.Orderly) (wait : Wait) :
    (register.abandon wait).Orderly := by
  cases wait with
  | answered bits => exact orderly
  | parked ticket deadline =>
    -- A waiter that has gone keeps its ticket.
    have ticketOf : ∀ waiter ∈ markGone ticket register.waiters,
        ∃ before ∈ register.waiters, before.ticket = waiter.ticket := by
      intro waiter member
      rcases mem_markGone member with stood | ⟨before, stood, rfl⟩
      · exact ⟨waiter, stood, rfl⟩
      · exact ⟨before, stood, rfl⟩
    constructor
    case listed => simpa only [Register.abandon, markGone_tickets] using orderly.listed
    case handed => exact List.Nodup.sublist (List.filter_sublist.map _) orderly.handed
    case listedIssued =>
      intro waiter member
      obtain ⟨before, stood, same⟩ := ticketOf waiter member
      exact same ▸ orderly.listedIssued before stood
    case handedIssued =>
      exact fun grant kept => orderly.handedIssued grant (List.mem_of_mem_filter kept)
    -- An answer that was kept is older than the mark.
    case apart =>
      intro waiter member grant kept
      obtain ⟨before, stood, same⟩ := ticketOf waiter member
      exact same ▸ orderly.apart before stood grant (List.mem_of_mem_filter kept)
    -- A waiter with the mark is not there any more.
    case unmet =>
      intro waiter member there
      rcases mem_markGone member with stood | ⟨before, stood, rfl⟩
      · exact orderly.unmet waiter stood there
      · simp at there

/-- Giving a wait up leaves the waits of other tickets in the list. -/
theorem Lists.abandon (lists : register.Lists ticket owner condition) (apart : ticket ≠ other)
    (deadline : Option Nat) : (register.abandon (.parked other deadline)).Lists ticket owner condition :=
  -- Only the ticket that is given up is marked.
  mem_markGone_of_ne apart lists

/-- Giving a wait up takes back nothing that was handed to another ticket. -/
theorem Hands.abandon (hands : register.Hands ticket bits) (apart : ticket ≠ other)
    (deadline : Option Nat) : (register.abandon (.parked other deadline)).Hands ticket bits :=
  -- Only the ticket that is given up is filtered out.
  List.mem_filter.mpr ⟨hands, by simpa using apart⟩

/-! ### Looking after a wait -/

variable {agenda : Agenda} {deadline : Option Nat}

/-- What was handed to a wait is its answer, whatever the clock shows. -/
theorem Orderly.poll_handed (orderly : register.Orderly) (hands : register.Hands ticket bits) :
    register.poll agenda (.parked ticket deadline) =
      (some bits, { register with handed := register.handed.filter (·.1 ≠ ticket) }) := by
  -- A look goes through the answers first, and only then to the clock.
  simp [poll, orderly.lookup_of_hands hands]

/-- A wait in the list ends without an answer once its deadline has come. -/
theorem Orderly.poll_due (orderly : register.Orderly) (lists : register.Lists ticket owner condition)
    (due : agenda.reached deadline = true) :
    register.poll agenda (.parked ticket deadline) =
      (some 0, register.abandon (.parked ticket deadline)) := by
  -- A ticket in the list has no answer, so the look comes to the clock.
  simp [poll, orderly.lookup_of_lists lists, due]

/-- A wait in the list goes on as long as its deadline has not come. -/
theorem Orderly.poll_open (orderly : register.Orderly) (lists : register.Lists ticket owner condition)
    (ahead : agenda.reached deadline = false) :
    register.poll agenda (.parked ticket deadline) = (none, register) := by
  -- A ticket in the list has no answer, and the clock does not end it either.
  simp [poll, orderly.lookup_of_lists lists, ahead]

/-- Looking after a wait leaves the order as it is. -/
theorem Orderly.poll (orderly : register.Orderly) (agenda : Agenda) (wait : Wait) :
    (register.poll agenda wait).2.Orderly := by
  cases wait with
  | answered bits => exact orderly
  | parked ticket deadline =>
    unfold Register.poll
    simp only
    split
    · -- Picking bits up only shortens the list of what was handed over.
      exact { orderly with
        handed := List.Nodup.sublist (List.filter_sublist.map _) orderly.handed
        handedIssued := fun grant kept => orderly.handedIssued grant (List.mem_of_mem_filter kept)
        apart := fun waiter stood grant kept =>
          orderly.apart waiter stood grant (List.mem_of_mem_filter kept) }
    · split
      · exact orderly.abandon (.parked ticket deadline)
      · exact orderly

/-- Looking after a wait leaves the waits of other tickets in the list. -/
theorem Lists.poll (lists : register.Lists ticket owner condition) (apart : ticket ≠ other)
    (agenda : Agenda) (deadline : Option Nat) :
    (register.poll agenda (.parked other deadline)).2.Lists ticket owner condition := by
  -- A look that finds bits leaves the list alone, and one that comes too late marks its own ticket.
  unfold Register.poll
  simp only
  split
  · exact lists
  · split
    · exact lists.abandon apart deadline
    · exact lists

/-- Looking after a wait takes back nothing that was handed to another ticket. -/
theorem Hands.poll (hands : register.Hands ticket bits) (apart : ticket ≠ other) (agenda : Agenda)
    (deadline : Option Nat) :
    (register.poll agenda (.parked other deadline)).2.Hands ticket bits := by
  -- A look takes bits away under its own ticket only.
  unfold Register.poll
  simp only
  split
  · exact List.mem_filter.mpr ⟨hands, by simpa using apart⟩
  · split
    · exact hands.abandon apart deadline
    · exact hands

end Register

end Uplink.Flags
