import Uplink.Proofs.Flags.Outcome

/-!
Who stands in the list of a register: the waits that are still pending, in the order in which they
parked, and among them only such as have timed out or were cancelled since the last post.

A wait is pending from the moment it parks until a post meets its condition, its time is up, or it is
cancelled; this is read off what was done to the register, without a look at the list.
-/

namespace Uplink.Flags

/-- A wait as it parks. -/
structure Arrival where
  ticket : Ticket
  owner : TaskId
  condition : Condition
deriving Repr, DecidableEq

/-- What is done to a register. -/
inductive Deed where
  | posted (mask : UInt32)
  | cleared
  | parked (arrival : Arrival) (deadline : Option Nat)
  /-- A wait returns the bits that were handed to it. -/
  | returned (ticket : Ticket)
  /-- A wait returns without bits. -/
  | timedOut (ticket : Ticket)
  /-- A wait is dropped before it has returned. -/
  | cancelled (ticket : Ticket)
deriving Repr, DecidableEq

/-- Whether the wait of a ticket has come to its end. -/
def Deed.Ends (ticket : Ticket) : Deed → Prop
  | .returned other => other = ticket
  | .timedOut other => other = ticket
  | .cancelled other => other = ticket
  | .posted _ | .cleared | .parked .. => False

/-- The bits that are set after one more deed. -/
def Deed.bits (bits : UInt32) : Deed → UInt32
  | .posted mask => bits ||| mask
  | .cleared => 0
  | .parked .. | .returned _ | .timedOut _ | .cancelled _ => bits

/-- The bits that are set after all deeds on a new register. -/
def bitsAfter (deeds : List Deed) : UInt32 :=
  deeds.foldl Deed.bits 0

/-- The waits that have parked, in order. -/
def arrivals (deeds : List Deed) : List Arrival :=
  deeds.filterMap fun deed =>
    match deed with
    | .parked arrival _ => some arrival
    | _ => none

/-- A wait is pending: since it has parked, it has not come to its end, and no post has met its
condition. -/
def Pending (deeds : List Deed) (arrival : Arrival) : Prop :=
  ∃ before deadline after, deeds = before ++ .parked arrival deadline :: after ∧
    (∀ deed ∈ after, ¬ deed.Ends arrival.ticket) ∧
    ∀ between mask later, after = between ++ .posted mask :: later →
      arrival.condition.matched (bitsAfter (before ++ .parked arrival deadline :: between) ||| mask) = none

/-- A wait has timed out or was cancelled after the last post. -/
def GoneSincePost (deeds : List Deed) (ticket : Ticket) : Prop :=
  ∃ before after, deeds = before ++ after ∧ (∀ mask, .posted mask ∉ after) ∧
    (.timedOut ticket ∈ after ∨ .cancelled ticket ∈ after)

/-- A wait has parked under a ticket and has not come to its end since. -/
def Open (deeds : List Deed) (ticket : Ticket) (deadline : Option Nat) : Prop :=
  ∃ before arrival after, deeds = before ++ .parked arrival deadline :: after ∧ arrival.ticket = ticket ∧
    ∀ deed ∈ after, ¬ deed.Ends ticket

/-- What was done to a register from the start on, and what has become of it. Any wait can be looked
after or cancelled at any time, as long as it has not come to its end. -/
inductive Use : List Deed → Register → Prop where
  | new (name : String) : Use [] { name }
  | post {deeds register} (use : Use deeds register) (mask : UInt32) :
      Use (deeds ++ [.posted mask]) (register.post mask).1
  | reset {deeds register} (use : Use deeds register) : Use (deeds ++ [.cleared]) register.reset
  /-- A wait that is called is answered at once. -/
  | answer {deeds register next agenda owner condition timeout bits} (use : Use deeds register)
      (called : register.wait agenda owner condition timeout = (.answered bits, next)) : Use deeds next
  /-- A wait that is called parks. -/
  | park {deeds register next agenda owner condition timeout ticket deadline} (use : Use deeds register)
      (called : register.wait agenda owner condition timeout = (.parked ticket deadline, next)) :
      Use (deeds ++ [.parked ⟨ticket, owner, condition⟩ deadline]) next
  /-- A wait that is looked after goes on. -/
  | linger {deeds register next agenda ticket deadline} (use : Use deeds register)
      (goes : Open deeds ticket deadline)
      (looked : register.poll agenda (.parked ticket deadline) = (none, next)) : Use deeds next
  /-- A wait that is looked after returns. Without bits it has timed out. -/
  | return {deeds register next agenda ticket deadline bits} (use : Use deeds register)
      (goes : Open deeds ticket deadline)
      (looked : register.poll agenda (.parked ticket deadline) = (some bits, next)) :
      Use (deeds ++ [if bits = 0 then .timedOut ticket else .returned ticket]) next
  | cancel {deeds register ticket deadline} (use : Use deeds register) (goes : Open deeds ticket deadline) :
      Use (deeds ++ [.cancelled ticket]) (register.abandon (.parked ticket deadline))

/-- A waiter as it has parked. -/
def Waiter.arrival (waiter : Waiter) : Arrival :=
  ⟨waiter.ticket, waiter.owner, waiter.condition⟩

/-- The list of a register, the wait that parked first in front. -/
def Register.entries (register : Register) : List Arrival :=
  (register.waiters.map (·.arrival)).reverse

variable {deeds : List Deed} {deed : Deed} {register next : Register} {arrival : Arrival} {ticket : Ticket}
  {mask : UInt32}

/-! ### One more deed -/

/-- The latest deed changes the bits that the others have left. -/
@[simp] theorem bitsAfter_concat (deeds : List Deed) (deed : Deed) :
    bitsAfter (deeds ++ [deed]) = deed.bits (bitsAfter deeds) := by
  -- The bits are a fold over the deeds, and this is its last step.
  simp [bitsAfter]

/-- A wait that parks comes after all others. -/
theorem arrivals_parked (deeds : List Deed) (arrival : Arrival) (deadline : Option Nat) :
    arrivals (deeds ++ [.parked arrival deadline]) = arrivals deeds ++ [arrival] := by
  -- The arrivals are a filter of the deeds, in their order.
  simp [arrivals]

/-- Nothing else that is done to a register brings a wait. -/
theorem arrivals_other (other : ∀ arrival deadline, deed ≠ .parked arrival deadline) :
    arrivals (deeds ++ [deed]) = arrivals deeds := by
  -- Of the deeds only the parking is an arrival.
  cases deed with
  | parked arrival deadline => exact absurd rfl (other arrival deadline)
  | _ => simp [arrivals]

/-- A wait is pending if it parks now, or was pending and neither comes to its end now nor is met by
a post. -/
theorem pending_concat :
    Pending (deeds ++ [deed]) arrival ↔ (∃ deadline, deed = .parked arrival deadline) ∨
      (Pending deeds arrival ∧ ¬ deed.Ends arrival.ticket ∧
        ∀ mask, deed = .posted mask → arrival.condition.matched (bitsAfter deeds ||| mask) = none) := by
  constructor
  · -- From the longer list to the shorter one.
    rintro ⟨before, deadline, after, split, goesOn, unmet⟩
    rcases List.eq_nil_or_concat after with rfl | ⟨after, last, rfl⟩
    · exact .inl ⟨deadline, (List.append_inj' split rfl).2 |> List.singleton_inj.mp⟩
    · -- The deed is the last of those after the wait has parked.
      rw [List.concat_eq_append, ← List.cons_append, ← List.append_assoc] at split
      obtain ⟨rfl, same⟩ := List.append_inj' split rfl
      obtain rfl := List.singleton_inj.mp same
      refine .inr ⟨⟨before, deadline, after, rfl, fun deed mem => goesOn deed (by simp [mem]), ?_⟩,
        goesOn deed (by simp), ?_⟩
      · rintro between mask later rfl
        exact unmet between mask (later ++ [deed]) (by simp)
      · rintro mask rfl
        exact unmet after mask [] (by simp)
  · -- And back, where the deed is put behind those after the parking.
    rintro (⟨deadline, rfl⟩ | ⟨⟨before, deadline, after, rfl, goesOn, unmet⟩, kept, now⟩)
    · exact ⟨deeds, deadline, [], rfl, by simp, by simp⟩
    · refine ⟨before, deadline, after ++ [deed], by simp, ?_, ?_⟩
      · simp only [List.mem_append, List.mem_singleton]
        rintro other (mem | rfl)
        · exact goesOn other mem
        · exact kept
      · intro between mask later split
        rcases List.eq_nil_or_concat later with rfl | ⟨later, last, rfl⟩
        · obtain ⟨rfl, same⟩ := List.append_inj' split rfl
          exact now mask (List.singleton_inj.mp same)
        · rw [List.concat_eq_append, ← List.cons_append, ← List.append_assoc] at split
          exact unmet between mask later (List.append_inj' split rfl).1

/-- A wait that times out or is cancelled neither parks nor posts. -/
theorem Deed.plain_of_gone (last : deed = .timedOut ticket ∨ deed = .cancelled ticket) :
    (∀ arrival deadline, deed ≠ .parked arrival deadline) ∧ ∀ mask, deed ≠ .posted mask := by
  -- Each of the two is neither.
  rcases last with rfl | rfl <;> simp

/-- A wait that has gone since the last post has still gone after a deed that is no post. -/
theorem GoneSincePost.concat (gone : GoneSincePost deeds ticket) (other : ∀ mask, deed ≠ .posted mask) :
    GoneSincePost (deeds ++ [deed]) ticket := by
  obtain ⟨before, after, rfl, noPost, either⟩ := gone
  -- The stretch after the post gets longer by the deed.
  refine ⟨before, after ++ [deed], by simp, fun mask mem => ?_, ?_⟩
  · rcases List.mem_append.mp mem with earlier | last
    · exact noPost mask earlier
    · exact other mask (List.mem_singleton.mp last).symm
  · -- That the ticket went is still in the stretch.
    rcases either with out | dropped
    · exact .inl (by simp [out])
    · exact .inr (by simp [dropped])

/-- A wait that times out or is cancelled now has gone since the last post. -/
theorem goneSincePost_last (last : deed = .timedOut ticket ∨ deed = .cancelled ticket) :
    GoneSincePost (deeds ++ [deed]) ticket := by
  -- The stretch since the post may be taken as the last deed alone.
  refine ⟨deeds, [deed], rfl, fun mask member => ?_, ?_⟩
  · exact (Deed.plain_of_gone last).2 mask (List.mem_singleton.mp member).symm
  · exact last.imp (fun same => List.mem_singleton.mpr same.symm) fun same => List.mem_singleton.mpr same.symm

/-! ### The list -/

namespace Register

/-- Where tickets are not issued twice, marking a ticket changes the waiter of that ticket and no other. -/
theorem mem_markGone_iff {waiters : List Waiter} (once : (waiters.map (·.ticket)).Nodup) {waiter : Waiter} :
    waiter ∈ markGone ticket waiters ↔ (waiter ∈ waiters ∧ waiter.ticket ≠ ticket) ∨
      ∃ before ∈ waiters, before.ticket = ticket ∧ waiter = { before with gone := true } := by
  -- Induction on the list. The search stops at the first waiter of the ticket; it is the only one, since
  -- tickets are not issued twice.
  induction waiters with
  | nil => simp [markGone]
  | cons first older ih =>
    rw [List.map_cons, List.nodup_cons] at once
    have apart : ∀ other ∈ older, other.ticket ≠ first.ticket := fun other mem same =>
      once.1 (same ▸ List.mem_map_of_mem mem)
    by_cases same : first.ticket = ticket
    · -- This is the waiter of the ticket, and the older ones are left.
      subst same
      simp only [markGone, if_true, List.mem_cons]
      constructor
      · rintro (rfl | later)
        · exact .inr ⟨first, .inl rfl, rfl, rfl⟩
        · exact .inl ⟨.inr later, apart waiter later⟩
      · rintro (⟨rfl | later, differs⟩ | ⟨before, rfl | later, ticket, rfl⟩)
        · exact absurd rfl differs
        · exact .inr later
        · exact .inl rfl
        · exact absurd ticket (apart before later)
    · -- It is another one, so the search goes on behind it.
      rw [markGone, if_neg same, List.mem_cons, ih once.2]
      constructor
      · rintro (rfl | ⟨later, differs⟩ | ⟨before, later, ticket, rfl⟩)
        · exact .inl ⟨List.mem_cons_self, same⟩
        · exact .inl ⟨List.mem_cons_of_mem _ later, differs⟩
        · exact .inr ⟨before, List.mem_cons_of_mem _ later, ticket, rfl⟩
      · rintro (⟨mem, differs⟩ | ⟨before, mem, ticket, rfl⟩)
        · rcases List.mem_cons.mp mem with rfl | later
          · exact .inl rfl
          · exact .inr (.inl ⟨later, differs⟩)
        · rcases List.mem_cons.mp mem with rfl | later
          · exact absurd ticket same
          · exact .inr (.inr ⟨before, later, ticket, rfl⟩)

/-- A waiter that is marked stands where it stood. -/
theorem markGone_arrivals (ticket : Ticket) (waiters : List Waiter) :
    (markGone ticket waiters).map (·.arrival) = waiters.map (·.arrival) := by
  -- Induction on the list. The mark is no part of an arrival, and the search ends at the ticket.
  induction waiters with
  | nil => rfl
  | cons waiter older ih =>
    by_cases same : waiter.ticket = ticket
    · simp [markGone, same, Waiter.arrival]
    · simp [markGone, same, ih]

/-- A condition that some bits do not meet is never met by giving no bits. -/
theorem ne_zero_of_matched {condition : Condition} {bits more found : UInt32}
    (unmet : condition.matched bits = none) (met : condition.matched more = some found) : found ≠ 0 := by
  -- One case for each condition. A mask of any bit is answered by what it finds, and a mask of all bits by
  -- itself.
  cases condition with
  | any mask =>
    simp only [Condition.matched, Option.ite_none_right_eq_some, Option.some.injEq] at met
    exact met.2 ▸ met.1
  | all mask =>
    simp only [Condition.matched, Option.ite_none_right_eq_some, Option.some.injEq, ite_eq_right_iff,
      reduceCtorEq, imp_false] at met unmet
    obtain ⟨-, rfl⟩ := met
    -- The empty mask of all bits is met by any bits, and these did not meet it.
    rintro rfl
    exact unmet UInt32.and_zero

end Register

/-- The list of a register, what it has handed over and its bits are as the deeds have them. -/
structure Agrees (deeds : List Deed) (register : Register) : Prop where
  orderly : register.Orderly
  shown : bitsAfter deeds = register.bits
  /-- Tickets are given out in the order in which waits park. -/
  numbered : (arrivals deeds).map (·.ticket) = List.range register.nextTicket
  inOrder : register.entries.Sublist (arrivals deeds)
  there : ∀ arrival, (∃ waiter ∈ register.waiters, waiter.gone = false ∧ waiter.arrival = arrival) ↔
    Pending deeds arrival
  gone : ∀ waiter ∈ register.waiters, waiter.gone = true → GoneSincePost deeds waiter.ticket
  unmet : ∀ waiter ∈ register.waiters, waiter.condition.matched register.bits = none
  granted : ∀ grant ∈ register.handed, grant.2 ≠ 0

namespace Agrees

/-- Nobody has used a new register. -/
theorem new (name : String) : Agrees [] { name } where
  -- There are no deeds and no waiters, so all that is said of them holds.
  orderly := Register.orderly_new name
  shown := rfl
  numbered := rfl
  inOrder := List.Sublist.refl _
  there arrival := by simp [Pending]
  gone := by simp
  unmet := by simp
  granted := by simp

/-- A post leaves the waits in the list that are still there and that it does not meet. -/
theorem post (agrees : Agrees deeds register) (mask : UInt32) :
    Agrees (deeds ++ [.posted mask]) (register.post mask).1 where
  orderly := agrees.orderly.post mask
  shown := by simp [Deed.bits, Register.post, agrees.shown]
  numbered := (congrArg _ (arrivals_other (by simp))).trans agrees.numbered
  inOrder := by
    have kept : (register.post mask).1.entries.Sublist register.entries :=
      (List.filter_sublist.map _).reverse
    rw [arrivals_other (by simp)]
    exact kept.trans agrees.inOrder
  -- The waiters that a post keeps are those that are there and whose condition it does not meet: the very
  -- waits that are pending after it.
  there arrival := by
    have before := agrees.there arrival
    simp only [Register.mem_waiters_post, pending_concat, ← before, agrees.shown, reduceCtorEq, exists_false,
      Deed.Ends, not_false_eq_true, true_and, false_or, Deed.posted.injEq, forall_eq']
    constructor
    · rintro ⟨waiter, ⟨stood, there, unmet⟩, -, rfl⟩
      exact ⟨⟨waiter, stood, there, rfl⟩, unmet⟩
    · rintro ⟨⟨waiter, stood, there, rfl⟩, unmet⟩
      exact ⟨waiter, ⟨stood, there, unmet⟩, there, rfl⟩
  -- A post sweeps out everyone who has gone.
  gone waiter member gone := by
    have there := (Register.mem_waiters_post.mp member).2.1
    rw [gone] at there
    contradiction
  unmet waiter member := (Register.mem_waiters_post.mp member).2.2
  -- A condition that was not met before is not met by an empty set of bits.
  granted grant member := by
    rcases Register.hands_post.mp member with kept | ⟨waiter, stood, -, -, met⟩
    · exact agrees.granted grant kept
    · exact Register.ne_zero_of_matched (agrees.unmet waiter stood) met

/-- A deed that is about nobody who waits leaves pending waits pending. -/
theorem pending_other (other : ∀ arrival deadline, deed ≠ .parked arrival deadline)
    (quiet : ∀ mask, deed ≠ .posted mask) :
    Pending (deeds ++ [deed]) arrival ↔ Pending deeds arrival ∧ ¬ deed.Ends arrival.ticket := by
  rw [pending_concat]
  constructor
  · -- A wait that is pending after the deed was so before it, as the deed did not bring it.
    rintro (⟨deadline, rfl⟩ | ⟨pending, kept, -⟩)
    · exact absurd rfl (other arrival deadline)
    · exact ⟨pending, kept⟩
  · rintro ⟨pending, kept⟩
    exact .inr ⟨pending, kept, fun mask same => absurd same (quiet mask)⟩

/-- Clearing the bits leaves the list alone, and meets nobody. -/
theorem reset (agrees : Agrees deeds register) : Agrees (deeds ++ [.cleared]) register.reset where
  -- The list of the register is the same, and so is who is pending; only the bits have gone.
  orderly := agrees.orderly.reset
  shown := by simp [Deed.bits, Register.reset]
  numbered := (congrArg _ (arrivals_other (by simp))).trans agrees.numbered
  inOrder := by
    rw [arrivals_other (by simp)]
    exact agrees.inOrder
  there arrival := by
    rw [pending_other (by simp) (by simp), ← agrees.there arrival]
    simp [Deed.Ends, Register.reset]
  gone waiter member gone := (agrees.gone waiter member gone).concat (by simp)
  unmet waiter member := Condition.matched_zero (agrees.unmet waiter member)
  granted := agrees.granted

/-- A wait that parks goes to the end of the list under a new ticket. -/
theorem park (agrees : Agrees deeds register) {condition : Condition}
    (unmet : condition.matched register.bits = none) (owner : TaskId) (deadline : Option Nat) :
    Agrees (deeds ++ [.parked ⟨register.nextTicket, owner, condition⟩ deadline])
      (register.park owner condition deadline).2 where
  orderly := agrees.orderly.park unmet owner deadline
  shown := by simp [Deed.bits, Register.park, agrees.shown]
  numbered := by
    rw [arrivals_parked, List.map_append, agrees.numbered]
    exact List.range_succ.symm
  -- The newest waiter stands first, so in the order of arrival it comes last.
  inOrder := by
    rw [arrivals_parked]
    have longer : (register.park owner condition deadline).2.entries =
        register.entries ++ [⟨register.nextTicket, owner, condition⟩] := by
      simp [Register.entries, Register.park, Waiter.arrival]
    exact longer ▸ agrees.inOrder.append_right _
  -- The wait that parks is pending, and so are those who were.
  there arrival := by
    rw [pending_concat, ← agrees.there arrival]
    simp only [Register.park, List.mem_cons]
    constructor
    · rintro ⟨waiter, rfl | stood, there, rfl⟩
      · exact .inl ⟨deadline, rfl⟩
      · exact .inr ⟨⟨waiter, stood, there, rfl⟩, by simp [Deed.Ends], by simp⟩
    · rintro (⟨_, same⟩ | ⟨⟨waiter, stood, there, rfl⟩, -⟩)
      · obtain ⟨rfl, -⟩ := Deed.parked.inj same
        exact ⟨_, .inl rfl, rfl, rfl⟩
      · exact ⟨waiter, .inr stood, there, rfl⟩
  -- Nobody is gone who has just parked.
  gone waiter member gone := by
    rcases List.mem_cons.mp member with rfl | stood
    · contradiction
    · exact (agrees.gone waiter stood gone).concat (by simp)
  unmet waiter member := by
    rcases List.mem_cons.mp member with rfl | stood
    · exact unmet
    · exact agrees.unmet waiter stood
  granted := agrees.granted

/-- A wait that is given up stays in the list, marked, until the next post. -/
theorem abandon (agrees : Agrees deeds register) (last : deed = .timedOut ticket ∨ deed = .cancelled ticket)
    (deadline : Option Nat) : Agrees (deeds ++ [deed]) (register.abandon (.parked ticket deadline)) where
  orderly := agrees.orderly.abandon _
  shown := by
    rcases last with rfl | rfl
    all_goals simp [Deed.bits, Register.abandon, agrees.shown]
  numbered := by
    rw [arrivals_other (Deed.plain_of_gone last).1]
    exact agrees.numbered
  inOrder := by
    have same : (register.abandon (.parked ticket deadline)).entries = register.entries :=
      congrArg List.reverse (Register.markGone_arrivals ticket register.waiters)
    rw [same, arrivals_other (Deed.plain_of_gone last).1]
    exact agrees.inOrder
  -- The mark takes the wait of this ticket out of those who are there, and its end takes it out of the
  -- pending ones.
  there arrival := by
    have ends : deed.Ends arrival.ticket ↔ ticket = arrival.ticket := by
      rcases last with rfl | rfl <;> rfl
    rw [pending_other (Deed.plain_of_gone last).1 (Deed.plain_of_gone last).2, ends, ← agrees.there arrival]
    simp only [Register.abandon, Register.mem_markGone_iff agrees.orderly.listed]
    constructor
    · rintro ⟨waiter, ⟨stood, apart⟩ | ⟨before, -, -, rfl⟩, there, rfl⟩
      · exact ⟨⟨waiter, stood, there, rfl⟩, Ne.symm apart⟩
      · contradiction
    · rintro ⟨⟨waiter, stood, there, rfl⟩, apart⟩
      exact ⟨waiter, .inl ⟨stood, Ne.symm apart⟩, there, rfl⟩
  -- Whoever has gone has either gone before, or is the one who goes now.
  gone waiter member gone := by
    rcases (Register.mem_markGone_iff agrees.orderly.listed).mp member with ⟨stood, -⟩ | ⟨before, -, rfl, rfl⟩
    · exact (agrees.gone waiter stood gone).concat (Deed.plain_of_gone last).2
    · exact goneSincePost_last last
  unmet waiter member := by
    rcases (Register.mem_markGone_iff agrees.orderly.listed).mp member with ⟨stood, -⟩ | ⟨before, stood, -, rfl⟩
    · exact agrees.unmet waiter stood
    · exact agrees.unmet before stood
  granted grant member := agrees.granted grant (List.mem_of_mem_filter member)

/-- A wait that picks up its bits has left the list before. -/
theorem pickUp (agrees : Agrees deeds register) {bits : UInt32} (hands : register.Hands ticket bits) :
    Agrees (deeds ++ [.returned ticket]) { register with handed := register.handed.filter (·.1 ≠ ticket) } where
  orderly :=
    { agrees.orderly with
      handed := List.Nodup.sublist (List.filter_sublist.map _) agrees.orderly.handed
      handedIssued := fun grant kept => agrees.orderly.handedIssued grant (List.mem_of_mem_filter kept)
      apart := fun waiter stood grant kept => agrees.orderly.apart waiter stood grant (List.mem_of_mem_filter kept) }
  shown := by simp [Deed.bits, agrees.shown]
  numbered := (congrArg _ (arrivals_other (by simp))).trans agrees.numbered
  inOrder := by
    rw [arrivals_other (by simp)]
    exact agrees.inOrder
  -- Whoever is handed bits has left the list at the post, so its return ends nobody who is there.
  there arrival := by
    rw [pending_other (by simp) (by simp), ← agrees.there arrival]
    refine ⟨fun stands => ⟨stands, ?_⟩, fun stands => stands.1⟩
    obtain ⟨waiter, stood, -, rfl⟩ := stands
    exact fun same => agrees.orderly.apart waiter stood _ hands same.symm
  -- A return is no post, so whoever has gone since the last one still has.
  gone waiter member gone := (agrees.gone waiter member gone).concat (by simp)
  unmet := agrees.unmet
  granted grant member := agrees.granted grant (List.mem_of_mem_filter member)

end Agrees

/-! ### Waits that are called and looked after -/

namespace Register

variable {agenda : Agenda} {owner : TaskId} {condition : Condition} {timeout : Timeout} {bits : UInt32}
  {deadline : Option Nat}

/-- A wait that is answered at once leaves the register as it is. -/
theorem eq_of_answered (called : register.wait agenda owner condition timeout = (.answered bits, next)) :
    next = register := by
  -- Only two of the branches answer, and both hand back the register that was given.
  unfold wait at called
  split at called
  · cases called
    rfl
  · split at called
    · cases called
      rfl
    · cases called
    · cases called

/-- A wait parks only where its condition is not met. -/
theorem eq_of_parked (called : register.wait agenda owner condition timeout = (.parked ticket deadline, next)) :
    condition.matched register.bits = none ∧ ticket = register.nextTicket ∧
      next = (register.park owner condition deadline).2 := by
  -- The register is changed in the two branches that park, and both come after the condition has failed.
  unfold wait at called
  split at called
  · cases called
  · rename_i unmet
    split at called
    · cases called
    · cases called
      exact ⟨unmet, rfl, rfl⟩
    · cases called
      exact ⟨unmet, rfl, rfl⟩

/-- A look after a wait that goes on leaves the register as it is. -/
theorem eq_of_lingers (looked : register.poll agenda (.parked ticket deadline) = (none, next)) :
    next = register := by
  -- A look that goes on has found neither an answer nor a deadline that has come.
  rw [poll] at looked
  split at looked
  · cases looked
  · split at looked
    · cases looked
    · cases looked
      rfl

/-- A wait returns the bits that were handed to it, or none if its time is up. -/
theorem returns_cases (looked : register.poll agenda (.parked ticket deadline) = (some bits, next)) :
    (register.Hands ticket bits ∧ next = { register with handed := register.handed.filter (·.1 ≠ ticket) }) ∨
      (bits = 0 ∧ next = register.abandon (.parked ticket deadline)) := by
  -- A look returns in two branches: with the answer that it finds, or by the deadline.
  rw [poll] at looked
  split at looked
  · rename_i found handed
    cases looked
    exact .inl ⟨Entries.mem_of_lookup handed, rfl⟩
  · split at looked
    · cases looked
      exact .inr ⟨rfl, rfl⟩
    · cases looked

end Register

/-- However a register is used, it is as the deeds have it. -/
theorem Use.agrees (use : Use deeds register) : Agrees deeds register := by
  -- Induction on the use, one case for each thing that can be done to a register.
  induction use with
  | new name => exact .new name
  | post use mask ih => exact ih.post mask
  | reset use ih => exact ih.reset
  | answer use called ih => exact Register.eq_of_answered called ▸ ih
  | park use called ih =>
    obtain ⟨unmet, rfl, rfl⟩ := Register.eq_of_parked called
    exact ih.park unmet _ _
  | linger use goes looked ih => exact Register.eq_of_lingers looked ▸ ih
  | «return» use goes looked ih =>
    rcases Register.returns_cases looked with ⟨hands, rfl⟩ | ⟨rfl, rfl⟩
    · rw [if_neg (ih.granted _ hands)]
      exact ih.pickUp hands
    · exact ih.abandon (.inl (if_pos rfl)) _
  | cancel use goes ih => exact ih.abandon (.inr rfl) _

/-! ### Runs -/

/-- A wait stays open as long as nothing is its end. -/
theorem Open.concat {deadline : Option Nat} (goes : Open deeds ticket deadline) (kept : ¬ deed.Ends ticket) :
    Open (deeds ++ [deed]) ticket deadline := by
  obtain ⟨before, arrival, after, rfl, named, goesOn⟩ := goes
  refine ⟨before, arrival, after ++ [deed], by simp, named, fun other member => ?_⟩
  -- The deeds since the parking are the earlier ones and the last.
  rcases List.mem_append.mp member with earlier | last
  · exact goesOn other earlier
  · exact List.mem_singleton.mp last ▸ kept

/-- The register of some waits has been used so, and those of them that have parked have not come to
their end. -/
structure Waits.Uses (waits : Waits) (deeds : List Deed) : Prop where
  use : Use deeds waits.register
  goes : ∀ entry ∈ waits.pending, ∀ ticket deadline,
    entry.2.stage = .waiting (.parked ticket deadline) → Open deeds ticket deadline

namespace Waits.Uses

variable {history : List Happening} {waits : Waits} {task : TaskId} {wait : BackgroundWait} {state : Wait}

/-- The wait of a task comes to its end, and with it nobody else's. -/
theorem leave (faithful : Faithful history waits) (member : (task, wait) ∈ waits.pending)
    {ticket : Ticket} {deadline : Option Nat} (parked : wait.stage = .waiting (.parked ticket deadline))
    (uses : waits.Uses deeds) {register : Register} (use : Use (deeds ++ [deed]) register)
    (ends : ∀ other, deed.Ends other → other = ticket) (ended : List Ended) :
    ({ waits with register, ended }.remove task).Uses (deeds ++ [deed]) := by
  refine ⟨use, fun entry left other due stage => ?_⟩
  obtain ⟨stood, apart⟩ := List.mem_filter.mp left
  refine (uses.goes entry stood other due stage).concat fun finished => ?_
  -- No other wait has parked under the ticket of this one.
  obtain rfl := ends other finished
  have same := faithful.ticketed.sole entry stood _ member other ⟨due, stage⟩ ⟨deadline, parked⟩
  exact absurd same (by simpa using apart)

/-- The wait of a task that has found its answer before is taken out. -/
theorem remove (uses : waits.Uses deeds) (task : TaskId) (ended : List Ended) :
    ({ waits with ended }.remove task).Uses deeds :=
  -- What is left of the entries was there before.
  ⟨uses.use, fun entry left => uses.goes entry (List.mem_of_mem_filter left)⟩

/-- A wait is looked after. -/
theorem look (faithful : Faithful history waits) (member : (task, wait) ∈ waits.pending)
    (waiting : wait.stage = .waiting state) (uses : waits.Uses deeds) (label : Nat) :
    ∃ later, (waits.look task label state).Uses later := by
  cases state with
  | answered bits => exact ⟨deeds, uses.remove task _⟩
  | parked ticket deadline =>
    have goes := uses.goes _ member ticket deadline waiting
    -- A look either leaves the wait where it is, or is its end on the register.
    unfold Waits.look
    split
    · -- It is not answered yet.
      rename_i register looked
      refine ⟨deeds, .linger uses.use goes looked, fun entry adjusted other due stage => ?_⟩
      change entry ∈
        Entries.adjust task ({ · with stage := .waiting (.parked ticket deadline) }) waits.pending at adjusted
      rcases Entries.mem_adjust.mp adjusted with ⟨kept, -⟩ | ⟨value, kept, rfl⟩
      · exact uses.goes entry kept other due stage
      · cases stage
        exact goes
    · -- It returns, and its task has no wait any more.
      rename_i bits register looked
      refine ⟨_, uses.leave faithful member waiting (.return uses.use goes looked) (fun other finished => ?_) _⟩
      split at finished
      · exact finished.symm
      · exact finished.symm

/-- A wait is called. -/
theorem begun (uses : waits.Uses deeds) (task : TaskId) (condition : Condition) (timeout : Timeout) :
    ∃ later, (waits.begun task condition timeout).Uses later := by
  cases called : waits.register.wait waits.agenda task condition timeout with
  | mk state register =>
    -- Whoever has parked before is still open, and so is the wait if it parks now.
    have staged : ∀ entry ∈ (waits.begun task condition timeout).pending,
        entry ∈ waits.pending ∨ entry.2.stage = .waiting state := by
      intro entry adjusted
      rw [Waits.begun, called] at adjusted
      change entry ∈ Entries.adjust task ({ · with stage := .waiting state }) waits.pending at adjusted
      rcases Entries.mem_adjust.mp adjusted with ⟨kept, -⟩ | ⟨value, kept, rfl⟩
      · exact .inl kept
      · exact .inr rfl
    have register_eq : (waits.begun task condition timeout).register = register := by
      rw [Waits.begun, called]
      rfl
    cases state with
    -- An answer at once is no deed, since the register is not changed.
    | answered bits =>
      refine ⟨deeds, register_eq ▸ .answer uses.use called, fun entry adjusted ticket deadline stage => ?_⟩
      rcases staged entry adjusted with kept | now
      · exact uses.goes entry kept ticket deadline stage
      · cases now.symm.trans stage
    -- The wait parks, and nothing has ended it since.
    | parked ticket deadline =>
      refine ⟨deeds ++ [.parked ⟨ticket, task, condition⟩ deadline], register_eq ▸ .park uses.use called,
        fun entry adjusted other due stage => ?_⟩
      rcases staged entry adjusted with kept | now
      · exact (uses.goes entry kept other due stage).concat (by simp [Deed.Ends])
      · cases now.symm.trans stage
        exact ⟨deeds, _, [], rfl, rfl, by simp⟩

/-- The task at the head of the line takes its turn. -/
theorem turn (faithful : Faithful history waits) (uses : waits.Uses deeds) {next : Waits}
    (turned : waits.turn? = some next) : ∃ later, next.Uses later := by
  unfold Waits.turn? at turned
  split at turned
  · contradiction
  · rename_i task rest line
    split at turned
    · cases turned
      exact ⟨deeds, uses.use, uses.goes⟩
    · rename_i wait found
      cases turned
      have member := faithful.lookup_iff.mp found
      obtain ⟨label, stage, marked⟩ := wait
      cases marked with
      -- A wait that was cancelled is taken out, and if it has parked that is a deed.
      | true =>
        cases stage with
        | called condition timeout => exact ⟨deeds, uses.remove task _⟩
        | waiting state =>
          cases state with
          | answered bits => exact ⟨deeds, uses.remove task _⟩
          | parked ticket deadline =>
            have goes := uses.goes _ member ticket deadline rfl
            exact ⟨_, uses.leave faithful member rfl (.cancel uses.use goes) (fun _ => Eq.symm) _⟩
      | false =>
        cases stage with
        | waiting state => exact uses.look faithful member rfl label
        | called condition timeout =>
          -- The call and the first look fall into one turn.
          rw [Faithful.turnOf_called rfl rfl]
          let stage : WaitStage := .waiting (waits.register.wait waits.agenda task condition timeout).1
          have listed : (task, { label, stage }) ∈ Entries.adjust task ({ · with stage }) waits.pending :=
            Entries.mem_adjust.mpr (.inr ⟨_, member, rfl⟩)
          obtain ⟨later, called⟩ := uses.begun task condition timeout
          exact called.look (faithful.begin member rfl rfl) listed rfl label

end Waits.Uses

/-- Along every run of a register with its waits the register is used: a wait that is called, looked
after or cancelled by its task is so on the register. -/
theorem Run.exists_uses {history : List Happening} {waits : Waits} (run : Run history waits) :
    ∃ deeds, waits.Uses deeds := by
  -- Induction on the run. Only raising bits, clearing them and turns touch the register.
  induction run with
  | named name => exact ⟨[], .new name, by simp [Waits.named]⟩
  | post run mask ih =>
    obtain ⟨deeds, uses⟩ := ih
    exact ⟨_, .post uses.use mask, fun entry member ticket deadline stage =>
      (uses.goes entry member ticket deadline stage).concat (by simp [Deed.Ends])⟩
  | reset run ih =>
    obtain ⟨deeds, uses⟩ := ih
    exact ⟨_, .reset uses.use, fun entry member ticket deadline stage =>
      (uses.goes entry member ticket deadline stage).concat (by simp [Deed.Ends])⟩
  -- A wait that was only started is at no register yet.
  | start run condition timeout ih =>
    obtain ⟨deeds, uses⟩ := ih
    refine ⟨deeds, uses.use, fun entry member ticket deadline stage => ?_⟩
    rcases List.mem_append.mp member with kept | last
    · exact uses.goes entry kept ticket deadline stage
    · obtain rfl := List.mem_singleton.mp last
      contradiction
  -- The mark alone is no deed; the last turn of the task will be.
  | cancel run pending ih =>
    obtain ⟨deeds, uses⟩ := ih
    obtain ⟨wait, member⟩ := run.faithful.of_isPending pending
    rw [run.faithful.cancel_eq member]
    refine ⟨deeds, uses.use, fun entry adjusted ticket deadline stage => ?_⟩
    change entry ∈ Entries.adjust _ ({ · with cancelled := true }) _ at adjusted
    rcases Entries.mem_adjust.mp adjusted with ⟨kept, -⟩ | ⟨value, kept, rfl⟩
    · exact uses.goes entry kept ticket deadline stage
    · exact uses.goes _ kept ticket deadline stage
  | turn run turned ih =>
    obtain ⟨deeds, uses⟩ := ih
    exact uses.turn run.faithful turned
  | strike run quiet ahead stop ih =>
    obtain ⟨deeds, uses⟩ := ih
    exact ⟨deeds, uses.use, uses.goes⟩

namespace Agrees

/-- No two waits park under one ticket. -/
theorem once (agrees : Agrees deeds register) : ((arrivals deeds).map (·.ticket)).Nodup :=
  -- The tickets of the arrivals are the numbers from zero on.
  agrees.numbered ▸ List.nodup_range

/-- The waits that a post completes are those that are pending before it and not after it. -/
theorem mem_completed (agrees : Agrees deeds register) (mask : UInt32) :
    arrival ∈ (register.satisfied (register.bits ||| mask)).map (·.arrival) ↔
      Pending deeds arrival ∧ ¬ Pending (deeds ++ [.posted mask]) arrival := by
  -- The wait is pending after the post if the post does not meet its condition.
  have after : Pending (deeds ++ [.posted mask]) arrival ↔
      Pending deeds arrival ∧ arrival.condition.matched (register.bits ||| mask) = none := by
    simp [pending_concat, agrees.shown, Deed.Ends]
  rw [after, not_and, ← agrees.there arrival]
  simp only [List.mem_map, Register.mem_satisfied]
  -- The two sides say the same of one waiter in the list.
  constructor
  · rintro ⟨waiter, ⟨stood, there, met⟩, rfl⟩
    refine ⟨⟨waiter, stood, there, rfl⟩, fun _ unmet => ?_⟩
    rw [show waiter.condition.matched _ = none from unmet] at met
    contradiction
  · rintro ⟨⟨waiter, stood, there, rfl⟩, met⟩
    exact ⟨waiter, ⟨stood, there, Option.isSome_iff_ne_none.mpr (met ⟨waiter, stood, there, rfl⟩)⟩, rfl⟩

end Agrees

/-- However a register is used, nobody stands in its list whose condition its bits meet. Every pending
wait stands there once, the waits stand in the order in which they parked, and the others among them
have timed out or were cancelled since the last post. After a post the list holds the pending waits and
nobody else, and those that the post has completed are woken in the order in which they parked. -/
theorem Use.list_holds_pending (use : Use deeds register) :
    (∀ arrival ∈ register.entries, arrival.condition.matched register.bits = none) ∧
      (∀ arrival, Pending deeds arrival → register.entries.count arrival = 1) ∧
      (register.entries.Sublist (arrivals deeds) ∧ ((arrivals deeds).map (·.ticket)).Nodup) ∧
      (∀ arrival ∈ register.entries, ¬ Pending deeds arrival → GoneSincePost deeds arrival.ticket) ∧
      ∀ mask,
        (∀ arrival, arrival ∈ (register.post mask).1.entries ↔ Pending (deeds ++ [.posted mask]) arrival) ∧
          ∃ completed : List Arrival, (register.post mask).2 = completed.map (·.owner) ∧
            completed.Sublist (arrivals deeds) ∧
            ∀ arrival, arrival ∈ completed ↔
              Pending deeds arrival ∧ ¬ Pending (deeds ++ [.posted mask]) arrival := by
  have agrees := use.agrees
  have inList : ∀ {register : Register} {arrival : Arrival},
      arrival ∈ register.entries ↔ ∃ waiter ∈ register.waiters, waiter.arrival = arrival := by
    simp [Register.entries]
  -- Every part is read off the agreement of the register with its deeds, before the post and after it.
  refine ⟨fun arrival member => ?_, fun arrival pending => ?_, ⟨agrees.inOrder, agrees.once⟩,
    fun arrival member finished => ?_, fun mask => ⟨fun arrival => ?_, ?_⟩⟩
  · obtain ⟨waiter, stood, rfl⟩ := inList.mp member
    exact agrees.unmet waiter stood
  · obtain ⟨waiter, stood, -, same⟩ := (agrees.there arrival).mpr pending
    have distinct : register.entries.Nodup := agrees.once.of_map.sublist agrees.inOrder
    exact List.count_eq_one_of_mem distinct (inList.mpr ⟨waiter, stood, same⟩)
  · obtain ⟨waiter, stood, rfl⟩ := inList.mp member
    cases gone : waiter.gone with
    | true => exact agrees.gone waiter stood gone
    | false => exact absurd ((agrees.there _).mp ⟨waiter, stood, gone, rfl⟩) finished
  · -- Whoever has gone leaves the list at a post.
    rw [inList, ← (agrees.post mask).there arrival]
    constructor
    · rintro ⟨waiter, stood, rfl⟩
      exact ⟨waiter, stood, (Register.mem_waiters_post.mp stood).2.1, rfl⟩
    · rintro ⟨waiter, stood, -, rfl⟩
      exact ⟨waiter, stood, rfl⟩
  · refine ⟨(register.satisfied (register.bits ||| mask)).map (·.arrival), ?_, ?_, fun _ => agrees.mem_completed mask⟩
    · simp [Register.post, Waiter.arrival, Function.comp_def]
    · -- Those who are satisfied are taken from the list as it stands.
      refine List.Sublist.trans ?_ agrees.inOrder
      rw [Register.entries, ← List.map_reverse]
      exact (List.filter_sublist.trans List.filter_sublist.reverse).map _

/-- A wait that has timed out stands in the list until the next post, and a wait for any bit of an empty
mask longer; the post wakes the one whose condition it meets. -/
theorem timed_out_wait_stands_until_post :
    let deeds : List Deed :=
      [.parked ⟨0, 10, .any 3⟩ none, .parked ⟨1, 11, .any 0⟩ none, .parked ⟨2, 12, .all 1⟩ (some 5), .timedOut 2]
    ∃ register, Use deeds register ∧ register.entries.map (·.ticket) = [0, 1, 2] ∧
      (register.post 1).2 = [10] ∧ Pending (deeds ++ [.posted 1]) ⟨1, 11, .any 0⟩ ∧
      ¬ Pending (deeds ++ [.posted 1]) ⟨2, 12, .all 1⟩ := by
  intro deeds
  -- Three waits park, one after the other.
  have parked : Use [.parked ⟨0, 10, .any 3⟩ none, .parked ⟨1, 11, .any 0⟩ none, .parked ⟨2, 12, .all 1⟩ (some 5)] _ :=
    .park
      (.park
        (.park (.new "network") (show Register.wait _ {} 10 (.any 3) .forever = _ from rfl))
        (show Register.wait _ {} 11 (.any 0) .forever = _ from rfl))
      (show Register.wait _ {} 12 (.all 1) (.after 5) = _ from rfl)
  have goes : Open [.parked ⟨0, 10, .any 3⟩ none, .parked ⟨1, 11, .any 0⟩ none, .parked ⟨2, 12, .all 1⟩ (some 5)]
      2 (some 5) := ⟨[_, _], _, [], rfl, rfl, by simp⟩
  -- The third runs into its deadline.
  have use : Use deeds _ :=
    .return parked goes (show Register.poll _ { now := 5 } (.parked 2 (some 5)) = (some 0, _) from rfl)
  -- The rest is what the general statement says of a post of the first bit.
  obtain ⟨-, -, -, -, posted⟩ := use.list_holds_pending
  exact ⟨_, use, rfl, rfl, ((posted 1).1 _).mp (by decide), mt ((posted 1).1 _).mpr (by decide)⟩

end Uplink.Flags
