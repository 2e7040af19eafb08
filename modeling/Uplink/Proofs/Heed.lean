import Mathlib.Data.Nat.Bitwise
import Uplink.Proofs.Connection

/-! A wait is heeded as long as nothing it asks for can come without its task being awake. -/

namespace Uplink

/-! ### Bits that are kept -/

namespace Flags

/-- Every one of the earlier bits is among the later ones. -/
def Covers (later earlier : UInt32) : Prop :=
  earlier &&& later = earlier

namespace Covers

variable {bits later earlier : UInt32}

/-- Bits are kept where nothing happens to them. -/
theorem refl (bits : UInt32) : Covers bits bits :=
  -- Bits within themselves are the bits themselves.
  UInt32.and_self

/-- No bits are among any bits. -/
theorem none : Covers later 0 :=
  -- No bits within any bits are no bits.
  UInt32.zero_and

/-- What is kept twice is kept. -/
theorem trans (kept : Covers later bits) (before : Covers bits earlier) : Covers later earlier := by
  -- Bits within bits within others, with the brackets moved.
  calc earlier &&& later
      = earlier &&& bits &&& later := by rw [before]
    _ = earlier &&& (bits &&& later) := UInt32.and_assoc _ _ _
    _ = earlier := by rw [kept, before]

/-- Raising more bits keeps those that were raised. -/
theorem raise (bits mask : UInt32) : Covers (bits ||| mask) bits := by
  -- The bits are compared one by one.
  apply UInt32.eq_of_toBitVec_eq
  ext i h
  simp only [UInt32.toBitVec_and, UInt32.toBitVec_or, BitVec.getElem_and, BitVec.getElem_or]
  grind

/-- What is kept of two masks is kept of both together. -/
theorem join {other : UInt32} (kept : Covers later earlier) (kept' : Covers later other) :
    Covers later (earlier ||| other) := by
  -- Bit by bit, what is kept of either mask is kept of both.
  have apart : (earlier ||| other) &&& later = earlier &&& later ||| other &&& later := by
    apply UInt32.eq_of_toBitVec_eq
    ext i h
    simp only [UInt32.toBitVec_and, UInt32.toBitVec_or, BitVec.getElem_and, BitVec.getElem_or]
    grind
  unfold Covers at kept kept' ⊢
  rw [apart, kept, kept']

/-- With some bits a part of them is kept. -/
theorem part (kept : Covers later earlier) (mask : UInt32) : Covers later (earlier &&& mask) := by
  -- The mask is moved past the bits that came later.
  calc earlier &&& mask &&& later
      = earlier &&& later &&& mask := by
        rw [UInt32.and_assoc, UInt32.and_comm mask, ← UInt32.and_assoc]
    _ = earlier &&& mask := by rw [kept]

/-- Bits that are kept are set. -/
theorem isSet {register : Register} {mask : UInt32} (kept : Covers register.bits mask)
    (some : mask ≠ 0) : register.isSet mask = true := by
  -- A mask that is kept is its own meeting with the bits, and it is not empty.
  have same : register.bits &&& mask = mask := (UInt32.and_comm _ _).trans kept
  simpa [Register.isSet, same] using some

/-- What is set stays set where every bit is kept. -/
theorem keeps_set {register after : Register} {mask : UInt32} (kept : Covers after.bits register.bits)
    (set : register.isSet mask = true) : after.isSet mask = true := by
  -- The part of the mask that was set is still there, so the mask does not miss the later bits.
  have part : register.bits &&& mask &&& after.bits = register.bits &&& mask := kept.part mask
  simp only [Register.isSet, bne_iff_ne, ne_eq] at set ⊢
  intro none
  apply set
  rw [← part, UInt32.and_assoc, UInt32.and_comm mask, none, UInt32.and_zero]

end Covers

/-- Of a mask with one bit either nothing or the whole mask is set. -/
theorem single_bit (bits : UInt32) {mask : UInt32} {place : Nat} (single : mask.toNat = 2 ^ place) :
    bits &&& mask = 0 ∨ bits &&& mask = mask := by
  -- The meeting with a power of two is that power or nothing, whichever the bit says.
  have low := Nat.and_two_pow bits.toNat place
  rw [← UInt32.toNat_inj, ← UInt32.toNat_inj, UInt32.toNat_and, single]
  cases raised : bits.toNat.testBit place with
  | false => exact .inl (by simpa [raised] using low)
  | true => exact .inr (by simpa [raised] using low)

/-- Some bits of the mask answer a wait for any of them. -/
theorem Condition.any_matched {mask bits answer : UInt32}
    (met : (Condition.any mask).matched bits = some answer) : answer = bits &&& mask ∧ answer ≠ 0 := by
  -- A wait for any bit is answered by the bits of its mask that are set, if there are some.
  simp only [matched] at met
  split at met
  · rename_i set
    obtain rfl := Option.some.inj met
    exact ⟨rfl, set⟩
  · simp at met

/-- The whole mask answers a wait for all of it. -/
theorem Condition.all_matched {mask bits answer : UInt32}
    (met : (Condition.all mask).matched bits = some answer) : answer = mask := by
  -- The wait for all bits answers in one branch, and there with its mask.
  simp only [matched] at met
  split at met
  · exact (Option.some.inj met).symm
  · simp at met

/-- A wait for any bit of a mask that is not met finds none of them set. -/
theorem Condition.any_unmet {mask bits : UInt32} (unmet : (Condition.any mask).matched bits = none) :
    bits &&& mask = 0 := by
  -- The condition is that the common bits are none.
  simpa [matched] using unmet

end Flags

/-! ### Waits that are heeded -/

namespace Flags.Register

/-- These bits met the condition when the register had them, and where it is firm it still does. -/
def Answers (register : Register) (firm : Prop) (condition : Condition) (bits : UInt32) : Prop :=
  ∃ earlier, condition.matched earlier = some bits ∧ (firm → Covers register.bits earlier)

/-- A wait stands in the list unanswered, or the task that is to pick its answer up is awake. -/
def Heeds (register : Register) (firm awake : Prop) (task : TaskId) (condition : Condition) : Wait → Prop
  | .answered bits => awake ∧ register.Answers firm condition bits
  | .parked ticket _ => register.Lists ticket task condition ∨
      awake ∧ ∃ bits, register.Hands ticket bits ∧ register.Answers firm condition bits

variable {register after : Register} {firm awake wakes : Prop} {task : TaskId} {condition : Condition}
  {wait : Wait} {bits : UInt32}

/-- An answer stays one as long as a firm register keeps its bits. -/
theorem Answers.keep (answers : register.Answers firm condition bits)
    (kept : firm → Covers after.bits register.bits) : after.Answers firm condition bits := by
  -- The bits at the match are the same ones, and they are still covered.
  obtain ⟨earlier, met, covers⟩ := answers
  exact ⟨earlier, met, fun holds => (kept holds).trans (covers holds)⟩

/-- What was matched just now is an answer. -/
theorem answers_now (met : condition.matched register.bits = some bits) :
    register.Answers firm condition bits :=
  -- The bits at the match are the bits that are set now.
  ⟨register.bits, met, fun _ => .refl _⟩

/-- An answer to a wait for any bit of a mask is a part of the mask that is still there. -/
theorem Answers.any {mask : UInt32} (answers : register.Answers True (.any mask) bits) :
    bits ≠ 0 ∧ bits &&& mask = bits ∧ Covers register.bits bits := by
  -- The answer was the common part of the mask and the bits, and so lies within both.
  obtain ⟨earlier, met, covers⟩ := answers
  obtain ⟨rfl, some⟩ := Condition.any_matched met
  exact ⟨some, by rw [UInt32.and_assoc, UInt32.and_self], (covers trivial).part mask⟩

/-- A wait stays heeded where its task stays awake, its place in the list stays taken or is traded for
an answer, and what was handed over stays there. -/
theorem Heeds.change (heeds : register.Heeds firm awake task condition wait) (wake : awake → wakes)
    (kept : firm → Covers after.bits register.bits)
    (lists : ∀ ticket, wait.Has ticket → register.Lists ticket task condition →
      after.Lists ticket task condition ∨
        wakes ∧ ∃ bits, after.Hands ticket bits ∧ after.Answers firm condition bits)
    (hands : ∀ ticket, wait.Has ticket → ∀ bits, register.Hands ticket bits → after.Hands ticket bits) :
    after.Heeds firm wakes task condition wait := by
  -- An answer in hand has to stay one; a parked wait keeps its place, or finds its bits handed
  -- over.
  cases wait with
  | answered bits => exact ⟨wake heeds.1, heeds.2.keep kept⟩
  | parked ticket deadline =>
    rcases heeds with listed | ⟨up, bits, handed, answers⟩
    · exact lists ticket rfl listed
    · exact .inr ⟨wake up, bits, hands ticket rfl bits handed, answers.keep kept⟩

/-- A wait stays heeded when its task is woken for another reason. -/
theorem Heeds.mono (heeds : register.Heeds firm awake task condition wait) (wake : awake → wakes) :
    register.Heeds firm wakes task condition wait :=
  -- Nothing has happened to the register; only the reason to be awake has changed.
  heeds.change wake (fun _ => .refl _) (fun _ _ listed => .inl listed) (fun _ _ _ handed => handed)

/-! ### Changes of a register -/

/-- A post either leaves a wait in the list or hands it its answer and wakes its task. -/
theorem Heeds.post (heeds : register.Heeds firm awake task condition wait) (mask : UInt32) :
    (register.post mask).1.Heeds firm (awake ∨ task ∈ (register.post mask).2) task condition wait := by
  -- The post decides for a wait in the list: bits that do not meet its condition leave it there.
  refine heeds.change .inl (fun _ => .raise register.bits mask) ?_ fun _ _ _ handed => handed.post mask
  intro ticket _ listed
  cases met : condition.matched (register.bits ||| mask) with
  | none => exact .inl (listed.post_unmet met)
  | some bits =>
    obtain ⟨handed, woken⟩ := listed.post_met met
    exact .inr ⟨.inr woken, bits, handed, answers_now met⟩

/-- A register that is not firm may be cleared. -/
theorem Heeds.reset (heeds : register.Heeds firm awake task condition wait) (loose : ¬firm) :
    register.reset.Heeds firm awake task condition wait :=
  -- A register that is not firm promises no bits, and clearing leaves the list and the answers as they are.
  heeds.change id (fun holds => absurd holds loose) (fun _ _ listed => .inl listed) fun _ _ _ handed => handed

/-- Beginning a wait raises and clears nothing. -/
@[simp] theorem wait_bits (register : Register) (agenda : Agenda) (owner : TaskId) (condition : Condition)
    (timeout : Timeout) : (register.wait agenda owner condition timeout).2.bits = register.bits := by
  -- All three branches leave the bits as they are.
  unfold Register.wait
  split
  · rfl
  · split <;> rfl

/-- Another wait that begins is no matter of a wait that is heeded. -/
theorem Heeds.await (heeds : register.Heeds firm awake task condition wait) (agenda : Agenda) (owner : TaskId)
    (other : Condition) (timeout : Timeout) :
    (register.wait agenda owner other timeout).2.Heeds firm awake task condition wait := by
  -- The bits, the list and the answers are kept, one after the other.
  refine heeds.change id (fun _ => ?_) ?_ ?_
  · rw [wait_bits]
    exact .refl _
  · exact fun ticket _ listed => .inl (listed.wait agenda owner other timeout)
  · exact fun ticket _ bits handed => handed.wait agenda owner other timeout

/-- Giving a wait up raises and clears nothing. -/
@[simp] theorem abandon_bits (register : Register) (wait : Wait) :
    (register.abandon wait).bits = register.bits := by
  -- A wait has parked or not, and neither way are bits touched.
  cases wait <;> rfl

/-- Looking after a wait raises and clears nothing. -/
@[simp] theorem poll_bits (register : Register) (agenda : Agenda) (wait : Wait) :
    (register.poll agenda wait).2.bits = register.bits := by
  -- A look may take the wait out of the lists, but the bits belong to everybody.
  cases wait with
  | answered bits => rfl
  | parked ticket deadline =>
    unfold Register.poll
    simp only
    split
    · rfl
    · split <;> simp

/-- Giving a wait up is no matter of the waits of other tickets. -/
theorem Heeds.abandon (heeds : register.Heeds firm awake task condition wait) {other : Wait}
    (apart : ∀ ticket, wait.Has ticket → ¬other.Has ticket) :
    (register.abandon other).Heeds firm awake task condition wait := by
  -- The bits, the list and the answers are kept, one after the other.
  refine heeds.change id (fun _ => ?_) ?_ ?_
  · rw [abandon_bits]
    exact .refl _
  · exact fun ticket has listed => .inl (listed.abandon_of_ne (apart ticket has))
  · exact fun ticket has bits handed => handed.abandon_of_ne (apart ticket has)

/-- Looking after a wait is no matter of the waits of other tickets. -/
theorem Heeds.poll (heeds : register.Heeds firm awake task condition wait) (agenda : Agenda) {other : Wait}
    (apart : ∀ ticket, wait.Has ticket → ¬other.Has ticket) :
    (register.poll agenda other).2.Heeds firm awake task condition wait := by
  -- The bits, the list and the answers are kept, one after the other.
  refine heeds.change id (fun _ => ?_) ?_ ?_
  · rw [poll_bits]
    exact .refl _
  · exact fun ticket has listed => .inl (listed.poll_of_ne (apart ticket has) agenda)
  · exact fun ticket has bits handed => handed.poll_of_ne (apart ticket has) agenda

/-! ### The wait of a task that is awake -/

/-- A wait that has just begun is heeded, unless it was only to look at the register. -/
theorem heeds_wait (register : Register) (agenda : Agenda) (task : TaskId) (condition : Condition)
    {timeout : Timeout} (lasts : timeout ≠ .noWait) :
    (register.wait agenda task condition timeout).2.Heeds firm True task condition
      (register.wait agenda task condition timeout).1 := by
  -- A wait that is not answered at once parks, since it may take its time.
  cases met : condition.matched register.bits with
  | some bits =>
    rw [wait_met met]
    exact ⟨trivial, answers_now met⟩
  | none =>
    cases timeout with
    | noWait => exact absurd rfl lasts
    | forever =>
      simp only [Register.wait, met]
      exact .inl (lists_park register task condition none)
    | after span =>
      simp only [Register.wait, met]
      exact .inl (lists_park register task condition _)

/-- A look that finds no answer leaves everything as it was. -/
theorem poll_unanswered {agenda : Agenda} (unanswered : (register.poll agenda wait).1 = none) :
    (register.poll agenda wait).2 = register := by
  -- What is found is taken, and a wait whose deadline has come is given up.
  cases wait with
  | answered bits => cases unanswered
  | parked ticket deadline =>
    simp only [poll] at unanswered ⊢
    split at unanswered
    · cases unanswered
    · split at unanswered
      · cases unanswered
      · rename_i early
        simp [early]

/-- A wait that a look finds no answer for is in the list, so its task may sleep. -/
theorem Heeds.sleep (heeds : register.Heeds firm awake task condition wait) (orderly : register.Orderly)
    {agenda : Agenda} (unanswered : (register.poll agenda wait).1 = none) :
    register.Heeds firm False task condition wait := by
  -- Bits that were handed over would have been found by the look.
  cases wait with
  | answered bits => cases unanswered
  | parked ticket deadline =>
    rcases heeds with listed | ⟨-, bits, handed, -⟩
    · exact .inl listed
    · rw [orderly.poll_handed handed] at unanswered
      cases unanswered

/-- What a look finds is an answer, or nothing at all because the deadline has come. -/
theorem Heeds.answer (heeds : register.Heeds firm awake task condition wait) (orderly : register.Orderly)
    {agenda : Agenda} (answered : (register.poll agenda wait).1 = some bits) :
    bits = 0 ∨ register.Answers firm condition bits := by
  -- A wait that is still in the list can only have come to its deadline.
  cases wait with
  | answered own =>
    obtain rfl := Option.some.inj answered
    exact .inr heeds.2
  | parked ticket deadline =>
    rcases heeds with listed | ⟨-, own, handed, answers⟩
    · cases due : agenda.reached deadline with
      | false =>
        rw [orderly.poll_open listed due] at answered
        cases answered
      | true =>
        rw [orderly.poll_due listed due] at answered
        exact .inl (Option.some.inj answered).symm
    · rw [orderly.poll_handed handed] at answered
      exact .inr (Option.some.inj answered ▸ answers)

/-- A task sleeps only while the condition of its wait is not met. -/
theorem Heeds.unmet (heeds : register.Heeds firm False task condition wait) (orderly : register.Orderly) :
    condition.matched register.bits = none := by
  -- Only a wait in the list lets its task sleep, and the order says that its condition is not met.
  cases wait with
  | answered bits => exact heeds.1.elim
  | parked ticket deadline =>
    rcases heeds with listed | ⟨absurd, -⟩
    · exact orderly.unmet _ listed rfl
    · exact absurd.elim

end Flags.Register

/-! ### Changes of a connection -/

namespace Connection.Touches

open Flags (Condition Covers Ticket Wait)

variable {liberty : Liberty} {held : RegisterName → Ticket → Prop} {before after : Connection}

/-- Where others may not clear the cloud register, it keeps every bit. -/
theorem covers (touches : before.Touches liberty held after) (keeps : liberty.clears = false) :
    Covers after.cloud.bits before.cloud.bits := by
  -- Posts raise bits, waits leave them alone, and the register of the cloud is not cleared.
  let keepsBits (other : RegisterName) (register : Flags.Register) : Prop :=
    other = .cloud → Covers register.bits (before.register other).bits
  have lasting : before.Lasts liberty held keepsBits := {
    post := fun _ _ mask _ kept cloud => (Covers.raise _ mask).trans (kept cloud)
    clear := fun _ _ allowed _ cloud => absurd (allowed cloud) (by simp [keeps])
    await := fun _ _ _ _ _ _ kept cloud => (Flags.Register.wait_bits _ _ _ _ _).symm ▸ kept cloud
    poll := fun _ _ _ _ _ kept cloud => (Flags.Register.poll_bits _ _ _).symm ▸ kept cloud
    abandon := fun _ _ _ _ kept cloud => (Flags.Register.abandon_bits _ _).symm ▸ kept cloud }
  exact touches.lasts lasting (fun _ _ => .refl _) .cloud rfl

/-- Others leave a wait heeded that they do not hold, if it had parked before; its register may be firm if it is
the cloud register and they may not clear that. -/
theorem heeds (touches : before.Touches liberty held after) {firm ready : Prop} {task : TaskId}
    {name : RegisterName} {condition : Condition} {wait : Wait}
    (keeps : firm → name = .cloud ∧ liberty.clears = false)
    (apart : ∀ ticket, wait.Has ticket → ¬held name ticket)
    (issued : ∀ ticket, wait.Has ticket → ticket < (before.register name).nextTicket)
    (heeded : (before.register name).Heeds firm (ready ∨ task ∈ before.woken) task condition wait) :
    (after.register name).Heeds firm (ready ∨ task ∈ after.woken) task condition wait := by
  -- Whatever is polled or given up under this name has another ticket.
  have strange : ∀ other, before.Owns held name other → ∀ ticket, wait.Has ticket → ¬other.Has ticket :=
    fun other own ticket has => own.strange (apart ticket has) (issued ticket has)
  let heeds (awake : Prop) (other : RegisterName) (register : Flags.Register) : Prop :=
    other = name → register.Heeds firm awake task condition wait
  -- Induction on the changes; each of them keeps the wait heeded and adds to those to be woken at
  -- most.
  have holds : ∀ other, heeds (ready ∨ task ∈ after.woken) other (after.register other) := by
    induction touches with
    | refl =>
      intro other same
      subst same
      exact heeded
    | alike _ alike ih =>
      intro other
      rw [alike.registers other, alike.woken]
      exact ih other
    | wake _ tasks ih => exact fun other same => (ih other same).mono (.imp_right (List.mem_append_left _))
    | @post middle _ changed mask _ ih =>
      -- A post wakes those whom it answers; that may be this task.
      have woken : (middle.post changed mask).woken =
          middle.woken ++ ((middle.register changed).post mask).2 := by
        simp [Connection.post, Connection.log, Connection.wake]
      rw [woken]
      refine forall_setRegister (fun other same => ?_) fun same => ?_
      · exact (ih other same).mono (.imp_right (List.mem_append_left _))
      · refine ((ih changed same).post mask).mono ?_
        intro either
        rcases either with (up | earlier) | now
        · exact .inl up
        · exact .inr (List.mem_append_left _ earlier)
        · exact .inr (List.mem_append_right _ now)
    | @clear middle _ changed allowed ih =>
      have woken : (middle.clear changed).woken = middle.woken := setRegister_woken _ _ _
      rw [woken]
      refine forall_setRegister ih fun same => ?_
      -- The cloud register is not cleared by such a part, so the register is not firm.
      have loose : ¬firm := fun holds => by
        obtain ⟨cloud, kept⟩ := keeps holds
        simp [allowed (same.trans cloud)] at kept
      exact (ih changed same).reset loose
    | @await middle _ agenda owner changed other timeout ih =>
      have woken : (middle.await agenda owner changed other timeout).2.woken = middle.woken :=
        setRegister_woken _ _ _
      rw [woken]
      exact forall_setRegister ih fun same =>
        Flags.Register.Heeds.await (ih changed same) agenda owner other timeout
    | @poll middle _ agenda changed other own ih =>
      have woken : (middle.poll agenda changed other).2.woken = middle.woken := setRegister_woken _ _ _
      rw [woken]
      refine forall_setRegister ih fun same => ?_
      exact Flags.Register.Heeds.poll (ih changed same) agenda (strange other (same ▸ own))
    | @abandon middle _ changed other own ih =>
      have woken : (middle.abandon changed other).woken = middle.woken := setRegister_woken _ _ _
      rw [woken]
      refine forall_setRegister ih fun same => ?_
      exact Flags.Register.Heeds.abandon (ih changed same) (strange other (same ▸ own))
  exact holds name rfl

end Connection.Touches

end Uplink
