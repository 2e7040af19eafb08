import Uplink.Dispatcher
import Uplink.Proofs.Heed

/-! Waits without a deadline end with bits that met their condition and with nothing else, so a delivery that
has waited for a connection has one. -/

namespace Uplink

open Flags (Condition Register Ticket Timeout Wait)

/-! ### Tickets that were issued for a condition -/

namespace Flags.Register

variable {register : Register} {ticket : Ticket} {condition : Condition} {own : Wait} {bits : UInt32}

/-- The ticket was issued for this condition: whoever stands in the list with it waits for nothing else, and
what was handed to it met the condition. -/
structure Suits (register : Register) (ticket : Ticket) (condition : Condition) : Prop where
  issued : ticket < register.nextTicket
  listed : ∀ waiter ∈ register.waiters, waiter.ticket = ticket → waiter.condition = condition
  handed : ∀ bits, register.Hands ticket bits → ∃ met, condition.matched met = some bits

/-- A post hands a wait in the list nothing but what meets its condition. -/
theorem Suits.post (suits : register.Suits ticket condition) (mask : UInt32) :
    (register.post mask).1.Suits ticket condition where
  issued := suits.issued
  listed := fun waiter member => suits.listed waiter (mem_waiters_post.mp member).1
  handed := by
    intro bits handed
    -- The answer was there before, or is that of a waiter whose condition was met.
    rcases hands_post.mp handed with kept | ⟨waiter, stood, -, same, met⟩
    · exact suits.handed bits kept
    · exact ⟨_, suits.listed waiter stood same ▸ met⟩

/-- Clearing the bits takes nothing back. -/
theorem Suits.reset (suits : register.Suits ticket condition) : register.reset.Suits ticket condition :=
  -- Neither the list nor the answers have changed.
  ⟨suits.issued, suits.listed, suits.handed⟩

/-- A wait that parks gets a ticket of its own. -/
theorem Suits.wait (suits : register.Suits ticket condition) (agenda : Agenda) (owner : TaskId)
    (other : Condition) (timeout : Timeout) :
    (register.wait agenda owner other timeout).2.Suits ticket condition := by
  -- The new waiter stands in front of the list with a ticket that nobody had.
  have parked : ∀ deadline, (register.park owner other deadline).2.Suits ticket condition := by
    intro deadline
    refine ⟨Nat.lt_succ_of_lt suits.issued, fun waiter member same => ?_, suits.handed⟩
    rcases List.mem_cons.mp member with rfl | stood
    · exact absurd same (Nat.ne_of_gt suits.issued)
    · exact suits.listed waiter stood same
  unfold Register.wait
  split
  · exact suits
  · split
    · exact suits
    · exact parked none
    · exact parked _

/-- Giving a wait up hands nothing to anybody. -/
theorem Suits.abandon (suits : register.Suits ticket condition) (wait : Wait) :
    (register.abandon wait).Suits ticket condition := by
  -- A waiter that is marked keeps its ticket and its condition.
  cases wait with
  | answered bits => exact suits
  | parked other deadline =>
    refine ⟨suits.issued, fun waiter member same => ?_, fun bits handed => ?_⟩
    · obtain ⟨older, stood, ticket, condition⟩ : ∃ older ∈ register.waiters,
          older.ticket = waiter.ticket ∧ older.condition = waiter.condition := by
        rcases mem_markGone member with stood | ⟨older, stood, rfl⟩
        · exact ⟨waiter, stood, rfl, rfl⟩
        · exact ⟨older, stood, rfl, rfl⟩
      exact condition ▸ suits.listed older stood (ticket.trans same)
    · exact suits.handed bits (List.mem_of_mem_filter handed)

/-- Looking after a wait hands nothing to anybody. -/
theorem Suits.poll (suits : register.Suits ticket condition) (agenda : Agenda) (wait : Wait) :
    (register.poll agenda wait).2.Suits ticket condition := by
  -- A look takes what was handed to the wait, or gives the wait up at its deadline.
  cases wait with
  | answered bits => exact suits
  | parked other deadline =>
    simp only [Register.poll]
    split
    · exact ⟨suits.issued, suits.listed, fun bits handed => suits.handed bits (List.mem_of_mem_filter handed)⟩
    · split
      · exact suits.abandon (.parked other deadline)
      · exact suits

/-! ### Sure waits -/

/-- The wait can end with nothing but bits that met its condition. -/
def Sure (register : Register) (condition : Condition) : Wait → Prop
  | .answered bits => ∃ met, condition.matched met = some bits
  | .parked ticket deadline => deadline = none ∧ register.Suits ticket condition

/-- A wait that may last forever is sure. -/
theorem sure_wait (orderly : register.Orderly) (agenda : Agenda) (owner : TaskId) (condition : Condition) :
    (register.wait agenda owner condition .forever).2.Sure condition
      (register.wait agenda owner condition .forever).1 := by
  cases met : condition.matched register.bits with
  | some bits =>
    rw [wait_met met]
    exact ⟨_, met⟩
  | none =>
    have parks : register.wait agenda owner condition .forever = register.park owner condition none := by
      simp [Register.wait, met]
    rw [parks]
    -- Nobody had the new ticket before.
    refine ⟨rfl, Nat.lt_succ_self _, fun waiter member same => ?_, fun bits handed => ?_⟩
    · rcases List.mem_cons.mp member with rfl | stood
      · rfl
      · exact absurd same (Nat.ne_of_lt (orderly.listedIssued waiter stood))
    · exact absurd rfl (Nat.ne_of_lt (orderly.handedIssued _ handed))

/-- A sure wait that ends has met its condition. -/
theorem Sure.answer (sure : register.Sure condition own) {agenda : Agenda}
    (looked : (register.poll agenda own).1 = some bits) : ∃ met, condition.matched met = some bits := by
  -- Without a deadline a wait in the list ends only with what was handed to it.
  cases own with
  | answered answer =>
    obtain rfl := Option.some.inj looked
    exact sure
  | parked ticket deadline =>
    obtain ⟨rfl, suits⟩ := sure
    simp only [Register.poll] at looked
    split at looked
    · rename_i answer found
      obtain rfl := Option.some.inj looked
      exact suits.handed _ (Entries.mem_of_lookup found)
    · simp [Agenda.reached] at looked

end Flags.Register

namespace Connection.Touches

variable {liberty : Liberty} {held : RegisterName → Ticket → Prop} {before after : Connection}
  {name : RegisterName} {condition : Condition} {wait : Wait}

/-- Whatever anybody does, a sure wait stays sure. -/
theorem sure (touches : before.Touches liberty held after)
    (sure : (before.register name).Sure condition wait) : (after.register name).Sure condition wait := by
  -- No change to any register takes from a ticket what it was issued for.
  cases wait with
  | answered bits => exact sure
  | parked ticket deadline =>
    obtain ⟨forever, suits⟩ := sure
    let keeps (other : RegisterName) (register : Register) : Prop :=
      other = name → register.Suits ticket condition
    have lasting : before.Lasts liberty held keeps := {
      post := fun _ _ mask _ suits same => (suits same).post mask
      clear := fun _ _ _ suits same => (suits same).reset
      await := fun _ _ agenda owner other timeout suits same => (suits same).wait agenda owner other timeout
      poll := fun _ _ agenda wait _ suits same => (suits same).poll agenda wait
      abandon := fun _ _ wait _ suits same => (suits same).abandon wait }
    refine ⟨forever, touches.lasts lasting (fun other same => ?_) name rfl⟩
    subst same
    exact suits

end Connection.Touches

/-! ### Waits for a connection -/

namespace ConnectionWait

variable {connection after : Connection}

/-- The wait ends with a connection, whenever it ends. -/
def Sure (connection : Connection) : ConnectionWait → Prop
  | .network timeout wait =>
    timeout = .forever ∧ connection.network.Sure (.all Network.connected) wait
  | .session wait => connection.cloud.Sure (.any Cloud.ready) wait

/-- Whatever anybody does, a sure wait for a connection stays sure. -/
theorem Sure.touches {liberty : Liberty} {held : RegisterName → Ticket → Prop} {wait : ConnectionWait}
    (sure : wait.Sure connection) (touches : connection.Touches liberty held after) : wait.Sure after := by
  -- The wait for the network and the one for the session are each sure on a register of their own.
  cases wait with
  | network timeout wait =>
    have before : (connection.register .network).Sure (.all Network.connected) wait := sure.2
    have kept := touches.sure before
    exact ⟨sure.1, kept⟩
  | session wait =>
    have before : (connection.register .cloud).Sure (.any Cloud.ready) wait := sure
    exact touches.sure before

/-- A wait that has just begun is sure if it may last forever. -/
theorem sure_await (ordered : ∀ name, (connection.register name).Orderly) (agenda : Agenda) (task : TaskId)
    (name : RegisterName) (condition : Condition) :
    ((connection.await agenda task name condition .forever).2.register name).Sure condition
      (connection.await agenda task name condition .forever).1 := by
  -- The register is replaced by the one in which the wait has begun.
  simp only [Connection.await, Connection.register_setRegister]
  exact Register.sure_wait (ordered name) agenda task condition

/-- A wait for a connection that may last forever is sure. -/
theorem sure_start (ordered : ∀ name, (connection.register name).Orderly) (agenda : Agenda) (task : TaskId) :
    (start connection agenda task .forever).1.Sure (start connection agenda task .forever).2 := by
  -- The entry before the wait leaves the registers as they are.
  have noted : ∀ name, ((connection.log .debug "Awaiting network connection" []).register name).Orderly :=
    fun name => by simpa using ordered name
  exact ⟨rfl, sure_await noted agenda task .network _⟩

/-- What a look at a sure wait leads to: the wait goes on and is sure, or there is a connection. -/
def Assured (connection : Connection) : Progress Bool ConnectionWait → Prop
  | .next wait | .parked wait => wait.Sure connection
  | .done answer => answer = true

/-- A look at a sure wait finds a connection or leaves the wait sure. -/
theorem Sure.poll {wait : ConnectionWait} (sure : wait.Sure connection)
    (ordered : ∀ name, (connection.register name).Orderly) (agenda : Agenda) (task : TaskId) :
    Assured (wait.poll connection agenda task).2 (wait.poll connection agenda task).1 := by
  -- The wait is for the network first and for the session then; whoever looks after it leaves the
  -- registers in order.
  have looked (name : RegisterName) (wait : Wait) :
      connection.Touches (.others false) (fun _ _ => True) (connection.poll agenda name wait).2 :=
    .poll .refl agenda fun _ _ => .inl trivial
  cases wait with
  | network timeout own =>
    obtain ⟨rfl, network⟩ := sure
    have whole : (ConnectionWait.network .forever own).Sure connection := ⟨rfl, network⟩
    simp only [ConnectionWait.poll]
    split
    · rename_i after unanswered
      have touches := looked .network own
      rw [unanswered] at touches
      exact whole.touches touches
    · rename_i bits after answered
      have touches := looked .network own
      rw [answered] at touches
      -- The answer is the whole mask, which is one bit.
      obtain ⟨met, matched⟩ := network.answer (congrArg Prod.fst answered)
      have connected : bits = Network.connected := Condition.all_matched matched
      rw [if_neg (by rw [connected]; decide)]
      have noted : ∀ name, ((after.log .debug "Awaiting cloud ready" []).register name).Orderly :=
        fun name => by simpa using touches.orderly ordered name
      exact sure_await noted agenda task .cloud _
  | session own =>
    have session : connection.cloud.Sure (.any Cloud.ready) own := sure
    simp only [ConnectionWait.poll]
    split
    · rename_i after unanswered
      have touches := looked .cloud own
      rw [unanswered] at touches
      have whole : (ConnectionWait.session own).Sure connection := session
      exact whole.touches touches
    · rename_i bits after answered
      -- The answer is a part of the mask, which is one bit.
      obtain ⟨met, matched⟩ := session.answer (congrArg Prod.fst answered)
      obtain ⟨rfl, some⟩ := Condition.any_matched matched
      have ready := (Flags.single_bit met (by decide : Cloud.ready.toNat = 2 ^ 2)).resolve_left some
      exact decide_eq_true ready

end ConnectionWait

end Uplink
