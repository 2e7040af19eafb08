import Uplink.Proofs.Dispatcher

/-! A wait is answered with what was there when its task was called, so a delivery that goes on has seen a ready
session at that moment, whatever has become of it since. -/

namespace Uplink

open Flags (Condition Covers Register Ticket Wait)

/-! ### Tickets that belong to a task -/

namespace Flags.Register

variable {register : Register} {ticket : Ticket} {task : TaskId} {condition : Condition} {seen later : Prop}

/-- The ticket was issued to this task for this condition, and bits were handed to it only if this has been
seen. -/
structure Booked (register : Register) (ticket : Ticket) (task : TaskId) (condition : Condition)
    (seen : Prop) : Prop where
  suits : register.Suits ticket condition
  owner : ∀ waiter ∈ register.waiters, waiter.ticket = ticket → waiter.owner = task
  handed : ∀ bits, register.Hands ticket bits → seen

/-- What has been seen may be said in other words. -/
theorem Booked.mono (booked : register.Booked ticket task condition seen) (onward : seen → later) :
    register.Booked ticket task condition later :=
  ⟨booked.suits, booked.owner, fun bits handed => onward (booked.handed bits handed)⟩

/-- A post that hands bits to the ticket wakes its task, and finds the condition met. -/
theorem Booked.post (booked : register.Booked ticket task condition seen) (mask : UInt32) :
    (register.post mask).1.Booked ticket task condition
      (seen ∨ task ∈ (register.post mask).2 ∧
        ∃ bits, condition.matched (register.post mask).1.bits = some bits) where
  suits := booked.suits.post mask
  owner := fun waiter member => booked.owner waiter (mem_waiters_post.mp member).1
  handed := by
    intro bits handed
    rcases hands_post.mp handed with kept | ⟨waiter, stood, there, same, met⟩
    · exact .inl (booked.handed bits kept)
    · -- The waiter with this ticket is the task, and the post has found its condition met.
      have satisfied : waiter ∈ register.satisfied (register.bits ||| mask) :=
        mem_satisfied.mpr ⟨stood, there, by simp [met]⟩
      rw [booked.suits.listed waiter stood same] at met
      exact .inr ⟨booked.owner waiter stood same ▸ List.mem_map_of_mem satisfied, bits, met⟩

/-- Clearing the bits hands nothing to anybody. -/
theorem Booked.reset (booked : register.Booked ticket task condition seen) :
    register.reset.Booked ticket task condition seen :=
  ⟨booked.suits.reset, booked.owner, booked.handed⟩

/-- A wait that parks gets another ticket. -/
theorem Booked.wait (booked : register.Booked ticket task condition seen) (agenda : Agenda) (owner : TaskId)
    (other : Condition) (timeout : Timeout) :
    (register.wait agenda owner other timeout).2.Booked ticket task condition seen := by
  have suits := booked.suits.wait agenda owner other timeout
  -- The new waiter stands in front of the list with a ticket that nobody had.
  have parked : ∀ deadline, ∀ waiter ∈ (register.park owner other deadline).2.waiters,
      waiter.ticket = ticket → waiter.owner = task := by
    intro deadline waiter member same
    rcases List.mem_cons.mp member with rfl | stood
    · exact absurd same (Nat.ne_of_gt booked.suits.issued)
    · exact booked.owner waiter stood same
  refine ⟨suits, ?_, ?_⟩
  · -- A wait that is answered at once leaves the list as it was.
    unfold Register.wait
    split
    · exact booked.owner
    · split
      · exact booked.owner
      · exact parked none
      · exact parked _
  · unfold Register.wait
    split
    · exact booked.handed
    · split <;> exact booked.handed

/-- Giving a wait up hands nothing to anybody. -/
theorem Booked.abandon (booked : register.Booked ticket task condition seen) (wait : Wait) :
    (register.abandon wait).Booked ticket task condition seen := by
  refine ⟨booked.suits.abandon wait, ?_, ?_⟩
  · -- A waiter that is marked keeps its ticket and its task.
    cases wait with
    | answered bits => exact booked.owner
    | parked other deadline =>
      intro waiter member same
      rcases mem_markGone member with stood | ⟨older, stood, rfl⟩
      · exact booked.owner waiter stood same
      · exact booked.owner older stood same
  · cases wait with
    | answered bits => exact booked.handed
    | parked other deadline => exact fun bits handed => booked.handed bits (List.mem_of_mem_filter handed)

/-- Looking after a wait hands nothing to anybody. -/
theorem Booked.poll (booked : register.Booked ticket task condition seen) (agenda : Agenda) (wait : Wait) :
    (register.poll agenda wait).2.Booked ticket task condition seen := by
  -- A look takes what was handed to the wait, or gives the wait up at its deadline.
  cases wait with
  | answered bits => exact booked
  | parked other deadline =>
    have suits := booked.suits.poll agenda (.parked other deadline)
    simp only [Register.poll] at suits ⊢
    split at suits
    · exact ⟨suits, booked.owner, fun bits handed => booked.handed bits (List.mem_of_mem_filter handed)⟩
    · split
      · exact booked.abandon (.parked other deadline)
      · exact booked

/-- What a look finds was handed over. -/
theorem Booked.poll_answer (booked : register.Booked ticket task condition seen) {agenda : Agenda} {bits : UInt32}
    (answered : (register.poll agenda (.parked ticket none)).1 = some bits) : seen := by
  -- Without a deadline nothing else ends the wait.
  simp only [Register.poll] at answered
  split at answered
  · rename_i found
    exact booked.handed _ (Entries.mem_of_lookup found)
  · simp [Agenda.reached] at answered

/-- Where a look finds nothing, nothing was handed over. -/
theorem Booked.poll_open (booked : register.Booked ticket task condition seen) {agenda : Agenda}
    {deadline : Option Nat} (unanswered : (register.poll agenda (.parked ticket deadline)).1 = none) :
    register.Booked ticket task condition False := by
  -- Bits that were handed over would have been the answer.
  refine ⟨booked.suits, booked.owner, fun bits handed => ?_⟩
  simp only [Register.poll] at unanswered
  split at unanswered
  · cases unanswered
  · rename_i absent
    have other := List.lookup_eq_none_iff.mp absent _ handed
    simp at other

/-- A wait that parks is handed nothing before its task is called. -/
theorem booked_park (orderly : register.Orderly) (task : TaskId) (condition : Condition)
    (deadline : Option Nat) :
    (register.park task condition deadline).2.Booked register.nextTicket task condition False := by
  -- Nobody had the new ticket before.
  have own : ∀ waiter ∈ (register.park task condition deadline).2.waiters,
      waiter.ticket = register.nextTicket → waiter.condition = condition ∧ waiter.owner = task := by
    intro waiter member same
    rcases List.mem_cons.mp member with rfl | stood
    · exact ⟨rfl, rfl⟩
    · exact absurd same (Nat.ne_of_lt (orderly.listedIssued waiter stood))
  have unhanded : ∀ bits, ¬register.Hands register.nextTicket bits :=
    fun bits handed => Nat.lt_irrefl _ (orderly.handedIssued _ handed)
  exact ⟨⟨Nat.lt_succ_self _, fun waiter member same => (own waiter member same).1,
      fun bits handed => absurd handed (unhanded bits)⟩,
    fun waiter member same => (own waiter member same).2, fun bits handed => unhanded bits handed⟩

end Flags.Register

/-! ### Changes that do not both raise and clear -/

/-- Between the two somebody has raised bits, or cleared bits of the cloud register, but not both. -/
def Connection.Straight (before after : Connection) : Prop :=
  ∃ liberty : Liberty, (liberty.posts = true → liberty.clears = false) ∧
    before.Touches liberty (fun _ _ => True) after

/-- Changes by somebody who may not do both. -/
theorem Connection.Touches.straight {liberty : Liberty} {held : RegisterName → Ticket → Prop}
    {before after : Connection} (touches : before.Touches liberty held after)
    (either : liberty.posts = true → liberty.clears = false) : before.Straight after :=
  ⟨liberty, either, Connection.Touches.refl.trans touches fun _ _ _ => .inl trivial⟩

/-- Where nothing is changed, nothing is raised or cleared. -/
theorem Connection.Straight.refl (connection : Connection) : connection.Straight connection := by
  -- Nobody's liberty is needed, so one without the right to clear will do.
  have untouched : connection.Touches (.others false) (fun _ _ => True) connection := .refl
  exact untouched.straight fun _ => rfl

/-- It does not matter in which spans the entries are written. -/
theorem Connection.Straight.within {before after : Connection} (straight : before.Straight after)
    {first last : Connection} (opened : ∀ liberty, first.Alike liberty before)
    (closed : ∀ liberty, after.Alike liberty last) : first.Straight last := by
  -- The spans are opened and closed around the changes, with the same liberty.
  obtain ⟨liberty, either, touches⟩ := straight
  have opening : first.Touches liberty (fun _ _ => True) before := .alike .refl (opened liberty)
  exact ⟨liberty, either, (opening.trans touches fun _ _ _ => .inl trivial).alike (closed liberty)⟩

/-- Where bits are not both raised and cleared, whoever is handed a bit is called while it is set. -/
theorem Connection.Straight.booked {before after : Connection} {ticket : Ticket} {task : TaskId} {mask : UInt32}
    {seen : Prop} (straight : before.Straight after)
    (booked : before.cloud.Booked ticket task (.any mask) seen) :
    after.cloud.Booked ticket task (.any mask)
      (seen ∨ task ∈ after.woken ∧ after.cloud.isSet mask = true) := by
  obtain ⟨liberty, either, touches⟩ := straight
  -- What is carried along says besides that it was raised in between, so that nobody may clear it.
  let called (awake : Prop) (other : RegisterName) (register : Register) : Prop :=
    other = .cloud → register.Booked ticket task (.any mask)
      (seen ∨ liberty.posts = true ∧ awake ∧ register.isSet mask = true)
  have more {awake awake' : Prop} {register changed : Register} (wake : awake → awake')
      (kept : register.isSet mask = true → changed.isSet mask = true) :
      seen ∨ liberty.posts = true ∧ awake ∧ register.isSet mask = true →
        seen ∨ liberty.posts = true ∧ awake' ∧ changed.isSet mask = true :=
    .imp_right fun raised => ⟨raised.1, wake raised.2.1, kept raised.2.2⟩
  have same {register changed : Register} (bits : changed.bits = register.bits) :
      register.isSet mask = true → changed.isSet mask = true := by
    intro set
    rw [Register.isSet, bits]
    exact set
  -- Induction on what was touched, one change after the other.
  have holds : ∀ other, called (task ∈ after.woken) other (after.register other) := by
    induction touches with
    | refl =>
      intro other cloud
      subst cloud
      exact booked.mono .inl
    | alike _ alike ih =>
      intro other
      rw [alike.registers other, alike.woken]
      exact ih other
    | wake _ tasks ih => exact fun other cloud => (ih other cloud).mono (more (List.mem_append_left _) id)
    | @post middle _ changed raised allowed ih =>
      rw [Connection.post_woken]
      refine forall_setRegister (fun other cloud => ?_) fun cloud => ?_
      · exact (ih other cloud).mono (more (List.mem_append_left _) id)
      · refine ((ih changed cloud).post raised).mono fun either => ?_
        rcases either with earlier | ⟨woken, bits, met⟩
        · exact more (List.mem_append_left _) (Covers.raise _ raised).keeps_set earlier
        · -- The bits that were matched are set after the post.
          obtain ⟨rfl, some⟩ := Condition.any_matched met
          exact .inr ⟨allowed, List.mem_append_right _ woken, bne_iff_ne.mpr some⟩
    | @clear middle _ changed allowed ih =>
      have woken : (middle.clear changed).woken = middle.woken := setRegister_woken _ _ _
      rw [woken]
      refine forall_setRegister ih fun cloud => (ih changed cloud).reset.mono fun earlier => ?_
      -- Whoever clears has raised nothing.
      rcases earlier with earlier | ⟨posts, -⟩
      · exact .inl earlier
      · exact absurd (allowed cloud) (by simp [either posts])
    -- The three that follow change a register without raising or clearing a bit.
    | @await middle _ agenda owner changed other timeout ih =>
      have woken : (middle.await agenda owner changed other timeout).2.woken = middle.woken :=
        setRegister_woken _ _ _
      rw [woken]
      exact forall_setRegister ih fun cloud => ((ih changed cloud).wait agenda owner other timeout).mono
        (more id (same (Register.wait_bits _ _ _ _ _)))
    | @poll middle _ agenda changed other own ih =>
      have woken : (middle.poll agenda changed other).2.woken = middle.woken := setRegister_woken _ _ _
      rw [woken]
      exact forall_setRegister ih fun cloud => ((ih changed cloud).poll agenda other).mono
        (more id (same (Register.poll_bits _ _ _)))
    | @abandon middle _ changed other own ih =>
      have woken : (middle.abandon changed other).woken = middle.woken := setRegister_woken _ _ _
      rw [woken]
      exact forall_setRegister ih fun cloud => ((ih changed cloud).abandon other).mono
        (more id (same (Register.abandon_bits _ _)))
  exact (holds .cloud rfl).mono (.imp_right (·.2))

/-! ### Deliveries -/

namespace Delivery

variable {connection after : Connection} {task : TaskId} {seen later : Prop} {delivery : Delivery}

/-- The network was there, and the delivery waits for the session, or has handed its message over. -/
def Late : Delivery → Prop
  | .awaiting (.session _) | .sending => True
  | _ => False

/-- The delivery goes on from its wait for the session only if this has been seen. -/
def Expects (connection : Connection) (task : TaskId) (seen : Prop) : Delivery → Prop
  | .awaiting (.session (.answered _)) => seen
  | .awaiting (.session (.parked ticket _)) => connection.cloud.Booked ticket task (.any Cloud.ready) seen
  | .sending => seen
  | _ => True

/-- What has been seen may be said in other words, once the network was there. -/
theorem Expects.mono (expects : delivery.Expects connection task seen) (onward : delivery.Late → seen → later) :
    delivery.Expects connection task later := by
  -- Only a delivery past the network has been called, and only then is there something to say about what was
  -- seen.
  cases delivery with
  | arriving => trivial
  | sending => exact onward trivial expects
  | awaiting wait =>
    cases wait with
    | network timeout own => trivial
    | session own =>
      cases own with
      | answered bits => exact onward trivial expects
      | parked ticket deadline => exact Register.Booked.mono expects (onward trivial)

/-- What is expected of a delivery is a matter of the cloud register alone. -/
theorem Expects.congr (expects : delivery.Expects connection task seen) (cloud : after.cloud = connection.cloud) :
    delivery.Expects after task seen := by
  -- Neither the network nor the date is looked at in what is expected.
  unfold Expects at expects ⊢
  rw [cloud]
  exact expects

/-- Where bits are not both raised and cleared, a delivery is called while the session is ready. -/
theorem Expects.straight (expects : delivery.Expects connection task seen) (straight : connection.Straight after) :
    delivery.Expects after task (seen ∨ task ∈ after.woken ∧ after.cloud.isSet Cloud.ready = true) := by
  -- A wait that is parked may be called meanwhile; whatever else the delivery is at, what was seen was seen
  -- before.
  cases delivery with
  | arriving => trivial
  | sending => exact .inl expects
  | awaiting wait =>
    cases wait with
    | network timeout own => trivial
    | session own =>
      cases own with
      | answered bits => exact .inl expects
      | parked ticket deadline => exact straight.booked expects

/-- Where a step leads: the delivery goes on if this has been seen, or the session is ready now; a delivery that
parks has seen nothing yet. -/
def Leads (task : TaskId) (seen : Prop) : Progress Bool Delivery × Connection → Prop
  | (.next onward, after) => onward.Expects after task (seen ∨ after.cloud.isSet Cloud.ready = true)
  | (.parked onward, after) => onward.Expects after task False
  | (.done _, _) => True

/-- A wait for the session that begins is answered only if the session is ready. -/
theorem expects_awaitReady (ordered : ∀ name, (connection.register name).Orderly) (agenda : Agenda)
    (task : TaskId) :
    Delivery.Expects (connection.awaitReady agenda task .forever false).2 task
      ((connection.awaitReady agenda task .forever false).2.cloud.isSet Cloud.ready = true)
      (.awaiting (.session (connection.awaitReady agenda task .forever false).1)) := by
  have orderly : connection.cloud.Orderly := ordered .cloud
  -- The entry before the wait is no matter of the registers.
  let noted := connection.log .debug "Awaiting cloud ready" []
  have begun : connection.awaitReady agenda task .forever false =
      noted.await agenda task .cloud (.any Cloud.ready) .forever := rfl
  rw [begun]
  cases met : (Condition.any Cloud.ready).matched connection.cloud.bits with
  | some bits =>
    have waits : noted.cloud.wait agenda task (.any Cloud.ready) .forever = (.answered bits, noted.cloud) :=
      Register.wait_met met agenda .forever
    have awaits : noted.await agenda task .cloud (.any Cloud.ready) .forever = (.answered bits, noted) := by
      simp only [Connection.await, Connection.register, waits, Connection.setRegister]
    rw [awaits]
    -- What the wait is answered with at once is the bit itself.
    obtain ⟨rfl, some⟩ := Condition.any_matched met
    exact bne_iff_ne.mpr some
  | none =>
    -- Otherwise the wait parks under a ticket that nobody has seen anything for.
    have unmet : (Condition.any Cloud.ready).matched noted.cloud.bits = none := met
    have awaits : noted.await agenda task .cloud (.any Cloud.ready) .forever =
        (.parked noted.cloud.nextTicket none,
          { noted with cloud := (noted.cloud.park task (.any Cloud.ready) none).2 }) := by
      simp only [Connection.await, Connection.register, Register.wait, unmet, Connection.setRegister,
        Register.park]
    rw [awaits]
    exact (Register.booked_park orderly task (.any Cloud.ready) none).mono False.elim

/-- A wait for the session is answered with what it found at its beginning, or was handed since. -/
theorem Expects.answered {own : Wait} (expects : Delivery.Expects connection task seen (.awaiting (.session own)))
    (sure : connection.cloud.Sure (.any Cloud.ready) own) {agenda : Agenda} {bits : UInt32}
    (answered : (connection.cloud.poll agenda own).1 = some bits) : seen := by
  -- A wait that was answered at its beginning has it from there; one that has parked has it from whoever called
  -- it.
  cases own with
  | answered found => exact expects
  | parked ticket deadline =>
    obtain ⟨rfl, -⟩ := sure
    exact Register.Booked.poll_answer expects answered

/-- A wait for the session that a look leaves open has been handed nothing. -/
theorem Expects.unanswered {own : Wait} (expects : Delivery.Expects connection task seen (.awaiting (.session own)))
    {agenda : Agenda} (unanswered : (connection.cloud.poll agenda own).1 = none)
    (cloud : after.cloud = (connection.cloud.poll agenda own).2) :
    Delivery.Expects after task False (.awaiting (.session own)) := by
  -- The look has left the register as it was, and a wait that was handed something would have found it.
  rw [Register.poll_unanswered unanswered] at cloud
  cases own with
  | answered found => cases unanswered
  | parked ticket deadline =>
    have booked : after.cloud.Booked ticket task (.any Cloud.ready) seen := cloud ▸ expects
    rw [← cloud] at unanswered
    exact booked.poll_open unanswered

/-- A delivery goes on from its wait for the session only with what has been seen. -/
theorem Expects.step (expects : delivery.Expects connection task seen)
    (sure : ∀ wait, delivery = .awaiting wait → wait.Sure connection)
    (ordered : ∀ name, (connection.register name).Orderly) (agenda : Agenda) (envelope : Envelope)
    (unsent : delivery ≠ .sending) : Leads task seen (delivery.step connection agenda task envelope) := by
  cases delivery with
  | sending => exact absurd rfl unsent
  | arriving => trivial
  | awaiting wait =>
    have certain := sure wait rfl
    cases wait with
    | network timeout own =>
      obtain ⟨rfl, -⟩ := certain
      -- The look at the network register may be anybody's.
      have looked : connection.Touches (.others false) (fun _ _ => True)
          (connection.poll agenda .network own).2 := .poll .refl agenda fun _ _ => .inl trivial
      simp only [Delivery.step, ConnectionWait.poll]
      rcases polled : connection.poll agenda .network own with ⟨answer, after⟩
      rw [polled] at looked
      cases answer with
      | none => trivial
      | some bits =>
        simp only
        by_cases late : bits = 0
        · -- Without a network in time the delivery has failed.
          simp only [if_pos late]
          trivial
        · -- The wait for the session begins in the same step.
          simp only [if_neg late]
          exact (expects_awaitReady (looked.orderly ordered) agenda task).mono fun _ => .inr
    | session own =>
      simp only [Delivery.step, ConnectionWait.poll]
      rcases polled : connection.poll agenda .cloud own with ⟨answer, after⟩
      have found : (connection.cloud.poll agenda own).1 = answer := congrArg Prod.fst polled
      have cloud : after.cloud = (connection.cloud.poll agenda own).2 := (congrArg (·.2.cloud) polled).symm
      cases answer with
      | none => exact expects.unanswered found cloud
      | some bits =>
        -- Only the ready bit alone makes it go on.
        have been := expects.answered certain found
        by_cases ready : bits = Cloud.ready
        · simp only [decide_eq_true ready]
          exact .inl been
        · simp only [decide_eq_false ready]
          trivial

end Delivery

/-! ### The dispatcher -/

namespace Dispatcher

variable {connection : Connection} {task : TaskId} {seen : Envelope → Prop} {dispatcher : Dispatcher}

/-- The delivery that the dispatcher is at goes on from its wait for the session only if this has been seen. -/
def Expects (connection : Connection) (task : TaskId) (seen : Envelope → Prop) : Dispatcher → Prop
  | .delivering envelope delivery => delivery.Expects connection task (seen envelope)
  | _ => True

/-- What has been seen may be said in other words, once the network was there. -/
theorem Expects.mono {later : Envelope → Prop} (expects : dispatcher.Expects connection task seen)
    (onward : ∀ envelope delivery, dispatcher = .delivering envelope delivery → delivery.Late → seen envelope →
      later envelope) : dispatcher.Expects connection task later := by
  -- A dispatcher expects what its delivery expects.
  cases dispatcher with
  | delivering envelope delivery => exact Delivery.Expects.mono expects (onward envelope delivery rfl)
  | starting | receiving stage => trivial

/-- What is expected of the dispatcher is a matter of the cloud register alone. -/
theorem Expects.congr {after : Connection} (expects : dispatcher.Expects connection task seen)
    (cloud : after.cloud = connection.cloud) : dispatcher.Expects after task seen := by
  -- Without a delivery nothing is expected.
  cases dispatcher with
  | delivering envelope delivery => exact Delivery.Expects.congr expects cloud
  | starting | receiving stage => trivial

/-- Where bits are not both raised and cleared, the dispatcher is called while the session is ready. -/
theorem Expects.straight {after : Connection} (expects : dispatcher.Expects connection task seen)
    (straight : connection.Straight after) :
    dispatcher.Expects after task fun envelope =>
      seen envelope ∨ task ∈ after.woken ∧ after.cloud.isSet Cloud.ready = true := by
  -- What is raised reaches the delivery, if there is one.
  cases dispatcher with
  | delivering envelope delivery => exact Delivery.Expects.straight expects straight
  | starting | receiving stage => trivial

/-- Where a step of the dispatcher leads, with the delivery that it is at. -/
def Leads (task : TaskId) (seen : Envelope → Prop) : Progress Unit Dispatcher × Connection → Prop
  | (.next onward, after) =>
    onward.Expects after task fun envelope => seen envelope ∨ after.cloud.isSet Cloud.ready = true
  | (.parked onward, after) => onward.Expects after task fun _ => False
  | (.done _, _) => True

/-- The dispatcher hands a message over only with what has been seen since it took the message. -/
theorem Expects.step (expects : dispatcher.Expects connection task seen) (fits : dispatcher.Fits connection task)
    (ordered : ∀ name, (connection.register name).Orderly) (agenda : Agenda)
    (unsent : ∀ envelope, dispatcher ≠ .delivering envelope .sending) :
    Leads task seen (dispatcher.step connection agenda task) := by
  cases dispatcher with
  | starting => trivial
  | receiving stage =>
    -- A message that is received is not waited with yet.
    rcases received : connection.queue.step task stage with ⟨progress, queue, woken⟩
    simp only [Dispatcher.step, received]
    cases progress with
    | next onward => trivial
    | parked onward => trivial
    | done answer => cases answer <;> trivial
  | delivering envelope delivery =>
    -- A delivery goes on as its own lemma says, wherever that leads.
    have sure : ∀ wait, delivery = .awaiting wait → wait.Sure connection := by
      rintro wait rfl
      exact fits.2
    have leads := Delivery.Expects.step expects sure ordered agenda envelope fun sending =>
      unsent envelope (congrArg _ sending)
    rcases stepped : delivery.step connection agenda task envelope with ⟨progress, after⟩
    rw [stepped] at leads
    simp only [Dispatcher.step, stepped]
    cases progress with
    | next onward => exact leads
    | parked onward => exact leads
    | done answer => trivial

end Dispatcher

end Uplink
