import Uplink.Monitor
import Uplink.Proofs.Flags.Register

/-! The changes that the parts of a session make to the connection, and what outlasts all of them. -/

namespace Uplink

open Flags (Condition Register Ticket Timeout Wait)

/-- The wait has parked with this ticket. -/
def Flags.Wait.Has : Wait → Ticket → Prop
  | .answered _, _ => False
  | .parked own _, ticket => own = ticket

/-- The counters of the connection cycle, with everything that others count left out. -/
def Metrics.cycle (metrics : Metrics) : Metrics :=
  { metrics with
    linkLosses := 0
    forcedDisconnects := 0
    inbound := 0
    enqueued := 0
    rejected := 0
    sent := 0
    sendFailures := 0 }

/-- The counters of the messages that were handed to the transport. -/
def Metrics.postage (metrics : Metrics) : UInt64 × UInt64 :=
  (metrics.sent, metrics.sendFailures)

/-- What a part of a session may do beyond looking after its own waits. -/
structure Liberty where
  /-- It may clear the cloud register. -/
  clears : Bool
  /-- It may do what belongs to the connection cycle, and count it. -/
  counts : Bool
  /-- It may raise bits. -/
  posts : Bool
  /-- It may change the queue, and count what was handed to the transport. -/
  delivers : Bool

/-- Those who do not run the supervisor may do everything else, but it depends whether they may clear
the cloud register. -/
abbrev Liberty.others (clears : Bool) : Liberty where
  clears := clears
  counts := false
  posts := true
  delivers := true

namespace Connection

/-! ### Registers by their names -/

/-- A register that was put in is found under its name. -/
@[simp] theorem register_setRegister (connection : Connection) (name : RegisterName) (register : Register) :
    (connection.setRegister name register).register name = register := by
  -- Each of the three registers has a field of its own.
  cases name <;> rfl

/-- Putting a register in leaves the others alone. -/
theorem register_setRegister_of_ne {name other : RegisterName} (apart : other ≠ name)
    (connection : Connection) (register : Register) :
    (connection.setRegister name register).register other = connection.register other := by
  -- Each of the three registers has a field of its own, so two names lead to two fields.
  cases name <;> cases other <;> first | rfl | exact absurd rfl apart

/-- What holds of every register still holds once one of them was replaced by one of its kind. -/
theorem forall_setRegister {connection : Connection} {name : RegisterName} {register : Register}
    {P : RegisterName → Register → Prop} (holds : ∀ other, P other (connection.register other))
    (replaced : P name register) (other : RegisterName) :
    P other ((connection.setRegister name register).register other) := by
  -- The register that was put in is the replacement; every other one is as it was.
  by_cases same : other = name
  · subst same
    simpa using replaced
  · rw [register_setRegister_of_ne same]
    exact holds other

/-- Putting a register in wakes nobody. -/
@[simp] theorem setRegister_woken (connection : Connection) (name : RegisterName) (register : Register) :
    (connection.setRegister name register).woken = connection.woken := by
  -- Those who are to be woken stand in a field beside the registers.
  cases name <;> rfl

/-- Putting a register in counts nothing. -/
@[simp] theorem setRegister_telemetry (connection : Connection) (name : RegisterName)
    (register : Register) : (connection.setRegister name register).telemetry = connection.telemetry := by
  -- The journal and the counters stand beside the registers, too.
  cases name <;> rfl

/-- Writing a log entry is no matter of the registers. -/
@[simp] theorem register_log (connection : Connection) (level : Level) (message : String) (fields : Fields)
    (name : RegisterName) : (connection.log level message fields).register name = connection.register name := by
  -- An entry goes to the journal, which is no register.
  cases name <;> rfl

/-- Counting is no matter of the registers. -/
@[simp] theorem register_count (connection : Connection) (event : Metrics.Count) (name : RegisterName) :
    (connection.count event).register name = connection.register name := by
  -- So it is with what is counted.
  cases name <;> rfl

/-- Waking tasks is no matter of the registers. -/
@[simp] theorem register_wake (connection : Connection) (tasks : List TaskId) (name : RegisterName) :
    (connection.wake tasks).register name = connection.register name := by
  -- Whoever is to be woken is listed beside the registers.
  cases name <;> rfl

/-- Raising bits raises those of one register. -/
@[simp] theorem register_post (connection : Connection) (name : RegisterName) (mask : UInt32) :
    (connection.post name mask).register name = ((connection.register name).post mask).1 := by
  -- The entry in the journal and the tasks to wake are no matter of the register.
  simp [post]

/-- Raising bits of a register leaves the others alone. -/
theorem register_post_of_ne {name other : RegisterName} (apart : other ≠ name) (connection : Connection)
    (mask : UInt32) : (connection.post name mask).register other = connection.register other := by
  -- Only the register of this name is put in again.
  simp [post, register_setRegister_of_ne apart]

/-- Raising bits adds those whom it satisfies to those to be woken. -/
@[simp] theorem post_woken (connection : Connection) (name : RegisterName) (mask : UInt32) :
    (connection.post name mask).woken = connection.woken ++ ((connection.register name).post mask).2 := by
  -- The tasks come from the register, and are added behind those that are listed already.
  simp [post, log, wake]

/-- Clearing clears one register. -/
@[simp] theorem register_clear (connection : Connection) (name : RegisterName) :
    (connection.clear name).register name = (connection.register name).reset := by
  -- The entry in the journal is no matter of the register.
  simp [clear]

/-- Clearing a register leaves the others alone. -/
theorem register_clear_of_ne {name other : RegisterName} (apart : other ≠ name) (connection : Connection) :
    (connection.clear name).register other = connection.register other := by
  -- Only the register of this name is put in again.
  simp [clear, register_setRegister_of_ne apart]

/-! ### Changes -/

/-- Two connections differ in nothing that anybody waits for. -/
structure Alike (liberty : Liberty) (before after : Connection) : Prop where
  network : after.network = before.network
  cloud : after.cloud = before.cloud
  dateTime : after.dateTime = before.dateTime
  woken : after.woken = before.woken
  metrics : liberty.counts = false → after.telemetry.metrics.cycle = before.telemetry.metrics.cycle
  mail : liberty.delivers = false → after.queue = before.queue ∧
    after.telemetry.metrics.postage = before.telemetry.metrics.postage

/-- Connections that are alike have the same registers. -/
theorem Alike.registers {liberty : Liberty} {before after : Connection}
    (alike : Alike liberty before after) (name : RegisterName) : after.register name = before.register name := by
  -- One case for each register, as the notion of being alike has one field for each.
  cases name with
  | network => exact alike.network
  | cloud => exact alike.cloud
  | dateTime => exact alike.dateTime

/-- A part of a session may look after a wait that it held before, or that has parked since. -/
def Owns (before : Connection) (held : RegisterName → Ticket → Prop) (name : RegisterName)
    (wait : Wait) : Prop :=
  ∀ ticket, wait.Has ticket → held name ticket ∨ (before.register name).nextTicket ≤ ticket

/-- What holds of the registers still does after each single change by one who holds these waits. -/
structure Lasts (liberty : Liberty) (held : RegisterName → Ticket → Prop) (before : Connection)
    (P : RegisterName → Register → Prop) : Prop where
  post : ∀ (name : RegisterName) (register : Register) (mask : UInt32), liberty.posts = true →
    P name register → P name (register.post mask).1
  clear : ∀ (name : RegisterName) (register : Register), (name = .cloud → liberty.clears = true) →
    P name register → P name register.reset
  await : ∀ (name : RegisterName) (register : Register) (agenda : Agenda) (task : TaskId)
    (condition : Condition) (timeout : Timeout),
    P name register → P name (register.wait agenda task condition timeout).2
  poll : ∀ (name : RegisterName) (register : Register) (agenda : Agenda) (wait : Wait),
    before.Owns held name wait → P name register → P name (register.poll agenda wait).2
  abandon : ∀ (name : RegisterName) (register : Register) (wait : Wait),
    before.Owns held name wait → P name register → P name (register.abandon wait)

/-- Changes that a part of a session can make if it holds these waits, one after the other. -/
inductive Touches (liberty : Liberty) (held : RegisterName → Ticket → Prop) (before : Connection) :
    Connection → Prop where
  | refl : Touches liberty held before before
  | alike {after next : Connection} (touches : Touches liberty held before after)
      (alike : Alike liberty after next) : Touches liberty held before next
  | wake {after : Connection} (touches : Touches liberty held before after) (tasks : List TaskId) :
      Touches liberty held before (after.wake tasks)
  | post {after : Connection} (touches : Touches liberty held before after) (name : RegisterName)
      (mask : UInt32) (allowed : liberty.posts = true) : Touches liberty held before (after.post name mask)
  | clear {after : Connection} (touches : Touches liberty held before after) (name : RegisterName)
      (allowed : name = .cloud → liberty.clears = true) : Touches liberty held before (after.clear name)
  | await {after : Connection} (touches : Touches liberty held before after) (agenda : Agenda)
      (task : TaskId) (name : RegisterName) (condition : Condition) (timeout : Timeout) :
      Touches liberty held before (after.await agenda task name condition timeout).2
  | poll {after : Connection} (touches : Touches liberty held before after) (agenda : Agenda)
      {name : RegisterName} {wait : Wait} (own : before.Owns held name wait) :
      Touches liberty held before (after.poll agenda name wait).2
  | abandon {after : Connection} (touches : Touches liberty held before after) {name : RegisterName}
      {wait : Wait} (own : before.Owns held name wait) :
      Touches liberty held before (after.abandon name wait)

/-- The tickets that a part of a session may hold after its changes: old ones and newly issued ones. -/
def Obtains (before : Connection) (held : RegisterName → Ticket → Prop) (after : Connection)
    (name : RegisterName) (ticket : Ticket) : Prop :=
  held name ticket ∨
    ((before.register name).nextTicket ≤ ticket ∧ ticket < (after.register name).nextTicket)

end Connection

namespace Flags.Register

/-- Beginning a wait leaves the order as it is. -/
theorem Orderly.wait {register : Register} (orderly : register.Orderly) (agenda : Agenda)
    (owner : TaskId) (condition : Condition) (timeout : Timeout) :
    (register.wait agenda owner condition timeout).2.Orderly := by
  -- Only a wait that parks changes the register: one whose condition is met, or that may not wait,
  -- is answered at once.
  cases met : condition.matched register.bits with
  | some bits => simpa [Register.wait, met] using orderly
  | none =>
    cases timeout with
    | noWait => simpa [Register.wait, met] using orderly
    | forever => simpa [Register.wait, met] using orderly.park met owner none
    | after span => simpa [Register.wait, met] using orderly.park met owner (agenda.deadline span)

/-- Beginning a wait takes no ticket back, and a wait that parks has a new one. -/
theorem wait_issues (register : Register) (agenda : Agenda) (owner : TaskId) (condition : Condition)
    (timeout : Timeout) :
    register.nextTicket ≤ (register.wait agenda owner condition timeout).2.nextTicket ∧
      ∀ ticket, (register.wait agenda owner condition timeout).1.Has ticket →
        register.nextTicket ≤ ticket ∧
          ticket < (register.wait agenda owner condition timeout).2.nextTicket := by
  -- A wait that parks takes the next ticket, and the counter moves past it.
  unfold Register.wait
  split
  · simp [Wait.Has]
  · split <;> simp [park, Wait.Has]

/-- Giving a wait up takes no ticket back. -/
@[simp] theorem abandon_nextTicket (register : Register) (wait : Wait) :
    (register.abandon wait).nextTicket = register.nextTicket := by
  -- A wait that was answered is not in the register; one that has parked is only marked.
  cases wait <;> rfl

/-- Looking after a wait takes no ticket back. -/
@[simp] theorem poll_nextTicket (register : Register) (agenda : Agenda) (wait : Wait) :
    (register.poll agenda wait).2.nextTicket = register.nextTicket := by
  -- A wait that is looked after is answered, given up or left parked: none of these issues a
  -- ticket.
  cases wait with
  | answered bits => rfl
  | parked ticket deadline =>
    unfold poll
    simp only
    split
    · rfl
    · split
      · exact register.abandon_nextTicket _
      · rfl

variable {register : Register} {ticket : Ticket} {task : TaskId} {condition : Condition} {bits : UInt32}
  {own : Wait}

/-- Another wait that begins takes nobody's place in the list. -/
theorem Lists.wait (lists : register.Lists ticket task condition) (agenda : Agenda) (owner : TaskId)
    (other : Condition) (timeout : Timeout) :
    (register.wait agenda owner other timeout).2.Lists ticket task condition := by
  -- A wait that parks is put in front of the list, and whatever else begins changes nothing.
  unfold Register.wait
  split
  · exact lists
  · split
    · exact lists
    · exact lists.park owner other none
    · exact lists.park owner other _

/-- Another wait that begins takes nothing back that was handed over. -/
theorem Hands.wait (hands : register.Hands ticket bits) (agenda : Agenda) (owner : TaskId)
    (other : Condition) (timeout : Timeout) :
    (register.wait agenda owner other timeout).2.Hands ticket bits := by
  -- A wait that begins answers itself or parks, and leaves the grants alone in both cases.
  unfold Register.wait
  split
  · exact hands
  · split <;> exact hands

/-- Giving another wait up takes nobody's place in the list. -/
theorem Lists.abandon_of_ne (lists : register.Lists ticket task condition) (apart : ¬own.Has ticket) :
    (register.abandon own).Lists ticket task condition := by
  -- A wait that was answered has no ticket, and a parked one has another.
  cases own with
  | answered bits => exact lists
  | parked owned deadline => exact lists.abandon (fun same => apart same.symm) deadline

/-- Giving another wait up takes nothing back that was handed over. -/
theorem Hands.abandon_of_ne (hands : register.Hands ticket bits) (apart : ¬own.Has ticket) :
    (register.abandon own).Hands ticket bits := by
  -- The same two cases, for what was handed over instead of the list.
  cases own with
  | answered bits => exact hands
  | parked owned deadline => exact hands.abandon (fun same => apart same.symm) deadline

/-- Looking after another wait takes nobody's place in the list. -/
theorem Lists.poll_of_ne (lists : register.Lists ticket task condition) (apart : ¬own.Has ticket)
    (agenda : Agenda) : (register.poll agenda own).2.Lists ticket task condition := by
  -- A look at a wait that was answered leaves the register alone; a look at another ticket leaves this one
  -- alone.
  cases own with
  | answered bits => exact lists
  | parked owned deadline => exact lists.poll (fun same => apart same.symm) agenda deadline

/-- Looking after another wait takes nothing back that was handed over. -/
theorem Hands.poll_of_ne (hands : register.Hands ticket bits) (apart : ¬own.Has ticket) (agenda : Agenda) :
    (register.poll agenda own).2.Hands ticket bits := by
  -- The same two cases, for what was handed over instead of the list.
  cases own with
  | answered bits => exact hands
  | parked owned deadline => exact hands.poll (fun same => apart same.symm) agenda deadline

end Flags.Register

namespace Connection

/-- Whoever holds other waits, or waits that have parked since, does not hold this one. -/
theorem Owns.strange {before : Connection} {held : RegisterName → Ticket → Prop} {name : RegisterName}
    {ticket : Ticket} {wait : Wait} (own : before.Owns held name wait) (apart : ¬held name ticket)
    (issued : ticket < (before.register name).nextTicket) : ¬wait.Has ticket := by
  -- The ticket was issued before, so it is not one of those that are new.
  intro has
  rcases own ticket has with mine | fresh
  · exact apart mine
  · exact absurd issued (Nat.not_lt_of_le fresh)

end Connection

namespace Connection.Touches

variable {liberty : Liberty} {held : RegisterName → Ticket → Prop} {before after middle : Connection}

/-! ### What outlasts every change -/

/-- What lasts through each change of a register lasts through all changes of the connection. -/
theorem lasts {P : RegisterName → Register → Prop} (touches : before.Touches liberty held after)
    (lasting : before.Lasts liberty held P) (holds : ∀ name, P name (before.register name))
    (name : RegisterName) : P name (after.register name) := by
  -- Induction on the changes; what is carried along speaks of all registers at once, since each
  -- change replaces one of them.
  have all : ∀ other, P other (after.register other) := by
    induction touches with
    | refl => exact holds
    | alike _ alike ih =>
      intro other
      rw [alike.registers other]
      exact ih other
    | wake _ tasks ih => exact ih
    | post _ changed mask allowed ih =>
      exact forall_setRegister ih (lasting.post changed _ mask allowed (ih changed))
    | clear _ changed allowed ih =>
      exact forall_setRegister ih (lasting.clear changed _ allowed (ih changed))
    | await _ agenda task changed condition timeout ih =>
      exact forall_setRegister ih (lasting.await changed _ agenda task condition timeout (ih changed))
    | poll _ agenda own ih => exact forall_setRegister ih (lasting.poll _ _ agenda _ own (ih _))
    | abandon _ own ih => exact forall_setRegister ih (lasting.abandon _ _ _ own (ih _))
  exact all name

/-- No ticket is ever taken back. -/
theorem issued (touches : before.Touches liberty held after) (name : RegisterName) :
    (before.register name).nextTicket ≤ (after.register name).nextTicket := by
  -- Only a wait that begins moves the counter of tickets, and it moves it on.
  let grows (other : RegisterName) (register : Register) : Prop :=
    (before.register other).nextTicket ≤ register.nextTicket
  have lasting : before.Lasts liberty held grows := {
    post := fun _ _ _ _ grown => grown
    clear := fun _ _ _ grown => grown
    await := fun _ register agenda task condition timeout grown =>
      Nat.le_trans grown (register.wait_issues agenda task condition timeout).1
    poll := fun _ register agenda wait _ grown =>
      Nat.le_trans grown (Nat.le_of_eq (register.poll_nextTicket agenda wait).symm)
    abandon := fun _ register wait _ grown =>
      Nat.le_trans grown (Nat.le_of_eq (register.abandon_nextTicket wait).symm) }
  exact touches.lasts lasting (fun _ => Nat.le_refl _) name

/-- Every register stays in order. -/
theorem orderly (touches : before.Touches liberty held after)
    (ordered : ∀ name, (before.register name).Orderly) (name : RegisterName) :
    (after.register name).Orderly := by
  -- Order is kept by each of the operations that a register has.
  have lasting : before.Lasts liberty held fun _ register => register.Orderly := {
    post := fun _ _ mask _ orderly => orderly.post mask
    clear := fun _ _ _ orderly => orderly.reset
    await := fun _ _ agenda task condition timeout orderly => orderly.wait agenda task condition timeout
    poll := fun _ _ agenda wait _ orderly => orderly.poll agenda wait
    abandon := fun _ _ wait _ orderly => orderly.abandon wait }
  exact touches.lasts lasting ordered name

/-- Whoever is to be woken stays so. -/
theorem woken (touches : before.Touches liberty held after) {task : TaskId}
    (waits : task ∈ before.woken) : task ∈ after.woken := by
  -- No change takes a task off the list of those to be woken.
  induction touches with
  | refl => exact waits
  | alike _ alike ih => exact alike.woken ▸ ih
  | wake _ tasks ih => exact List.mem_append_left _ ih
  | post _ changed mask _ ih =>
    refine List.mem_append_left _ ?_
    simpa using ih
  | clear _ changed _ ih => simpa [Connection.clear, log] using ih
  | await _ agenda task changed condition timeout ih => simpa [Connection.await] using ih
  | poll _ agenda own ih => simpa [Connection.poll] using ih
  | abandon _ own ih => simpa [Connection.abandon] using ih

/-- Others count nothing of the connection cycle. -/
theorem cycle (touches : before.Touches liberty held after) (others : liberty.counts = false) :
    after.telemetry.metrics.cycle = before.telemetry.metrics.cycle := by
  -- Changes of registers count nothing, and what others count themselves is left out of the cycle.
  induction touches with
  | refl => rfl
  | alike _ alike ih => exact (alike.metrics others).trans ih
  | wake _ tasks ih => exact ih
  | post _ changed mask _ ih =>
    simpa [Connection.post, log, Connection.wake, Telemetry.log] using ih
  | clear _ changed _ ih => simpa [Connection.clear, log, Telemetry.log] using ih
  | await _ agenda task changed condition timeout ih => simpa [Connection.await] using ih
  | poll _ agenda own ih => simpa [Connection.poll] using ih
  | abandon _ own ih => simpa [Connection.abandon] using ih

/-- Those who deliver nothing leave the queue and the counters of what was sent alone. -/
theorem mail (touches : before.Touches liberty held after) (others : liberty.delivers = false) :
    after.queue = before.queue ∧
      after.telemetry.metrics.postage = before.telemetry.metrics.postage := by
  -- Changes of registers neither queue nor send anything.
  have register : ∀ (connection : Connection) (name : RegisterName) (register : Register),
      (connection.setRegister name register).queue = connection.queue := by
    intro connection name register
    cases name <;> rfl
  induction touches with
  | refl => exact ⟨rfl, rfl⟩
  | alike _ alike ih => exact ⟨(alike.mail others).1.trans ih.1, (alike.mail others).2.trans ih.2⟩
  | wake _ tasks ih => exact ih
  | post _ changed mask _ ih =>
    simpa [Connection.post, log, Connection.wake, Telemetry.log, register] using ih
  | clear _ changed _ ih => simpa [Connection.clear, log, Telemetry.log, register] using ih
  | await _ agenda task changed condition timeout ih => simpa [Connection.await, register] using ih
  | poll _ agenda own ih => simpa [Connection.poll, register] using ih
  | abandon _ own ih => simpa [Connection.abandon, register] using ih

/-- Changes by one who holds what the first has obtained follow on the changes of the first. -/
theorem trans {later : RegisterName → Ticket → Prop} (first : before.Touches liberty held middle)
    (second : middle.Touches liberty later after)
    (obtained : ∀ name ticket, later name ticket → before.Obtains held middle name ticket) :
    before.Touches liberty held after := by
  -- A wait that has parked since the middle has parked since the beginning.
  have owned : ∀ name wait, middle.Owns later name wait → before.Owns held name wait := by
    intro name wait own ticket has
    rcases own ticket has with old | fresh
    · exact (obtained name ticket old).imp_right (·.1)
    · exact .inr (Nat.le_trans (first.issued name) fresh)
  induction second with
  | refl => exact first
  | alike _ alike ih => exact ih.alike alike
  | wake _ tasks ih => exact ih.wake tasks
  | post _ name mask allowed ih => exact ih.post name mask allowed
  | clear _ name allowed ih => exact ih.clear name allowed
  | await _ agenda task name condition timeout ih => exact ih.await agenda task name condition timeout
  | poll _ agenda own ih => exact ih.poll agenda (owned _ _ own)
  | abandon _ own ih => exact ih.abandon (owned _ _ own)

/-! ### Who changes what -/

/-- Looking after a wait that a part holds is a change that it can make. -/
theorem of_look {agenda : Agenda} {name : RegisterName} {wait : Wait} {answer : Option UInt32}
    (looked : before.poll agenda name wait = (answer, after))
    (holds : ∀ ticket, wait.Has ticket → held name ticket) : before.Touches liberty held after := by
  -- What the look gives is the connection afterwards.
  have touched : before.Touches liberty held (before.poll agenda name wait).2 :=
    .poll .refl agenda fun ticket has => .inl (holds ticket has)
  rwa [looked] at touched

/-- Writing a log entry is a change that nobody waits for. -/
theorem log (touches : before.Touches liberty held after) (level : Level) (message : String)
    (fields : Fields) : before.Touches liberty held (after.log level message fields) :=
  touches.alike ⟨rfl, rfl, rfl, rfl, fun _ => rfl, fun _ => ⟨rfl, rfl⟩⟩

/-- Counting is a change that nobody waits for; most parts may only count what is theirs. -/
theorem count (touches : before.Touches liberty held after) (event : Metrics.Count)
    (theirs : liberty.counts = false → ∀ metrics : Metrics, (metrics.count event).cycle = metrics.cycle)
    (unsent : liberty.delivers = false →
      ∀ metrics : Metrics, (metrics.count event).postage = metrics.postage) :
    before.Touches liberty held (after.count event) :=
  touches.alike ⟨rfl, rfl, rfl, rfl, fun others => theirs others after.telemetry.metrics,
    fun others => ⟨rfl, unsent others after.telemetry.metrics⟩⟩

/-- What the queue holds is no matter of the registers. -/
theorem queue (touches : before.Touches liberty held after) (allowed : liberty.delivers = true)
    (queue : Queue.Outgoing) : before.Touches liberty held { after with queue } :=
  touches.alike ⟨rfl, rfl, rfl, rfl, fun _ => rfl, fun others => absurd allowed (by simp [others])⟩

/-- A disconnect is asked for by raising a bit. -/
theorem requestDisconnect (touches : before.Touches liberty held after) (allowed : liberty.posts = true) :
    before.Touches liberty held after.requestDisconnect :=
  touches.post .cloud Cloud.disconnected allowed

/-- An event of the cloud raises bits at most. -/
theorem onCloudEvent (touches : before.Touches liberty held after) (event : CloudEvent)
    (allowed : liberty.posts = true) :
    before.Touches liberty held (after.onCloudEvent event) := by
  -- Every event is noted in the log first; the cases differ in what follows the note.
  have noted := touches.log .debug "Cloud transport event" [("event", .text event.name)]
  cases event with
  | connected => exact noted.post .cloud Cloud.connected allowed
  | ready => exact noted.post .cloud Cloud.ready allowed
  | disconnected => exact noted.requestDisconnect allowed
  | error status => exact (noted.log _ _ _).requestDisconnect allowed
  | userAssociationRequest => exact (noted.log _ _ _).post .cloud Cloud.associationRequest allowed
  -- Only an association that was asked for does more than the note.
  | userAssociated =>
    simp only [Connection.onCloudEvent, onAssociated]
    split
    · exact ((noted.log _ _ _).count .forcedDisconnect (fun _ _ => rfl) fun _ _ => rfl).requestDisconnect allowed
    · exact noted
  -- With a handler the handler is called, and otherwise something is logged.
  | rxDataGeneral payload =>
    have counted := (noted.log .debug "Device message received from cloud"
      [("bytes", .int payload.size)]).count .inboundMessage (fun _ _ => rfl) fun _ _ => rfl
    simp only [Connection.onCloudEvent, onInbound]
    split
    · exact counted.alike ⟨rfl, rfl, rfl, rfl, fun _ => rfl, fun _ => ⟨rfl, rfl⟩⟩
    · exact counted.log _ _ _
    · exact counted.log _ _ _
  | fotaDone kind =>
    have complete := noted.log .debug "Firmware update download complete"
      [("fota_type", .text (FirmwareKind.labelOf kind))]
    simp only [Connection.onCloudEvent, onFirmware]
    split
    · exact complete.alike ⟨rfl, rfl, rfl, rfl, fun _ => rfl, fun _ => ⟨rfl, rfl⟩⟩
    · exact complete.log _ _ _
  | connectError status => exact noted.log _ _ _
  | rxDataShadow payload => exact noted.log _ _ _
  | fotaError => exact noted.log _ _ _
  | connecting | sensorDataAck | fotaStart => exact noted

/-- Events of the cloud that come together raise bits one after the other. -/
theorem onCloudEvents (touches : before.Touches liberty held after) (events : List CloudEvent)
    (allowed : liberty.posts = true) :
    before.Touches liberty held (events.foldl Connection.onCloudEvent after) := by
  -- Induction on the events, with the connection as the earlier ones have left it.
  induction events generalizing after with
  | nil => exact touches
  | cons event later ih => exact ih (touches.onCloudEvent event allowed)

/-- The modem's standing with the network sets or clears the network register, and may raise a bit
of the cloud register. -/
theorem onRegistration (touches : before.Touches liberty held after) (status : Registration)
    (allowed : liberty.posts = true) :
    before.Touches liberty held (after.onRegistration status) := by
  -- A modem that is registered posts its bit; in every other standing the register is cleared.
  have noted := touches.log .debug "Network registration status" [("status", .text status.label)]
  unfold Connection.onRegistration
  split
  · exact noted.post .network Network.connected allowed
  · have cleared := noted.clear .network fun cloud => by cases cloud
    simp only
    split
    · exact (((cleared.log _ _ _).count .linkLost (fun _ _ => rfl) fun _ _ => rfl).count .forcedDisconnect
        (fun _ _ => rfl) fun _ _ => rfl).requestDisconnect allowed
    · exact cleared

/-- An event of the radio link does no more than a change of the modem's standing. -/
theorem onLinkEvent (touches : before.Touches liberty held after) (event : LinkEvent)
    (allowed : liberty.posts = true) :
    before.Touches liberty held (after.onLinkEvent event) := by
  -- Other events of the link are logged, and nothing more.
  cases event with
  | registration status => exact touches.onRegistration status allowed
  | _ => exact touches.log _ _ _

/-- A report of the clock raises a bit at most. -/
theorem onDateTime (touches : before.Touches liberty held after) (isValid : Bool)
    (allowed : liberty.posts = true) :
    before.Touches liberty held (after.onDateTime isValid) := by
  -- A report of a time that is not valid is passed over.
  unfold Connection.onDateTime
  split
  · exact (touches.log _ _ _).post .dateTime DateTime.known allowed
  · exact touches

/-- Queueing a message wakes the receiver at most. -/
theorem enqueue (touches : before.Touches liberty held after) (message : Message) (handle : Handle)
    (mode : HoldMode) (allowed : liberty.delivers = true) :
    before.Touches liberty held (after.enqueue message handle mode).2 := by
  -- Queued and rejected messages are counted, which the cycle leaves out.
  have counted (result : Except QueueError Unit) :
      (after.telemetry.noteEnqueue after.queue message mode result).metrics.cycle =
        after.telemetry.metrics.cycle := by
    unfold Telemetry.noteEnqueue
    simp only
    split <;> split <;> rfl
  have queued : before.Touches liberty held
      { after with
        queue := (after.queue.enqueue message handle mode).2.1
        telemetry := after.telemetry.noteEnqueue after.queue message mode
          (after.queue.enqueue message handle mode).1 } :=
    touches.alike ⟨rfl, rfl, rfl, rfl, fun _ => counted _, fun others => absurd allowed (by simp [others])⟩
  exact queued.wake _

/-- Closing the queue wakes the receiver at most. -/
theorem closeQueue (touches : before.Touches liberty held after) (allowed : liberty.delivers = true) :
    before.Touches liberty held after.closeQueue :=
  (touches.queue allowed _).wake _

/-- Dropping an envelope is a matter of the queue. -/
theorem release (touches : before.Touches liberty held after) (allowed : liberty.delivers = true)
    (envelope : Envelope) : before.Touches liberty held (after.release envelope) :=
  touches.queue allowed _

end Connection.Touches

end Uplink
