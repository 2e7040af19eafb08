import Mathlib.Logic.Relation
import Uplink.Proofs.Dispatcher
import Uplink.Proofs.Heed
import Uplink.Proofs.Queue.Traffic

/-!
The dispatcher in the middle of everything else: however its steps interleave with what happens around it, it
sleeps only over an empty queue, or with a message over a bit that is not set.
-/

namespace Uplink

open Flags (Condition Register Ticket Timeout Wait)
open Queue (Outgoing Recipient)

/-- The dispatcher, the connection that it shares with everybody else, and where it is in its turn. -/
structure Dispatching where
  connection : Connection
  task : TaskId
  /-- The dispatcher, until it has returned. -/
  dispatcher : Option Dispatcher := some .starting
  /-- It is in the middle of its turn; otherwise it sleeps until it is among those to be woken. -/
  running : Bool := false

namespace Dispatching

/-- The dispatcher begins its turn, which it was woken for. -/
def rouse (state : Dispatching) : Dispatching :=
  { state with
    connection := { state.connection with woken := state.connection.woken.filter (· ≠ state.task) }
    running := true }

/-- The dispatcher takes a step of its turn, which ends where it parks or returns. -/
def step (state : Dispatching) (agenda : Agenda) (dispatcher : Dispatcher) : Dispatching :=
  match dispatcher.step state.connection agenda state.task with
  | (.next onward, connection) => { state with connection, dispatcher := some onward }
  | (.parked onward, connection) => { state with connection, dispatcher := some onward, running := false }
  | (.done (), connection) => { state with connection, dispatcher := none, running := false }

/-- The transport answers within the turn in which it got the message. -/
def answer (state : Dispatching) (envelope : Envelope) (result : Except TransportError Unit) : Dispatching :=
  { state with
    connection := (Delivery.resume state.connection envelope result).2
    dispatcher := some .idle }

/-- A message that the queue has not refused is offered to its channel. -/
def offer (state : Dispatching) (message : Message) (handle : Handle) (mode : HoldMode) : Dispatching :=
  let (_, queue, woken) := state.connection.queue.offer message handle mode
  { state with connection := { state.connection with queue }.wake woken }

/-- A wait that the dispatcher does not hold. -/
def Strange (state : Dispatching) (name : RegisterName) (ticket : Ticket) : Prop :=
  ∀ dispatcher, state.dispatcher = some dispatcher → ¬dispatcher.Holds name ticket

/-- Everything that can happen next. -/
inductive Step (state : Dispatching) : Dispatching → Prop where
  /-- A turn begins; it may do so without anybody having called for it. -/
  | rouse (there : state.dispatcher.isSome = true) (asleep : state.running = false) : Step state state.rouse
  | step {dispatcher : Dispatcher} (there : state.dispatcher = some dispatcher) (running : state.running = true)
      (untaken : dispatcher.inTransit = []) (agenda : Agenda) :
      Step state (state.step agenda dispatcher)
  | answer {envelope : Envelope} (there : state.dispatcher = some (.delivering envelope .sending))
      (running : state.running = true) (result : Except TransportError Unit) :
      Step state (state.answer envelope result)
  | enqueue (message : Message) (handle : Handle) (mode : HoldMode) :
      Step state { state with connection := (state.connection.enqueue message handle mode).2 }
  /-- A sender that has looked at the queue may come to its channel only after others have taken steps. -/
  | offer (message : Message) (handle : Handle) (mode : HoldMode) : Step state (state.offer message handle mode)
  | close : Step state { state with connection := state.connection.closeQueue }
  | link (event : LinkEvent) : Step state { state with connection := state.connection.onLinkEvent event }
  | cloud (event : CloudEvent) : Step state { state with connection := state.connection.onCloudEvent event }
  | reset : Step state { state with connection := state.connection.clearCloud }
  /-- Others do what they like with the registers, but for the dispatcher's own wait. -/
  | beside {after : Connection} (touches : state.connection.Touches .supervisor state.Strange after) :
      Step state { state with connection := after }

/-- What can come about once the dispatcher of a new connection has been started. -/
def Arises (state : Dispatching) : Prop :=
  ∃ capacity messages task, Relation.ReflTransGen Step
    { connection := { queue := .ofCapacity capacity messages, woken := [task] }, task } state

/-- What comes next can come about. -/
theorem Arises.next {state later : Dispatching} (arises : state.Arises) (step : Step state later) : later.Arises := by
  -- The path goes on by the step.
  obtain ⟨capacity, messages, task, path⟩ := arises
  exact ⟨capacity, messages, task, path.tail step⟩

/-- The dispatcher neither is in the middle of a turn nor is to begin one. -/
def Quiet (state : Dispatching) : Prop :=
  state.running = false ∧ state.task ∉ state.connection.woken

/-- The messages that the dispatcher holds. -/
def held (state : Dispatching) : List Envelope :=
  state.dispatcher.elim [] fun dispatcher => dispatcher.inHand ++ dispatcher.inTransit

end Dispatching

/-! ### The only receiver -/

namespace Queue.Outgoing

/-- Nobody else receives, and the channel is not closed before the queue is. -/
structure Alone (queue : Outgoing) (task : TaskId) : Prop where
  line : queue.line = []
  holder : queue.holder = none ∨ queue.holder = some task
  closing : queue.channel.closed = true → queue.closed = true

variable {queue after : Outgoing} {task : TaskId} {receiver : Recipient}

/-- A new queue has no receiver. -/
theorem alone_ofCapacity (capacity messages : Nat) (task : TaskId) : (ofCapacity capacity messages).Alone task where
  line := rfl
  holder := .inl rfl
  closing := nofun

/-- A single receiver is in order. -/
theorem Alone.inOrder (alone : queue.Alone task) : queue.InOrder where
  line := alone.line ▸ List.nodup_nil
  -- With an empty line nobody stands in it twice, and nobody who holds the right waits for it.
  held _ := alone.line
  apart other _ := by simp [alone.line]
  closing := alone.closing

/-- Who receives does not depend on the messages in the channel or on who holds one. -/
theorem Alone.congr (alone : queue.Alone task) (line : after.line = queue.line)
    (holder : after.holder = queue.holder)
    (closing : after.channel.closed = true → after.closed = true) : after.Alone task :=
  ⟨line.trans alone.line, by rw [holder]; exact alone.holder, closing⟩

/-- A step of the single receiver leaves it the single one. -/
theorem Alone.step (alone : queue.Alone task) (stands : Recipient.Stands queue task (some receiver)) :
    (queue.step task receiver.stage).2.1.Alone task := by
  have closing := (alone.inOrder.step stands).closing
  -- Nobody is in line to whom the right to receive could go.
  have passed (channel : Channel Envelope) : ({ queue with channel : Outgoing }.passOn).1.line = [] ∧
      ({ queue with channel : Outgoing }.passOn).1.holder = none := by simp [passOn_eq, alone.line]
  -- The order in which a channel and a queue close is a matter of any receiver.
  suffices still : (queue.step task receiver.stage).2.1.line = [] ∧
      ((queue.step task receiver.stage).2.1.holder = none ∨
        (queue.step task receiver.stage).2.1.holder = some task) from ⟨still.1, still.2, closing⟩
  obtain ⟨stage, running, called⟩ := receiver
  cases stage with
  | arriving =>
    have free : queue.holder = none := alone.holder.resolve_right stands.2.1
    simp [Outgoing.step, free, alone.line]
  | inLine | checking =>
    simp only [Outgoing.step]
    split <;> exact ⟨alone.line, alone.holder⟩
  -- A receiver that goes away passes the right on, and one that stays has it.
  | polling =>
    simp only [Outgoing.step, leave]
    split
    · exact ⟨(passed _).1, .inl (passed _).2⟩
    · split
      · exact ⟨(passed _).1, .inl (passed _).2⟩
      · exact ⟨alone.line, alone.holder⟩
  | closing => exact ⟨alone.line, alone.holder⟩
  | draining => exact ⟨(passed _).1, .inl (passed _).2⟩

end Queue.Outgoing

/-! ### Waits for a connection -/

namespace Flags.Register

variable {register : Register} {condition : Condition} {awake wakes : Prop} {task : TaskId} {wait : Wait}

/-- The wait has a ticket of the register, and nothing that it asks for is there without its task being awake. -/
structure Attends (register : Register) (condition : Condition) (awake : Prop) (task : TaskId) (wait : Wait) :
    Prop where
  issued : ∀ ticket, wait.Has ticket → ticket < register.nextTicket
  heeds : register.Heeds False awake task condition wait

/-- A task that is awake for another reason is awake. -/
theorem Attends.mono (attends : register.Attends condition awake task wait) (wake : awake → wakes) :
    register.Attends condition wakes task wait :=
  ⟨attends.issued, attends.heeds.mono wake⟩

/-- A task that has just begun to wait has not gone to sleep yet. -/
theorem attends_wait (register : Register) (agenda : Agenda) (task : TaskId) (condition : Condition)
    {timeout : Timeout} (lasts : timeout ≠ .noWait) :
    (register.wait agenda task condition timeout).2.Attends condition True task
      (register.wait agenda task condition timeout).1 where
  -- The ticket is the latest that was issued, and the task is at its turn.
  issued ticket has := ((register.wait_issues agenda task condition timeout).2 ticket has).2
  heeds := register.heeds_wait agenda task condition lasts

/-- A task whose wait has no answer may sleep. -/
theorem Attends.sleep (attends : register.Attends condition awake task wait) (orderly : register.Orderly)
    {agenda : Agenda} (unanswered : (register.poll agenda wait).1 = none) :
    register.Attends condition False task wait :=
  ⟨attends.issued, attends.heeds.sleep orderly unanswered⟩

end Flags.Register

/-- Others leave a wait as it is that they do not hold. -/
theorem Connection.Touches.attends {liberty : Liberty} {held : RegisterName → Ticket → Prop}
    {before after : Connection} {name : RegisterName} {condition : Condition} {ready : Prop} {task : TaskId}
    {wait : Wait} (touches : before.Touches liberty held after)
    (attends : (before.register name).Attends condition (ready ∨ task ∈ before.woken) task wait)
    (apart : ∀ ticket, wait.Has ticket → ¬held name ticket) :
    (after.register name).Attends condition (ready ∨ task ∈ after.woken) task wait where
  -- Tickets are not taken back, and a wait that others do not hold keeps what it heeds.
  issued ticket has := (attends.issued ticket has).trans_le (touches.issued name)
  heeds := touches.heeds False.elim apart attends.issued attends.heeds

namespace ConnectionWait

variable {connection after : Connection} {awake wakes : Prop} {task : TaskId} {wait : ConnectionWait}

/-- The wait that it has come to lasts, and its task sleeps only as long as nothing answers it. -/
def Attends (connection : Connection) (awake : Prop) (task : TaskId) : ConnectionWait → Prop
  | .network timeout wait =>
    timeout ≠ .noWait ∧ connection.network.Attends (.all Network.connected) awake task wait
  | .session wait => connection.cloud.Attends (.any Cloud.ready) awake task wait

/-- The bit that it waits for is not set. -/
def Unmet (connection : Connection) : ConnectionWait → Prop
  | .network _ _ => connection.network.isSet Network.connected = false
  | .session _ => connection.cloud.isSet Cloud.ready = false

/-- Where a look leads: the task goes on awake, or sleeps where it may. -/
def Alert (connection : Connection) (task : TaskId) : Progress Bool ConnectionWait → Prop
  | .next wait => wait.Attends connection True task
  | .parked wait => wait.Attends connection False task
  | .done _ => True

/-- A task that is awake for another reason is awake. -/
theorem Attends.mono (attends : wait.Attends connection awake task) (wake : awake → wakes) :
    wait.Attends connection wakes task := by
  -- Whichever part the wait has come to, it is awake for one reason more.
  cases wait with
  | network timeout own => exact ⟨attends.1, attends.2.mono wake⟩
  | session own => exact Register.Attends.mono attends wake

/-- Others leave a wait as it is that they do not hold. -/
theorem Attends.touches {liberty : Liberty} {held : RegisterName → Ticket → Prop} {ready : Prop}
    (attends : wait.Attends connection (ready ∨ task ∈ connection.woken) task)
    (touches : connection.Touches liberty held after)
    (apart : ∀ name ticket, wait.Holds name ticket → ¬held name ticket) :
    wait.Attends after (ready ∨ task ∈ after.woken) task := by
  -- Each part stands on one register, and there its ticket is apart from what others hold.
  cases wait with
  | network timeout own =>
    have network : (connection.register .network).Attends (.all Network.connected) _ task own := attends.2
    exact ⟨attends.1, touches.attends network fun ticket has => apart _ _ ⟨rfl, has⟩⟩
  | session own =>
    have session : (connection.register .cloud).Attends (.any Cloud.ready) _ task own := attends
    exact touches.attends session fun ticket has => apart _ _ ⟨rfl, has⟩

/-- A wait for a connection begins awake. -/
theorem attends_start (connection : Connection) (agenda : Agenda) (task : TaskId) {timeout : Timeout}
    (lasts : timeout ≠ .noWait) :
    (start connection agenda task timeout).1.Attends (start connection agenda task timeout).2 True task :=
  ⟨lasts, connection.network.attends_wait agenda task _ lasts⟩

/-- A look at a wait leaves no answer behind over which the task would sleep. -/
theorem Attends.poll (attends : wait.Attends connection awake task)
    (ordered : ∀ name, (connection.register name).Orderly) (agenda : Agenda) :
    Alert (wait.poll connection agenda task).2 task (wait.poll connection agenda task).1 := by
  -- With the network there it begins to wait for the session in the same step, and is awake for that.
  cases wait with
  | network timeout own =>
    obtain ⟨lasts, network⟩ := attends
    simp only [ConnectionWait.poll]
    split
    · rename_i after unanswered
      -- Without an answer the wait is where it was, and the task may sleep.
      have none : (connection.network.poll agenda own).1 = none := congrArg Prod.fst unanswered
      have looked : (connection.network.poll agenda own).2 = after.network :=
        congrArg (·.2.network) unanswered
      rw [Register.poll_unanswered none] at looked
      exact ⟨lasts, looked ▸ network.sleep (ordered .network) none⟩
    · split
      · trivial
      · exact Register.attends_wait _ agenda task _ lasts
  -- The second part is the last one; whatever it answers, nothing is waited for after it.
  | session own =>
    have session : connection.cloud.Attends (.any Cloud.ready) awake task own := attends
    simp only [ConnectionWait.poll]
    split
    · rename_i after unanswered
      have none : (connection.cloud.poll agenda own).1 = none := congrArg Prod.fst unanswered
      have looked : (connection.cloud.poll agenda own).2 = after.cloud := congrArg (·.2.cloud) unanswered
      rw [Register.poll_unanswered none] at looked
      have asleep : after.cloud.Attends (.any Cloud.ready) False task own :=
        looked ▸ session.sleep (ordered .cloud) none
      exact asleep
    · trivial

/-- A task sleeps only over a bit that is not set. -/
theorem Attends.unmet (attends : wait.Attends connection False task)
    (ordered : ∀ name, (connection.register name).Orderly) : wait.Unmet connection := by
  cases wait with
  | network timeout own =>
    -- The mask is a single bit, so it is not there at all.
    have unmet := attends.2.heeds.unmet (ordered .network)
    have missing : connection.network.bits &&& Network.connected ≠ Network.connected := by
      intro whole
      simp [Condition.matched, whole] at unmet
    have single := Flags.single_bit connection.network.bits (by decide : Network.connected.toNat = 2 ^ 1)
    simp [Unmet, Register.isSet, single.resolve_right missing]
  | session own =>
    have unmet := attends.heeds.unmet (ordered .cloud)
    have none : connection.cloud.bits &&& Cloud.ready = 0 := Condition.any_unmet unmet
    simp [Unmet, Register.isSet, none]

end ConnectionWait

/-! ### What every run keeps -/

namespace Dispatcher

variable {connection after : Connection} {running : Bool} {task : TaskId} {dispatcher : Dispatcher}

/-- What the queue sees of a dispatcher: the receiver that it is as long as it receives. -/
def recipient? (running called : Bool) : Dispatcher → Option Recipient
  | .receiving stage => some ⟨stage, running, called⟩
  | _ => none

/-- A call reaches the receiver that the dispatcher is. -/
theorem recipient?_call (standing : Option Dispatcher) (running called : Bool) (task : TaskId) (tasks : List TaskId) :
    ((standing.bind (recipient? running called)).map fun receiver =>
      if task ∈ tasks then { receiver with called := true } else receiver) =
      standing.bind (recipient? running (called || decide (task ∈ tasks))) := by
  -- Only a dispatcher that is receiving can be called in that place.
  match standing with
  | none => rfl
  | some (.receiving stage) => by_cases listed : task ∈ tasks <;> simp [recipient?, listed]
  | some .starting | some (.delivering envelope delivery) => rfl

/-- Away from the queue a dispatcher sleeps only before its first turn, or over a bit that is not set. -/
def Attends (connection : Connection) (running : Bool) (task : TaskId) : Dispatcher → Prop
  | .starting => running = true ∨ task ∈ connection.woken
  | .receiving _ => True
  | .delivering _ (.awaiting wait) => wait.Attends connection (running = true ∨ task ∈ connection.woken) task
  | .delivering _ _ => running = true

/-- The dispatcher is away from the queue, or about to ask for the right to receive. -/
def Away (running : Bool) : Dispatcher → Prop
  | .receiving stage => stage = .arriving ∧ running = true
  | _ => True

/-- Others leave a dispatcher as it is if they do not hold its wait. -/
theorem Attends.touches {liberty : Liberty} {held : RegisterName → Ticket → Prop}
    (attends : dispatcher.Attends connection running task) (touches : connection.Touches liberty held after)
    (apart : ∀ name ticket, dispatcher.Holds name ticket → ¬held name ticket) :
    dispatcher.Attends after running task := by
  -- Only a delivery holds a wait; the start is called by its task, and a receiver is looked at elsewhere.
  match dispatcher with
  | .starting => exact attends.imp_right touches.woken
  | .receiving stage => trivial
  | .delivering envelope (.awaiting wait) => exact ConnectionWait.Attends.touches attends touches apart
  | .delivering envelope .arriving | .delivering envelope .sending => exact attends

end Dispatcher

namespace Dispatching

variable {state later : Dispatching} {after : Connection} {dispatcher onward : Dispatcher} {envelope : Envelope}

/-- The receiver that the dispatcher is as long as it receives. -/
def recipient? (state : Dispatching) : Option Recipient :=
  state.dispatcher.bind
    (Dispatcher.recipient? state.running (decide (state.task ∈ state.connection.woken)))

/-- The dispatcher is the only receiver and stands where the queue knows it, it sleeps only as long as there is
nothing for it to do, and it has returned only from a channel that is closed and empty. -/
structure Sound (state : Dispatching) : Prop where
  ordered : ∀ name, (state.connection.register name).Orderly
  alone : state.connection.queue.Alone state.task
  stands : Recipient.Stands state.connection.queue state.task state.recipient?
  attends : ∀ dispatcher, state.dispatcher = some dispatcher →
    dispatcher.Attends state.connection state.running state.task
  final : state.dispatcher = none →
    state.connection.queue.channel.closed = true ∧ state.connection.queue.channel.items = []

/-- A dispatcher that has just been started has everything before it. -/
theorem sound_new (capacity messages : Nat) (task : TaskId) :
    Sound { connection := { queue := .ofCapacity capacity messages, woken := [task] }, task } where
  ordered name := by cases name <;> exact Flags.Register.orderly_new _
  alone := Outgoing.alone_ofCapacity capacity messages task
  stands := by simp [recipient?, Dispatcher.recipient?, Recipient.Stands, Outgoing.ofCapacity]
  -- There is one dispatcher, and it is on the list of those who are to be woken.
  attends := by
    intro dispatcher there
    obtain rfl := Option.some.inj there
    exact .inr (List.mem_singleton_self task)
  final := nofun

/-! #### What others do -/

/-- Whatever others do, the dispatcher has to be looked at as a receiver only. -/
theorem Sound.touched (sound : state.Sound) {liberty : Liberty}
    (touches : state.connection.Touches liberty state.Strange after) (alone : after.queue.Alone state.task)
    (stands : Recipient.Stands after.queue state.task (recipient? { state with connection := after }))
    (final : state.dispatcher = none → after.queue.channel.closed = true ∧ after.queue.channel.items = []) :
    Sound { state with connection := after } where
  ordered := touches.orderly sound.ordered
  alone := alone
  stands := stands
  -- What a dispatcher holds is no stranger's.
  attends dispatcher there :=
    (sound.attends dispatcher there).touches touches fun _ _ holds strange => strange dispatcher there holds
  final := final

/-- The dispatcher as a receiver after others have woken tasks. -/
theorem recipient?_woken (state : Dispatching) {tasks : List TaskId}
    (woken : after.woken = state.connection.woken ++ tasks) :
    recipient? { state with connection := after } = state.recipient?.map fun receiver =>
      if state.task ∈ tasks then { receiver with called := true } else receiver := by
  -- It is called if it was, or if it is among the tasks.
  simp only [recipient?, Dispatcher.recipient?_call, woken, List.mem_append, Bool.decide_or]

/-- Those who leave the queue alone keep everything in order. -/
theorem Sound.beside (sound : state.Sound) {liberty : Liberty}
    (touches : state.connection.Touches liberty state.Strange after)
    (queue : after.queue = state.connection.queue) : Sound { state with connection := after } := by
  refine sound.touched touches (by rw [queue]; exact sound.alone) ?_ (by rw [queue]; exact sound.final)
  -- Whoever was to be woken before still is.
  have kept : decide (state.task ∈ after.woken) =
      (decide (state.task ∈ state.connection.woken) || decide (state.task ∈ after.woken)) := by
    by_cases before : state.task ∈ state.connection.woken
    · simp [before, touches.woken before]
    · simp [before]
  have called := sound.stands.call after.woken
  rw [recipient?, Dispatcher.recipient?_call, ← kept] at called
  rw [queue]
  exact called

/-- A message that is offered to the channel keeps everything in order. -/
theorem Sound.sent (sound : state.Sound) {liberty : Liberty}
    (touches : state.connection.Touches liberty state.Strange after) {message : Message} {handle : Handle}
    {mode : HoldMode} (queue : after.queue = (state.connection.queue.offer message handle mode).2.1)
    (woken : after.woken = state.connection.woken ++ (state.connection.queue.offer message handle mode).2.2) :
    Sound { state with connection := after } := by
  -- A message that is accepted comes with a call for the receiver, and one that is not changes nothing it looks at.
  cases result : (state.connection.queue.offer message handle mode).1 with
  | ok done =>
    obtain ⟨opened, custody, free, taken⟩ := Outgoing.offer_ok result
    rw [taken] at queue woken
    refine sound.touched touches ?_ ?_ ?_
    · rw [queue]
      exact sound.alone.congr rfl rfl sound.alone.closing
    · rw [queue, recipient?_woken state woken]
      exact sound.stands.heard rfl rfl id id
    · -- A dispatcher that has returned has left a closed channel.
      intro returned
      rw [(sound.final returned).1] at opened
      contradiction
  | error error =>
    obtain ⟨custody, failed⟩ := Outgoing.offer_error result
    rw [failed] at queue woken
    refine sound.touched touches ?_ ?_ (by rw [queue]; exact sound.final)
    · rw [queue]
      exact sound.alone.congr rfl rfl sound.alone.closing
    · rw [queue, recipient?_woken state woken]
      have still : Recipient.Stands { state.connection.queue with custody } state.task state.recipient? :=
        sound.stands.congr rfl Iff.rfl rfl rfl
      exact still.call []

/-- A message that is added to the queue keeps everything in order. -/
theorem Sound.enqueue (sound : state.Sound) (message : Message) (handle : Handle) (mode : HoldMode) :
    Sound { state with connection := (state.connection.enqueue message handle mode).2 } := by
  have touches : state.connection.Touches (.others false) state.Strange
      (state.connection.enqueue message handle mode).2 := Connection.Touches.refl.enqueue message handle mode rfl
  -- The queue refuses it at once, or it is offered to the channel.
  cases refused : state.connection.queue.refusal? message with
  | some error =>
    refine sound.beside touches ?_
    simp [Connection.enqueue, Connection.wake, Outgoing.enqueue, refused]
  | none =>
    have offered : state.connection.queue.enqueue message handle mode =
        state.connection.queue.offer message handle mode := by simp [Outgoing.enqueue, refused]
    exact sound.sent touches (by rw [← offered]; rfl) (by rw [← offered]; rfl)

/-- The closing of the queue keeps everything in order. -/
theorem Sound.close (sound : state.Sound) : Sound { state with connection := state.connection.closeQueue } := by
  -- Closing wakes whoever listens, and that is the receiver, if anybody.
  have touches : state.connection.Touches (.others false) state.Strange state.connection.closeQueue :=
    Connection.Touches.refl.closeQueue rfl
  refine sound.touched touches (sound.alone.congr rfl rfl fun _ => rfl) ?_ sound.final
  have woken : state.connection.closeQueue.woken = state.connection.woken ++ state.connection.queue.listener := rfl
  rw [recipient?_woken state woken]
  exact sound.stands.heard rfl rfl (fun _ => rfl) id

/-! #### What the dispatcher does -/

/-- The dispatcher may be awake at any time, and a call for it may be forgotten once it is; it only must not miss a
message between its look for one and its look whether the queue is closed. -/
theorem Sound.listen {running : Bool} {woken : List TaskId} (sound : state.Sound)
    (kept : state.running = true → running = true)
    (roused : state.task ∈ state.connection.woken → running = true ∨ state.task ∈ woken)
    (calm : state.dispatcher = some (.receiving .checking) → state.task ∈ state.connection.woken →
      state.task ∉ woken → state.connection.queue.channel.items = []) :
    Sound { state with connection := { state.connection with woken }, running } := by
  -- Only who is to be woken is different, which the registers and the queue know nothing of.
  have awake : state.running = true ∨ state.task ∈ state.connection.woken → running = true ∨ state.task ∈ woken :=
    fun either => either.elim (.inl ∘ kept) roused
  refine ⟨fun name => ?_, sound.alone, ?_, fun dispatcher there => ?_, sound.final⟩
  · have ordered := sound.ordered name
    cases name <;> exact ordered
  · -- A receiver may forget that it was called only once it runs.
    have stands := sound.stands
    simp only [recipient?] at stands ⊢
    match there : state.dispatcher with
    | none | some .starting | some (.delivering envelope delivery) =>
      simpa [there, Dispatcher.recipient?] using stands
    | some (.receiving stage) =>
      rw [there] at stands
      refine stands.listen kept (fun called => ?_) fun checking called unheard => ?_
      · exact (roused (by simpa using called)).imp_right (by simp)
      · exact calm (checking ▸ there) (by simpa using called) (by simpa using unheard)
  · -- Of the rest only a delivery that waits has a say in who is awake.
    have attends := sound.attends dispatcher there
    match dispatcher with
    | .starting => exact awake attends
    | .receiving stage => trivial
    | .delivering envelope (.awaiting wait) =>
      have awake := ConnectionWait.Attends.mono attends awake
      cases wait <;> exact awake
    | .delivering envelope .arriving | .delivering envelope .sending => exact kept attends

/-- A dispatcher that has returned is neither asleep nor awake. -/
theorem Sound.of_returned (sound : state.Sound) (gone : state.dispatcher = none) (running : Bool) :
    Sound { state with running } where
  ordered := sound.ordered
  alone := sound.alone
  -- Without a dispatcher there is no receiver.
  stands := by
    have stands := sound.stands
    simp only [recipient?, gone, Option.bind_none] at stands ⊢
    exact stands
  attends dispatcher there := by cases gone.symm.trans there
  final := sound.final

/-- The dispatcher may begin a turn at any time. -/
theorem Sound.rouse (sound : state.Sound) (asleep : state.running = false) : state.rouse.Sound := by
  refine sound.listen (fun _ => rfl) (fun _ => .inl rfl) fun checking _ _ => ?_
  -- It does not fall asleep between the two looks.
  have stands := sound.stands
  simp only [recipient?, checking, asleep, Option.bind_some, Dispatcher.recipient?] at stands
  exact absurd stands.2.1 nofun

/-- A dispatcher that is away from the queue may come to ask for the right to receive, or stay away. -/
theorem Sound.proceed {running : Bool} (sound : state.Sound) (outside : state.recipient? = none)
    (queue : ∃ custody, after.queue = { state.connection.queue with custody })
    (ordered : ∀ name, (after.register name).Orderly) (attends : onward.Attends after running state.task)
    (away : onward.Away running) :
    Sound { state with connection := after, dispatcher := some onward, running } := by
  obtain ⟨custody, queue⟩ := queue
  have free : Recipient.Stands after.queue state.task none := by
    rw [queue]
    exact outside ▸ sound.stands
  refine ⟨ordered, ?_, ?_, ?_, nofun⟩
  · rw [queue]
    exact sound.alone.congr rfl rfl sound.alone.closing
  · -- It stands outside the queue: either it goes on elsewhere, or it is about to ask and holds nothing
    -- yet.
    match onward with
    | .starting | .delivering envelope delivery => exact free
    | .receiving stage =>
      obtain ⟨rfl, rfl⟩ := away
      exact ⟨rfl, free⟩
  · intro dispatcher there
    obtain rfl := Option.some.inj there
    exact attends

/-- A step of the dispatcher as a receiver keeps everything in order. -/
theorem Sound.receive {stage : Queue.Receiving} (sound : state.Sound)
    (there : state.dispatcher = some (.receiving stage)) (running : state.running = true) (agenda : Agenda) :
    (state.step agenda (.receiving stage)).Sound := by
  obtain ⟨connection, task, standing, up⟩ := state
  obtain rfl : standing = some (.receiving stage) := there
  obtain rfl : up = true := running
  obtain ⟨ordered, alone, own, -, -⟩ := sound
  -- What the step does to the queue is known of any receiver; whoever it calls is called on top of that.
  have alone' := alone.step own
  have stood := (own.own_step alone.inOrder rfl).call (connection.queue.step task stage).2.2
  have items := connection.queue.step_items task stage
  have closed : connection.queue.channel.closed = true →
      (connection.queue.step task stage).2.1.channel.closed = true :=
    fun closed => Outgoing.step_closed closed task stage
  have left := own.step_none
  simp only [Dispatching.step, Dispatcher.step]
  rcases stepped : connection.queue.step task stage with ⟨received, queue, woken⟩
  simp only [stepped] at alone' stood items closed left
  -- The registers are the same, whoever is woken.
  have ordered' : ∀ name, (({ connection with queue }.wake woken).register name).Orderly := by
    intro name
    have ordered := ordered name
    cases name <;> exact ordered
  have called (standing : Option Dispatcher) (up : Bool) :
      recipient? ⟨{ connection with queue }.wake woken, task, standing, up⟩ =
        (recipient? ⟨connection, task, standing, up⟩).map fun receiver =>
          if task ∈ woken then { receiver with called := true } else receiver :=
    recipient?_woken ⟨connection, task, standing, up⟩ rfl
  cases received with
  -- It has no message yet, and stands as a receiver does after such a step.
  | next onward | parked onward =>
    refine ⟨ordered', alone', ?_, ?_, fun gone => by cases gone⟩
    · rw [called]
      exact stood
    · intro dispatcher there
      obtain rfl := Option.some.inj there
      trivial
  | done envelope =>
    cases envelope with
    -- It has a message in its hand, and receives no more for now.
    | some envelope =>
      refine ⟨ordered', alone', ?_, ?_, fun gone => by cases gone⟩
      · exact stood
      · intro dispatcher there
        obtain rfl := Option.some.inj there
        rfl
    | none =>
      -- It returns, which it does only from a channel that is closed and empty.
      obtain ⟨shut, empty⟩ := left rfl
      rw [empty] at items
      refine ⟨fun name => ?_, alone', stood, fun _ there => (by cases there),
        fun _ => ⟨closed shut, items⟩⟩
      rw [Connection.register_log]
      exact ordered' name

/-- A step of a delivery keeps everything in order. -/
theorem Sound.deliver {delivery : Delivery} (sound : state.Sound)
    (there : state.dispatcher = some (.delivering envelope delivery)) (running : state.running = true)
    (untaken : Dispatcher.inTransit (.delivering envelope delivery) = []) (agenda : Agenda) :
    (state.step agenda (.delivering envelope delivery)).Sound := by
  have outside : state.recipient? = none := by simp [recipient?, there, Dispatcher.recipient?]
  have attends := sound.attends _ there
  -- Neither to begin a wait nor to look after it changes anything about the queue.
  cases delivery with
  | sending => exact absurd untaken (List.cons_ne_nil _ _)
  | arriving =>
    -- The first part of the wait has just begun, so that it is attended to.
    have begins : state.connection.Passes .supervisor (fun _ _ => True) _ _ :=
      ConnectionWait.start_passes state.connection agenda state.task .forever
    have awake := ConnectionWait.attends_start state.connection agenda state.task
      (by simp : Timeout.forever ≠ .noWait)
    exact sound.proceed outside ⟨_, (begins.touches.mail rfl).1⟩ (begins.touches.orderly sound.ordered)
      (awake.mono fun _ => .inl running) trivial
  | awaiting wait =>
    have owned : ∀ name ticket, wait.Holds name ticket → (fun _ _ => True) name ticket := fun _ _ _ => trivial
    -- The look is allowed to whoever waits, and leaves the queue alone.
    have looks : state.connection.Passes .supervisor (fun _ _ => True) _ _ :=
      ConnectionWait.poll_passes state.connection agenda state.task owned
    have alert := ConnectionWait.Attends.poll attends sound.ordered agenda
    have queue := (looks.touches.mail rfl).1
    have ordered := looks.touches.orderly sound.ordered
    simp only [Dispatching.step, Dispatcher.step, Delivery.step]
    -- What the look comes to decides whether the delivery is awake, asleep or over.
    rcases polled : wait.poll state.connection agenda state.task with ⟨progress, after⟩
    rw [polled] at alert queue ordered
    cases progress with
    | next onward =>
      have awake : onward.Attends after True state.task := alert
      exact sound.proceed outside ⟨_, queue⟩ ordered (awake.mono fun _ => .inl running) trivial
    | parked onward =>
      have asleep : onward.Attends after False state.task := alert
      exact sound.proceed outside ⟨_, queue⟩ ordered (asleep.mono False.elim) trivial
    | done answer =>
      cases answer with
      | false =>
        -- Without a connection the message would be dropped, which is no matter of the registers.
        have released : (after.release envelope).queue = _ := congrArg (·.release envelope) queue
        refine sound.proceed outside ⟨_, released⟩ (fun name => ?_) trivial ⟨rfl, running⟩
        have ordered := ordered name
        cases name <;> exact ordered
      | true =>
        refine sound.proceed outside ⟨_, queue⟩ (fun name => ?_) running trivial
        rw [Connection.register_log]
        exact ordered name

/-- A step of the dispatcher keeps everything in order. -/
theorem Sound.step (sound : state.Sound) (there : state.dispatcher = some dispatcher)
    (running : state.running = true) (untaken : dispatcher.inTransit = []) (agenda : Agenda) :
    (state.step agenda dispatcher).Sound := by
  -- One lemma for each stage of the dispatcher.
  cases dispatcher with
  | starting =>
    have outside : state.recipient? = none := by simp [recipient?, there, Dispatcher.recipient?]
    -- The start writes an entry, and no register has changed with it.
    refine sound.proceed outside ⟨_, rfl⟩ (fun name => ?_) trivial ⟨rfl, running⟩
    rw [Connection.register_log]
    exact sound.ordered name
  | receiving stage => exact sound.receive there running agenda
  | delivering envelope delivery =>
    exact sound.deliver there running untaken agenda

/-- The answer of the transport keeps everything in order. -/
theorem Sound.answer (sound : state.Sound) (there : state.dispatcher = some (.delivering envelope .sending))
    (running : state.running = true) (result : Except TransportError Unit) :
    (state.answer envelope result).Sound := by
  -- A dispatcher at its answer is no receiver, and goes on with an empty hand.
  have outside : state.recipient? = none := by simp [recipient?, there, Dispatcher.recipient?]
  have touches : state.connection.Touches (.others false) state.Strange _ :=
    Delivery.resume_touches rfl state.connection envelope result
  exact sound.proceed outside ⟨_, Delivery.resume_queue state.connection envelope result⟩
    (touches.orderly sound.ordered) trivial ⟨rfl, running⟩

/-- Whatever happens next keeps everything in order. -/
theorem Sound.next (sound : state.Sound) (step : Step state later) : later.Sound := by
  have untouched : state.connection.Touches .supervisor state.Strange state.connection := .refl
  -- What is not done by the dispatcher touches the registers and the queue only as anybody may.
  cases step with
  | rouse there asleep => exact sound.rouse asleep
  | step there running untaken agenda => exact sound.step there running untaken agenda
  | answer there running result => exact sound.answer there running result
  | enqueue message handle mode => exact sound.enqueue message handle mode
  | offer message handle mode =>
    have touches : state.connection.Touches (.others false) state.Strange
        (state.offer message handle mode).connection := (Connection.Touches.refl.queue rfl _).wake _
    exact sound.sent touches rfl rfl
  | close => exact sound.close
  -- From here on it is what anybody may do to the registers.
  | link event =>
    have touches := untouched.onLinkEvent event rfl
    exact sound.beside touches (touches.mail rfl).1
  | cloud event =>
    have touches := untouched.onCloudEvent event rfl
    exact sound.beside touches (touches.mail rfl).1
  | reset =>
    have touches := untouched.clear .cloud fun _ => rfl
    exact sound.beside touches (touches.mail rfl).1
  | beside touches => exact sound.beside touches (touches.mail rfl).1

/-- What arises is in order. -/
theorem Arises.sound (arises : state.Arises) : state.Sound := by
  -- Induction on the path, from the beginning on.
  obtain ⟨capacity, messages, task, path⟩ := arises
  induction path with
  | refl => exact sound_new capacity messages task
  | tail path step sound => exact sound.next step

/-- Every ticket that the dispatcher holds was issued. -/
theorem Sound.issued (sound : state.Sound) (there : state.dispatcher = some dispatcher) {name : RegisterName}
    {ticket : Ticket} (holds : dispatcher.Holds name ticket) :
    ticket < (state.connection.register name).nextTicket := by
  -- Only a delivery that waits holds a ticket, in one of two places.
  have attends := sound.attends dispatcher there
  match dispatcher, holds with
  | .delivering envelope (.awaiting (.network timeout wait)), holds =>
    obtain ⟨rfl, has⟩ := holds
    exact attends.2.issued ticket has
  | .delivering envelope (.awaiting (.session wait)), holds =>
    obtain ⟨rfl, has⟩ := holds
    exact Register.Attends.issued attends ticket has

/-! ### At rest -/

/-- A dispatcher at rest waits at an open queue that is empty, or with a message for a bit that is not set. -/
theorem Sound.at_rest (sound : state.Sound) (quiet : state.Quiet) (there : state.dispatcher = some dispatcher) :
    (dispatcher = .receiving .polling ∧ state.connection.queue.channel.items = [] ∧
      state.connection.queue.closed = false) ∨
    ∃ envelope wait, dispatcher = .delivering envelope (.awaiting wait) ∧ wait.Unmet state.connection := by
  obtain ⟨asleep, uncalled⟩ := quiet
  have attends := sound.attends dispatcher there
  have stands := sound.stands
  simp only [recipient?, there, Option.bind_some, asleep, uncalled, decide_false] at stands
  -- Everywhere else it would be awake.
  have awake : ¬(state.running = true ∨ state.task ∈ state.connection.woken) := by simp [asleep, uncalled]
  match dispatcher with
  | .starting => exact absurd attends awake
  | .receiving .arriving => exact absurd stands.1 nofun
  -- It is the only receiver, so there is no line in which it could stand.
  | .receiving .inLine =>
    have nobody := sound.alone.line
    simp [Dispatcher.recipient?, Recipient.Stands, nobody] at stands
  | .receiving .polling =>
    exact .inl ⟨rfl, (stands.2.resolve_left nofun).resolve_left nofun⟩
  | .receiving .checking | .receiving .closing | .receiving .draining => exact absurd stands.2.1 nofun
  -- A wait that is attended to sleeps only where its bit is not set.
  | .delivering envelope (.awaiting wait) =>
    have sleeps := ConnectionWait.Attends.mono attends awake
    exact .inr ⟨envelope, wait, rfl, sleeps.unmet sound.ordered⟩
  | .delivering envelope .arriving | .delivering envelope .sending => exact absurd (.inl attends) awake

/-- Where the dispatcher is the only receiver and the transport answers at once, no message waits that could be
sent: whatever interleaves with its steps, once it is at rest while there is a network and a ready session, the
queue is empty and it holds no message. At rest after the queue was closed it has returned, or holds just one
message and waits for the network or for the session with the bit that it waits for not set. -/
theorem Arises.waits_for_connection_alone (arises : state.Arises) (quiet : state.Quiet) :
    (state.connection.network.isSet Network.connected = true → state.connection.cloud.isSet Cloud.ready = true →
      state.connection.queue.channel.items = [] ∧ state.held = []) ∧
    (state.connection.queue.closed = true → state.dispatcher = none ∨
      ∃ envelope wait, state.dispatcher = some (.delivering envelope (.awaiting wait)) ∧
        state.held = [envelope] ∧ wait.Unmet state.connection) := by
  have sound := arises.sound
  -- A dispatcher at rest has returned, looks at an empty queue, or waits for one of the two bits.
  cases there : state.dispatcher with
  | none =>
    have empty := (sound.final there).2
    exact ⟨fun _ _ => ⟨empty, by simp [held, there]⟩, fun _ => .inl rfl⟩
  | some dispatcher =>
    rcases sound.at_rest quiet there with ⟨rfl, empty, opened⟩ | ⟨envelope, wait, rfl, unmet⟩
    · refine ⟨fun _ _ => ⟨empty, by simp [held, there, Dispatcher.inHand, Dispatcher.inTransit]⟩, ?_⟩
      intro closed
      rw [opened] at closed
      contradiction
    · refine ⟨fun connected ready => ?_, fun _ => .inr ⟨envelope, wait, rfl, ?_, unmet⟩⟩
      · -- One of the two bits is the one that it waits for.
        cases wait with
        | network timeout wait => exact absurd (unmet.symm.trans connected) nofun
        | session wait => exact absurd (unmet.symm.trans ready) nofun
      · simp [held, there, Dispatcher.inHand, Dispatcher.inTransit]

/-- With a network but no session the message waits, also after the queue was closed; once the session is ready it
is sent, and the dispatcher rests at the empty queue. -/
theorem message_waits_until_session_is_ready :
    (∃ state : Dispatching, state.Arises ∧ state.Quiet ∧ state.connection.queue.closed = true ∧
      ∃ envelope wait, state.dispatcher = some (.delivering envelope (.awaiting wait)) ∧
        state.held = [envelope] ∧ wait.Unmet state.connection) ∧
    ∃ state : Dispatching, state.Arises ∧ state.Quiet ∧
      state.connection.network.isSet Network.connected = true ∧ state.connection.cloud.isSet Cloud.ready = true ∧
      state.connection.queue.channel.items = [] ∧ state.held = [] := by
  have started : Arises { connection := { queue := .ofCapacity 1 1, woken := [0] }, task := 0 } := ⟨1, 1, 0, .refl⟩
  have linked := (started.next (.enqueue ⟨⟨0⟩, ⟨0, 0⟩, .bool true⟩ 0 .copy)).next
    (.link (.registration .registeredHome))
  -- In one turn the dispatcher takes the message, finds the network, and parks for the session.
  have taken := (((linked.next (.rouse rfl rfl)).next (.step rfl rfl rfl {})).next (.step rfl rfl rfl {})).next
    (.step rfl rfl rfl {})
  have parked := ((taken.next (.step rfl rfl rfl {})).next (.step rfl rfl rfl {})).next (.step rfl rfl rfl {})
  have closed := parked.next .close
  refine ⟨⟨_, closed, ⟨rfl, by decide⟩, rfl, ?_⟩, ?_⟩
  · exact ((closed.waits_for_connection_alone ⟨rfl, by decide⟩).2 rfl).resolve_left nofun
  · -- In the next turn it sends the message, and finds nothing more in the queue.
    have sent := (((parked.next (.cloud .ready)).next (.rouse rfl rfl)).next (.step rfl rfl rfl {})).next
      (.answer rfl rfl (.ok ()))
    have rested := ((sent.next (.step rfl rfl rfl {})).next (.step rfl rfl rfl {})).next (.step rfl rfl rfl {})
    obtain ⟨empty, free⟩ := (rested.waits_for_connection_alone ⟨rfl, by decide⟩).1 rfl rfl
    exact ⟨_, rested, ⟨rfl, by decide⟩, rfl, rfl, empty, free⟩

end Dispatching

end Uplink
