import Uplink.Proofs.Session.Joint

/-! When the dispatcher hands a message over: the session was ready when the dispatcher was called to go on with it,
and still is unless a reset has come in between. -/

namespace Uplink.Session

open Flags (Covers)

variable {session before middle after : Session} {task own : TaskId} {dispatcher onward : Dispatcher}
  {envelope : Envelope} {seen : Envelope → Prop}

/-! ### A turn of the dispatcher -/

/-- The dispatcher is at one point of its program. -/
theorem Delivers.unique (delivers : session.Delivers task dispatcher) (other : session.Delivers own onward) :
    own = task ∧ onward = dispatcher := by
  -- The session names one task as the dispatcher's, and the task has one job.
  obtain rfl := Option.some.inj (other.named.symm.trans delivers.named)
  have same := other.listed.symm.trans delivers.listed
  simp only [Option.some.injEq, Task.mk.injEq, Job.dispatch.injEq, and_true] at same
  exact ⟨rfl, same⟩

/-- A dispatcher that was given another job is at it. -/
theorem Delivers.setJob (delivers : session.Delivers task dispatcher) (onward : Dispatcher) :
    (session.setJob task (.dispatch onward)).Delivers task onward := by
  -- The name of the dispatcher's task is not changed by its job.
  refine ⟨?_, lookup_setJob delivers.listed (.dispatch onward)⟩
  rw [setJob_eq]
  exact delivers.named

/-- With the transport's answer the dispatcher is about to receive the next message. -/
theorem Delivers.answer (delivers : session.Delivers task (.delivering envelope .sending))
    (result : Except TransportError Unit) : (session.answer task envelope result).Delivers task .idle := by
  -- The answer is counted first, and that moves no task.
  have counted : (session.mapConnection fun connection => (Delivery.resume connection envelope result).2).Delivers
      task (.delivering envelope .sending) := ⟨delivers.named, delivers.listed⟩
  exact counted.setJob .idle

/-- The dispatcher goes on at once after its step. -/
theorem turnOfDispatcher_next (unsent : ∀ envelope, dispatcher ≠ .delivering envelope .sending)
    {connection : Connection}
    (stepped : dispatcher.step session.connection session.agenda task = (.next onward, connection)) :
    session.turnOfDispatcher task dispatcher =
      (session.mapConnection fun _ => connection).setJob task (.dispatch onward) := by
  -- The point is not the one that goes on with an answer.
  unfold Session.turnOfDispatcher
  split
  · exact absurd rfl (unsent _)
  · rw [stepped]

/-- The dispatcher parks after its step. -/
theorem turnOfDispatcher_parked (unsent : ∀ envelope, dispatcher ≠ .delivering envelope .sending)
    {connection : Connection}
    (stepped : dispatcher.step session.connection session.agenda task = (.parked onward, connection)) :
    session.turnOfDispatcher task dispatcher =
      (session.mapConnection fun _ => connection).park task (.dispatch onward) := by
  -- The point is not the one that goes on with an answer.
  unfold Session.turnOfDispatcher
  split
  · exact absurd rfl (unsent _)
  · rw [stepped]

/-- The dispatcher ends with its step, and its task is no more. -/
theorem turnOfDispatcher_done (unsent : ∀ envelope, dispatcher ≠ .delivering envelope .sending)
    {connection : Connection}
    (stepped : dispatcher.step session.connection session.agenda task = (.done (), connection)) :
    (session.turnOfDispatcher task dispatcher).dispatcherTask = session.dispatcherTask ∧
      (session.turnOfDispatcher task dispatcher).tasks.lookup task = none := by
  -- The point is not the one that goes on with an answer.
  unfold Session.turnOfDispatcher
  split
  · exact absurd rfl (unsent _)
  · rw [stepped]
    exact ⟨rfl, (Entries.lookup_filter_ne _ _ _).trans (if_pos rfl)⟩

/-- After a turn in which the dispatcher goes on at once, it still stands where it stood in line, and what it goes on
with has been seen, or the session is ready; one that parks has seen nothing yet. -/
theorem Delivers.turn (delivers : session.Delivers task dispatcher)
    (expects : dispatcher.Expects session.connection task seen) (fits : dispatcher.Fits session.connection task)
    (ordered : ∀ name, (session.connection.register name).Orderly)
    (goes : (session.turnOfDispatcher task dispatcher).Delivers own onward) :
    own = task ∧ onward.Expects (session.turnOfDispatcher task dispatcher).connection task fun envelope =>
      (session.turnOfDispatcher task dispatcher).agenda = session.agenda ∧
        (seen envelope ∨ (session.turnOfDispatcher task dispatcher).connection.cloud.isSet Cloud.ready = true) := by
  by_cases sending : ∃ envelope, dispatcher = .delivering envelope .sending
  · -- With the transport's answer it is about to receive the next message.
    obtain ⟨envelope, rfl⟩ := sending
    have sent : (session.send envelope.handle envelope.message).2.Delivers task (.delivering envelope .sending) :=
      ⟨delivers.named, delivers.listed⟩
    have answered : (session.turnOfDispatcher task (.delivering envelope .sending)).Delivers task .idle :=
      sent.answer _
    obtain ⟨rfl, rfl⟩ := answered.unique goes
    exact ⟨rfl, trivial⟩
  have unsent : ∀ envelope, dispatcher ≠ .delivering envelope .sending :=
    fun envelope same => sending ⟨envelope, same⟩
  have leads := expects.step fits ordered session.agenda unsent
  rcases stepped : dispatcher.step session.connection session.agenda task with ⟨progress, connection⟩
  rw [stepped] at leads
  have listed : (session.mapConnection fun _ => connection).Delivers task dispatcher :=
    ⟨delivers.named, delivers.listed⟩
  cases progress with
  | next further =>
    rw [turnOfDispatcher_next unsent stepped] at goes ⊢
    obtain ⟨rfl, rfl⟩ := (listed.setJob further).unique goes
    have stays : ((session.mapConnection fun _ => connection).setJob own (.dispatch onward)).agenda =
        session.agenda := by
      rw [setJob_eq]
      rfl
    rw [setJob_connection]
    -- It has kept its place in line.
    exact ⟨rfl, leads.mono fun _ _ _ _ been => ⟨stays, been⟩⟩
  | parked further =>
    rw [turnOfDispatcher_parked unsent stepped] at goes ⊢
    have parked : ((session.mapConnection fun _ => connection).park task (.dispatch further)).Delivers task
        further := ⟨(listed.setJob further).named, (listed.setJob further).listed⟩
    obtain ⟨rfl, rfl⟩ := parked.unique goes
    -- Whoever parks has been handed nothing yet, so there is nothing to be seen.
    refine ⟨rfl, (leads.congr ?_).mono fun _ _ _ _ => False.elim⟩
    exact congrArg Connection.cloud (setJob_connection (session.mapConnection fun _ => connection) own _)
  | done answer =>
    -- Its task is not listed any longer.
    obtain ⟨same, gone⟩ := turnOfDispatcher_done unsent stepped
    obtain rfl := Option.some.inj (goes.named.symm.trans (same.trans delivers.named))
    cases gone.symm.trans goes.listed

/-- A message in transit is one that the dispatcher has handed over. -/
theorem InConcert.delivers_of_inTransit (concert : session.InConcert) (busy : session.inTransit.isEmpty = false) :
    ∃ task envelope, session.dispatcherTask = some task ∧ session.Delivers task (.delivering envelope .sending) := by
  unfold inTransit courier at busy
  cases named : session.dispatcherTask with
  | none => simp [named] at busy
  | some task =>
    cases listed : session.tasks.lookup task with
    | none => simp [named, listed] at busy
    | some entry =>
      obtain ⟨dispatcher, rfl⟩ := concert.manned.runner _ (Entries.mem_of_lookup listed) named
      simp only [named, listed, Option.elim_some] at busy
      -- Nothing else is in transit.
      cases dispatcher with
      | starting | receiving stage => cases busy
      | delivering envelope delivery =>
        cases delivery with
        | arriving | awaiting wait => cases busy
        | sending => exact ⟨task, envelope, rfl, named, listed⟩

/-! ### What was seen -/

/-- The dispatcher holds this message, and the network was there for it. It stands in line to see to its wait for the
session, or has handed the message over. -/
def Bears (session : Session) (task : TaskId) (envelope : Envelope) : Prop :=
  ∃ delivery, session.Delivers task (.delivering envelope delivery) ∧ delivery.Late ∧
    (delivery = .sending ∨ task ∈ session.agenda.ready)

/-- The session was ready at some moment, and from then on the dispatcher has borne this message. -/
def Saw (states : Nat → Session) (length : Nat) (task : TaskId) (envelope : Envelope) : Prop :=
  ∃ i ≤ length, (states i).connection.cloud.isSet Cloud.ready = true ∧
    ∀ j, i ≤ j → j ≤ length → (states j).Bears task envelope

variable {states : Nat → Session} {length : Nat}

/-- What was seen stays seen as long as the dispatcher bears the message. -/
theorem Saw.succ (saw : Saw states length task envelope) (bears : (states (length + 1)).Bears task envelope) :
    Saw states (length + 1) task envelope := by
  -- The moment is the same, and one session more follows on it.
  obtain ⟨i, order, ready, since⟩ := saw
  refine ⟨i, by omega, ready, fun j after upTo => ?_⟩
  rcases Nat.lt_or_eq_of_le upTo with inside | rfl
  · exact since j after (by omega)
  · exact bears

/-- What was seen is borne. -/
theorem Saw.bears (saw : Saw states length task envelope) : (states length).Bears task envelope := by
  -- It is borne at every moment since, and so at the last one.
  obtain ⟨i, order, -, since⟩ := saw
  exact since length order (Nat.le_refl _)

/-- A message that is borne is the one that the dispatcher is at. -/
theorem Bears.place (bears : session.Bears task envelope) {delivery : Delivery}
    (delivers : session.Delivers task (.delivering envelope delivery)) :
    delivery = .sending ∨ task ∈ session.agenda.ready := by
  -- There is one dispatcher, and it is at one message.
  obtain ⟨other, there, -, place⟩ := bears
  obtain ⟨-, same⟩ := delivers.unique there
  cases same
  exact place

/-- A session that is ready now is seen now. -/
theorem saw_now (ready : (states length).connection.cloud.isSet Cloud.ready = true)
    (bears : (states length).Bears task envelope) : Saw states length task envelope := by
  -- The moment is the last session itself.
  refine ⟨length, Nat.le_refl _, ready, fun j after upTo => ?_⟩
  obtain rfl : j = length := by omega
  exact bears

/-- The dispatcher goes on from its wait for the session only if the session was ready when it was called. -/
def Expecting (states : Nat → Session) (length : Nat) : Prop :=
  ∀ task dispatcher, (states length).Delivers task dispatcher →
    dispatcher.Expects (states length).connection task (Saw states length task)

/-- Where the dispatcher is, it waits for a connection until it has one. -/
theorem InConcert.fits (concert : session.InConcert) (delivers : session.Delivers task dispatcher) :
    dispatcher.Fits session.connection task := by
  -- The dispatcher's course says what each of its places asks for.
  obtain ⟨trace, dispatched⟩ := concert.dispatched
  exact (dispatched.carried.running delivers).1.fits dispatcher rfl

/-- Whatever spares the dispatcher calls it only while the session is ready. -/
theorem Expecting.beside (expecting : Expecting states length) (spares : (states length).Spares middle)
    (same : states (length + 1) = middle.flush) : Expecting states (length + 1) := by
  intro task dispatcher delivers
  have there : (states length).Delivers task dispatcher := by
    rw [same] at delivers
    exact spares.delivers.mp ⟨delivers.named, delivers.listed⟩
  have cloud : (states (length + 1)).connection.cloud = middle.connection.cloud := by
    rw [same]
    rfl
  have expects := ((expecting task dispatcher there).straight spares.straight).congr cloud
  refine expects.mono fun envelope delivery here late been => ?_
  subst here
  rcases been with saw | ⟨woken, ready⟩
  · -- It still bears the message, as it is where it was and has kept its place in line.
    refine saw.succ ⟨delivery, delivers, late, ?_⟩
    refine (saw.bears.place there).imp_right fun ready => ?_
    rw [same]
    exact Agenda.mem_wakeAll.mpr (.inl (spares.ready task _ there ready))
  · -- It was called just now.
    have called : task ∈ (states (length + 1)).agenda.ready := by
      rw [same]
      exact Agenda.mem_wakeAll.mpr (.inr woken)
    exact saw_now (cloud ▸ ready) ⟨delivery, delivers, late, .inr called⟩

/-- A turn of the dispatcher leads on only with what was seen, or with a session that is ready. -/
theorem Expecting.turn (expecting : Expecting states length) (concert : (states length).InConcert)
    {rest : List TaskId} (head : (states length).agenda.ready = own :: rest)
    (there : (states length).Delivers own onward)
    (same : states (length + 1) =
      ((((states length).within onward.spans).turnOfDispatcher own onward).within []).flush) :
    Expecting states (length + 1) := by
  intro task dispatcher delivers
  let opened := (states length).within onward.spans
  have expects : onward.Expects opened.connection own (Saw states length own) := (expecting own onward there).congr rfl
  have fits : onward.Fits opened.connection own := (concert.fits there)
  have goes : (opened.turnOfDispatcher own onward).Delivers task dispatcher := by
    rw [same] at delivers
    exact ⟨delivers.named, delivers.listed⟩
  obtain ⟨rfl, leads⟩ := (there.within _).turn expects fits concert.staffed.orderly goes
  have cloud : (states (length + 1)).connection.cloud = (opened.turnOfDispatcher task onward).connection.cloud := by
    rw [same]
    rfl
  refine (leads.congr cloud).mono fun envelope delivery here late been => ?_
  subst here
  obtain ⟨stays, been⟩ := been
  -- It is still at the head of the line.
  have ready : task ∈ (states (length + 1)).agenda.ready := by
    rw [same]
    have inLine : task ∈ (opened.turnOfDispatcher task onward).agenda.ready := by
      rw [stays]
      exact head ▸ List.mem_cons_self
    exact Agenda.mem_wakeAll.mpr (.inl inLine)
  have bears : (states (length + 1)).Bears task envelope := ⟨delivery, delivers, late, .inr ready⟩
  -- What it saw, it saw before this turn or in it.
  rcases been with saw | ready
  · exact saw.succ bears
  · exact saw_now (cloud ▸ ready) bears

/-- Whatever happens, the dispatcher goes on only with what was seen. -/
theorem Expecting.succ (expecting : Expecting states length) (concert : (states length).InConcert)
    (joint : Joint (states length) (states (length + 1))) : Expecting states (length + 1) := by
  obtain ⟨middle, meets, same⟩ := concert.meets joint
  cases meets with
  | beside spares => exact expecting.beside spares same
  | turn head there => exact expecting.turn concert head there same
  | starts idle =>
    -- A dispatcher that has just been started has no message.
    intro task dispatcher delivers
    have begins := concert.manned.startDispatcher_delivers
    rw [same] at delivers
    obtain ⟨-, rfl⟩ := begins.unique ⟨delivers.named, delivers.listed⟩
    trivial
  -- After the answer it holds no message.
  | @answer own envelope there result =>
    intro task dispatcher delivers
    have idle := (there.within (Dispatcher.delivering envelope .sending).spans).answer result
    rw [same] at delivers
    obtain ⟨-, rfl⟩ := idle.unique ⟨delivers.named, delivers.listed⟩
    trivial
  | @suspend own envelope there =>
    -- A call that takes its time leaves the line, but the message has been handed over.
    intro task dispatcher delivers
    have here : (states length).Delivers task dispatcher := by
      rw [same] at delivers
      exact ⟨delivers.named, delivers.listed⟩
    obtain ⟨rfl, rfl⟩ := there.unique here
    have saw : Saw states length task envelope := expecting task _ here
    exact saw.succ ⟨.sending, delivers, trivial, .inl rfl⟩

/-! ### Runs -/

/-- The supervisor and the dispatcher together, from a new device on: the sessions that what happened led to, one
after the other. -/
structure Concert (states : Nat → Session) (length : Nat) : Prop where
  new : ∃ config messages cloud modem, states 0 = { ofConfig config messages with cloud, modem }
  next : ∀ i < length, Joint (states i) (states (i + 1))

/-- Tasks that run are a part of what can happen. -/
theorem Joint.settle (turns : Nat) (session : Session) :
    Relation.ReflTransGen Joint session (Timed.settle turns session) := by
  -- Induction on the number of turns.
  induction turns generalizing session with
  | zero => exact .refl
  | succ turns ih =>
    cases turned : session.turn? with
    | none =>
      rw [Timed.settle_of_quiet turned]
    | some next =>
      rw [Timed.settle_of_turn turned]
      exact .head (.turn turned) (ih next)

/-- The supervisor and the dispatcher are started on a device that has neither. -/
theorem Joint.started (unsupervised : session.runTask = none) (undispatched : session.dispatcherTask = none) :
    Relation.ReflTransGen Joint session ((session.act .start).2.act .startDispatcher).2 :=
  -- First the supervisor is started, and then the dispatcher.
  (Relation.ReflTransGen.refl.tail (.start unsupervised)).tail (.dispatcher undispatched)

namespace Concert

/-- At the beginning nobody has anything to do. -/
theorem inConcert_new (concert : Concert states length) : (states 0).InConcert := by
  -- A new device is fresh, and its dispatcher's course is empty.
  obtain ⟨config, messages, cloud, modem, new⟩ := concert.new
  have fresh : Fresh { ofConfig config messages with cloud, modem } :=
    ((fresh_ofConfig config messages).withCloud cloud).withModem modem
  rw [new]
  exact ⟨fresh.staffed, fresh.balances, fresh.woken, [], .fresh config messages cloud modem⟩

/-- Everybody is at his work all the time. -/
theorem inConcert (concert : Concert states length) {i : Nat} (within : i ≤ length) : (states i).InConcert := by
  -- Induction on the number of the session.
  induction i with
  | zero => exact concert.inConcert_new
  | succ i ih => exact (ih (by omega)).joint (concert.next i (by omega))

/-- The dispatcher goes on only with what was seen, all the time. -/
theorem expecting (concert : Concert states length) {i : Nat} (within : i ≤ length) : Expecting states i := by
  -- Induction on the moments: at the beginning there is no dispatcher.
  induction i with
  | zero =>
    obtain ⟨config, messages, cloud, modem, new⟩ := concert.new
    intro task dispatcher delivers
    rw [new] at delivers
    cases delivers.named
  | succ i ih => exact (ih (by omega)).succ (concert.inConcert (by omega)) (concert.next i (by omega))

/-- Once the session is ready it stays so until a reset. -/
theorem ready_or_resets (concert : Concert states length) {i j : Nat} (order : i ≤ j) (within : j ≤ length)
    (ready : (states i).connection.cloud.isSet Cloud.ready = true) :
    (states j).connection.cloud.isSet Cloud.ready = true ∨
      ∃ k, i ≤ k ∧ k < j ∧ (states k).Resets (states (k + 1)) := by
  -- Induction on the moments in between.
  induction j, order using Nat.le_induction with
  | base => exact .inl ready
  | succ j order ih =>
    rcases ih (by omega) with still | ⟨k, after, below, resets⟩
    · rcases (concert.inConcert (by omega)).keeps_or_resets (concert.next j (by omega)) with kept | resets
      · exact .inl (kept.keeps_set still)
      · exact .inr ⟨j, order, by omega, resets⟩
    · exact .inr ⟨k, after, by omega, resets⟩

/-- A concert goes on with what happens next. -/
theorem snoc (concert : Concert states length) (ends : states length = before) (joint : Joint before after) :
    ∃ longer, Concert longer (length + 1) ∧ longer (length + 1) = after := by
  -- The concert is continued behind its end, and is read as before up to there.
  subst ends
  refine ⟨fun i => if i ≤ length then states i else after, ⟨?_, fun i below => ?_⟩, by simp⟩
  · simpa using concert.new
  · rcases Nat.lt_succ_iff_lt_or_eq.mp below with inside | rfl
    · -- Both sessions lie in the concert as it was.
      have here : i ≤ length := by omega
      have there : i + 1 ≤ length := by omega
      simpa only [if_pos here, if_pos there] using concert.next i inside
    · -- Only the last step is new.
      have beyond : ¬i + 1 ≤ i := by omega
      simpa only [if_pos (Nat.le_refl i), if_neg beyond] using joint

/-- Whatever happens to a new device is a concert. -/
theorem of_path (config : Config) (messages : Nat) (cloud : Simulated.Cloud) (modem : Simulated.Modem)
    (path : Relation.ReflTransGen Joint { ofConfig config messages with cloud, modem } session) :
    ∃ states length, Concert states length ∧ states length = session := by
  -- Induction on the path.
  induction path with
  | refl => exact ⟨fun _ => _, 0, ⟨⟨config, messages, cloud, modem, rfl⟩, nofun⟩, rfl⟩
  | tail _ joint ih =>
    obtain ⟨states, length, concert, ends⟩ := ih
    obtain ⟨longer, onward, last⟩ := concert.snoc ends joint
    exact ⟨longer, length + 1, onward, last⟩

/-- Where what happens to a new device ends with a message in transit, it is a concert in which the dispatcher has
handed that message over. -/
theorem of_transit {config : Config} {messages : Nat} {cloud : Simulated.Cloud} {modem : Simulated.Modem}
    (path : Relation.ReflTransGen Joint { ofConfig config messages with cloud, modem } session)
    (busy : session.inTransit.isEmpty = false) :
    ∃ states length task envelope, Concert states length ∧ states length = session ∧
      session.dispatcherTask = some task ∧ (states length).Delivers task (.delivering envelope .sending) := by
  -- The path is numbered, and the message in transit is the dispatcher's.
  obtain ⟨states, length, concert, rfl⟩ := of_path config messages cloud modem path
  obtain ⟨task, envelope, named, sending⟩ := (concert.inConcert (Nat.le_refl _)).delivers_of_inTransit busy
  exact ⟨states, length, task, envelope, concert, rfl, named, sending⟩

/-- Whenever the dispatcher has handed a message over, the session was ready at some moment, from which on it stood
in line to send that message until it did so; and the session is ready still, unless a reset has come since. -/
theorem sends_after_ready (concert : Concert states length)
    (sending : (states length).Delivers task (.delivering envelope .sending)) :
    ∃ i ≤ length, (states i).connection.cloud.isSet Cloud.ready = true ∧
      (∀ j, i ≤ j → j ≤ length → (states j).Bears task envelope) ∧
      ((states length).connection.cloud.isSet Cloud.ready = true ∨
        ∃ k, i ≤ k ∧ k < length ∧ (states k).Resets (states (k + 1))) := by
  -- Nothing is handed over without the session having been seen ready.
  have saw : Saw states length task envelope := concert.expecting (Nat.le_refl _) task _ sending
  obtain ⟨i, order, ready, since⟩ := saw
  exact ⟨i, order, ready, since, concert.ready_or_resets order (Nat.le_refl _) ready⟩

/-- A message that was queued before the session was ready is sent once it is. -/
theorem queued_message_awaits_session :
    ∃ (states : Nat → Session) (length : Nat) (task : TaskId) (envelope : Envelope), Concert states length ∧
      (states length).Delivers task (.delivering envelope .sending) ∧
      ∃ i ≤ length, (states i).connection.cloud.isSet Cloud.ready = true ∧
        (∀ j, i ≤ j → j ≤ length → (states j).Bears task envelope) ∧
        ((states length).connection.cloud.isSet Cloud.ready = true ∨
          ∃ k, i ≤ k ∧ k < length ∧ (states k).Resets (states (k + 1))) := by
  -- The transport connects, and the session becomes ready only when the dispatcher has parked.
  let device : Session := { ofConfig (.ofAppVersion "1.0.0") 1 with cloud := { script := .neverReady }, modem := {} }
  let queued := (((device.act .start).2.act .startDispatcher).2.act (.enqueue 0 (sampleMessage 0 0) .copy)).2
  let last := Timed.settle 4 ((Timed.settle 17 queued).act (.cloud .ready)).2
  have beside : Action.Aside false (.enqueue 0 (sampleMessage 0 0) .copy) := trivial
  have queues : Action.Feeds (.enqueue 0 (sampleMessage 0 0) .copy) := trivial
  have apart : Action.Aside false (.cloud .ready) := trivial
  have raises : Action.Feeds (.cloud .ready) := trivial
  have parked : Relation.ReflTransGen Joint device (Timed.settle 17 queued) :=
    ((Joint.started rfl rfl).tail (.act beside queues)).trans (Joint.settle 17 queued)
  have path : Relation.ReflTransGen Joint device last := (parked.tail (.act apart raises)).trans (Joint.settle 4 _)
  obtain ⟨states, length, task, envelope, concert, -, -, sending⟩ := of_transit path (by decide +kernel)
  exact ⟨states, length, task, envelope, concert, sending, concert.sends_after_ready sending⟩

/-- A message goes to a session that is known to be dropped and awaits its reset; and a message goes out after the
reset has cleared the register, if the dispatcher was called just before it. -/
theorem message_goes_to_dropped_session :
    (∃ (states : Nat → Session) (length : Nat) (task : TaskId) (envelope : Envelope), Concert states length ∧
      (states length).Delivers task (.delivering envelope .sending) ∧
      (states length).agenda.ready.head? = some task ∧
      (states length).supervisor.phase = .resetting ∧ (states length).connection.isDisconnecting = true) ∧
    ∃ (states : Nat → Session) (length : Nat) (task : TaskId) (envelope : Envelope), Concert states length ∧
      (states length).Delivers task (.delivering envelope .sending) ∧
      (states length).agenda.ready.head? = some task ∧
      (states length).connection.cloud.isSet Cloud.ready = false := by
  have beside : Action.Aside false (.enqueue 0 (sampleMessage 0 0) .copy) := trivial
  have queues : Action.Feeds (.enqueue 0 (sampleMessage 0 0) .copy) := trivial
  constructor
  · -- The application asks for a disconnect, and queues a message while late events get their time.
    let device : Session := { ofConfig (.ofAppVersion "1.0.0") 1 with cloud := {}, modem := {} }
    let ready := Timed.settle 17 ((device.act .start).2.act .startDispatcher).2
    let dropped := Timed.settle 2 (ready.act .requestDisconnect).2
    let last := Timed.settle 4 (dropped.act (.enqueue 0 (sampleMessage 0 0) .copy)).2
    have apart : Action.Aside false .requestDisconnect := trivial
    have asks : Action.Feeds .requestDisconnect := trivial
    -- The way there consists of things that can happen.
    have connected : Relation.ReflTransGen Joint device ready := (Joint.started rfl rfl).trans (Joint.settle 17 _)
    have asked : Relation.ReflTransGen Joint device dropped :=
      (connected.tail (.act apart asks)).trans (Joint.settle 2 _)
    have path : Relation.ReflTransGen Joint device last :=
      (asked.tail (.act beside queues)).trans (Joint.settle 4 _)
    have found : last.inTransit.isEmpty = false ∧ last.agenda.ready.head? = last.dispatcherTask ∧
        last.supervisor.phase = .resetting ∧ last.connection.isDisconnecting = true := by
      decide +kernel
    obtain ⟨busy, head, resetting, disconnecting⟩ := found
    obtain ⟨states, length, task, envelope, concert, ends, named, sending⟩ := of_transit path busy
    refine ⟨states, length, task, envelope, concert, sending, ?_, ?_, ?_⟩ <;> rw [ends]
    · exact head.trans named
    · exact resetting
    · exact disconnecting
  · -- No session becomes ready in time. At the instant of the reset the cloud reports one that is, after all.
    let device : Session :=
      { ofConfig (.ofAppVersion "1.0.0") 1 with cloud := { script := .neverReady }, modem := {} }
    let queued := (((device.act .start).2.act .startDispatcher).2.act (.enqueue 0 (sampleMessage 0 0) .copy)).2
    let late := Timed.settle 2 ((Timed.settle 17 queued).strike 30000)
    let last := Timed.settle 4 ((late.strike 50000).act (.cloud .ready)).2
    have apart : Action.Aside false (.cloud .ready) := trivial
    have raises : Action.Feeds (.cloud .ready) := trivial
    have parked : Relation.ReflTransGen Joint device (Timed.settle 17 queued) :=
      ((Joint.started rfl rfl).tail (.act beside queues)).trans (Joint.settle 17 queued)
    have waited : Relation.ReflTransGen Joint device late :=
      (parked.tail (.strike 30000 (by decide +kernel))).trans (Joint.settle 2 _)
    have path : Relation.ReflTransGen Joint device last :=
      ((waited.tail (.strike 50000 (by decide +kernel))).tail (.act apart raises)).trans (Joint.settle 4 _)
    have found : last.inTransit.isEmpty = false ∧ last.agenda.ready.head? = last.dispatcherTask ∧
        last.connection.cloud.isSet Cloud.ready = false := by
      decide +kernel
    obtain ⟨busy, head, cleared⟩ := found
    obtain ⟨states, length, task, envelope, concert, ends, named, sending⟩ := of_transit path busy
    refine ⟨states, length, task, envelope, concert, sending, ?_, ?_⟩ <;> rw [ends]
    · exact head.trans named
    · exact cleared

end Concert

end Uplink.Session
