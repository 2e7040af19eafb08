import Uplink.Proofs.Queue.Upkeep

/-!
The books of a queue: whatever senders and receivers do in whatever order, what the queue counts agrees with what
has become of every message.
-/

namespace Uplink.Queue

/-- A queue in use, and the books that are kept on it. -/
structure Books where
  receivers : Receivers
  /-- How many handles of its own the sender has on each of its messages. -/
  own : List Nat
  /-- What has passed, in order. -/
  passed : List Exchange := []
  /-- How the attempts to add a message ended, in order. -/
  attempts : List (Except QueueError Unit) := []

namespace Books

variable {books after : Books}

/-- A new queue, and a sender with one handle on each of its messages. -/
def ofCapacity (capacity messages : Nat) : Books :=
  { receivers := .ofCapacity capacity messages, own := List.replicate messages 1 }

/-- An attempt to add a message. -/
def enqueue (books : Books) (message : Message) (handle : Handle) (mode : HoldMode) : Books :=
  let (result, receivers) := books.receivers.enqueue message handle mode
  { books with
    receivers := receivers
    passed := books.passed ++ books.receivers.offered message handle mode
    attempts := books.attempts ++ [result] }

/-- The sender has another number of handles of its own on a message. -/
def rehold (books : Books) (handle : Handle) (change : Nat → Nat) : Books :=
  let queue := books.receivers.queue
  { books with
    own := books.own.modify handle change
    receivers := { books.receivers with
      queue := { queue with custody.holders := queue.custody.holders.modify handle change } } }

/-- Everything that can happen next. -/
inductive Step (books : Books) : Books → Prop where
  | enqueue (message : Message) (handle : Handle) (mode : HoldMode) : Step books (books.enqueue message handle mode)
  | tryReceive (keep : Option Nat) :
      Step books { books with
        receivers := (books.receivers.tryReceive keep).2
        passed := books.passed ++ books.receivers.grabbed keep }
  | start (label : Nat) (keep : Option Nat) :
      Step books { books with receivers := books.receivers.start label keep }
  | cancel (label : Nat) : Step books { books with receivers := books.receivers.cancel label }
  | close : Step books { books with receivers := books.receivers.close }
  /-- Somebody who keeps an envelope drops it. -/
  | release (key : Nat) : Step books { books with receivers := books.receivers.release key }
  | turn {next : Receivers} (turned : books.receivers.turn? = some next) :
      Step books { books with receivers := next, passed := books.passed ++ books.receivers.gone next }
  /-- The sender makes a handle of its own. -/
  | clone (handle : Handle) : Step books (books.rehold handle (· + 1))
  /-- The sender drops a handle of its own. -/
  | drop {handle : Handle} {count : Nat} (has : books.own[handle]? = some (count + 1)) :
      Step books (books.rehold handle (· - 1))

/-- What can come about from a new queue. -/
def Arises (books : Books) : Prop :=
  ∃ capacity messages, Relation.ReflTransGen Step (.ofCapacity capacity messages) books

/-- What comes next can come about. -/
theorem Arises.next (arises : books.Arises) (step : Step books after) : after.Arises := by
  -- The step is put at the end of the path.
  obtain ⟨capacity, messages, path⟩ := arises
  exact ⟨capacity, messages, path.tail step⟩

/-- How many attempts to add a message were successful. -/
def successes (books : Books) : Nat :=
  books.attempts.countP (·.isOk)

/-- How many attempts to add a message failed. -/
def failures (books : Books) : Nat :=
  books.attempts.countP (!·.isOk)

/-- The books agree with the queue: what was delivered and what is queued is what was accepted, and each attempt is
counted once. -/
structure Balanced (books : Books) : Prop where
  sound : books.receivers.Sound books.own []
  flow : delivered books.passed ++ books.receivers.queue.channel.items = accepted books.passed
  enqueued : books.receivers.telemetry.metrics.enqueued = .ofNat books.successes
  rejected : books.receivers.telemetry.metrics.rejected = .ofNat books.failures

/-! ### What every step keeps -/

/-- Nothing has happened to a new queue. -/
theorem balanced_ofCapacity (capacity messages : Nat) : (ofCapacity capacity messages).Balanced where
  -- The queue has no messages and no copies, and its holders are none; the counters stand at zero.
  sound := {
    queue := ⟨rfl, nofun⟩
    keys := List.nodup_nil
    stages := nofun
    fits := {
      copies := rfl
      holders := fun handle => by
        simp [ofCapacity, Receivers.ofCapacity, Outgoing.ofCapacity, Custody.ofMessages, Receivers.live,
          Channel.empty] } }
  flow := rfl
  enqueued := rfl
  rejected := rfl

/-- Whatever brings or takes no message and is no attempt to add one leaves the books as they are. -/
theorem Balanced.quietly {receivers : Receivers} (balanced : books.Balanced) (sound : receivers.Sound books.own [])
    (items : receivers.queue.channel.items = books.receivers.queue.channel.items)
    (telemetry : receivers.telemetry = books.receivers.telemetry) : Balanced { books with receivers } where
  -- Each equation is about the messages or the counters, and those are the same.
  sound := sound
  flow := items ▸ balanced.flow
  enqueued := telemetry ▸ balanced.enqueued
  rejected := telemetry ▸ balanced.rejected

/-- An attempt to add a message is counted once, by how it ended. -/
theorem noteEnqueue_eq (telemetry : Telemetry) (queue : Outgoing) (message : Message) (mode : HoldMode)
    (result : Except QueueError Unit) :
    ∃ entries, telemetry.noteEnqueue queue message mode result =
      { telemetry with
        entries := entries
        metrics := telemetry.metrics.count (if result.isOk then .messageEnqueued else .messageRejected) } := by
  -- Taken or not, the attempt is logged in one of several ways, and counted in one of two.
  unfold Telemetry.noteEnqueue
  split <;> split <;> exact ⟨_, rfl⟩

/-- What an attempt to add a message leaves in the counters. -/
theorem metrics_enqueue (receivers : Receivers) (message : Message) (handle : Handle) (mode : HoldMode) :
    (receivers.enqueue message handle mode).2.telemetry.metrics =
      receivers.telemetry.metrics.count
        (if (receivers.queue.enqueue message handle mode).1.isOk then .messageEnqueued else .messageRejected) := by
  -- The entries that are logged do not matter here.
  obtain ⟨entries, noted⟩ := noteEnqueue_eq receivers.telemetry receivers.queue message mode
    (receivers.queue.enqueue message handle mode).1
  exact congrArg Telemetry.metrics noted

/-- Adding a message. -/
theorem Balanced.enqueue (balanced : books.Balanced) (message : Message) (handle : Handle) (mode : HoldMode) :
    (books.enqueue message handle mode).Balanced where
  sound := balanced.sound.enqueue message handle mode
  flow := by
    -- What is accepted goes to the end of the queue.
    have flow := balanced.flow
    simp only [Books.enqueue, Receivers.offered, Receivers.enqueue, balanced.sound.queue.enqueue_eq]
    cases books.receivers.queue.verdict message with
    | error error => simpa using flow
    | ok done =>
      simp only [Outgoing.withMessage, delivered_append, accepted_append, ← flow]
      simp [delivered, accepted]
  -- One success more is counted where there is one.
  enqueued := by
    have counted := balanced.enqueued
    unfold successes at counted ⊢
    simp only [Books.enqueue, metrics_enqueue, List.countP_append]
    cases given : (books.receivers.queue.enqueue message handle mode).1.isOk with
    | false => simpa [Metrics.count, Receivers.enqueue, given] using counted
    | true => simp [Metrics.count, Receivers.enqueue, given, counted, UInt64.ofNat_add]
  -- And one failure more where there is one.
  rejected := by
    have counted := balanced.rejected
    unfold failures at counted ⊢
    simp only [Books.enqueue, metrics_enqueue, List.countP_append]
    cases given : (books.receivers.queue.enqueue message handle mode).1.isOk with
    | false => simp [Metrics.count, Receivers.enqueue, given, counted, UInt64.ofNat_add]
    | true => simpa [Metrics.count, Receivers.enqueue, given] using counted

/-- Taking a message without waiting. -/
theorem Balanced.tryReceive (balanced : books.Balanced) (keep : Option Nat) :
    Balanced { books with
      receivers := (books.receivers.tryReceive keep).2
      passed := books.passed ++ books.receivers.grabbed keep } := by
  obtain ⟨kept, custody, same⟩ := books.receivers.tryReceive_eq keep
  have items := books.receivers.queue.tryReceive_items
  have sound := balanced.sound.tryReceive keep
  rw [Receivers.grabbed, same] at *
  refine ⟨sound, ?_, balanced.enqueued, balanced.rejected⟩
  -- What is taken was at the front of the queue.
  have flow := balanced.flow
  rw [← items] at flow
  cases taken : books.receivers.queue.tryReceive.1 <;> simpa [taken, delivered, accepted] using flow

/-- Cancelling a receiver changes nobody but the receiver. -/
theorem Balanced.cancel (balanced : books.Balanced) (label : Nat) :
    Balanced { books with receivers := books.receivers.cancel label } := by
  -- A receiver that cannot be found is not cancelled, and otherwise its entry changes in place.
  unfold Receivers.cancel
  split
  · exact balanced
  · rename_i task receiver found
    refine balanced.quietly ⟨balanced.sound.queue, balanced.sound.keys, fun entry => ?_, balanced.sound.fits⟩ rfl rfl
    intro (adjusted : entry ∈ Entries.adjust task ({ · with cancelled := true }) books.receivers.pending)
    -- The stage of a receiver is the same, whether it was cancelled or not.
    rcases Entries.mem_adjust.mp adjusted with ⟨kept, -⟩ | ⟨value, kept, rfl⟩
    · exact balanced.sound.stages entry kept
    · exact balanced.sound.stages (task, value) kept

/-- Another number of the sender's own handles. -/
theorem Balanced.rehold (balanced : books.Balanced) {handle : Handle} {change : Nat → Nat}
    (apart : ∀ count more, books.own[handle]? = some count → change (count + more) = change count + more) :
    (books.rehold handle change).Balanced where
  sound := by
    obtain ⟨queue, keys, stages, copies, holders⟩ := balanced.sound
    refine ⟨⟨queue.slots, queue.shut⟩, keys, stages, copies, fun other => ?_⟩
    simp only [Books.rehold, List.getElem?_modify, holders other]
    by_cases same : handle = other
    · -- The envelopes that share the message hold it as before.
      subst same
      cases has : books.own[handle]? with
      | none => simp
      | some count =>
        simp only [Option.map_some, if_true]
        exact congrArg some (apart count _ has)
    · simp only [if_neg same]
      cases books.own[other]? <;> rfl
  flow := balanced.flow
  enqueued := balanced.enqueued
  rejected := balanced.rejected

/-- A turn after which nobody has gone away leaves the books as they are. -/
theorem Balanced.stay {next : Receivers} (balanced : books.Balanced) (sound : next.Sound books.own [])
    (silent : next.deliveries = books.receivers.deliveries)
    (items : next.queue.channel.items = books.receivers.queue.channel.items)
    (telemetry : next.telemetry = books.receivers.telemetry) :
    Balanced { books with receivers := next, passed := books.passed ++ books.receivers.gone next } := by
  -- Nobody has gone, so nothing is added to what has passed.
  rw [Recorded.gone_self silent, List.append_nil]
  exact balanced.quietly sound items telemetry

/-- The task at the head of the line takes its turn. -/
theorem Balanced.turn (balanced : books.Balanced) {next : Receivers}
    (turned : books.receivers.turn? = some next) :
    Balanced { books with receivers := next, passed := books.passed ++ books.receivers.gone next } := by
  have sound := balanced.sound.turn turned
  obtain ⟨task, rest, line, ⟨ended, rfl⟩ | ⟨receiver, found, rfl⟩⟩ := Receivers.turn_cases turned
  · exact balanced.stay sound rfl rfl rfl
  · cases given : receiver.cancelled with
    | true =>
      -- A cancelled receiver leaves the messages where they are.
      have last : books.receivers.turnOf task receiver = _ := Receivers.turnOf_cancelled given
      rw [last] at sound ⊢
      exact balanced.stay sound rfl (books.receivers.queue.giveUp_items task) rfl
    | false =>
      have items := books.receivers.queue.poll_items task receiver.stage
      rcases polled : books.receivers.queue.poll task receiver.stage with ⟨stage | envelope, queue, woken⟩
      · -- A receiver that goes on waiting has taken nothing.
        rw [polled] at items
        have waits : books.receivers.turnOf task receiver = _ := Receivers.turnOf_waiting given polled
        rw [waits] at sound ⊢
        exact balanced.stay sound rfl items rfl
      · -- The receiver goes away with what was at the front of the queue.
        rw [polled] at items
        obtain ⟨kept, custody, goes⟩ := Receivers.turnOf_gone given polled
        have flow := balanced.flow
        rw [← items] at flow
        rw [goes] at sound ⊢
        refine ⟨sound, ?_, balanced.enqueued, balanced.rejected⟩
        rw [Recorded.gone_cons ⟨receiver.label, books.receivers.agenda.now, envelope⟩ rfl]
        cases envelope <;> simpa [Stance.taken, delivered, accepted] using flow

/-- Whatever happens next keeps the books balanced. -/
theorem Balanced.next (balanced : books.Balanced) (step : Step books after) : after.Balanced := by
  have sound := balanced.sound
  -- Only a message that is accepted or received moves the books; everything else leaves them.
  cases step with
  | enqueue message handle mode => exact balanced.enqueue message handle mode
  | tryReceive keep => exact balanced.tryReceive keep
  | start label keep =>
    refine balanced.quietly ⟨sound.queue, sound.keys, fun entry member => ?_, sound.fits⟩ rfl rfl
    rcases List.mem_append.mp member with kept | last
    · exact sound.stages entry kept
    · obtain rfl := List.mem_singleton.mp last
      nofun
  | cancel label => exact balanced.cancel label
  | close => exact balanced.quietly ⟨⟨sound.queue.slots, fun _ => rfl⟩, sound.keys, sound.stages, sound.fits⟩ rfl rfl
  | release key =>
    have released := (sound.release key).1
    obtain ⟨kept, custody, same⟩ := books.receivers.release_eq key
    rw [same] at released ⊢
    exact balanced.quietly released rfl rfl
  | turn turned => exact balanced.turn turned
  -- The sender may make handles and drop them; one is counted up or down.
  | clone handle => exact balanced.rehold fun count more _ => Nat.add_right_comm count more 1
  | drop has =>
    refine balanced.rehold fun count more same => ?_
    rw [has] at same
    cases same
    omega

/-- The books are balanced whatever has come about. -/
theorem Arises.balanced (arises : books.Arises) : books.Balanced := by
  obtain ⟨capacity, messages, path⟩ := arises
  -- Induction on what has happened.
  induction path with
  | refl => exact balanced_ofCapacity capacity messages
  | tail _ step ih => exact ih.next step

/-! ### What the counts say -/

/-- Whatever has come about, the queue holds the messages that were accepted and not received, at most as many as
its capacity; the private copies are counted by the envelopes alive that own their message; each message is held by
the sender's own handles and by the envelopes alive that share it. Neither the free slots nor the copies that are
left ever fall short of what is taken off, be it for an envelope alive or for one that is dropped as soon as it is
made, and once no envelope is alive only the sender's own handles are left. -/
theorem Arises.accounts_are_exact (arises : books.Arises) :
    let queue := books.receivers.queue
    let live := books.receivers.live
    queue.length + (delivered books.passed).length = (accepted books.passed).length ∧
    queue.length = queue.channel.items.length ∧ queue.length ≤ queue.capacity ∧
    queue.channel.free ≤ queue.capacity ∧
    queue.custody.copies = live.countP (·.owned) ∧
    (∀ envelope ∈ live, envelope.owned = true →
      (queue.custody.release envelope).copies + 1 = queue.custody.copies) ∧
    (∀ message handle, let (envelope, custody) := queue.custody.wrap message handle .copy
      (custody.release envelope).copies + 1 = custody.copies ∧ custody.release envelope = queue.custody) ∧
    (∀ handle own, books.own[handle]? = some own →
      queue.custody.holders[handle]? = some (own + live.countP (·.shares handle))) ∧
    (live = [] → queue.length = 0 ∧ queue.custody = ⟨0, books.own⟩) := by
  have balanced := arises.balanced
  have length := balanced.sound.queue.length_eq
  have slots := balanced.sound.queue.slots
  have fits := balanced.sound.fits
  -- Each account is one part of the balance, with the length read off the slots that are taken.
  refine ⟨?_, length, ?_, ?_, fits.copies, fun envelope alive owned => ?_, fun message handle => ?_,
    fun handle own has => ?_, fun nobody => ?_⟩
  · have flow := congrArg List.length balanced.flow
    rw [List.length_append] at flow
    omega
  · rw [length, Outgoing.capacity]
    omega
  · rw [Outgoing.capacity]
    omega
  · -- An envelope alive that owns its message is among those that are counted, so there is a copy to take
    -- off.
    have some := fits.copies_pos alive owned
    simp only [Custody.release, owned, if_true]
    omega
  · exact ⟨rfl, books.receivers.queue.custody.release_wrap message handle .copy⟩
  · rw [fits.holders handle, has]
    rfl
  · rw [List.nil_append, nobody] at fits
    refine ⟨?_, fits.of_nobody⟩
    rw [length, (List.append_eq_nil_iff.mp nobody).1]
    rfl

/-- A copy that is kept is counted like one that is queued, and a message that the queue shares is held by the queue
and by each handle of its sender. -/
theorem kept_copy_and_shared_message_are_counted :
    let message : Message := ⟨⟨1⟩, ⟨0, 0⟩, .bool true⟩
    let copy := envelopeOf message 0 .copy
    let shared := envelopeOf message 0 .reference
    ∃ books : Books, books.Arises ∧ books.own = [2] ∧ books.receivers.live = [shared, copy, copy] ∧
      books.receivers.queue.length + [copy].length = [copy, shared, copy].length ∧
      books.receivers.queue.custody.copies = 2 ∧ books.receivers.queue.custody.holders[0]? = some 3 := by
  intro message copy shared
  -- The oldest of two messages is taken and kept, and the sender makes another handle of its own.
  let filled := ((ofCapacity 2 1).enqueue message 0 .copy).enqueue message 0 .reference
  have begun : (ofCapacity 2 1).Arises := ⟨2, 1, .refl⟩
  have full : filled.Arises := (begun.next (.enqueue message 0 .copy)).next (.enqueue message 0 .reference)
  obtain ⟨books, arises, own, live, taken, added⟩ : ∃ books : Books, books.Arises ∧ books.own = [2] ∧
      books.receivers.live = [shared, copy, copy] ∧ delivered books.passed = [copy] ∧
      accepted books.passed = [copy, shared, copy] :=
    ⟨_, ((full.next (.tryReceive (some 7))).next (.clone 0)).next (.enqueue message 0 .copy), rfl, rfl, rfl, rfl⟩
  obtain ⟨flow, -, -, -, copies, -, -, holders, -⟩ := arises.accounts_are_exact
  rw [taken, added] at flow
  rw [live] at copies holders
  exact ⟨books, arises, own, live, flow, copies, holders 0 2 (by rw [own]; rfl)⟩

/-! ### Attempts that fail -/

/-- Whatever has come about, an attempt to add a message ends as the message, the closing of the queue and its
length say, in this order. One that fails leaves everything as it was but for the count of rejected messages and the
journal; one that succeeds puts the message in its envelope behind the others, wakes the receiver and counts an
accepted message. So each attempt is counted once. -/
theorem Arises.rejection_leaves_no_trace (arises : books.Arises) :
    let before := books.receivers
    let metrics := before.telemetry.metrics
    (∀ message handle mode,
      let attempt := before.enqueue message handle mode
      attempt.1 = before.queue.verdict message ∧
      (∀ error, attempt.1 = .error error → ∃ entries,
        attempt.2 = { before with
          telemetry := { before.telemetry with
            entries := entries, metrics.rejected := metrics.rejected + 1 } }) ∧
      (attempt.1 = .ok () → ∃ entries,
        attempt.2 = { before with
          queue := before.queue.withMessage message handle mode
          agenda := before.agenda.wakeAll before.queue.listener
          telemetry := { before.telemetry with
            entries := entries, metrics.enqueued := metrics.enqueued + 1 } })) ∧
    metrics.enqueued + metrics.rejected = .ofNat books.attempts.length ∧
    (books.attempts.length < UInt64.size →
      metrics.enqueued.toNat + metrics.rejected.toNat = books.attempts.length) := by
  have balanced := arises.balanced
  refine ⟨fun message handle mode => ?_, ?_⟩
  · have same := balanced.sound.queue.enqueue_eq message handle mode
    obtain ⟨entries, noted⟩ := noteEnqueue_eq books.receivers.telemetry books.receivers.queue message mode
      (books.receivers.queue.verdict message)
    -- The attempt ends as the verdict says; what is noted then touches the telemetry only.
    cases given : books.receivers.queue.verdict message with
    | error error =>
      rw [given] at same noted
      simp only [Receivers.enqueue, same, noted]
      exact ⟨trivial, fun _ _ => ⟨entries, rfl⟩, fun accepted => by cases accepted⟩
    | ok done =>
      rw [given] at same noted
      simp only [Receivers.enqueue, same, noted]
      refine ⟨trivial, ?_, fun _ => ⟨entries, rfl⟩⟩
      intro error failed
      cases failed
  · have enqueued := balanced.enqueued
    have rejected := balanced.rejected
    have all : books.successes + books.failures = books.attempts.length := by
      simpa [successes, failures] using (books.attempts.length_eq_countP_add_countP (·.isOk)).symm
    -- Every attempt has succeeded or failed. The counters go round after 64 bits, and few attempts do not
    -- reach that.
    refine ⟨?_, fun few => ?_⟩
    · rw [enqueued, rejected, ← UInt64.ofNat_add, all]
    · rw [enqueued, rejected, UInt64.toNat_ofNat_of_lt' (by omega), UInt64.toNat_ofNat_of_lt' (by omega), all]

/-- A message that finds the queue full changes nothing but the count of rejected messages and the journal, and the
two attempts are counted. -/
theorem full_queue_rejects_without_trace :
    let message : Message := ⟨⟨1⟩, ⟨0, 0⟩, .bool true⟩
    ∃ books : Books, books.Arises ∧ books.receivers.live = [envelopeOf message 0 .reference] ∧
      (books.receivers.enqueue message 0 .copy).1 = .error (.full 1) ∧
      (∃ entries, (books.receivers.enqueue message 0 .copy).2 = { books.receivers with
        telemetry := { books.receivers.telemetry with
          entries := entries, metrics.rejected := books.receivers.telemetry.metrics.rejected + 1 } }) ∧
      books.receivers.telemetry.metrics.enqueued + books.receivers.telemetry.metrics.rejected = 1 := by
  intro message
  -- The queue has one slot, and the first message has taken it.
  have begun : (ofCapacity 1 1).Arises := ⟨1, 1, .refl⟩
  obtain ⟨books, arises, live, attempts, verdict⟩ : ∃ books : Books, books.Arises ∧
      books.receivers.live = [envelopeOf message 0 .reference] ∧ books.attempts = [.ok ()] ∧
      books.receivers.queue.verdict message = .error (.full 1) :=
    ⟨_, begun.next (.enqueue message 0 .reference), rfl, rfl, rfl⟩
  obtain ⟨attempt, counted, -⟩ := arises.rejection_leaves_no_trace
  obtain ⟨result, fails, -⟩ := attempt message 0 .copy
  rw [verdict] at result
  rw [attempts] at counted
  exact ⟨books, arises, live, result, fails _ result, counted⟩

end Books

end Uplink.Queue
