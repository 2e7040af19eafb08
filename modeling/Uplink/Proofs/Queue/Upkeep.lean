import Mathlib.Data.List.Count
import Uplink.Proofs.Queue.Traffic

/-!
What each thing that is done to a queue does to its counts: the slots of its channel, the private copies and the
holders of the sender's messages.
-/

namespace Uplink

/-- Whether an envelope shares the sender's message of a handle. -/
def Envelope.shares (handle : Handle) (envelope : Envelope) : Bool :=
  !envelope.owned && envelope.handle = handle

namespace Queue

/-! ### Custody -/

namespace Custody

variable {custody : Custody} {own : List Nat} {envelope : Envelope} {live later : List Envelope}

/-- The counts fit the envelopes that are alive: there is a private copy for each one that owns its message, and
each message is held by its sender's own handles and by the envelopes that share it. -/
structure Fits (custody : Custody) (own : List Nat) (live : List Envelope) : Prop where
  copies : custody.copies = live.countP (·.owned)
  holders : ∀ handle, custody.holders[handle]? = own[handle]?.map (· + live.countP (·.shares handle))

/-- The counts do not depend on where an envelope is. -/
theorem Fits.perm (fits : custody.Fits own live) (moved : live.Perm later) : custody.Fits own later where
  -- Both counts are numbers of envelopes, and those do not depend on the order.
  copies := fits.copies.trans (moved.countP_eq _)
  holders handle := by rw [fits.holders handle, moved.countP_eq]

/-- The counts fit after a message was put into an envelope. -/
theorem Fits.wrap (fits : custody.Fits own live) (message : Message) (handle : Handle) (mode : HoldMode) :
    (custody.wrap message handle mode).2.Fits own (envelopeOf message handle mode :: live) := by
  cases mode with
  | copy =>
    refine ⟨?_, fun other => ?_⟩
    · simp [Custody.wrap, envelopeOf, fits.copies]
    · simp [Custody.wrap, envelopeOf, Envelope.shares, fits.holders other]
  | reference =>
    refine ⟨?_, fun other => ?_⟩
    · simp [Custody.wrap, envelopeOf, fits.copies]
    · -- Only the message of the handle has a holder more.
      by_cases same : handle = other
      · simp [Custody.wrap, envelopeOf, Envelope.shares, fits.holders other, same,
          Function.comp_def, Nat.add_assoc]
      · simp [Custody.wrap, envelopeOf, Envelope.shares, fits.holders other, same]

/-- The counts fit after an envelope was dropped. -/
theorem Fits.release (fits : custody.Fits own (envelope :: live)) : (custody.release envelope).Fits own live := by
  obtain ⟨copies, holders⟩ := fits
  cases owned : envelope.owned with
  | true =>
    refine ⟨?_, fun other => ?_⟩
    · simp [Custody.release, owned, copies]
    · simp [Custody.release, Envelope.shares, owned, holders other]
  | false =>
    refine ⟨?_, fun other => ?_⟩
    · simp [Custody.release, owned, copies]
    · -- Only the message of the handle has a holder less.
      by_cases same : envelope.handle = other
      · simp [Custody.release, Envelope.shares, owned, holders other, same,
          Function.comp_def]
      · simp [Custody.release, Envelope.shares, owned, holders other, same]

/-- An envelope that is dropped as soon as it is made leaves no trace. -/
theorem release_wrap (custody : Custody) (message : Message) (handle : Handle) (mode : HoldMode) :
    (custody.wrap message handle mode).2.release (custody.wrap message handle mode).1 = custody := by
  -- What the wrapping counts up, the release counts down.
  cases mode with
  | copy => simp [Custody.wrap, Custody.release]
  | reference =>
    simp only [Custody.wrap, Custody.release, Bool.false_eq_true, if_false, List.modify_modify_eq]
    exact congrArg (Custody.mk _) (List.modify_id _ _)

/-- While an envelope is alive that owns its message, there is a copy to take off the count. -/
theorem Fits.copies_pos (fits : custody.Fits own live) (alive : envelope ∈ live) (owned : envelope.owned = true) :
    0 < custody.copies := by
  -- The count is the number of such envelopes, and this is one.
  rw [fits.copies]
  exact List.countP_pos_iff.mpr ⟨envelope, alive, owned⟩

/-- Once nobody holds an envelope, nothing is left but the sender's own handles. -/
theorem Fits.of_nobody (fits : custody.Fits own []) : custody = ⟨0, own⟩ := by
  -- The count of copies is zero, and the holders of each message are the sender's own.
  obtain ⟨copies, holders⟩ := custody
  have none : copies = 0 := fits.copies
  have same : holders = own := List.ext_getElem? fun handle => by simpa using fits.holders handle
  rw [none, same]

end Custody

/-! ### What is taken out of the queue -/

namespace Outgoing

variable {queue middle after : Outgoing} {task : TaskId} {stage next : Receiving} {taken more : List Envelope}

/-- A queue after envelopes were taken out of its channel: each of them has left a free slot, and nothing else that
is counted has changed. The channel is closed only after the queue. -/
structure Gives (queue : Outgoing) (taken : List Envelope) (after : Outgoing) : Prop where
  items : taken ++ after.channel.items = queue.channel.items
  free : after.channel.free = queue.channel.free + taken.length
  capacity : after.channel.capacity = queue.channel.capacity
  closed : after.closed = queue.closed
  custody : after.custody = queue.custody
  shut : after.channel.closed = true → queue.channel.closed = true ∨ queue.closed = true

/-- Nothing has been taken. -/
theorem Gives.refl (queue : Outgoing) : queue.Gives [] queue :=
  -- Each equation is between a thing and itself.
  ⟨rfl, rfl, rfl, rfl, rfl, .inl⟩

/-- What is taken later comes after what was taken before. -/
theorem Gives.trans (first : queue.Gives taken middle) (second : middle.Gives more after) :
    queue.Gives (taken ++ more) after where
  -- The fields are those of both, one after the other.
  items := by rw [List.append_assoc, second.items, first.items]
  free := by rw [second.free, first.free, List.length_append, Nat.add_assoc]
  capacity := second.capacity.trans first.capacity
  closed := second.closed.trans first.closed
  custody := second.custody.trans first.custody
  shut shut := (second.shut shut).elim first.shut fun closed => .inr (first.closed ▸ closed)

/-- Whoever passes the right to receive on takes nothing. -/
theorem Gives.passOn (gives : queue.Gives taken after) : queue.Gives taken after.passOn.1 := by
  -- Only the line and the right to receive have changed.
  rw [passOn_eq]
  exact ⟨gives.items, gives.free, gives.capacity, gives.closed, gives.custody, gives.shut⟩

/-- Whoever looks for the oldest message takes it or finds none. -/
theorem gives_oldest (queue : Outgoing) :
    queue.Gives queue.channel.tryReceive.1.toList { queue with channel := queue.channel.tryReceive.2 } := by
  -- The channel may be empty, or have an oldest message.
  obtain ⟨⟨capacity, free, items, shut⟩, closed, custody, holder, line⟩ := queue
  cases items <;> exact ⟨rfl, rfl, rfl, rfl, rfl, .inl⟩

/-- Whoever does not wait takes the oldest message or nothing. -/
theorem gives_tryReceive (queue : Outgoing) : queue.Gives queue.tryReceive.1.toList queue.tryReceive.2 := by
  -- Where somebody has the right, nothing is taken and nothing has changed.
  unfold tryReceive
  split
  · exact .refl queue
  · exact queue.gives_oldest

/-- Whoever gives up takes nothing. -/
theorem gives_giveUp (queue : Outgoing) (task : TaskId) : queue.Gives [] (queue.giveUp task).1 := by
  -- Whoever has the right passes it on, and anybody else leaves the line.
  unfold giveUp
  split
  · exact (Gives.refl queue).passOn
  · exact ⟨rfl, rfl, rfl, rfl, rfl, .inl⟩

/-- A step of a receiver takes what the receiver goes away with. It closes the channel only if it found the queue
closed. -/
theorem gives_step (queue : Outgoing) (task : TaskId) (stage : Receiving)
    (found : stage = .closing → queue.closed = true) :
    queue.Gives (queue.step task stage).1.taken (queue.step task stage).2.1 := by
  -- The stages before the look for a message take nothing, and passing the right on takes nothing either.
  cases stage with
  | arriving | inLine | checking =>
    simp only [step]
    split <;> exact ⟨rfl, rfl, rfl, rfl, rfl, .inl⟩
  | closing => exact ⟨rfl, rfl, rfl, rfl, rfl, fun _ => .inr (found rfl)⟩
  | polling =>
    have oldest := queue.gives_oldest
    simp only [step]
    split
    · rename_i envelope channel received
      rw [received] at oldest
      exact oldest.passOn
    · split
      · exact (Gives.refl queue).passOn
      · exact .refl queue
  | draining => exact queue.gives_oldest.passOn

/-- A receiver that goes on to close the channel has found the queue closed. -/
theorem closed_of_step_closing {woken : List TaskId}
    (stepped : queue.step task stage = (.next .closing, after, woken)) : after.closed = true := by
  cases stage with
  -- None of these goes on to the closing.
  | arriving | inLine | polling =>
    simp only [step, leave] at stepped
    split at stepped <;> (try split at stepped) <;> simp at stepped
  | closing | draining => simp [step, leave] at stepped
  -- The stage looks whether the queue is closed, and goes on only if it is.
  | checking =>
    simp only [step] at stepped
    split at stepped
    · rename_i closed
      simp only [Prod.mk.injEq] at stepped
      rwa [← stepped.2.1]
    · simp at stepped

/-- A turn of a receiver takes what the receiver goes away with. -/
theorem gives_poll (queue : Outgoing) (task : TaskId) (stage : Receiving)
    (found : stage = .closing → queue.closed = true) :
    queue.Gives (queue.poll task stage).1.taken (queue.poll task stage).2.1 := by
  -- The steps before the last one take nothing.
  fun_induction Outgoing.poll queue task stage with
  | case1 queue stage next after woken stepped stance last later polled ih =>
    have first := queue.gives_step task stage found
    rw [stepped] at first
    have onward := ih fun closing => closed_of_step_closing (closing ▸ stepped)
    rw [polled] at onward
    exact first.trans onward
  | case2 queue stage waiting after woken stepped | case3 queue stage envelope after woken stepped =>
    have only := queue.gives_step task stage found
    rw [stepped] at only
    exact only

/-- A receiver does not wait when it is about to close the channel. -/
theorem poll_waiting (queue : Outgoing) (task : TaskId) (stage : Receiving)
    (waits : (queue.poll task stage).1 = .waiting next) : next ≠ .closing := by
  fun_induction Outgoing.poll queue task stage with
  | case1 queue stage onward after woken stepped stance last later polled ih =>
    rw [polled] at ih
    exact ih waits
  | case2 queue stage waiting after woken stepped =>
    -- A step that waits is one of three, and each of them names its stage.
    obtain rfl : waiting = next := by simpa using waits
    cases stage with
    | arriving | inLine | checking =>
      simp only [step] at stepped
      split at stepped <;> simp at stepped
      simp [← stepped.1]
    | polling =>
      simp only [step, leave] at stepped
      split at stepped <;> (try split at stepped) <;> simp at stepped
    | closing | draining => simp [step, leave] at stepped
  | case3 => simp at waits

end Outgoing

/-! ### Adding a message -/

namespace Outgoing

variable {queue : Outgoing}

/-- Every slot of the channel is free or taken by a message, and the channel is closed only after the queue. -/
structure Sound (queue : Outgoing) : Prop where
  slots : queue.channel.free + queue.channel.items.length = queue.channel.capacity
  shut : queue.channel.closed = true → queue.closed = true

/-- The queue holds as many messages as it says. -/
theorem Sound.length_eq (sound : queue.Sound) : queue.length = queue.channel.items.length := by
  -- The slots that are not free are those of the messages.
  have slots := sound.slots
  simp only [length, Channel.taken]
  omega

/-- Taking messages out leaves no slot that is neither free nor taken. -/
theorem Sound.gives {taken : List Envelope} {after : Outgoing} (sound : queue.Sound) (gives : queue.Gives taken after) :
    after.Sound where
  -- Each message that was taken has freed its slot.
  slots := by
    have slots := sound.slots
    rw [← gives.items, List.length_append] at slots
    rw [gives.free, gives.capacity]
    omega
  shut shut := gives.closed.trans ((gives.shut shut).elim sound.shut id)

/-- The queue after a message was added to its end. -/
def withMessage (queue : Outgoing) (message : Message) (handle : Handle) (mode : HoldMode) : Outgoing :=
  { queue with
    channel := { queue.channel with
      free := queue.channel.free - 1, items := queue.channel.items ++ [envelopeOf message handle mode] }
    custody := (queue.custody.wrap message handle mode).2 }

/-- How an attempt to add a message ends: what is wrong with the message counts first, then that the queue is
closed, and then that it is full. -/
def verdict (queue : Outgoing) (message : Message) : Except QueueError Unit :=
  if message.isNull then .error .invalidArgument
  else if queue.closed then .error .closed
  else if queue.length = queue.capacity then .error (.full queue.capacity)
  else .ok ()

/-- What an open channel makes of a message. -/
theorem offer_eq (opened : queue.channel.closed = false) (message : Message) (handle : Handle) (mode : HoldMode) :
    queue.offer message handle mode =
      if queue.channel.free = 0 then (.error (.full queue.capacity), queue, [])
      else (.ok (), queue.withMessage message handle mode, queue.listener) := by
  -- The copy that was made for a full channel is released again.
  have dropped := queue.custody.release_wrap message handle mode
  split
  · rename_i full
    simp [offer, Channel.trySend, opened, full, dropped]
  · rename_i free
    simp [offer, Channel.trySend, opened, free, withMessage, Custody.wrap_envelope]

/-- A message that is not accepted leaves the queue as it was and wakes nobody; one that is accepted is added, and
the receiver is woken. -/
theorem Sound.enqueue_eq (sound : queue.Sound) (message : Message) (handle : Handle) (mode : HoldMode) :
    queue.enqueue message handle mode = match queue.verdict message with
      | .error error => (.error error, queue, [])
      | .ok () => (.ok (), queue.withMessage message handle mode, queue.listener) := by
  unfold enqueue refusal? verdict
  split_ifs with null closed full
  · rfl
  · rfl
  all_goals
    -- The channel of an open queue is open, so only the lack of a slot is in the way.
    have opened : queue.channel.closed = false := by
      by_contra shut
      exact closed (sound.shut (by simpa using shut))
    have slots := sound.slots
    simp only [length, Channel.taken, capacity] at full
    simp only [offer_eq opened]
  · rw [if_pos (by omega)]
  · rw [if_neg (by omega)]

/-- Whether a message is added or not, every slot is free or taken. -/
theorem Sound.enqueue (sound : queue.Sound) (message : Message) (handle : Handle) (mode : HoldMode) :
    (queue.enqueue message handle mode).2.1.Sound := by
  rw [sound.enqueue_eq]
  cases given : queue.verdict message with
  | error error => exact sound
  | ok accepted =>
    -- A message is accepted only while a slot is free.
    have free : queue.length ≠ queue.capacity := by
      intro full
      simp only [verdict, full, if_true] at given
      split at given
      · contradiction
      · split at given <;> contradiction
    have slots := sound.slots
    refine ⟨?_, sound.shut⟩
    simp only [withMessage, List.length_append, List.length_singleton]
    simp only [length, Channel.taken, capacity] at free
    omega

end Outgoing

/-! ### What is kept -/

/-- An envelope that is kept under a key is one of those that are kept, and the others are kept under other keys. -/
theorem Kept.perm_of_lookup {kept : Kept} {key : Nat} {envelope : Envelope} (once : (kept.map (·.1)).Nodup)
    (found : kept.lookup key = some envelope) :
    (kept.map (·.2)).Perm (envelope :: (kept.filter (·.1 ≠ key)).map (·.2)) := by
  -- Induction on the envelopes that are kept, as far as the one that was found.
  induction kept with
  | nil => contradiction
  | cons entry rest ih =>
    obtain ⟨other, first⟩ := entry
    simp only [List.map_cons, List.nodup_cons] at once
    by_cases same : key = other
    · -- No other entry has this key.
      subst same
      obtain rfl : first = envelope := by simpa using found
      have others : rest.filter (·.1 ≠ key) = rest := List.filter_eq_self.mpr fun entry member => by
        simpa using fun same : entry.1 = key => once.1 (List.mem_map.mpr ⟨entry, member, same⟩)
      rw [List.filter_cons_of_neg (by simp), others, List.map_cons]
    · rw [Entries.lookup_cons_of_ne same] at found
      rw [List.filter_cons_of_pos (by simpa using Ne.symm same), List.map_cons, List.map_cons]
      exact ((ih once.2 found).cons first).trans (List.Perm.swap _ _ _)

namespace Receivers

variable {receivers next : Receivers} {own : List Nat} {hand : List Envelope} {envelope : Envelope}

/-- The envelopes that nobody has dropped: those in the queue, and those that were received and are kept. -/
def live (receivers : Receivers) : List Envelope :=
  receivers.queue.channel.items ++ receivers.kept.map (·.2)

/-- The channel and the counts are in order while somebody holds some envelopes in his hand. Each envelope is kept
under a key of its own, and no receiver waits in the middle of closing the channel. -/
structure Sound (receivers : Receivers) (own : List Nat) (hand : List Envelope) : Prop where
  queue : receivers.queue.Sound
  keys : (receivers.kept.map (·.1)).Nodup
  stages : ∀ entry ∈ receivers.pending, entry.2.stage ≠ .closing
  fits : receivers.queue.custody.Fits own (hand ++ receivers.live)

/-- Dropping what is kept under a key leaves nothing under that key. -/
theorem Sound.release (sound : receivers.Sound own hand) (key : Nat) :
    (receivers.release key).Sound own hand ∧ key ∉ (receivers.release key).kept.map (·.1) := by
  unfold Receivers.release Kept.release
  cases found : receivers.kept.lookup key with
  -- There is nothing under the key already.
  | none =>
    refine ⟨sound, fun kept => ?_⟩
    obtain ⟨⟨_, envelope⟩, member, rfl⟩ := List.mem_map.mp kept
    rw [Entries.lookup_of_mem sound.keys member] at found
    contradiction
  | some envelope =>
    -- The envelope is one of those that were alive.
    have alive : (hand ++ receivers.live).Perm
        (envelope :: (hand ++ (receivers.queue.channel.items ++
          (receivers.kept.filter (·.1 ≠ key)).map (·.2)))) := by
      have kept := Kept.perm_of_lookup sound.keys found
      refine ((kept.append_left _).append_left hand).trans ?_
      rw [← List.append_assoc, ← List.append_assoc]
      exact List.perm_middle
    refine ⟨⟨⟨sound.queue.slots, sound.queue.shut⟩, ?_, sound.stages, (sound.fits.perm alive).release⟩, ?_⟩
    · exact sound.keys.sublist (List.filter_sublist.map _)
    · simp

/-- Dropping an envelope or keeping it takes it out of the hand. -/
theorem Sound.dispose (sound : receivers.Sound own (envelope :: hand)) (key : Option Nat) :
    (receivers.dispose key envelope).Sound own hand := by
  cases key with
  | none => exact ⟨⟨sound.queue.slots, sound.queue.shut⟩, sound.keys, sound.stages, sound.fits.release⟩
  | some key =>
    -- What was kept under the key is dropped first.
    obtain ⟨free, absent⟩ := sound.release key
    refine ⟨free.queue, List.nodup_cons.mpr ⟨absent, free.keys⟩, free.stages, free.fits.perm ?_⟩
    rw [List.cons_append]
    refine List.perm_middle.symm.trans (List.Perm.append_left hand ?_)
    exact List.perm_middle.symm

/-- What is taken out of the queue is held in the hand at first. -/
theorem Sound.gives {taken : List Envelope} (sound : receivers.Sound own [])
    (gives : receivers.queue.Gives taken next.queue) (kept : next.kept = receivers.kept)
    (stages : ∀ entry ∈ next.pending, entry.2.stage ≠ .closing) : next.Sound own taken where
  -- Between the two states the envelopes have moved from the channel to the hand, and are as many.
  queue := sound.queue.gives gives
  keys := kept ▸ sound.keys
  stages := stages
  fits := by
    have fits := sound.fits
    rw [List.nil_append, live, ← gives.items, List.append_assoc] at fits
    rw [live, kept, gives.custody]
    exact fits

/-- Adding a message. -/
theorem Sound.enqueue (sound : receivers.Sound own []) (message : Message) (handle : Handle) (mode : HoldMode) :
    (receivers.enqueue message handle mode).2.Sound own [] := by
  refine ⟨sound.queue.enqueue message handle mode, sound.keys, sound.stages, ?_⟩
  simp only [Receivers.enqueue, live, sound.queue.enqueue_eq]
  cases receivers.queue.verdict message with
  -- A refused message leaves nothing behind.
  | error error => exact sound.fits
  -- An accepted one is alive at the end of the channel, and wherever it stands among the others.
  | ok accepted =>
    refine (sound.fits.wrap message handle mode).perm ?_
    simp only [Outgoing.withMessage, List.nil_append, List.append_assoc, live]
    exact List.perm_middle.symm

/-- Taking a message without waiting. -/
theorem Sound.tryReceive (sound : receivers.Sound own []) (keep : Option Nat) :
    (receivers.tryReceive keep).2.Sound own [] := by
  have gives := receivers.queue.gives_tryReceive
  unfold Receivers.tryReceive
  split
  · -- Nothing was taken.
    rename_i queue taken
    rw [taken] at gives
    exact sound.gives gives rfl sound.stages
  · rename_i envelope queue taken
    rw [taken] at gives
    -- The message is in the hand, and then kept or dropped.
    have held : Receivers.Sound { receivers with queue } own [envelope] := sound.gives gives rfl sound.stages
    exact held.dispose keep

/-- The task at the head of the line takes its turn. -/
theorem Sound.turn (sound : receivers.Sound own []) (turned : receivers.turn? = some next) : next.Sound own [] := by
  -- A task whose receiver has gone does nothing; a receiver that was cancelled gives up; any other takes
  -- its steps.
  obtain ⟨task, rest, line, ⟨ended, rfl⟩ | ⟨receiver, found, rfl⟩⟩ := turn_cases turned
  · exact sound.gives (.refl _) rfl sound.stages
  · have member := Entries.mem_of_lookup found
    have others : ∀ entry ∈ receivers.pending.filter (·.1 ≠ task), entry.2.stage ≠ .closing :=
      fun entry left => sound.stages entry (List.mem_of_mem_filter left)
    cases given : receiver.cancelled with
    | true =>
      rw [turnOf_cancelled given]
      exact sound.gives (receivers.queue.gives_giveUp task) rfl others
    | false =>
      have gives := receivers.queue.gives_poll task receiver.stage fun closing =>
        absurd closing (sound.stages _ member)
      rcases polled : receivers.queue.poll task receiver.stage with ⟨stage | got, queue, woken⟩
      · -- The receiver waits on.
        rw [polled] at gives
        rw [turnOf_waiting given polled]
        refine sound.gives gives rfl fun entry (adjusted : entry ∈ Entries.adjust task ({ · with stage }) _) => ?_
        rcases Entries.mem_adjust.mp adjusted with ⟨kept, -⟩ | ⟨value, -, rfl⟩
        · exact sound.stages entry kept
        · exact receivers.queue.poll_waiting task receiver.stage (congrArg Prod.fst polled)
      · -- The receiver goes away, and what it got is dropped or kept.
        rw [polled] at gives
        simp only [turnOf, given, Bool.false_eq_true, if_false, polled]
        cases got with
        | none => exact sound.gives gives rfl others
        | some envelope =>
          refine Sound.dispose ?_ receiver.keep
          exact sound.gives gives rfl others

end Receivers

end Queue

end Uplink
