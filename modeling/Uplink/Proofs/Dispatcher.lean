import Uplink.Proofs.Queue.Outgoing
import Uplink.Proofs.Supervisor.Steps
import Uplink.Proofs.Sure

/-! The dispatcher as the only receiver of the queue: every message that was accepted was handed to the
transport, or is in the dispatcher's hand, or still in the queue. -/

namespace Uplink

open Flags (Register Ticket)
open Queue (Outgoing Receiving Received envelopeOf)

/-! ### What passes -/

/-- What passes between the queue, the dispatcher and the transport. -/
inductive Passage where
  /-- The queue accepts a message. -/
  | accepted (envelope : Envelope)
  /-- The dispatcher hands a message to the transport. -/
  | passed (envelope : Envelope)
  /-- The transport answers whether the message was sent. -/
  | answered (sent : Bool)
  /-- The dispatcher drops a message that it has not handed to the transport. -/
  | dropped (envelope : Envelope)
  /-- The dispatcher returns. -/
  | returned

namespace Passage

/-- The message that is accepted, in its envelope. -/
@[simp] def accepted? : Passage → Option Envelope
  | .accepted envelope => some envelope
  | _ => none

/-- The message that is handed to the transport. -/
@[simp] def passed? : Passage → Option Envelope
  | .passed envelope => some envelope
  | _ => none

/-- Whether the transport gives this answer. -/
@[simp] def isAnswer (sent : Bool) : Passage → Bool
  | .answered answer => answer == sent
  | _ => false

end Passage

/-- The messages that were accepted, in order. -/
def acceptedMessages (trace : List Passage) : List Envelope :=
  trace.filterMap Passage.accepted?

/-- The messages that were handed to the transport, in order. -/
def passedMessages (trace : List Passage) : List Envelope :=
  trace.filterMap Passage.passed?

/-- How often the transport gave this answer. -/
def answers (sent : Bool) (trace : List Passage) : Nat :=
  trace.countP (Passage.isAnswer sent)

/-- What passes is accepted last. -/
@[simp] theorem acceptedMessages_append (trace : List Passage) (passage : Passage) :
    acceptedMessages (trace ++ [passage]) = acceptedMessages trace ++ passage.accepted?.toList := by
  -- One more passage is looked at last.
  simp only [acceptedMessages, List.filterMap_append]
  cases passage <;> rfl

/-- What passes is handed over last. -/
@[simp] theorem passedMessages_append (trace : List Passage) (passage : Passage) :
    passedMessages (trace ++ [passage]) = passedMessages trace ++ passage.passed?.toList := by
  -- One more passage is looked at last.
  simp only [passedMessages, List.filterMap_append]
  cases passage <;> rfl

/-- An answer is one more. -/
@[simp] theorem answers_append (sent : Bool) (trace : List Passage) (passage : Passage) :
    answers sent (trace ++ [passage]) = answers sent trace + if passage.isAnswer sent then 1 else 0 := by
  -- It counts if it is an answer of this kind.
  simp [answers, List.countP_append, List.countP_singleton]

/-! ### The only receiver -/

namespace Queue

/-- A receiver that is the only one has the right to receive from when it has asked for it until it goes away,
and it closes the channel of a closed queue alone. -/
def Receiving.Sole (queue : Outgoing) (task : TaskId) : Receiving → Prop
  | .arriving => queue.holder = none
  | .inLine => False
  | .polling | .checking => queue.holder = some task
  | .closing | .draining => queue.holder = some task ∧ queue.closed = true

/-- Where a step of the only receiver leads: it goes on as such, or goes away with the oldest message, or
without one from a closed queue that is empty. -/
def Received.Sole (queue : Outgoing) (task : TaskId) : Received → Prop
  | .next stage | .parked stage => stage.Sole queue task
  | .done (some _) => queue.holder = none
  | .done none => queue.holder = none ∧ queue.closed = true ∧ queue.channel.items = []

namespace Outgoing

variable {queue : Outgoing} {task : TaskId} {stage : Receiving}

/-- Where nobody stands in line, the right to receive is free once a receiver goes away. -/
theorem leave_alone (line : queue.line = []) (envelope : Option Envelope) :
    queue.leave envelope = (.done envelope, { queue with holder := none, line := [] }, []) := by
  -- With nobody in line there is nobody to pass the right on to.
  simp [leave, passOn, line]

/-- A step of the only receiver leaves it the only one, and leaves the custody of messages alone. -/
theorem step_sole (sole : stage.Sole queue task) (line : queue.line = [])
    (closing : queue.channel.closed = true → queue.closed = true) :
    let after := (queue.step task stage).2.1
    (queue.step task stage).1.Sole after task ∧ after.line = [] ∧
      (after.channel.closed = true → after.closed = true) ∧ after.custody = queue.custody := by
  -- One case for each stage; a look for a message finds the oldest one or none.
  cases stage with
  | arriving =>
    have free : queue.holder = none := sole
    simp only [step, free]
    exact ⟨rfl, line, closing, rfl⟩
  | inLine => exact sole.elim
  | polling =>
    cases items : queue.channel.items with
    | nil =>
      simp only [step, Channel.tryReceive, items]
      split
      · rename_i shut
        -- The channel was closed, which happens to a closed queue alone.
        rw [leave_alone line]
        exact ⟨⟨rfl, closing shut, items⟩, rfl, closing, rfl⟩
      · -- The receiver looks whether the queue was closed meanwhile.
        exact ⟨sole, line, closing, rfl⟩
    -- The oldest message is taken, and the right to receive is given up with nobody in line.
    | cons envelope later =>
      simp only [step, Channel.tryReceive, items]
      rw [leave_alone]
      · exact ⟨rfl, rfl, closing, rfl⟩
      · exact line
  | checking =>
    simp only [step]
    split
    · rename_i closed
      exact ⟨⟨sole, closed⟩, line, closing, rfl⟩
    · exact ⟨sole, line, closing, rfl⟩
  | closing => exact ⟨sole, line, fun _ => sole.2, rfl⟩
  -- The draining differs from the polling in that the channel is closed already.
  | draining =>
    cases items : queue.channel.items with
    | nil =>
      simp only [step, Channel.tryReceive, items]
      rw [leave_alone]
      · exact ⟨⟨rfl, sole.2, items⟩, rfl, closing, rfl⟩
      · exact line
    | cons envelope later =>
      simp only [step, Channel.tryReceive, items]
      rw [leave_alone]
      · exact ⟨rfl, rfl, closing, rfl⟩
      · exact line

/-! ### Private copies -/

/-- A message that is queued as a private copy adds one to them, and one that is not accepted adds none. -/
theorem enqueue_copies (queue : Outgoing) (message : Message) (handle : Handle) (mode : HoldMode) :
    (queue.enqueue message handle mode).2.1.custody.copies = queue.custody.copies +
      match (queue.enqueue message handle mode).1 with
      | .ok _ => if (envelopeOf message handle mode).owned then 1 else 0
      | .error _ => 0 := by
  -- A message that the channel does not take is released again.
  have released : ((queue.custody.wrap message handle mode).2.release
      (queue.custody.wrap message handle mode).1).copies = queue.custody.copies := by
    cases mode <;> simp [Custody.wrap, Custody.release]
  have wrapped : (queue.custody.wrap message handle mode).2.copies =
      queue.custody.copies + if (envelopeOf message handle mode).owned then 1 else 0 := by
    cases mode <;> simp [Custody.wrap, envelopeOf]
  unfold enqueue
  cases refused : queue.refusal? message with
  | some error => rfl
  | none =>
    simp only [offer]
    cases sent : queue.channel.trySend (queue.custody.wrap message handle mode).1 with
    | error error => cases error <;> exact released
    | ok channel => exact wrapped

end Outgoing

end Queue

/-! ### The books of the dispatcher -/

/-- What passes when a message is offered to the queue. -/
def Connection.offers (connection : Connection) (message : Message) (handle : Handle) (mode : HoldMode) :
    List Passage :=
  match (connection.queue.enqueue message handle mode).1 with
  | .ok _ => [.accepted (envelopeOf message handle mode)]
  | .error _ => []

/-- No dispatcher returns when a message is offered. -/
theorem Connection.returned_not_mem_offers (connection : Connection) (message : Message) (handle : Handle)
    (mode : HoldMode) : .returned ∉ connection.offers message handle mode := by
  -- An offer is accepted or rejected.
  unfold offers
  split <;> simp


namespace Dispatcher

/-- The message in the dispatcher's hand, as long as it was not handed to the transport. -/
def inHand : Dispatcher → List Envelope
  | .delivering _ .sending => []
  | .delivering envelope _ => [envelope]
  | _ => []

/-- The message that the transport has not answered. -/
def inTransit : Dispatcher → List Envelope
  | .delivering envelope .sending => [envelope]
  | _ => []

/-- The dispatcher receives as the only one, and waits for a connection until it has one. -/
def Fits (connection : Connection) (task : TaskId) : Dispatcher → Prop
  | .starting => connection.queue.holder = none
  | .receiving stage => stage.Sole connection.queue task
  | .delivering _ (.awaiting wait) => connection.queue.holder = none ∧ wait.Sure connection
  | .delivering _ _ => connection.queue.holder = none

/-- What passes in a step of the dispatcher. -/
def passages : Dispatcher → Progress Unit Dispatcher → List Passage
  | .delivering envelope _, .next (.delivering _ .sending) => [.passed envelope]
  | .delivering envelope _, .next (.receiving _) => [.dropped envelope]
  | .receiving _, .done () => [.returned]
  | _, _ => []

/-- The end of a step that ends the dispatcher is all that passes in it. -/
theorem passages_of_done {dispatcher : Dispatcher} {connection : Connection} {agenda : Agenda} {task : TaskId}
    (done : (dispatcher.step connection agenda task).1 = .done ()) :
    dispatcher.passages (.done ()) = [.returned] := by
  -- Only a dispatcher that is about to receive may return.
  cases dispatcher with
  | receiving stage => rfl
  | starting => cases done
  | delivering envelope delivery =>
    simp only [step] at done
    split at done <;> cases done

/-- Where the dispatcher is after a step, if it has not returned. -/
def standing : Progress Unit Dispatcher → Option Dispatcher
  | .next dispatcher | .parked dispatcher => some dispatcher
  | .done () => none

end Dispatcher

/-- A message that the transport has answered is released, whatever the answer. -/
theorem Delivery.resume_queue (connection : Connection) (envelope : Envelope)
    (result : Except TransportError Unit) :
    (Delivery.resume connection envelope result).2.queue = connection.queue.release envelope := by
  -- Both answers release the copy of the transport.
  cases result <;> rfl

/-- Each answer of the transport is counted once, as a success or as a failure. -/
theorem Delivery.resume_postage (connection : Connection) (envelope : Envelope)
    (result : Except TransportError Unit) :
    let postage := connection.telemetry.metrics.postage
    (Delivery.resume connection envelope result).2.telemetry.metrics.postage =
      if result.isOk then (postage.1 + 1, postage.2) else (postage.1, postage.2 + 1) := by
  -- Each answer has a counter of its own.
  cases result <;> rfl

/-- With these messages in hand and in transit, nothing is lost: the messages that were handed to the transport,
those in hand and those in the queue are the ones that were accepted, in order. No message was dropped, each answer
was counted, and the private copies are those of the messages that are still there. -/
structure Mailed (trace : List Passage) (connection : Connection) (hand transit : List Envelope) : Prop where
  flow : passedMessages trace ++ hand ++ connection.queue.channel.items = acceptedMessages trace
  kept : ∀ envelope, .dropped envelope ∉ trace
  answered : (passedMessages trace).length = answers true trace + answers false trace + transit.length
  counted : connection.telemetry.metrics.postage =
    (.ofNat (answers true trace), .ofNat (answers false trace))
  copies : connection.queue.custody.copies =
    (hand ++ transit ++ connection.queue.channel.items).countP (·.owned)

namespace Mailed

variable {trace : List Passage} {connection after : Connection} {hand transit items : List Envelope}
  {envelope : Envelope}

/-- Changes that concern neither messages nor what is counted of them lose nothing. -/
theorem congr (mailed : Mailed trace connection hand transit)
    (items : after.queue.channel.items = connection.queue.channel.items)
    (copies : after.queue.custody.copies = connection.queue.custody.copies)
    (postage : after.telemetry.metrics.postage = connection.telemetry.metrics.postage) :
    Mailed trace after hand transit where
  flow := items ▸ mailed.flow
  kept := mailed.kept
  answered := mailed.answered
  counted := postage.trans mailed.counted
  -- The copies are those of the messages in the queue, which are the same.
  copies := by
    rw [copies, items]
    exact mailed.copies

/-- A message that is taken out of the queue is in hand. -/
theorem take (mailed : Mailed trace connection [] [])
    (items : envelope :: after.queue.channel.items = connection.queue.channel.items)
    (copies : after.queue.custody.copies = connection.queue.custody.copies)
    (postage : after.telemetry.metrics.postage = connection.telemetry.metrics.postage) :
    Mailed trace after [envelope] [] where
  -- The message leaves the queue and is in hand, so what was in the system is in it still.
  flow := by simpa [← items] using mailed.flow
  kept := mailed.kept
  answered := mailed.answered
  counted := postage.trans mailed.counted
  copies := by simpa [copies, ← items] using mailed.copies

/-- A message in hand that is passed to the transport is in transit. -/
theorem pass (mailed : Mailed trace connection [envelope] []) :
    Mailed (trace ++ [.passed envelope]) connection [] [envelope] where
  -- The message changes hands, and is counted where it is.
  flow := by simpa using mailed.flow
  kept := by simpa using mailed.kept
  answered := by simpa using mailed.answered
  counted := by simpa using mailed.counted
  copies := by simpa using mailed.copies

/-- The end of the dispatcher is no matter of the messages. -/
theorem finish (mailed : Mailed trace connection hand transit) :
    Mailed (trace ++ [.returned]) connection hand transit where
  -- A return hands nothing over and answers nothing.
  flow := by simpa using mailed.flow
  kept := by simpa using mailed.kept
  answered := by simpa using mailed.answered
  counted := by simpa using mailed.counted
  copies := mailed.copies

/-- A message that the transport has answered is counted and released. -/
theorem answer (mailed : Mailed trace connection [] [envelope]) (result : Except TransportError Unit) :
    Mailed (trace ++ [.answered result.isOk]) (Delivery.resume connection envelope result).2 [] [] := by
  -- The one message in transit becomes the one answer more, whichever it is.
  obtain ⟨flow, kept, answered, counted, copies⟩ := mailed
  have queue := Delivery.resume_queue connection envelope result
  have postage := Delivery.resume_postage connection envelope result
  rw [counted] at postage
  refine ⟨?_, by simpa using kept, ?_, ?_, ?_⟩
  · simpa [queue, Outgoing.release] using flow
  · cases result.isOk <;> simp at answered ⊢ <;> omega
  · rw [postage]
    cases result.isOk <;> simp [UInt64.ofNat_add]
  · -- What is released was counted among the private copies if it is one.
    rw [queue]
    simp only [Outgoing.release, Queue.Custody.release]
    split
    · rename_i owned
      simp [copies, owned]
    · rename_i shared
      simp [copies, shared]

/-- What is counted of an attempt to queue a message is no matter of what was sent. -/
theorem postage_enqueue (connection : Connection) (message : Message) (handle : Handle) (mode : HoldMode) :
    (connection.enqueue message handle mode).2.telemetry.metrics.postage =
      connection.telemetry.metrics.postage := by
  -- Neither an accepted message nor a rejected one is counted as sent or as failed.
  simp only [Connection.enqueue, Connection.wake, Telemetry.noteEnqueue]
  split <;> split <;> rfl

/-- A message that is accepted goes to the end of the queue. -/
theorem accept (mailed : Mailed trace connection hand transit) {message : Message} {handle : Handle}
    {mode : HoldMode} (accepted : (connection.queue.enqueue message handle mode).1 = .ok ()) :
    Mailed (trace ++ [.accepted (envelopeOf message handle mode)])
      (connection.enqueue message handle mode).2 hand transit := by
  -- The message stands behind the others, both in the queue and among the accepted ones.
  obtain ⟨flow, kept, answered, counted, copies⟩ := mailed
  obtain ⟨custody, free, queued⟩ := Outgoing.enqueue_ok accepted
  have more := connection.queue.enqueue_copies message handle mode
  rw [accepted] at more
  have items : (connection.enqueue message handle mode).2.queue.channel.items =
      connection.queue.channel.items ++ [envelopeOf message handle mode] := by
    simp only [Connection.enqueue, Connection.wake, queued]
  have held : (connection.enqueue message handle mode).2.queue.custody.copies =
      connection.queue.custody.copies + if (envelopeOf message handle mode).owned then 1 else 0 := more
  refine ⟨?_, by simpa using kept, by simpa using answered, ?_, ?_⟩
  · simp [items, ← flow]
  · simpa [postage_enqueue] using counted
  · rw [held, copies, items]
    simp only [List.countP_append, List.countP_singleton, Nat.add_assoc]

/-- A message that is not accepted leaves everything as it was. -/
theorem reject (mailed : Mailed trace connection hand transit) {message : Message} {handle : Handle}
    {mode : HoldMode} {error : QueueError}
    (rejected : (connection.queue.enqueue message handle mode).1 = .error error) :
    Mailed trace (connection.enqueue message handle mode).2 hand transit := by
  -- Neither the channel nor the copies have changed, and the attempt is not counted among what was sent.
  obtain ⟨custody, queued⟩ := Outgoing.enqueue_error rejected
  have more := connection.queue.enqueue_copies message handle mode
  rw [rejected] at more
  refine mailed.congr ?_ more (postage_enqueue connection message handle mode)
  simp only [Connection.enqueue, Connection.wake, queued]

end Mailed

/-- No message is lost with what the dispatcher has in its hand and in transit, and it is the only receiver of the
queue. Once it has returned, the queue is closed and empty. -/
structure Accounted (trace : List Passage) (connection : Connection) (task : TaskId)
    (standing : Option Dispatcher) : Prop where
  mailed : Mailed trace connection (standing.elim [] Dispatcher.inHand) (standing.elim [] Dispatcher.inTransit)
  line : connection.queue.line = []
  closing : connection.queue.channel.closed = true → connection.queue.closed = true
  free : standing = none → connection.queue.holder = none
  fits : ∀ dispatcher, standing = some dispatcher → dispatcher.Fits connection task
  ended : .returned ∈ trace →
    standing = none ∧ connection.queue.closed = true ∧ connection.queue.channel.items = []

namespace Accounted

variable {trace : List Passage} {connection after : Connection} {task : TaskId} {dispatcher : Dispatcher}
  {standing : Option Dispatcher} {envelope : Envelope}

/-- As long as the dispatcher stands anywhere it has not returned. -/
theorem running (accounted : Accounted trace connection task (some dispatcher)) : .returned ∉ trace :=
  fun returned => nomatch (accounted.ended returned).1

/-- A dispatcher that goes on has not returned. -/
theorem onward (mailed : Mailed trace connection dispatcher.inHand dispatcher.inTransit)
    (line : connection.queue.line = [])
    (closing : connection.queue.channel.closed = true → connection.queue.closed = true)
    (fits : dispatcher.Fits connection task) (running : .returned ∉ trace) :
    Accounted trace connection task (some dispatcher) := by
  -- There is a dispatcher, so its place is the only one to speak of.
  refine ⟨mailed, line, closing, nofun, fun other there => ?_, fun returned => absurd returned running⟩
  exact Option.some.inj there ▸ fits

/-- The dispatcher goes on with the same message, and neither the queue nor the counters are touched. -/
theorem move (accounted : Accounted trace connection task (some dispatcher)) {onward : Dispatcher}
    (mail : after.queue = connection.queue ∧
      after.telemetry.metrics.postage = connection.telemetry.metrics.postage)
    (fits : onward.Fits after task) (hand : onward.inHand = dispatcher.inHand)
    (transit : onward.inTransit = dispatcher.inTransit) : Accounted trace after task (some onward) := by
  -- The books are those from before, read for the new point of the program.
  obtain ⟨queue, postage⟩ := mail
  have same : Mailed trace after dispatcher.inHand dispatcher.inTransit :=
    accounted.mailed.congr (by rw [queue]) (by rw [queue]) postage
  rw [← hand, ← transit] at same
  exact .onward same (queue ▸ accounted.line) (queue ▸ accounted.closing) fits accounted.running

/-- A dispatcher that is about to receive a message takes the oldest one, waits for it, or returns from a closed
queue that is empty. -/
theorem receive {stage : Receiving} (accounted : Accounted trace connection task (some (.receiving stage)))
    (agenda : Agenda) :
    let stepped := Dispatcher.step connection agenda task (.receiving stage)
    Accounted (trace ++ Dispatcher.passages (.receiving stage) stepped.1) stepped.2 task
      (Dispatcher.standing stepped.1) := by
  have running := accounted.running
  obtain ⟨mailed, line, closing, -, fits, -⟩ := accounted
  -- The step of the queue says by itself what becomes of the right to receive and of the messages.
  obtain ⟨sole, line', closing', custody⟩ := Outgoing.step_sole (fits _ rfl) line closing
  have items := connection.queue.step_items task stage
  rcases stepped : connection.queue.step task stage with ⟨received, queue, woken⟩
  rw [stepped] at sole line' closing' custody items
  have copies : queue.custody.copies = connection.queue.custody.copies := congrArg (·.copies) custody
  have same : trace ++ [] = trace := List.append_nil trace
  simp only [Dispatcher.step, stepped]
  cases received with
  | next onward | parked onward =>
    -- It has no message yet, so the queue holds the same ones.
    have kept : Mailed trace ({ connection with queue }.wake woken) [] [] := mailed.congr items copies rfl
    exact same.symm ▸ .onward kept line' closing' sole running
  | done envelope =>
    cases envelope with
    -- The message goes from the front of the channel into the hand.
    | some envelope =>
      have taken : Mailed trace ({ connection with queue }.wake woken) [envelope] [] :=
        mailed.take items copies rfl
      exact same.symm ▸ .onward taken line' closing' sole running
    | none =>
      -- With nothing left in a closed queue the dispatcher returns.
      obtain ⟨free, closed, empty⟩ := sole
      let noted := ({ connection with queue }.wake woken).log .info
        "Device message queue closed, dispatcher stopped" []
      have kept : Mailed trace noted [] [] := mailed.congr items copies rfl
      exact ⟨kept.finish, line', closing', fun _ => free, fun _ there => (by cases there),
        fun _ => ⟨rfl, closed, empty⟩⟩

/-- A dispatcher with a message in its hand waits until there is a connection, and passes the message to the
transport then. -/
theorem deliver {delivery : Delivery}
    (accounted : Accounted trace connection task (some (.delivering envelope delivery)))
    (ordered : ∀ name, (connection.register name).Orderly) (agenda : Agenda) :
    let stepped := Dispatcher.step connection agenda task (.delivering envelope delivery)
    Accounted (trace ++ Dispatcher.passages (.delivering envelope delivery) stepped.1) stepped.2 task
      (Dispatcher.standing stepped.1) := by
  -- Where nothing passes, the trace stays as it is.
  have nothing {connection : Connection} {dispatcher : Dispatcher}
      (stays : Accounted trace connection task (some dispatcher)) :
      Accounted (trace ++ []) connection task (some dispatcher) := by rwa [List.append_nil]
  cases delivery with
  | sending => exact nothing accounted
  | arriving =>
    have holder : connection.queue.holder = none := accounted.fits _ rfl
    -- Whoever begins to wait leaves the queue and the counters of the transport alone.
    let begun := ConnectionWait.start connection agenda task .forever
    have begins : connection.Passes .supervisor (fun _ _ => True) begun.2 begun.1.Holds :=
      ConnectionWait.start_passes connection agenda task .forever
    have mail := begins.touches.mail rfl
    have fits : (Dispatcher.delivering envelope (.awaiting begun.1)).Fits begun.2 task :=
      ⟨by rw [mail.1, holder], ConnectionWait.sure_start ordered agenda task⟩
    have moved := accounted.move mail fits rfl rfl
    exact nothing moved
  | awaiting wait =>
    obtain ⟨holder, sure⟩ : connection.queue.holder = none ∧ wait.Sure connection := accounted.fits _ rfl
    -- Looking after the wait leaves queue and counters alone, as beginning it does.
    have assured := sure.poll ordered agenda task
    have owned : ∀ name ticket, wait.Holds name ticket → (fun _ _ => True) name ticket := fun _ _ _ => trivial
    have looks : connection.Passes .supervisor (fun _ _ => True) _ _ :=
      ConnectionWait.poll_passes connection agenda task owned
    obtain ⟨queue, postage⟩ := looks.touches.mail rfl
    simp only [Dispatcher.step, Delivery.step]
    rcases polled : wait.poll connection agenda task with ⟨progress, after⟩
    rw [polled] at assured queue postage
    cases progress with
    | next onward | parked onward =>
      have fits : (Dispatcher.delivering envelope (.awaiting onward)).Fits after task :=
        ⟨by rw [queue, holder], assured⟩
      have moved := accounted.move ⟨queue, postage⟩ fits rfl rfl
      exact nothing moved
    | done answer =>
      -- A sure wait ends with a connection, so the message is passed to the transport.
      obtain rfl : answer = true := assured
      let noted := after.log .debug "Sending device message" [("owned_copy", .bool envelope.owned)]
      have same : noted.queue = connection.queue := queue
      have kept : Mailed trace noted [envelope] [] :=
        accounted.mailed.congr (by rw [same]) (by rw [same]) postage
      have running : .returned ∉ trace ++ [.passed envelope] := by simpa using accounted.running
      have fits : (Dispatcher.delivering envelope .sending).Fits noted task := by
        have free : noted.queue.holder = none := by rw [same, holder]
        exact free
      exact .onward kept.pass (same ▸ accounted.line) (same ▸ accounted.closing) fits running

/-- A step of the dispatcher accounts for what passes in it. -/
theorem step (accounted : Accounted trace connection task (some dispatcher))
    (ordered : ∀ name, (connection.register name).Orderly) (agenda : Agenda) :
    let stepped := dispatcher.step connection agenda task
    Accounted (trace ++ dispatcher.passages stepped.1) stepped.2 task (Dispatcher.standing stepped.1) := by
  -- One case for each point of the program; only the first of them has nothing to do with messages.
  cases dispatcher with
  | starting =>
    have holder : connection.queue.holder = none := accounted.fits _ rfl
    have fits : Dispatcher.idle.Fits (connection.log .info "Device message dispatcher started" []) task := holder
    have moved : Accounted trace (connection.log .info "Device message dispatcher started" []) task
      (some .idle) := accounted.move ⟨rfl, rfl⟩ fits rfl rfl
    rw [← List.append_nil trace] at moved
    exact moved
  | receiving stage => exact accounted.receive agenda
  | delivering envelope delivery => exact accounted.deliver ordered agenda

/-- The answer of the transport is counted, and the dispatcher is about to receive the next message. -/
theorem answer (accounted : Accounted trace connection task (some (.delivering envelope .sending)))
    (result : Except TransportError Unit) :
    Accounted (trace ++ [.answered result.isOk]) (Delivery.resume connection envelope result).2 task
      (some .idle) := by
  -- The answer changes the queue by a release, which is no matter of who receives.
  have queue := Delivery.resume_queue connection envelope result
  have holder : connection.queue.holder = none := accounted.fits _ rfl
  have running : .returned ∉ trace ++ [.answered result.isOk] := by simpa using accounted.running
  have fits : Dispatcher.idle.Fits (Delivery.resume connection envelope result).2 task := by
    have free : (Delivery.resume connection envelope result).2.queue.holder = none := by rw [queue]; exact holder
    exact free
  exact .onward (accounted.mailed.answer result) (by rw [queue]; exact accounted.line)
    (by rw [queue]; exact accounted.closing) fits running

/-- Whoever leaves the dispatcher its right to receive, and opens no queue again, leaves it where it is. -/
theorem fits_congr {liberty : Liberty} {held : RegisterName → Ticket → Prop}
    (fits : dispatcher.Fits connection task) (touches : connection.Touches liberty held after)
    (holder : after.queue.holder = connection.queue.holder)
    (closed : connection.queue.closed = true → after.queue.closed = true) : dispatcher.Fits after task := by
  -- The right to receive is all that most points ask for; a wait for a connection stays sure besides.
  cases dispatcher with
  | starting => exact holder.trans fits
  | receiving stage =>
    cases stage with
    | arriving | polling | checking => exact holder.trans fits
    | inLine => exact fits.elim
    | closing | draining => exact ⟨holder.trans fits.1, closed fits.2⟩
  | delivering envelope delivery =>
    cases delivery with
    | arriving | sending => exact holder.trans fits
    | awaiting wait => exact ⟨holder.trans fits.1, fits.2.touches touches⟩

/-- A closed queue accepts nothing. -/
theorem open_of_accepted {queue : Outgoing} {message : Message} {handle : Handle} {mode : HoldMode}
    (accepted : (queue.enqueue message handle mode).1 = .ok ()) : queue.closed = false := by
  -- Whatever else is wrong with the message, a closed queue refuses it.
  by_contra shut
  simp only [Bool.not_eq_false] at shut
  simp only [Outgoing.enqueue, Outgoing.refusal?, shut, if_true] at accepted
  split at accepted
  · cases accepted
  · rename_i refused
    split at refused <;> cases refused

/-- A message that is offered is accepted or leaves everything as it was. -/
theorem enqueue (accounted : Accounted trace connection task standing) (message : Message) (handle : Handle)
    (mode : HoldMode) :
    Accounted (trace ++ connection.offers message handle mode) (connection.enqueue message handle mode).2 task
      standing := by
  obtain ⟨mailed, line, closing, free, fits, ended⟩ := accounted
  -- Whatever comes of it, the registers are left alone.
  have touches : connection.Touches (.others false) (fun _ _ => False)
    (connection.enqueue message handle mode).2 := Connection.Touches.refl.enqueue message handle mode rfl
  unfold Connection.offers
  cases result : (connection.queue.enqueue message handle mode).1 with
  | ok _ =>
    -- The message has gone to the end of the channel, and takes a slot.
    obtain ⟨custody, slots, queued⟩ := Outgoing.enqueue_ok result
    have queue : (connection.enqueue message handle mode).2.queue =
        (connection.queue.enqueue message handle mode).2.1 := rfl
    rw [queued] at queue
    refine ⟨mailed.accept result, by rw [queue]; exact line, by rw [queue]; exact closing, ?_, ?_, ?_⟩
    · rw [queue]
      exact free
    · intro dispatcher there
      exact fits_congr (fits dispatcher there) touches (by rw [queue]) (by rw [queue]; exact id)
    · -- A closed queue would not have accepted the message.
      intro returned
      have earlier : .returned ∈ trace := by simpa using returned
      have shut := (ended earlier).2.1
      rw [open_of_accepted result] at shut
      cases shut
  | error error =>
    -- Only the custody may have changed, and that not for long.
    obtain ⟨custody, queued⟩ := Outgoing.enqueue_error result
    have queue : (connection.enqueue message handle mode).2.queue =
        (connection.queue.enqueue message handle mode).2.1 := rfl
    rw [queued] at queue
    rw [List.append_nil]
    refine ⟨mailed.reject result, by rw [queue]; exact line, by rw [queue]; exact closing, ?_, ?_, ?_⟩
    · rw [queue]
      exact free
    · intro dispatcher there
      exact fits_congr (fits dispatcher there) touches (by rw [queue]) (by rw [queue]; exact id)
    · rw [queue]
      exact ended

/-- A dispatcher that has just been started holds nothing. -/
theorem begin (accounted : Accounted trace connection task none) (unreturned : .returned ∉ trace)
    (other : TaskId) : Accounted trace connection other (some .starting) :=
  .onward accounted.mailed accounted.line accounted.closing (accounted.free rfl) unreturned

/-- Those who are to be woken are no matter of messages. -/
theorem awake (accounted : Accounted trace connection task standing) :
    Accounted trace { connection with woken := [] } task standing := by
  -- Neither the queue nor a register reads that list, at any point of the program.
  obtain ⟨mailed, line, closing, free, fits, ended⟩ := accounted
  refine ⟨mailed.congr rfl rfl rfl, line, closing, free, fun dispatcher there => ?_, ended⟩
  have fits := fits dispatcher there
  rcases dispatcher with - | stage | ⟨envelope, - | ⟨wait | wait⟩ | -⟩
  all_goals exact fits

/-- Closing the queue concerns no message. -/
theorem close (accounted : Accounted trace connection task standing) :
    Accounted trace connection.closeQueue task standing := by
  -- What is in the queue stays in it, and a queue that was closed before is closed.
  obtain ⟨mailed, line, closing, free, fits, ended⟩ := accounted
  have touches : connection.Touches (.others false) (fun _ _ => False) connection.closeQueue :=
    Connection.Touches.refl.closeQueue rfl
  refine ⟨mailed.congr rfl rfl rfl, line, fun _ => rfl, free, fun dispatcher there => ?_, fun returned => ?_⟩
  · exact fits_congr (fits dispatcher there) touches rfl fun _ => rfl
  · exact ⟨(ended returned).1, rfl, (ended returned).2.2⟩

/-- What neither touches the queue nor counts what was sent leaves the dispatcher where it is. -/
theorem beside {liberty : Liberty} {held : RegisterName → Ticket → Prop}
    (accounted : Accounted trace connection task standing) (touches : connection.Touches liberty held after)
    (others : liberty.delivers = false) : Accounted trace after task standing := by
  -- The queue is the very same one, so only the dispatcher's wait has to be looked at.
  obtain ⟨mailed, line, closing, free, fits, ended⟩ := accounted
  obtain ⟨queue, postage⟩ := touches.mail others
  refine ⟨mailed.congr (by rw [queue]) (by rw [queue]) postage, by rw [queue]; exact line,
    by rw [queue]; exact closing, by rw [queue]; exact free, fun dispatcher there => ?_, by rw [queue]; exact ended⟩
  exact fits_congr (fits dispatcher there) touches (by rw [queue]) (by rw [queue]; exact id)

end Accounted

end Uplink
