import Uplink.Proofs.Session.Courier

/-! Whatever goes on in a session, its dispatcher drops no message without a word. -/

namespace Uplink

/-- The job has asked the modem or the transport for something and has no answer. -/
def Job.Calls : Job → Prop
  | .supervise run => ∃ request, run.place = .calling request
  | .dispatch (.delivering _ .sending) => True
  | _ => False

namespace Session

/-- A session that can be reached while one dispatcher alone takes messages out of the queue, and what has passed
between the queue, the dispatcher and the transport. Whatever waits for the modem or the transport gets any
answer, at once or later. -/
inductive Dispatched : List Passage → Session → Prop where
  | fresh (config : Config) (messages : Nat) (cloud : Simulated.Cloud) (modem : Simulated.Modem) :
      Dispatched [] { ofConfig config messages with cloud, modem }
  | dispatcher {trace : List Passage} {session : Session} (dispatched : Dispatched trace session)
      (idle : session.dispatcherTask = none) : Dispatched trace (session.act .startDispatcher).2
  | act {trace : List Passage} {session : Session} (dispatched : Dispatched trace session) {action : Action}
      (feeds : action.Feeds) : Dispatched (trace ++ session.offers action) (session.act action).2
  | turn {trace : List Passage} {session next : Session} (dispatched : Dispatched trace session)
      (turned : session.turn? = some next) : Dispatched (trace ++ session.passages) next
  | answer {trace : List Passage} {session : Session} {task : TaskId} {rest : List TaskId} {envelope : Envelope}
      (dispatched : Dispatched trace session) (head : session.agenda.ready = task :: rest)
      (delivers : session.Delivers task (.delivering envelope .sending)) (result : Except TransportError Unit) :
      Dispatched (trace ++ [.answered result.isOk])
        (((session.within (Dispatcher.delivering envelope .sending).spans).answer task envelope result).within
          []).flush
  | reply {trace : List Passage} {session : Session} {task : TaskId} {rest : List TaskId} {run : Supervisor.Run}
      {request : Request} (dispatched : Dispatched trace session) (head : session.agenda.ready = task :: rest)
      (listed : session.tasks.lookup task = some ⟨.supervise run, false⟩) (calls : run.place = .calling request)
      (reply : request.Reply) :
      Dispatched trace (((session.within run.spans).carryOn task
        ((session.within run.spans).supervisor.resume session.agenda task run request reply)).within []).flush
  | suspend {trace : List Passage} {session : Session} {task : TaskId} {rest : List TaskId} {job : Job}
      (dispatched : Dispatched trace session) (head : session.agenda.ready = task :: rest)
      (listed : session.tasks.lookup task = some ⟨job, false⟩) (calls : job.Calls) :
      Dispatched trace { session with agenda := session.agenda.yield }
  | rouse {trace : List Passage} {session : Session} {task : TaskId} {job : Job}
      (dispatched : Dispatched trace session) (listed : session.tasks.lookup task = some ⟨job, false⟩)
      (calls : job.Calls) : Dispatched trace { session with agenda := session.agenda.wake task }
  | strike {trace : List Passage} {session : Session} (dispatched : Dispatched trace session) (instant : Nat)
      (later : session.agenda.now ≤ instant) : Dispatched trace (session.strike instant)

variable {trace : List Passage} {session : Session}

/-- The message that the dispatcher has taken out of the queue and not handed to the transport, if there is
one. -/
def inHand (session : Session) : List Envelope :=
  session.courier.elim [] Dispatcher.inHand

/-- The message that the transport has not answered, if there is one. -/
def inTransit (session : Session) : List Envelope :=
  session.courier.elim [] Dispatcher.inTransit

/-- What passes in so many turns. -/
def passagesWithin : Nat → Session → List Passage
  | 0, _ => []
  | turns + 1, session =>
    match session.turn? with
    | none => []
    | some next => session.passages ++ passagesWithin turns next

/-- Tasks that run are a part of what can happen. -/
theorem Dispatched.settle (dispatched : Dispatched trace session) (turns : Nat) :
    Dispatched (trace ++ passagesWithin turns session) (Timed.settle turns session) := by
  -- Induction on the number of turns.
  induction turns generalizing trace session with
  | zero => simpa [passagesWithin, Timed.settle] using dispatched
  | succ turns ih =>
    cases turned : session.turn? with
    | none =>
      rw [Timed.settle_of_quiet turned]
      simpa [passagesWithin, turned] using dispatched
    | some next =>
      rw [Timed.settle_of_turn turned]
      simpa [passagesWithin, turned] using ih (dispatched.turn turned)

/-- In a session of a new device there is nothing to lose. -/
theorem carried_ofConfig (config : Config) (messages : Nat) (cloud : Simulated.Cloud) (modem : Simulated.Modem) :
    Carried [] { ofConfig config messages with cloud, modem } where
  -- There are no tasks, and so no names.
  manned :=
    { numbered := nofun
      named := nofun
      hired := nofun
      others := nofun
      runner := nofun
      apart := nofun
      orderly := fun name => by cases name <;> exact Flags.Register.orderly_new _ }
  -- Nothing was handed over, and the channel is empty.
  accounted :=
    { mailed := ⟨rfl, nofun, rfl, rfl, rfl⟩
      line := rfl
      closing := nofun
      free := fun _ => rfl
      fits := nofun
      ended := nofun }
  returned := by simp [ofConfig]
  unstarted := fun _ => rfl

/-- In a session that can be reached with one dispatcher no message is lost. -/
theorem Dispatched.carried (dispatched : Dispatched trace session) : Carried trace session := by
  -- Induction on how the session was reached, one case for each thing that can happen.
  induction dispatched with
  | fresh config messages cloud modem => exact carried_ofConfig config messages cloud modem
  | dispatcher _ idle ih => exact (ih.startDispatcher idle).flush
  | act _ feeds ih => exact (ih.perform feeds).flush
  | turn _ turned ih => exact ih.turn turned
  | @answer trace session task rest envelope _ _ delivers result ih =>
    let spans := (Dispatcher.delivering envelope .sending).spans
    have opened : Carried trace (session.within spans) := ih.elsewhere (.within spans)
    exact ((opened.answer (delivers.within _) result).elsewhere (.within [])).flush
  | reply _ head listed calls reply ih => exact ih.reply head listed calls reply
  | suspend _ _ _ _ ih => exact ih.agenda (Nat.le_refl _)
  | rouse _ _ _ ih => exact ih.agenda (Nat.le_of_eq (Agenda.wake_unused _ _).symm)
  | strike _ instant later ih => exact ih.elsewhere (.strike later)

/-- The dispatcher drops nothing without a word. The messages that were handed to the transport, the one in its hand
and those in the queue are the accepted ones, in order; none was dropped; every answer of the transport is counted
once, as a success or as a failure. Once the dispatcher has returned, the queue is closed and empty, every accepted
message was handed over and counted, and no private copy is left. -/
theorem Dispatched.drops_nothing (dispatched : Dispatched trace session) :
    let queue := session.connection.queue
    let metrics := session.connection.telemetry.metrics
    passedMessages trace ++ session.inHand ++ queue.channel.items = acceptedMessages trace ∧
      (∀ envelope, .dropped envelope ∉ trace) ∧
      (passedMessages trace).length = answers true trace + answers false trace + session.inTransit.length ∧
      metrics.sent = .ofNat (answers true trace) ∧ metrics.sendFailures = .ofNat (answers false trace) ∧
      (session.dispatcherEnded = true ↔ .returned ∈ trace) ∧
      (session.dispatcherEnded = true → queue.closed = true ∧ queue.channel.items = [] ∧
        passedMessages trace = acceptedMessages trace ∧
        answers true trace + answers false trace = (acceptedMessages trace).length ∧
        metrics.sent + metrics.sendFailures = .ofNat (acceptedMessages trace).length ∧
        queue.custody.copies = 0) := by
  -- The books of the dispatcher say all of this; what is left is to read them at its end.
  obtain ⟨-, ⟨mailed, -, -, -, -, ended⟩, returned, -⟩ := dispatched.carried
  have sent : session.connection.telemetry.metrics.sent = .ofNat (answers true trace) :=
    congrArg Prod.fst mailed.counted
  have failed : session.connection.telemetry.metrics.sendFailures = .ofNat (answers false trace) :=
    congrArg Prod.snd mailed.counted
  refine ⟨mailed.flow, mailed.kept, mailed.answered, sent, failed, returned.symm, fun stopped => ?_⟩
  -- A dispatcher that has returned has nothing in its hand, and the queue is empty.
  obtain ⟨gone, closed, empty⟩ := ended (returned.mpr stopped)
  obtain ⟨flow, -, answered, -, copies⟩ := mailed
  simp only [gone, empty, Option.elim_none, List.append_nil] at flow copies
  simp only [gone, Option.elim_none, List.length_nil, Nat.add_zero] at answered
  -- With nothing in transit every message that was handed over has its answer.
  have total : answers true trace + answers false trace = (acceptedMessages trace).length := by
    rw [← flow, answered]
  refine ⟨closed, empty, flow, total, ?_, copies⟩
  rw [sent, failed, ← UInt64.ofNat_add, total]

/-- A dispatcher that is stopped by closing the queue has handed both messages over first, of which the transport
could send one. -/
theorem closed_queue_is_delivered :
    ∃ trace session, Dispatched trace session ∧ session.dispatcherEnded = true ∧
      (acceptedMessages trace).length = 2 ∧ passedMessages trace = acceptedMessages trace ∧
      answers true trace = 1 ∧ answers false trace = 1 ∧ session.connection.queue.custody.copies = 0 := by
  -- The transport fails to send the first message; both are queued before there is a connection.
  have new := Dispatched.fresh (.ofAppVersion "1.0.0") 2 { sendFaults := [some (.code (-5))] } {}
  have starts : Action.Feeds .start := trivial
  have first : Action.Feeds (.enqueue 0 (sampleMessage 0 0) .copy) := trivial
  have second : Action.Feeds (.enqueue 1 (sampleMessage 0 1) .reference) := trivial
  have closes : Action.Feeds .closeQueue := trivial
  have queued := (((new.dispatcher rfl).act starts).act first).act second
  have stopped := ((queued.settle 40).act closes).settle 10
  obtain ⟨-, -, -, -, -, -, drained⟩ := stopped.drops_nothing
  obtain ⟨-, -, passed, -, -, copies⟩ := drained (by decide +kernel)
  exact ⟨_, _, stopped, by decide +kernel, by decide +kernel, passed, by decide +kernel, by decide +kernel, copies⟩

end Session

end Uplink
