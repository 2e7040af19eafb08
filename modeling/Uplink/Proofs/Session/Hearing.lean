import Uplink.Proofs.Echoes
import Uplink.Session.Action

/-!
What a session hears: the impulses that the modem, the cloud and others raise, set apart from all else that happens.

Whatever a task asks of the modem or the transport is answered at once by the simulated ones, or gets any other answer,
at once or later. Within each thing that happens to a session there is one point at which impulses come, and what
comes there can be replaced by other impulses. With the impulses that come by themselves nothing is changed.
-/

namespace Uplink

/-- The impulses of a modem that attaches to its home network. -/
def Impulse.attachment (clock : Bool) : List Impulse :=
  [.link (.registration .searching), .link (.registration .registeredHome)] ++
    if clock then [.dateTime true] else []

/-- An answer to what a task asked of the modem or the transport. -/
inductive Response where
  /-- To a request of the supervisor. -/
  | reply (request : Request) (reply : request.Reply)
  /-- To a message that was handed to the transport. -/
  | sent (result : Except TransportError Unit)

/-- What can happen to a session. -/
inductive Happening where
  | act (action : Action)
  /-- The task at the head of the line takes its turn. What it has asked for is answered by the simulated modem or the
  simulated cloud. -/
  | turn
  /-- The task at the head of the line takes its turn with this answer to what it has asked for. -/
  | respond (response : Response)
  /-- The task at the head of the line has no answer yet, and leaves the line. -/
  | suspend
  /-- A task that has no answer yet joins the line again. -/
  | rouse (task : TaskId)
  /-- The clock comes to an instant. -/
  | strike (instant : Nat)

/-- The job has asked the modem or the transport for something and has no answer. -/
def Job.isAsking : Job → Bool
  | .supervise ⟨_, .calling _⟩ => true
  | .dispatch (.delivering _ .sending) => true
  | .deliver _ _ .sending => true
  | _ => false

namespace Session

variable (session : Session)

/-- Impulses reach the connection, one after the other. -/
def hear (impulses : List Impulse) : Session :=
  session.mapConnection fun connection => connection.hear impulses

/-- A turn of a task with this answer; none if that is no answer to what the task has asked for. -/
def turnWith? (task : TaskId) : Job → Response → Option Session
  | .supervise ⟨cycle, .calling asked⟩, .reply request reply =>
    if asked = request then
      some (session.carryOn task
        (session.supervisor.resume session.agenda task ⟨cycle, .calling request⟩ request reply))
    else none
  | .dispatch (.delivering envelope .sending), .sent result =>
    some ((session.mapConnection fun connection => (Delivery.resume connection envelope result).2).setJob task
      (.dispatch .idle))
  | .deliver label envelope .sending, .sent result =>
    let (answer, connection) := Delivery.resume session.connection envelope result
    some (((session.mapConnection fun _ => connection).report label answer).finish task)
  | _, _ => none

/-- The task at the head of the line takes its turn with this answer, if it waits for such a one. -/
def respond? (response : Response) : Option Session :=
  match session.agenda.ready with
  | [] => none
  | task :: _ =>
    match session.tasks.lookup task with
    | none => none
    | some entry =>
      if entry.cancelled then none
      else
        ((session.within entry.job.spans).turnWith? task entry.job response).map fun next => (next.within []).flush

/-- The task at the head of the line leaves the line without an answer, if it waits for one. -/
def suspend? : Option Session :=
  match session.agenda.ready with
  | [] => none
  | task :: _ =>
    if (session.tasks.lookup task).any fun entry => !entry.cancelled && entry.job.isAsking then
      some { session with agenda := session.agenda.yield }
    else none

/-- A task that waits for an answer joins the line again. -/
def rouse? (task : TaskId) : Option Session :=
  if (session.tasks.lookup task).any fun entry => entry.job.isAsking then
    some { session with agenda := session.agenda.wake task }
  else none

/-- The session after a happening, and what an action gave back; none if that cannot happen. -/
def goOn : Happening → Option (Answer × Session)
  | .act action => some (session.act action)
  | .turn => session.turn?.map fun next => (.nothing, next)
  | .respond response => (session.respond? response).map fun next => (.nothing, next)
  | .suspend => session.suspend?.map fun next => (.nothing, next)
  | .rouse task => (session.rouse? task).map fun next => (.nothing, next)
  | .strike instant => some (.nothing, session.strike instant)

/-! ### The impulses that come by themselves -/

/-- The impulses that come before the reply to a request. -/
def heardBefore : Request → List Impulse
  | .connectNetwork =>
    match session.modem.connect.1, session.modem.registers, session.modem.pause with
    | .ok (), true, none => Impulse.attachment session.modem.clockHandled
    | _, _, _ => []
  | .connectCloud =>
    match session.cloud.connect.1, session.cloud.pause with
    | .ok events, none => events.map .cloud
    | _, _ => []
  | _ => []

/-- The impulses that come in a turn of a task with a job. -/
def heardIn : Job → List Impulse
  | .supervise ⟨_, .calling request⟩ => session.heardBefore request
  | .raise _ (event :: _) => [.cloud event]
  | .attach clock => Impulse.attachment clock
  | .flap _ lost =>
    if session.modem.linkHandled then
      [.link (.registration (if lost then .registeredHome else .searching))]
    else []
  | _ => []

/-- The impulses that come with an action. -/
def heardWith : Action → List Impulse
  | .link event => [.link event]
  | .cloud event => [.cloud event]
  | .dateTime isValid => [.dateTime isValid]
  | .emit event => if session.cloud.isInitialized then [.cloud event] else []
  | .dropSession => if session.cloud.isInitialized then [.cloud .disconnected] else []
  | .emitLink event => if session.modem.linkHandled then [.link event] else []
  | .emitDateTime isValid => if session.modem.clockHandled then [.dateTime isValid] else []
  | .connectModem => session.heardBefore .connectNetwork
  | .connectTransport => session.heardBefore .connectCloud
  | _ => []

/-- The impulses that come with a happening. -/
def heard : Happening → List Impulse
  | .act action => session.heardWith action
  | .turn =>
    match session.agenda.ready with
    | [] => []
    | task :: _ =>
      match session.tasks.lookup task with
      | none => []
      | some entry => if entry.cancelled then [] else session.heardIn entry.job
  -- An answer that somebody else gives comes without impulses.
  | .respond _ | .suspend | .rouse _ | .strike _ => []

/-! ### Other impulses in their place -/

/-- The reply to a request that these impulses come before. -/
def replyHearing (request : Request) (impulses : List Impulse) : request.Reply × Session :=
  let (reply, after) := session.reply request
  (reply, after.mapConnection fun _ => session.connection.hear impulses)

/-- A turn of a task in which these impulses come. -/
def turnOfHearing (task : TaskId) (impulses : List Impulse) : Job → Session
  | .supervise ⟨cycle, .calling request⟩ =>
    let (reply, session) := session.replyHearing request impulses
    session.carryOn task
      (session.supervisor.resume session.agenda task ⟨cycle, .calling request⟩ request reply)
  | .raise pause (_ :: events) =>
    let session := session.hear impulses
    if events.isEmpty then session.finish task else session.setJob task (.raiseLater pause events)
  | .attach _ => (session.hear impulses).finish task
  | .flap interval lost =>
    let text := if lost then "Simulating cellular link recovery" else "Simulating cellular link loss"
    let session := (session.mapConnection fun connection => connection.log .info text []).hear impulses
    session.setJob task (.rest (if lost then interval else flapLength) (.flap interval (!lost)))
  | job => (session.hear impulses).turnOf task job

/-- One turn of the task at the head of the line in which these impulses come. -/
def turnHearing? (impulses : List Impulse) : Option Session :=
  match session.agenda.ready with
  | [] => none
  | task :: _ =>
    match session.tasks.lookup task with
    | none => some { session.hear impulses with agenda := session.agenda.yield }
    | some entry =>
      if entry.cancelled then some ((session.hear impulses).lastTurnOf task entry.job).flush
      else some (((session.within entry.job.spans).turnOfHearing task impulses entry.job).within []).flush

/-- An action that these impulses come with. -/
def performHearing (impulses : List Impulse) : Action → Answer × Session
  | .link _ | .cloud _ | .dateTime _ => (.nothing, session.hear impulses)
  | .connectModem => (session.replyHearing .connectNetwork impulses).map .modem id
  | .connectTransport => (session.replyHearing .connectCloud impulses).map .transport id
  | .emit _ => (.yesNo session.cloud.isInitialized, session.hear impulses)
  | .dropSession => (.yesNo session.cloud.isInitialized, { session with cloud := session.cloud.drop }.hear impulses)
  | .emitLink _ => (.yesNo session.modem.linkHandled, session.hear impulses)
  | .emitDateTime _ => (.yesNo session.modem.clockHandled, session.hear impulses)
  | action => (session.hear impulses).perform action

/-- A happening that these impulses come with. -/
def goOnHearing (impulses : List Impulse) : Happening → Option (Answer × Session)
  | .act action => some ((session.performHearing impulses action).map id flush)
  | .turn => (session.turnHearing? impulses).map fun next => (.nothing, next)
  | .respond response => ((session.hear impulses).respond? response).map fun next => (.nothing, next)
  | .suspend => (session.hear impulses).suspend?.map fun next => (.nothing, next)
  | .rouse task => ((session.hear impulses).rouse? task).map fun next => (.nothing, next)
  | .strike instant => some (.nothing, (session.hear impulses).strike instant)

/-! ### The impulses that come by themselves change nothing -/


/-- A modem that attaches lets its impulses come. -/
theorem attached_eq (clock : Bool) :
    attached clock = fun connection => connection.hear (Impulse.attachment clock) := by
  -- With a clock the time comes behind the standing, and otherwise the standing comes alone.
  cases clock <;> rfl

/-- Events of the cloud are impulses. -/
theorem onCloudEvents_eq (events : List CloudEvent) :
    (fun connection => events.foldl Connection.onCloudEvent connection) =
      fun connection => connection.hear (events.map .cloud) := by
  -- Each event is heard as the impulse of its name.
  funext connection
  rw [Connection.hear, List.foldl_map]
  rfl

/-- Without impulses a session is what it was. -/
@[simp] theorem hear_nil : session.hear [] = session := rfl

/-- A reply comes after its own impulses. -/
theorem reply_eq (request : Request) :
    session.reply request = session.replyHearing request (session.heardBefore request) := by
  cases request with
  | connectNetwork =>
    simp only [reply, replyHearing, heardBefore, connectModem, attached_eq]
    rcases asked : session.modem.connect with ⟨error | ⟨⟨⟩⟩, modem⟩
    · rfl
    · -- The modem is what it was, but for the events that reach the device from here on.
      obtain rfl : modem = { session.modem with linkHandled := true } := by
        simp only [Simulated.Modem.connect] at asked
        split at asked <;> simp_all
      cases session.modem.registers with
      | false => rfl
      | true =>
        simp only [Bool.not_true, Bool.false_eq_true, if_false]
        cases session.modem.pause with
        | none =>
          -- With both written out, what was heard needs no look.
          simp only [mapConnection]
          rfl
        | some pause => rfl
  | connectCloud =>
    simp only [reply, replyHearing, heardBefore, connectTransport, onCloudEvents_eq]
    rcases asked : session.cloud.connect with ⟨error | events, cloud⟩
    · rfl
    · -- The cloud is asked with the pause that it keeps.
      obtain pause : cloud.pause = session.cloud.pause := by
        simp only [Simulated.Cloud.connect] at asked
        split at asked
        · cases asked
        · split at asked <;> cases asked
          rfl
      simp only [pause]
      cases session.cloud.pause <;> rfl
  | modemInit | registerClock | transportInit | requestPsm | enableEvents | publishShadow | disconnectCloud =>
    rfl

/-- A turn is one in which its own impulses come. -/
theorem turnOf_eq (task : TaskId) (job : Job) :
    session.turnOf task job = session.turnOfHearing task (session.heardIn job) job := by
  -- Only four kinds of task let impulses come: one that asks for something, one that raises events, and
  -- those that play the modem.
  cases job with
  | supervise run =>
    obtain ⟨cycle, place⟩ := run
    cases place with
    | calling request => simp only [turnOf, turnOfRun, turnOfHearing, heardIn, ← reply_eq]
    | _ => rfl
  | raise pause events =>
    cases events with
    | nil => rfl
    | cons event later => rfl
  | attach clock =>
    simp only [turnOf, turnOfHearing, heardIn, attached_eq]
    rfl
  | flap interval lost =>
    have handled (change : Connection → Connection) :
        (session.mapConnection change).modem.linkHandled = session.modem.linkHandled := rfl
    simp only [turnOf, turnOfFlapping, turnOfHearing, heardIn, emitLink, handled]
    cases session.modem.linkHandled <;> rfl
  | _ => rfl

/-- A turn of the task at the head of the line is one in which its own impulses come. -/
theorem turn?_eq : session.turn? = session.turnHearing? (session.heard .turn) := by
  rcases line : session.agenda.ready with _ | ⟨task, rest⟩
  · simp [turn?, turnHearing?, line]
  · cases found : session.tasks.lookup task with
    | none => simp [turn?, turnHearing?, heard, line, found]
    | some entry =>
      cases stopped : entry.cancelled with
      | true => simp [turn?, turnHearing?, heard, line, found, stopped]
      | false =>
        -- The spans that entries are written in are no matter of what is heard.
        have opened := turnOf_eq (session.within entry.job.spans) task entry.job
        simp only [turn?, turnHearing?, heard, line, found, stopped, Bool.false_eq_true, if_false, opened]
        rfl

/-- An event that the cloud raises comes if the transport was set up. -/
theorem emit_eq (event : CloudEvent) :
    session.emit event = (session.cloud.isInitialized, session.hear (session.heardWith (.emit event))) := by
  -- A transport that was not set up raises nothing, and then nothing is heard.
  simp only [emit, heardWith]
  cases session.cloud.isInitialized <;> rfl

/-- An action is one that its own impulses come with. -/
theorem perform_eq (action : Action) :
    session.perform action = session.performHearing (session.heardWith action) action := by
  -- What an action lets come is read off the modem or the cloud before it is performed.
  cases action with
  | emit event => exact congrArg (Prod.map Answer.yesNo id) (emit_eq session event)
  | dropSession =>
    exact congrArg (Prod.map Answer.yesNo id)
      (emit_eq { session with cloud := session.cloud.drop } .disconnected)
  | emitLink event =>
    simp only [perform, performHearing, heardWith, emitLink]
    cases session.modem.linkHandled <;> rfl
  | emitDateTime isValid =>
    simp only [perform, performHearing, heardWith, emitDateTime]
    cases session.modem.clockHandled <;> rfl
  | connectModem => exact congrArg (Prod.map Answer.modem id) (reply_eq session .connectNetwork)
  | connectTransport => exact congrArg (Prod.map Answer.transport id) (reply_eq session .connectCloud)
  | _ => rfl

/-- A happening is one that its own impulses come with. -/
theorem goOn_eq (happening : Happening) :
    session.goOn happening = session.goOnHearing (session.heard happening) happening := by
  -- Only an action and a turn bring impulses of their own; each has a lemma.
  cases happening with
  | act action => simp only [goOn, goOnHearing, heard, act, ← perform_eq]
  | turn => simp only [goOn, goOnHearing, turn?_eq]
  | respond _ | suspend | rouse _ | strike _ => rfl

end Session

end Uplink
