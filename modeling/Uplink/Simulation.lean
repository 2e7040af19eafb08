import Uplink.Session.Action

/-!
A simulation: a session that runs by itself against a simulated modem and a simulated cloud.

The modem attaches after a while, the cloud raises its events with pauses, temperature samples are
queued at a fixed interval once the date and the time are known, and the radio link may be lost now
and then. A signal ends the simulation: sampling and the losses of the link stop, the queue is
closed, and the simulation is over once the dispatcher is.
-/

namespace Uplink

/-- What a simulation is started with. -/
structure Simulation where
  config : Config
  script : Simulated.Script
  /-- The number of seconds between two losses of the radio link, if it is to be lost. -/
  dropEvery : Option Nat := none
  /-- The number of seconds between two samples. -/
  sampleEvery : Nat := 10

/-- What can end a simulation. -/
inductive Signal where
  | interrupt
  | terminate
deriving Repr, DecidableEq

/-- The name that log entries show. -/
def Signal.name : Signal → String
  | .interrupt => "SIGINT"
  | .terminate => "SIGTERM"

/-- A simulation under way. -/
structure Simulation.Running where
  session : Session
  /-- The tasks that stop when the simulation is to end. -/
  drivers : List TaskId

/-- How a simulation ended. -/
structure Simulation.Ending where
  session : Session
  /-- Whether the dispatcher was over in time. -/
  completed : Bool

namespace Simulation

/-- The pause before each event of the cloud, in milliseconds. -/
def eventPause : Nat := 500

/-- The pause before the modem attaches, in milliseconds. -/
def attachPause : Nat := 2000

/-- A number of seconds in milliseconds, of which there is at least one. -/
def interval (seconds : Nat) : Nat :=
  max seconds 1 * 1000

/-- The session of a simulation before anything runs. -/
def session (simulation : Simulation) : Session :=
  let session := { Session.ofConfig simulation.config 0 with
    cloud := { script := simulation.script, pause := some eventPause }
    modem := { pause := some attachPause } }
  session.mapConnection fun connection =>
    { connection.log .info "Running against simulated modem and cloud"
        [("app_version", .text simulation.config.device.appVersion), ("script", .text simulation.script.name)] with
      inboundHandler := some .note }

/-- Start the supervisor, the dispatcher, the sampling and, if asked for, the losses of the link. -/
def begin (simulation : Simulation) : Running :=
  let session := simulation.session.start.startDispatcher
  let sampling := interval simulation.sampleEvery
  let (sampler, session) := session.spawn (.sample sampling .arriving)
  match simulation.dropEvery with
  | none => ⟨session, [sampler]⟩
  | some seconds =>
    let (flapper, session) := session.spawn (.rest (interval seconds) (.flap (interval seconds) false))
    ⟨session, [sampler, flapper]⟩

/-- A signal has come: stop the sampling and the losses of the link, and close the queue. -/
def Running.shutDown (running : Running) (signal : Signal) : Session :=
  let session := running.session.mapConnection fun connection =>
    connection.log .info ("Received " ++ signal.name ++ ", shutting down gracefully...") []
  ((running.drivers.foldl Session.stop session).mapConnection Connection.closeQueue).flush

/-- Wait until the dispatcher is over, but not beyond an instant. -/
def conclude (session : Session) (limit : Nat) : Ending :=
  let session := Timed.runTo (·.dispatcherEnded) limit Timed.patience session
  -- Those who were woken before the end still have their turns.
  if session.dispatcherEnded then ⟨session.settle, true⟩ else ⟨session, false⟩

/-- Run a simulation that gets a signal at an instant, and has so many milliseconds to end. -/
def run (simulation : Simulation) (signal : Signal) (instant grace : Nat) : Ending :=
  let running := simulation.begin
  let running := { running with session := running.session.runUntil instant }
  conclude (running.shutDown signal) (instant + grace)

end Simulation

end Uplink
