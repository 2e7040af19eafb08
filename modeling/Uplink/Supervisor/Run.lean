import Uplink.Supervisor.Basic

/-!
A run of the supervisor: the setup, once, and then one cycle of the connection after the other.

A cycle waits for the network, asks the transport to connect until it is connected, waits for the
session to become ready, publishes the shadow, and waits for the session to drop. However the
session ended, the cycle lets late events settle, disconnects, clears the cloud register once and
pauses. A run is put together from steps: it is at one place of its program, and either does the
next piece of work there, waits, or has asked for something and goes on with the reply.
-/

namespace Uplink

open Flags (Wait Timeout)

namespace Supervisor

/-- Where a run is in its program. -/
inductive Place where
  | starting
  /-- It has asked for something and waits for the reply. -/
  | calling (request : Request)
  /-- A cycle is about to begin. -/
  | cycleStart
  | awaitingNetwork (wait : Wait)
  | awaitingCloud (wait : Wait)
  | awaitingReady (wait : Wait)
  | awaitingDrop (wait : Wait)
  /-- It lets late events arrive. -/
  | settling (due : Option Nat)
  /-- It pauses before the next cycle. -/
  | backingOff (due : Option Nat)
deriving Repr, DecidableEq

/-- A run of the supervisor. -/
structure Run where
  /-- The number of the cycle, or zero during the setup. -/
  cycle : Nat := 0
  place : Place := .starting
deriving Repr, DecidableEq

/-- The span that the entries of a cycle are written in. -/
def Run.spans (run : Run) : List Span :=
  if run.cycle = 0 then [] else [⟨"connection_cycle", [("cycle", .int run.cycle)]⟩]

/-- The deadline that a place has to meet. -/
def Place.deadline? : Place → Option Nat
  | .awaitingNetwork wait => wait.deadline?
  | .awaitingCloud wait => wait.deadline?
  | .awaitingReady wait => wait.deadline?
  | .awaitingDrop wait => wait.deadline?
  | .settling due => due
  | .backingOff due => due
  | _ => none

/-- What one step of a run leads to, and the supervisor after it. -/
abbrev Stepped := Progress SetupError Run × Supervisor

variable (supervisor : Supervisor) (agenda : Agenda) (task : TaskId) (run : Run)

/-- Go on from another place. -/
def goTo (place : Place) : Stepped :=
  (.next { run with place }, supervisor)

/-- Ask for something. -/
def ask (request : Request) : Stepped :=
  { supervisor with history := (agenda.now, .asked request) :: supervisor.history }.goTo run
    (.calling request)

/-- Stop, as the setup failed. -/
def halt (error : SetupError) : Stepped :=
  (.done error,
    ((supervisor.log .error "Fatal: connection setup failed" [("error", .text error.message)]).advance
      agenda.now .setupFailed).indicate .failure true)

/-- Ask the transport to connect, for the first time in a cycle or again. -/
def attempt : Stepped :=
  (supervisor.count .connectAttempt).ask agenda run .connectCloud

/-- Begin the time in which late events arrive. -/
def letSettle : Stepped :=
  supervisor.goTo run (.settling (agenda.deadline (ConnectionSection.millis supervisor.config.connection.settleDelay)))

/-- Begin the next cycle. -/
def nextCycle : Stepped :=
  (.next { cycle := run.cycle + 1, place := .cycleStart }, supervisor)

/-- One step of a run that does not wait for a reply. -/
def step : Stepped :=
  let parked : Stepped := (.parked run, supervisor)
  match run.place with
  | .starting => ((supervisor.indicate .waiting true).log .info "Setting up modem...").ask agenda run .modemInit
  | .calling _ => parked
  -- Every cycle begins with the network, however the one before it has ended.
  | .cycleStart =>
    let supervisor := (supervisor.log .info "Waiting for connection to network...").indicate .waiting false
    let (wait, connection) := supervisor.connection.awaitNetwork agenda task .forever
    { supervisor with connection }.goTo run (.awaitingNetwork wait)
  | .awaitingNetwork wait =>
    match supervisor.connection.poll agenda .network wait with
    | (none, _) => parked
    | (some _, connection) =>
      let supervisor := ({ supervisor with connection }.log .info "Connected to network").advance
        agenda.now .networkUp
      (supervisor.log .info "Connecting to cloud...").attempt agenda run
  | .awaitingCloud wait =>
    match supervisor.connection.poll agenda .cloud wait with
    | (none, _) => parked
    | (some bits, connection) =>
      let supervisor := { supervisor with connection }
      -- Without a connection in time the same cycle asks again.
      if bits = 0 then
        ((supervisor.log .info "Cloud connection not established yet, retrying").advance agenda.now
          .connectTimedOut).attempt agenda run
      else
        let supervisor := ((supervisor.count .cloudConnectionEstablished).advance agenda.now
          .cloudConnected).log .info "Connected to cloud, waiting for session to become ready"
        let timeout := Timeout.after (ConnectionSection.millis supervisor.config.connection.readyTimeout)
        let (wait, connection) := supervisor.connection.awaitReady agenda task timeout true
        { supervisor with connection }.goTo run (.awaitingReady wait)
  | .awaitingReady wait =>
    match supervisor.connection.poll agenda .cloud wait with
    | (none, _) => parked
    | (some bits, connection) =>
      let supervisor := { supervisor with connection }
      -- Only the ready bit alone is success: a session that has dropped too is no ready one.
      if bits = Cloud.ready then
        ((((supervisor.log .info "Connected to cloud and ready").count .cloudReady).advance agenda.now
          .cloudReady).indicate .connected false).ask agenda run .publishShadow
      else
        ((((supervisor.log .info "Timed out or disconnected while waiting for cloud to be ready").log .info
          "Failed to connect to cloud").count .readyTimeout).advance agenda.now .readyTimedOut).letSettle
          agenda run
  | .awaitingDrop wait =>
    match supervisor.connection.poll agenda .cloud wait with
    | (none, _) => parked
    | (some _, connection) =>
      (({ supervisor with connection }.log .info "Disconnected from cloud").advance agenda.now
        .disconnected).letSettle agenda run
  | .settling due =>
    -- What has arrived by now is cleared by the reset that this leads to.
    if agenda.reached due then
      (supervisor.log .info "Disconnecting from cloud").ask agenda run .disconnectCloud
    else parked
  | .backingOff due =>
    if agenda.reached due then (supervisor.advance agenda.now .backoffElapsed).nextCycle run else parked

/-- The modem is up; what it did to come up is logged. -/
def noteModemStart : ModemStart → Supervisor
  | .initialized => supervisor.log .debug "Modem library initialized"
  | .firmwareUpdated => supervisor.log .info "Modem firmware update applied during init"
  | .firmwareUpdateFailed code =>
    supervisor.log .warn "Modem firmware update failed, continuing with current firmware"
      [("code", .int code)]

/-- Whether the transport could be disconnected does not matter, but is logged. -/
def noteDisconnect : Except TransportError Unit → Supervisor
  | .ok () => supervisor.log .info "Disconnected from cloud"
  | .error .notConnected =>
    supervisor.log .info "Cannot disconnect from cloud because we are not currently connected"
  | .error error =>
    supervisor.log .error "Cannot disconnect from cloud, continuing anyway" [("error", .text error.message)]

/-- Go on with the reply to a request. -/
def resume : (request : Request) → request.Reply → Stepped
  | .modemInit, .ok start => (supervisor.noteModemStart start).ask agenda run .registerClock
  | .modemInit, .error error => supervisor.halt agenda (.modem error)
  | .registerClock, () =>
    ((supervisor.advance agenda.now .setupSucceeded).log .info "Setting up cloud library...").ask agenda run
      .transportInit
  | .transportInit, .ok () =>
    let supervisor := (supervisor.advance agenda.now .setupSucceeded).log .info "Setting up network..."
    -- The power saving mode is the one part of the setup that the configuration can leave out.
    if supervisor.config.features.powerSavingMode then
      (supervisor.log .info "Requesting PSM mode").ask agenda run .requestPsm
    else supervisor.ask agenda run .enableEvents
  | .transportInit, .error error => supervisor.halt agenda (.cloud error)
  | .requestPsm, .ok () => (supervisor.log .info "PSM mode requested").ask agenda run .enableEvents
  | .requestPsm, .error error => supervisor.halt agenda (.network error)
  | .enableEvents, .ok () =>
    (supervisor.log .info "Starting connection to LTE network...").ask agenda run .connectNetwork
  | .enableEvents, .error error => supervisor.halt agenda (.network error)
  | .connectNetwork, .ok () =>
    -- Two phases pass at once: the bring-up is requested, and with that the setup is over.
    (((supervisor.advance agenda.now .setupSucceeded).advance agenda.now .setupSucceeded).log .info
      "Connecting to network. This may take several minutes...").nextCycle run
  | .connectNetwork, .error error => supervisor.halt agenda (.network error)
  -- A request that failed is waited for like any other, as long as an attempt may take.
  | .connectCloud, result =>
    let supervisor := match result with
      | .ok () => supervisor
      | .error error =>
        supervisor.log .error "Cloud connection request failed" [("error", .text error.message)]
    let retry := supervisor.config.connection.retryTimeout
    let supervisor := supervisor.log .info "Waiting for cloud connection"
      [("retry_timeout_secs", .int retry.toNat)]
    let (wait, connection) :=
      supervisor.connection.awaitCloud agenda task (.after (ConnectionSection.millis retry))
    { supervisor with connection }.goTo run (.awaitingCloud wait)
  -- A session whose shadow could not be published is kept up all the same.
  | .publishShadow, result =>
    let supervisor := { supervisor with connection := supervisor.connection.notePublish result }.advance
      agenda.now .shadowPublished
    let (wait, connection) := supervisor.connection.awaitDisconnection agenda task .forever
    { supervisor with connection }.goTo run (.awaitingDrop wait)
  | .disconnectCloud, result =>
    let supervisor := supervisor.noteDisconnect result
    -- Everything that the session has raised is forgotten together.
    let supervisor := { supervisor with connection := supervisor.connection.clearCloud }
    let supervisor := ((supervisor.count .resetPerformed).log .info "Cloud connection state reset").advance
      agenda.now .resetComplete
    supervisor.goTo run
      (.backingOff (agenda.deadline (ConnectionSection.millis supervisor.config.connection.reestablishDelay)))

/-- Give a run up wherever it is: a wait that it has begun is abandoned. -/
def abandon : Supervisor :=
  match run.place with
  | .awaitingNetwork wait => { supervisor with connection := supervisor.connection.abandon .network wait }
  | .awaitingCloud wait => { supervisor with connection := supervisor.connection.abandon .cloud wait }
  | .awaitingReady wait => { supervisor with connection := supervisor.connection.abandon .cloud wait }
  | .awaitingDrop wait => { supervisor with connection := supervisor.connection.abandon .cloud wait }
  | _ => supervisor

end Supervisor

end Uplink
