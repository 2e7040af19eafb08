/-!
What can go wrong, by cause, with the text that is shown for each cause.
-/

namespace Uplink

/-- Why the cloud transport refused. -/
inductive TransportError where
  | notConnected
  | initFailed (reason : String)
  | connectFailed (reason : String)
  | sendFailed (reason : String)
  | code (status : Int)
deriving Repr, DecidableEq

/-- The text that is shown. -/
def TransportError.message : TransportError → String
  | .notConnected => "Not connected to the cloud"
  | .initFailed reason => "Transport initialization failed: " ++ reason
  | .connectFailed reason => "Connect request failed: " ++ reason
  | .sendFailed reason => "Send failed: " ++ reason
  | .code status => "Transport returned error code " ++ toString status

/-- Why the modem refused, with the code that it gave. -/
inductive ModemError where
  | initFailed (code : Int)
  | psmRequestFailed (code : Int)
  | eventsUnavailable (code : Int)
  | connectFailed (code : Int)
deriving Repr, DecidableEq

/-- The text that is shown. -/
def ModemError.message : ModemError → String
  | .initFailed code => "Modem library initialization failed, error: " ++ toString code
  | .psmRequestFailed code => "Failed to set PSM parameters, error: " ++ toString code
  | .eventsUnavailable code => "Enabling modem events failed, error: " ++ toString code
  | .connectFailed code => "Modem could not be configured, error: " ++ toString code

/-- Why a message was not queued. -/
inductive QueueError where
  /-- The message is empty. -/
  | invalidArgument
  | full (capacity : Nat)
  | closed
deriving Repr, DecidableEq

/-- The text that is shown. -/
def QueueError.message : QueueError → String
  | .invalidArgument => "Invalid argument: device message is empty"
  | .full capacity => "Outgoing message queue is full (capacity " ++ toString capacity ++ ")"
  | .closed => "Outgoing message queue is closed"

/-- Which part of the setup failed. -/
inductive SetupError where
  | modem (cause : ModemError)
  | cloud (cause : TransportError)
  | network (cause : ModemError)
deriving Repr, DecidableEq

/-- The text that is shown. -/
def SetupError.message : SetupError → String
  | .modem cause => "Modem setup failed: " ++ cause.message
  | .cloud cause => "Cloud library setup failed: " ++ cause.message
  | .network cause => "Network setup failed: " ++ cause.message

/-- The text of the cause. -/
def SetupError.causeMessage : SetupError → String
  | .modem cause => cause.message
  | .cloud cause => cause.message
  | .network cause => cause.message

/-- Why there is no usable configuration. -/
inductive ConfigError where
  | fileRead (reason : String)
  /-- The text is no TOML document. -/
  | malformed
  /-- The document does not have the shape of a configuration. -/
  | shape (reason : String)
  | invalid (reason : String)
deriving Repr, DecidableEq

/-- The text that is shown. -/
def ConfigError.message : ConfigError → String
  | .fileRead reason => "Failed to read config file: " ++ reason
  | .malformed => "Failed to parse TOML: malformed document"
  | .shape reason => "Failed to parse TOML: " ++ reason
  | .invalid reason => "Invalid configuration: " ++ reason

/-- The text of the cause, if the failure has one of its own. -/
def ConfigError.causes : ConfigError → List String
  | .fileRead reason => [reason]
  | .malformed => ["malformed document"]
  | .shape reason => [reason]
  | .invalid _ => []

/-- Any failure of the program. -/
inductive Failure where
  | config (cause : ConfigError)
  | transport (cause : TransportError)
  | modem (cause : ModemError)
  | queue (cause : QueueError)
  | setup (cause : SetupError)
  | io (reason : String)
deriving Repr, DecidableEq

namespace Failure

/-- The short label that log entries show. -/
def kind : Failure → String
  | config _ => "config"
  | transport _ => "transport"
  | modem _ => "modem"
  | queue _ => "queue"
  | setup _ => "orchestrator"
  | io _ => "io"

/-- The text that is shown. -/
def message : Failure → String
  | config cause => "Configuration error: " ++ cause.message
  | transport cause => "Cloud transport error: " ++ cause.message
  | modem cause => "Modem error: " ++ cause.message
  | queue cause => "Message queue error: " ++ cause.message
  | setup cause => "Connection orchestrator halted: " ++ cause.message
  | io reason => "I/O error: " ++ reason

/-- Whether the same operation may succeed later. -/
def isTransient : Failure → Bool
  -- A session may come up again and a queue may empty; nothing else passes by itself.
  | transport .notConnected => true
  | queue (.full _) => true
  | _ => false

/-- The texts of the causes, the nearest first. -/
def causes : Failure → List String
  | config cause => cause.message :: cause.causes
  | transport cause => [cause.message]
  | modem cause => [cause.message]
  | queue cause => [cause.message]
  | setup cause => [cause.message, cause.causeMessage]
  | io reason => [reason]

end Failure

end Uplink
