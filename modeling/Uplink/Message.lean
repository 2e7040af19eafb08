import Uplink.Uuid
import Uplink.Instant
import Uplink.Value

/-!
Messages from the device to the cloud, and the forms in which a queue holds them.
-/

namespace Uplink

/-- A message with its identifier, the instant of its making and its body. -/
structure Message where
  id : Uuid
  createdAt : Instant
  payload : Value

/-- Whether the message is empty, so that it cannot be queued. -/
def Message.isNull (message : Message) : Bool :=
  message.payload.isNull

/-- How a queue holds a message. -/
inductive HoldMode where
  /-- A private copy. -/
  | copy
  /-- The sender's own message, shared. -/
  | reference
deriving Repr, DecidableEq

/-- The name that log entries show. -/
def HoldMode.name : HoldMode → String
  | .copy => "Copy"
  | .reference => "Reference"

/-- Numbers the messages of a sender. -/
abbrev Handle := Nat

/-- A queued message. Whoever holds it last has to release it. -/
structure Envelope where
  message : Message
  /-- The sender's message that it was made from. -/
  handle : Handle
  /-- Whether it is a private copy. -/
  owned : Bool

end Uplink
