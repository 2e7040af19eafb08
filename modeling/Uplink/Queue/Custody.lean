import Uplink.Message

/-!
Who holds a message: how many private copies are alive, and how many hold each of the sender's
messages.

An envelope takes custody when it is made, and whoever drops it releases it.
-/

namespace Uplink.Queue

/-- The counts of private copies and of the holders of each message. -/
structure Custody where
  copies : Nat := 0
  /-- For each of the sender's messages, how many hold it, its sender included. -/
  holders : List Nat := []
deriving Repr, DecidableEq

namespace Custody

/-- The sender alone holds each of so many messages. -/
def ofMessages (count : Nat) : Custody :=
  { holders := List.replicate count 1 }

/-- Put a message into an envelope. -/
def wrap (custody : Custody) (message : Message) (handle : Handle) : HoldMode → Envelope × Custody
  | .copy => (⟨message, handle, true⟩, { custody with copies := custody.copies + 1 })
  | .reference =>
    (⟨message, handle, false⟩, { custody with holders := custody.holders.modify handle (· + 1) })

/-- Drop an envelope. -/
def release (custody : Custody) (envelope : Envelope) : Custody :=
  -- Whoever drops an envelope has had one, so there is something to take off.
  if envelope.owned then { custody with copies := custody.copies - 1 }
  else { custody with holders := custody.holders.modify envelope.handle (· - 1) }

end Custody

end Uplink.Queue
