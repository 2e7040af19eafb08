/-!
A bounded channel: a line of items with a fixed number of slots.

A slot is taken when an item is sent and given back when one is received. A closed channel takes
nothing more, but gives out what it holds.
-/

namespace Uplink.Queue

/-- A bounded line of items. -/
structure Channel (α : Type) where
  capacity : Nat
  /-- Slots that nobody has taken. -/
  free : Nat
  /-- The oldest item stands first. -/
  items : List α
  closed : Bool

/-- Why an item was not sent. -/
inductive SendError where
  | full
  | closed
deriving Repr, DecidableEq

namespace Channel

variable {α : Type}

/-- An open channel with every slot free. -/
def empty (capacity : Nat) : Channel α :=
  ⟨capacity, capacity, [], false⟩

/-- The number of slots that are taken. -/
def taken (channel : Channel α) : Nat :=
  channel.capacity - channel.free

/-- Send an item without waiting. That the channel is closed counts before that it is full. -/
def trySend (channel : Channel α) (item : α) : Except SendError (Channel α) :=
  if channel.closed then .error .closed
  else if channel.free = 0 then .error .full
  else .ok { channel with free := channel.free - 1, items := channel.items ++ [item] }

/-- Take the oldest item, if there is one, and give its slot back. -/
def tryReceive (channel : Channel α) : Option α × Channel α :=
  match channel.items with
  | [] => (none, channel)
  | item :: rest => (some item, { channel with free := channel.free + 1, items := rest })

/-- Take nothing more in. -/
def close (channel : Channel α) : Channel α :=
  { channel with closed := true }

end Channel

end Uplink.Queue
