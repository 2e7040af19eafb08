import Uplink.Queue.Outgoing

/-!
Envelopes that were received and are kept, each under a key, until somebody drops them.
-/

namespace Uplink.Queue

/-- The kept envelopes by key, the latest first. -/
abbrev Kept := List (Nat × Envelope)

namespace Kept

/-- Drop what is kept under a key. -/
def release (kept : Kept) (queue : Outgoing) (key : Nat) : Kept × Outgoing :=
  match kept.lookup key with
  | none => (kept, queue)
  | some envelope => (kept.filter (·.1 ≠ key), queue.release envelope)

/-- Keep an envelope under its key, in place of what was kept there, or drop it if it has none. -/
def dispose (kept : Kept) (queue : Outgoing) (key : Option Nat) (envelope : Envelope) :
    Kept × Outgoing :=
  match key with
  | none => (kept, queue.release envelope)
  | some key =>
    -- Two envelopes under one key would leave one that nobody can drop.
    let (kept, queue) := kept.release queue key
    ((key, envelope) :: kept, queue)

end Kept

end Uplink.Queue
