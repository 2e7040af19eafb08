import Uplink.Agenda

/-!
A flag register: 32 bits that are raised together, cleared all at once, and waited for.

A post hands its bits to every waiter that it satisfies, at that moment. What was handed over stays
with the wait, so a reset that follows does not take it back. A waiter whose wait has timed out or
was given up is only marked, and leaves the list at the next post.
-/

namespace Uplink.Flags

/-- Numbers the waits that have parked on a register, in the order in which they parked. -/
abbrev Ticket := Nat

/-- What a wait asks of the bits. -/
inductive Condition where
  /-- At least one bit of the mask is set. -/
  | any (mask : UInt32)
  /-- Every bit of the mask is set. -/
  | all (mask : UInt32)
deriving Repr, DecidableEq

/-- The bits that satisfy a condition: those of the mask that are set, or the whole mask. -/
def Condition.matched : Condition → UInt32 → Option UInt32
  -- An empty mask has no bit that could be set, and none that could be missing.
  | .any mask, bits => if bits &&& mask ≠ 0 then some (bits &&& mask) else none
  | .all mask, bits => if bits &&& mask = mask then some mask else none

/-- How long a wait may last. -/
inductive Timeout where
  | forever
  /-- Only look at the register as it is. -/
  | noWait
  /-- At most so many milliseconds. -/
  | after (span : Nat)
deriving Repr, DecidableEq

/-- A wait that parked on the register. -/
structure Waiter where
  ticket : Ticket
  /-- The task to wake. -/
  owner : TaskId
  condition : Condition
  /-- The wait has timed out or was given up. -/
  gone : Bool := false
deriving Repr, DecidableEq

/-- The bits, those who wait for them, and what has been handed over. -/
structure Register where
  name : String
  bits : UInt32 := 0
  /-- The newest waiter stands first. -/
  waiters : List Waiter := []
  /-- Bits handed to a wait that has not picked them up yet. -/
  handed : List (Ticket × UInt32) := []
  /-- The ticket that the next wait to park gets. -/
  nextTicket : Ticket := 0
deriving Repr, DecidableEq

/-- Where a wait stands. -/
inductive Wait where
  /-- It found its answer at once. -/
  | answered (bits : UInt32)
  /-- It parked, and ends without an answer at the deadline, if there is one. -/
  | parked (ticket : Ticket) (deadline : Option Nat)
deriving Repr, DecidableEq

/-- The deadline that a wait still has to meet. -/
def Wait.deadline? : Wait → Option Nat
  | .answered _ => none
  | .parked _ deadline => deadline

namespace Register

/-- Whether any bit of the mask is set. -/
def isSet (register : Register) (mask : UInt32) : Bool :=
  register.bits &&& mask != 0

/-- The waiters that are still there, the one that parked first in front. -/
def present (register : Register) : List Waiter :=
  (register.waiters.filter (!·.gone)).reverse

/-- The waiters that the bits satisfy, in the order in which they parked. -/
def satisfied (register : Register) (bits : UInt32) : List Waiter :=
  register.present.filter fun waiter => (waiter.condition.matched bits).isSome

/-- Raise the bits of the mask and hand them to every waiter that is satisfied now. The answer
holds the tasks to wake, in the order in which their waits parked. -/
def post (register : Register) (mask : UInt32) : Register × List TaskId :=
  let bits := register.bits ||| mask
  let ready := register.satisfied bits
  -- Those who have gone leave the list together with those who are satisfied.
  ({ register with
      bits := bits
      waiters := register.waiters.filter fun waiter => !waiter.gone && (waiter.condition.matched bits).isNone
      handed := register.handed ++
        ready.filterMap fun waiter => (waiter.condition.matched bits).map fun bits => (waiter.ticket, bits) },
    ready.map (·.owner))

/-- Clear every bit. Waiters stay. -/
def reset (register : Register) : Register :=
  -- What was handed over is kept apart from the bits.
  { register with bits := 0 }

/-- Park a wait. -/
def park (register : Register) (owner : TaskId) (condition : Condition) (deadline : Option Nat) :
    Wait × Register :=
  (.parked register.nextTicket deadline,
    { register with
      waiters := { ticket := register.nextTicket, owner, condition } :: register.waiters
      nextTicket := register.nextTicket + 1 })

/-- Begin a wait: it is answered at once if its condition holds or it may not last, and parks
otherwise. -/
def wait (register : Register) (agenda : Agenda) (owner : TaskId) (condition : Condition)
    (timeout : Timeout) : Wait × Register :=
  match condition.matched register.bits with
  | some bits => (.answered bits, register)
  | none =>
    -- Zero stands for the lack of an answer: no condition that is satisfied gives it for a mask with bits.
    match timeout with
    | .noWait => (.answered 0, register)
    | .forever => register.park owner condition none
    | .after span => register.park owner condition (agenda.deadline span)

/-- Mark the waiter of a ticket, looking at the newest waiters first. -/
def markGone (ticket : Ticket) : List Waiter → List Waiter
  | [] => []
  | waiter :: older =>
    if waiter.ticket = ticket then { waiter with gone := true } :: older
    else waiter :: markGone ticket older

/-- Give a wait up: its waiter counts as gone, and what was handed to it is dropped. -/
def abandon (register : Register) : Wait → Register
  -- A wait that was answered at once has never stood in the list.
  | .answered _ => register
  | .parked ticket _ =>
    { register with
      waiters := markGone ticket register.waiters
      handed := register.handed.filter (·.1 ≠ ticket) }

/-- Look after a wait: what was handed to it wins over its deadline; without either it goes on. -/
def poll (register : Register) (agenda : Agenda) : Wait → Option UInt32 × Register
  | .answered bits => (some bits, register)
  | .parked ticket deadline =>
    -- What was handed over in time counts even if the task gets its turn after the deadline.
    match register.handed.lookup ticket with
    | some bits => (some bits, { register with handed := register.handed.filter (·.1 ≠ ticket) })
    | none =>
      if agenda.reached deadline then (some 0, register.abandon (.parked ticket deadline))
      else (none, register)

end Register

end Uplink.Flags
