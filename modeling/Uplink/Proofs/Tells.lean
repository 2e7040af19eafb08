import Uplink.Proofs.Heed
import Uplink.Session.Turn

/-! What is told to those who wait: an event that ends a wait hands over the bits that it leaves behind. -/

namespace Uplink

open Flags (Condition Register Ticket)

/-! ### Bits and masks -/

/-- A mask meets raised bits where it meets what was there or what was added. -/
theorem Flags.raised_and (bits more mask : UInt32) :
    (bits ||| more) &&& mask = bits &&& mask ||| more &&& mask := by
  -- The bits are compared one by one.
  apply UInt32.eq_of_toBitVec_eq
  ext i h
  simp only [UInt32.toBitVec_and, UInt32.toBitVec_or, BitVec.getElem_and, BitVec.getElem_or]
  grind

/-- Bits outside of a mask do not meet a wait for any bit of it. -/
theorem Flags.Condition.any_raised {mask bits more : UInt32}
    (unmet : (Condition.any mask).matched bits = none) (apart : more &&& mask = 0) :
    (Condition.any mask).matched (bits ||| more) = none := by
  -- Neither the old bits nor the new ones have a part in the mask.
  have none : (bits ||| more) &&& mask = 0 := by
    rw [Flags.raised_and, any_unmet unmet, apart]
    rfl
  simp [matched, none]

/-! ### Quiet events -/

/-- An event of the cloud that raises none of the bits for which a session is waited for. -/
def CloudEvent.Quiet : CloudEvent → Prop
  | .connecting | .connected | .userAssociationRequest => True
  | _ => False

/-- Of the events that follow on a connect request only the last is not quiet. -/
theorem Simulated.Script.quiet (script : Simulated.Script) (sessions : Nat) :
    ∀ event ∈ (script.events sessions).dropLast, event.Quiet := by
  -- The scripts are short enough to be looked through.
  intro event listed
  cases script with
  | silent => simp [Simulated.Script.events] at listed
  | neverReady =>
    obtain rfl := List.mem_singleton.mp listed
    exact trivial
  | ready =>
    rcases List.mem_pair.mp listed with rfl | rfl <;> exact trivial
  | association =>
    cases sessions with
    | zero =>
      simp only [Simulated.Script.events, List.dropLast_cons_cons, List.dropLast_singleton, List.mem_cons,
        List.not_mem_nil, or_false] at listed
      rcases listed with rfl | rfl | rfl <;> exact trivial
    | succ earlier =>
      rcases List.mem_pair.mp listed with rfl | rfl <;> exact trivial

namespace Connection

/-! ### Waits that are left alone, and waits that are told -/

/-- Whoever waited for this still does. -/
def Leaves (before after : Connection) (name : RegisterName) (condition : Condition) : Prop :=
  ∀ ticket task, (before.register name).Lists ticket task condition →
    (after.register name).Lists ticket task condition

/-- Whoever waited for this still does, or has in hand what the bits say now, and is to be woken. -/
def Tells (before after : Connection) (name : RegisterName) (condition : Condition) : Prop :=
  ∀ ticket task, (before.register name).Lists ticket task condition →
    (after.register name).Lists ticket task condition ∨
      task ∈ after.woken ∧ ∃ bits, condition.matched (after.register name).bits = some bits ∧
        (after.register name).Hands ticket bits

variable {before middle after : Connection} {name other : RegisterName} {condition : Condition}

/-- A register that is the same leaves everybody waiting. -/
theorem leaves_of_same (same : after.register name = before.register name) :
    before.Leaves after name condition := by
  -- The list is the same.
  intro ticket task listed
  rwa [same]

/-- Those who were left waiting twice were left waiting. -/
theorem Leaves.trans (first : before.Leaves middle name condition)
    (second : middle.Leaves after name condition) : before.Leaves after name condition :=
  -- Whoever is in the last list is followed from the first through the middle one.
  fun ticket task listed => second ticket task (first ticket task listed)

/-- A log entry leaves everybody waiting. -/
theorem leaves_log (connection : Connection) (level : Level) (message : String) (fields : Fields) :
    connection.Leaves (connection.log level message fields) name condition :=
  -- An entry leaves each register as it is.
  leaves_of_same (register_log connection level message fields name)

/-- Counting leaves everybody waiting. -/
theorem leaves_count (connection : Connection) (event : Metrics.Count) :
    connection.Leaves (connection.count event) name condition :=
  -- A count leaves each register as it is.
  leaves_of_same (register_count connection event name)

/-- A register that is cleared leaves everybody waiting. -/
theorem leaves_clear (connection : Connection) (other : RegisterName) :
    connection.Leaves (connection.clear other) name condition := by
  -- The bits go and the list stays, in this register or in another one.
  intro ticket task listed
  by_cases same : name = other
  · subst same
    simpa [Register.reset, Register.Lists] using listed
  · simpa [register_clear_of_ne same] using listed

/-- Raising bits that do not meet a condition leaves everybody waiting for it. -/
theorem leaves_post {connection : Connection} {mask : UInt32}
    (unmet : condition.matched ((connection.register name).bits ||| mask) = none) :
    connection.Leaves (connection.post name mask) name condition := by
  -- Only those whose condition is met are taken out of the list.
  intro ticket task listed
  simpa using listed.post_unmet unmet

/-- Raising bits outside of a mask leaves everybody waiting for one of the mask. -/
theorem leaves_post_of_apart {connection : Connection} {more mask : UInt32}
    (orderly : (connection.register name).Orderly) (apart : more &&& mask = 0) :
    connection.Leaves (connection.post name more) name (.any mask) := by
  -- Nobody stands in the list of a register in order whose condition is met.
  intro ticket task listed
  have unmet := orderly.unmet _ listed rfl
  exact leaves_post (Condition.any_raised unmet apart) ticket task listed

/-- Those who are left waiting have nothing to be told. -/
theorem Leaves.tells (leaves : before.Leaves after name condition) : before.Tells after name condition :=
  -- The waiter is still in the list.
  fun ticket task listed => .inl (leaves ticket task listed)

/-- Those who were left waiting are told by what follows. -/
theorem Leaves.tells_of (leaves : before.Leaves middle name condition)
    (tells : middle.Tells after name condition) : before.Tells after name condition :=
  -- The waiter is still in the list when the telling begins.
  fun ticket task listed => tells ticket task (leaves ticket task listed)

/-- What was told stays so as long as the register does and nobody is put back to sleep. -/
theorem Tells.keep (tells : before.Tells middle name condition)
    (same : after.register name = middle.register name) (woken : middle.woken ⊆ after.woken) :
    before.Tells after name condition := by
  -- Whether the waiter is listed or has an answer is read off the register, which is the same.
  intro ticket task listed
  rw [same]
  exact (tells ticket task listed).imp_right fun told => ⟨woken told.1, told.2⟩

/-- Raising bits tells everybody whose condition they meet. -/
theorem tells_post (connection : Connection) (other : RegisterName) (mask : UInt32) :
    connection.Tells (connection.post other mask) name condition := by
  -- On the register itself the new bits meet the condition or not; the other registers are left alone.
  by_cases same : name = other
  · subst same
    intro ticket task listed
    cases met : condition.matched ((connection.register name).bits ||| mask) with
    | none => exact .inl (leaves_post met ticket task listed)
    | some bits =>
      obtain ⟨handed, woken⟩ := listed.post_met met
      refine .inr ⟨?_, bits, ?_, ?_⟩
      · simp [woken]
      · simpa [Register.post] using met
      · simpa using handed
  · exact (leaves_of_same (register_post_of_ne same connection mask)).tells

/-! ### Events -/

/-- Nothing but the cloud register is changed by an event of the cloud. -/
theorem onCloudEvent_of_ne (apart : name ≠ .cloud) (connection : Connection) (event : CloudEvent) :
    (connection.onCloudEvent event).register name = connection.register name := by
  -- An event raises bits of the cloud register, or is logged, counted or handed on.
  cases event with
  | connected | ready | disconnected | error status | userAssociationRequest =>
    simp [onCloudEvent, requestDisconnect, register_post_of_ne apart]
  | userAssociated =>
    simp only [onCloudEvent, onAssociated]
    split <;> simp [requestDisconnect, register_post_of_ne apart]
  | rxDataGeneral payload =>
    simp only [onCloudEvent, onInbound]
    split <;> (cases name <;> rfl)
  | fotaDone kind =>
    simp only [onCloudEvent, onFirmware]
    split <;> (cases name <;> rfl)
  | connecting | sensorDataAck | fotaStart | connectError status | rxDataShadow payload | fotaError =>
    simp [onCloudEvent]

/-- An event of the cloud tells everybody. -/
theorem tells_onCloudEvent (connection : Connection) (event : CloudEvent) :
    connection.Tells (connection.onCloudEvent event) name condition := by
  -- Each event is noted in the log, and raises bits once at most after that.
  have noted : connection.Leaves
      (connection.log .debug "Cloud transport event" [("event", .text event.name)]) name condition :=
    leaves_log _ _ _ _
  cases event with
  | connected | ready | disconnected => exact noted.tells_of (tells_post _ .cloud _)
  | error status | userAssociationRequest =>
    exact (noted.trans (leaves_log _ _ _ _)).tells_of (tells_post _ .cloud _)
  -- An association drops the session only once.
  | userAssociated =>
    simp only [onCloudEvent, onAssociated]
    split
    · exact ((noted.trans (leaves_log _ _ _ _)).trans (leaves_count _ _)).tells_of (tells_post _ .cloud _)
    · exact noted.tells
  -- What comes in is counted, and taken note of or refused.
  | rxDataGeneral payload =>
    have counted := (noted.trans (leaves_log _ .debug "Device message received from cloud"
      [("bytes", .int payload.size)])).trans (leaves_count _ .inboundMessage)
    simp only [onCloudEvent, onInbound]
    split
    · exact (counted.trans (leaves_of_same (by cases name <;> rfl))).tells
    · exact (counted.trans (leaves_log _ _ _ _)).tells
    · exact (counted.trans (leaves_log _ _ _ _)).tells
  | fotaDone kind =>
    have complete := noted.trans (leaves_log _ .debug "Firmware update download complete"
      [("fota_type", .text (FirmwareKind.labelOf kind))])
    simp only [onCloudEvent, onFirmware]
    split
    · exact (complete.trans (leaves_of_same (by cases name <;> rfl))).tells
    · exact (complete.trans (leaves_log _ _ _ _)).tells
  | connectError status | rxDataShadow payload | fotaError => exact (noted.trans (leaves_log _ _ _ _)).tells
  | connecting | sensorDataAck | fotaStart => exact noted.tells

/-- A quiet event leaves everybody waiting who waits for bits that no such event raises. -/
theorem leaves_onCloudEvent (connection : Connection) (orderly : connection.cloud.Orderly)
    {event : CloudEvent} (quiet : event.Quiet) {mask : UInt32}
    (apart : Cloud.connected &&& mask = 0 ∧ Cloud.associationRequest &&& mask = 0) :
    connection.Leaves (connection.onCloudEvent event) .cloud (.any mask) := by
  -- The bits that such an event raises are outside of the mask.
  have raised : ∀ noted : Connection, noted.register .cloud = connection.register .cloud → ∀ bit,
      bit &&& mask = 0 → connection.Leaves (noted.post .cloud bit) .cloud (.any mask) := by
    intro noted same bit outside
    have orderly' : (noted.register .cloud).Orderly := same ▸ orderly
    exact (leaves_of_same same).trans (leaves_post_of_apart orderly' outside)
  cases event with
  | connecting => exact leaves_log _ _ _ _
  | connected => exact raised (connection.log _ _ _) rfl _ apart.1
  | userAssociationRequest => exact raised ((connection.log _ _ _).log _ _ _) rfl _ apart.2
  | connectError _ | userAssociated | ready | sensorDataAck | disconnected | error _ | rxDataGeneral _
  | rxDataShadow _ | fotaStart | fotaDone _ | fotaError => exact quiet.elim

/-- A change of the modem's standing tells everybody. -/
theorem tells_onRegistration (connection : Connection) (status : Registration) :
    connection.Tells (connection.onRegistration status) name condition := by
  -- The network register is raised, or cleared before the cloud register may be raised.
  have noted : connection.Leaves
      (connection.log .debug "Network registration status" [("status", .text status.label)]) name condition :=
    leaves_log _ _ _ _
  unfold onRegistration
  split
  · exact noted.tells_of (tells_post _ .network _)
  · have cleared := noted.trans (leaves_clear _ .network)
    simp only
    split
    · exact (((cleared.trans (leaves_log _ _ _ _)).trans (leaves_count _ _)).trans
        (leaves_count _ _)).tells_of (tells_post _ .cloud _)
    · exact cleared.tells

/-- The modem's registering is a matter of the network register. -/
theorem onRegistration_of_ne (apart : name ≠ .network) (connection : Connection) {status : Registration}
    (registered : status.isRegistered = true) :
    (connection.onRegistration status).register name = connection.register name := by
  -- The registered bit is raised on the network register, and none on the others.
  simp [onRegistration, registered, register_post_of_ne apart]

/-- A modem that has lost its standing hands nothing to those who wait for the network. -/
theorem leaves_onRegistration (connection : Connection) {status : Registration}
    (lost : status.isRegistered = false) :
    connection.Leaves (connection.onRegistration status) .network condition := by
  -- The network register is cleared, and what may follow is a matter of the cloud register.
  have noted : connection.Leaves
      (connection.log .debug "Network registration status" [("status", .text status.label)]) .network
        condition := leaves_log _ _ _ _
  have cleared := noted.trans (leaves_clear _ .network)
  simp only [onRegistration, lost, Bool.false_eq_true, if_false]
  split
  · exact cleared.trans (leaves_of_same rfl)
  · exact cleared

/-- An event of the radio link tells everybody. -/
theorem tells_onLinkEvent (connection : Connection) (event : LinkEvent) :
    connection.Tells (connection.onLinkEvent event) name condition := by
  -- A registration has a lemma of its own; any other event is only logged.
  cases event with
  | registration status => exact tells_onRegistration connection status
  | _ => exact (leaves_log _ _ _ _).tells

/-- A report of the clock is a matter of the date-time register. -/
theorem onDateTime_of_ne (apart : name ≠ .dateTime) (connection : Connection) (isValid : Bool) :
    (connection.onDateTime isValid).register name = connection.register name := by
  -- A known time raises a bit on that register, and an unknown one does nothing.
  unfold onDateTime
  split
  · simp [register_post_of_ne apart]
  · rfl

/-- A report of the clock tells everybody. -/
theorem tells_onDateTime (connection : Connection) (isValid : Bool) :
    connection.Tells (connection.onDateTime isValid) name condition := by
  -- A known time is logged and then told; of an unknown one there is nothing to tell.
  unfold onDateTime
  split
  · exact (leaves_log connection _ _ _).tells_of (tells_post _ .dateTime _)
  · exact (leaves_of_same rfl).tells

/-! ### Events that come together -/

/-- A modem that attaches tells everybody but those who wait for the time of day. -/
theorem tells_attached (apart : name ≠ .dateTime) (connection : Connection) (clock : Bool) :
    connection.Tells (Session.attached clock connection) name condition := by
  -- The modem searches before it registers, which are matters of different registers.
  let searching := connection.onRegistration .searching
  let registered := searching.onRegistration .registeredHome
  have grows : searching.Touches (.others false) (fun _ _ => False) registered :=
    Touches.refl.onRegistration .registeredHome rfl
  have tells : connection.Tells registered name condition := by
    by_cases same : name = .network
    · subst same
      exact (leaves_onRegistration connection rfl).tells_of (tells_onRegistration searching _)
    · exact (tells_onRegistration connection .searching).keep
        (onRegistration_of_ne same searching rfl) fun _ => grows.woken
  have reports : registered.Touches (.others false) (fun _ _ => False) (registered.onDateTime true) :=
    Touches.refl.onDateTime true rfl
  -- The clock's report is neither of these matters.
  unfold Session.attached
  simp only
  split
  · exact tells.keep (onDateTime_of_ne apart registered true) fun _ => reports.woken
  · exact tells

/-- Nothing but the cloud register is changed by events of the cloud that come together. -/
theorem onCloudEvents_of_ne (apart : name ≠ .cloud) (connection : Connection) (events : List CloudEvent) :
    (events.foldl onCloudEvent connection).register name = connection.register name := by
  -- Induction on the events.
  induction events generalizing connection with
  | nil => rfl
  | cons event later ih => exact (ih _).trans (onCloudEvent_of_ne apart connection event)

/-- Events of the cloud of which only the last is not quiet tell those who wait for bits that no quiet event
raises. -/
theorem tells_onCloudEvents (connection : Connection)
    (ordered : ∀ name, (connection.register name).Orderly) (events : List CloudEvent)
    (quiet : ∀ event ∈ events.dropLast, event.Quiet) {mask : UInt32}
    (apart : Cloud.connected &&& mask = 0 ∧ Cloud.associationRequest &&& mask = 0) :
    connection.Tells (events.foldl onCloudEvent connection) .cloud (.any mask) := by
  -- Induction on the events, with the connection as the earlier ones have left it.
  induction events generalizing connection with
  | nil => exact (leaves_of_same rfl).tells
  | cons event later ih =>
    cases later with
    | nil => exact tells_onCloudEvent connection event
    | cons next others =>
      have raised : connection.Touches (.others false) (fun _ _ => False) (connection.onCloudEvent event) :=
        Touches.refl.onCloudEvent event rfl
      have first := connection.leaves_onCloudEvent (ordered .cloud) (quiet event List.mem_cons_self) apart
      refine first.tells_of (ih (connection.onCloudEvent event) (raised.orderly ordered) fun other listed => ?_)
      exact quiet other (List.mem_cons_of_mem event listed)

/-! ### Waits of others -/

variable {liberty : Liberty} {held : RegisterName → Ticket → Prop} {ticket : Ticket} {task : TaskId}
  {bits : UInt32}

/-- Others take nothing back that was handed to a wait. -/
theorem Touches.hands (touches : before.Touches liberty held after) (apart : ¬held name ticket)
    (issued : ticket < (before.register name).nextTicket) (handed : (before.register name).Hands ticket bits) :
    (after.register name).Hands ticket bits := by
  -- A look and an abandonment concern other tickets, and whatever else happens takes nothing away.
  let stays (other : RegisterName) (register : Register) : Prop := other = name → register.Hands ticket bits
  have lasting : before.Lasts liberty held stays := {
    post := fun _ _ mask _ stood same => (stood same).post mask
    clear := fun _ _ _ stood same => stood same
    await := fun _ _ agenda owner condition timeout stood same =>
      (stood same).wait agenda owner condition timeout
    poll := fun _ _ agenda _ own stood same =>
      (stood same).poll_of_ne (Owns.strange (same ▸ own) apart issued) agenda
    abandon := fun _ _ _ own stood same => (stood same).abandon_of_ne (Owns.strange (same ▸ own) apart issued) }
  refine touches.lasts lasting (fun other same => ?_) name rfl
  subst same
  exact handed

/-- Others who raise no bits leave a wait at its place. -/
theorem Touches.lists (touches : before.Touches liberty held after) (mute : liberty.posts = false)
    (apart : ¬held name ticket) (issued : ticket < (before.register name).nextTicket)
    (listed : (before.register name).Lists ticket task condition) :
    (after.register name).Lists ticket task condition := by
  -- A look and an abandonment concern other tickets, and a wait that begins stands in front of it.
  let stays (other : RegisterName) (register : Register) : Prop :=
    other = name → register.Lists ticket task condition
  have lasting : before.Lasts liberty held stays := {
    post := fun _ _ _ allowed => absurd allowed (by simp [mute])
    clear := fun _ _ _ stood same => stood same
    await := fun _ _ agenda owner other timeout stood same => (stood same).wait agenda owner other timeout
    poll := fun _ _ agenda _ own stood same =>
      (stood same).poll_of_ne (Owns.strange (same ▸ own) apart issued) agenda
    abandon := fun _ _ _ own stood same => (stood same).abandon_of_ne (Owns.strange (same ▸ own) apart issued) }
  refine touches.lasts lasting (fun other same => ?_) name rfl
  subst same
  exact listed

end Connection

end Uplink
