import Uplink.Proofs.Impulses

/-!
Echoes: an event that comes twice in a row does what it does once, apart from the journal and, for a device that was
added to an account, one more forced disconnect.
-/

namespace Uplink

open Flags (Register)

/-- The counters with so many more forced disconnects. -/
def Metrics.forcing (metrics : Metrics) (extra : Nat) : Metrics :=
  { metrics with forcedDisconnects := metrics.forcedDisconnects + .ofNat extra }

namespace Metrics

variable (metrics : Metrics)

/-- No more forced disconnects are no change. -/
@[simp] theorem forcing_zero : metrics.forcing 0 = metrics := by
  -- Nothing is added to the one counter.
  simp [forcing]

/-- Forced disconnects add up. -/
theorem forcing_add (extra more : Nat) : (metrics.forcing extra).forcing more = metrics.forcing (extra + more) := by
  -- Both are added to the one counter, one after the other.
  simp [forcing, UInt64.ofNat_add, UInt64.add_assoc]

/-- Whatever else is counted is counted beside the forced disconnects, unless everything is forgotten. -/
theorem forcing_count {event : Count} (kept : event ≠ .reset) (extra : Nat) :
    (metrics.forcing extra).count event = (metrics.count event).forcing extra := by
  -- Only the forced disconnect goes to the same counter, and there the order does not matter.
  cases event with
  | reset => exact absurd rfl kept
  | forcedDisconnect => simp [forcing, count, UInt64.add_assoc, UInt64.add_comm (.ofNat extra)]
  | setPhase name => by_cases same : metrics.phase = name <;> simp [forcing, count, same]
  | _ => rfl

end Metrics

/-- The other connection is the same, apart from its journal and so many more forced disconnects. -/
def Connection.Echoes (extra : Nat) (one other : Connection) : Prop :=
  ∃ telemetry : Telemetry,
    other = { one with telemetry } ∧ telemetry.metrics = one.telemetry.metrics.forcing extra

namespace Connection

variable {one other another : Connection} {extra more : Nat}

/-- A connection is the same as itself. -/
theorem Echoes.refl (connection : Connection) : connection.Echoes 0 connection :=
  ⟨connection.telemetry, rfl, by simp⟩

/-- What is the same as the same is the same, and the forced disconnects add up. -/
theorem Echoes.trans (first : one.Echoes extra other) (second : other.Echoes more another) :
    one.Echoes (extra + more) another := by
  -- The registers are the same in all three, and the two numbers are added one after the other.
  obtain ⟨telemetry, rfl, counted⟩ := first
  obtain ⟨telemetry', rfl, counted'⟩ := second
  exact ⟨telemetry', rfl, by rw [counted', ← Metrics.forcing_add, ← counted]⟩

/-- The registers are the same. -/
theorem Echoes.register (echoes : one.Echoes extra other) (name : RegisterName) :
    other.register name = one.register name := by
  -- The two differ in their telemetry alone.
  obtain ⟨telemetry, rfl, -⟩ := echoes
  cases name <;> rfl

/-! ### What is done to both -/

/-- An entry in one of the two journals makes no difference. -/
theorem Echoes.log_other (echoes : one.Echoes extra other) (level : Level) (message : String) (fields : Fields) :
    one.Echoes extra (other.log level message fields) := by
  -- The journal is a part of the telemetry, and no counter is in it.
  obtain ⟨telemetry, rfl, counted⟩ := echoes
  exact ⟨_, rfl, counted⟩

/-- An entry in both journals makes no difference. -/
theorem Echoes.log (echoes : one.Echoes extra other) (level : Level) (message : String) (fields : Fields) :
    (one.log level message fields).Echoes extra (other.log level message fields) := by
  -- Both journals get the entry, and no counter is in them.
  obtain ⟨telemetry, rfl, counted⟩ := echoes
  exact ⟨_, rfl, counted⟩

/-- One more forced disconnect is counted by the other. -/
theorem Echoes.force_other (echoes : one.Echoes extra other) :
    one.Echoes (extra + 1) (other.count .forcedDisconnect) := by
  -- The counter of forced disconnects is the one that may be ahead.
  obtain ⟨telemetry, rfl, counted⟩ := echoes
  refine ⟨_, rfl, ?_⟩
  show telemetry.metrics.forcing 1 = _
  rw [counted, Metrics.forcing_add]

/-- What is counted in both makes no difference. -/
theorem Echoes.count (echoes : one.Echoes extra other) (event : Metrics.Count) (kept : event ≠ .reset) :
    (one.count event).Echoes extra (other.count event) := by
  -- What is counted goes beside the difference.
  obtain ⟨telemetry, rfl, counted⟩ := echoes
  refine ⟨telemetry.count event, rfl, ?_⟩
  show telemetry.metrics.count event = _
  rw [counted, Metrics.forcing_count _ kept]
  rfl

/-- Bits that are raised in both make no difference. -/
theorem Echoes.post (echoes : one.Echoes extra other) (name : RegisterName) (mask : UInt32) :
    (one.post name mask).Echoes extra (other.post name mask) := by
  -- Both registers are the same before, and so they are after the same bits.
  obtain ⟨telemetry, rfl, counted⟩ := echoes
  cases name <;> exact ⟨_, rfl, counted⟩

/-- A register that is cleared in both makes no difference. -/
theorem Echoes.clear (echoes : one.Echoes extra other) (name : RegisterName) :
    (one.clear name).Echoes extra (other.clear name) := by
  -- Both registers are the same before, and both are empty after it.
  obtain ⟨telemetry, rfl, counted⟩ := echoes
  cases name <;> exact ⟨_, rfl, counted⟩

/-- The cloud register says the same. -/
theorem Echoes.isSet (echoes : one.Echoes extra other) (mask : UInt32) :
    other.cloud.isSet mask = one.cloud.isSet mask :=
  congrArg (·.isSet mask) (echoes.register .cloud)

/-- Both are connected or neither is. -/
theorem Echoes.isConnected (echoes : one.Echoes extra other) : other.isConnected = one.isConnected :=
  echoes.isSet Cloud.connected

/-- A disconnect is under way in both or in neither. -/
theorem Echoes.isDisconnecting (echoes : one.Echoes extra other) : other.isDisconnecting = one.isDisconnecting :=
  echoes.isSet Cloud.disconnected

/-- A device that was added to an account makes no difference. -/
theorem Echoes.onAssociated (echoes : one.Echoes extra other) : one.onAssociated.Echoes extra other.onAssociated := by
  -- Whether the cloud had asked for it is read off the cloud register, which is the same in both.
  unfold Connection.onAssociated
  rw [echoes.isSet]
  split
  · exact ((echoes.log _ _ _).count .forcedDisconnect nofun).post .cloud _
  · exact echoes

/-- A device message from the cloud makes no difference. -/
theorem Echoes.onInbound (echoes : one.Echoes extra other) (payload : ByteArray) :
    (one.onInbound payload).Echoes extra (other.onInbound payload) := by
  -- Whether the device has a handler is the same in both.
  obtain ⟨telemetry, rfl, counted⟩ := echoes
  unfold Connection.onInbound
  dsimp only
  split <;> exact ⟨_, rfl, counted⟩

/-- Downloaded firmware makes no difference. -/
theorem Echoes.onFirmware (echoes : one.Echoes extra other) (kind : Option FirmwareKind) :
    (one.onFirmware kind).Echoes extra (other.onFirmware kind) := by
  -- Whether the device has a handler for firmware is the same in both.
  obtain ⟨telemetry, rfl, counted⟩ := echoes
  unfold Connection.onFirmware
  dsimp only
  split <;> exact ⟨_, rfl, counted⟩

/-- An event of the cloud makes no difference. -/
theorem Echoes.onCloudEvent (echoes : one.Echoes extra other) (event : CloudEvent) :
    (one.onCloudEvent event).Echoes extra (other.onCloudEvent event) := by
  -- One case for each event. Each of them is logged; some are counted, and some raise bits.
  have logged := echoes.log .debug "Cloud transport event" [("event", .text event.name)]
  cases event with
  | connecting | sensorDataAck | fotaStart => exact logged
  | connectError _ | rxDataShadow _ | fotaError => exact logged.log _ _ _
  | connected | ready | disconnected => exact logged.post _ _
  | userAssociationRequest | error _ => exact (logged.log _ _ _).post _ _
  | userAssociated => exact logged.onAssociated
  | rxDataGeneral payload => exact ((logged.log _ _ _).count .inboundMessage nofun).onInbound payload
  | fotaDone kind => exact (logged.log _ _ _).onFirmware kind

/-- A change of the modem's standing makes no difference. -/
theorem Echoes.onRegistration (echoes : one.Echoes extra other) (status : Registration) :
    (one.onRegistration status).Echoes extra (other.onRegistration status) := by
  -- A registered standing raises a bit. Any other clears the register, and is a loss if the transport is
  -- connected.
  have logged := echoes.log .debug "Network registration status" [("status", .text status.label)]
  unfold Connection.onRegistration
  dsimp only
  split
  · exact logged.post _ _
  · have cleared := logged.clear .network
    have lost := ((cleared.log .info "LTE connection lost. Disconnecting from cloud too..." []).count
      .linkLost nofun).count .forcedDisconnect nofun
    rw [cleared.isConnected, cleared.isDisconnecting]
    split
    · exact lost.post _ _
    · exact cleared

/-- An event of the radio link makes no difference. -/
theorem Echoes.onLinkEvent (echoes : one.Echoes extra other) (event : LinkEvent) :
    (one.onLinkEvent event).Echoes extra (other.onLinkEvent event) := by
  -- Only a change of the standing is more than an entry.
  cases event with
  | registration status => exact echoes.onRegistration status
  | _ => exact echoes.log _ _ _

/-- A report of the clock makes no difference. -/
theorem Echoes.onDateTime (echoes : one.Echoes extra other) (isValid : Bool) :
    (one.onDateTime isValid).Echoes extra (other.onDateTime isValid) := by
  -- A time that is not valid is passed over.
  cases isValid with
  | false => exact echoes
  | true => exact (echoes.log _ _ _).post _ _

/-- What reaches both connections makes no difference. -/
theorem Echoes.receive (echoes : one.Echoes extra other) (impulse : Impulse) :
    (one.receive impulse).Echoes extra (other.receive impulse) := by
  -- One lemma for each kind of impulse.
  cases impulse with
  | link event => exact echoes.onLinkEvent event
  | cloud event => exact echoes.onCloudEvent event
  | dateTime isValid => exact echoes.onDateTime isValid
  | requestDisconnect => exact echoes.post _ _
  | clearCloud => exact echoes.clear _

end Connection

/-! ### What comes again -/

/-- Raising the same bits again changes nothing and wakes nobody. -/
theorem Flags.Register.post_again (register : Register) (mask : UInt32) :
    (register.post mask).1.post mask = ((register.post mask).1, []) := by
  -- Whoever still waits after the first time is not satisfied by the bits, which are the same.
  have nobody : (register.post mask).1.satisfied (register.bits ||| mask) = [] := by
    refine List.eq_nil_iff_forall_not_mem.mpr fun waiter satisfied => ?_
    obtain ⟨member, -, met⟩ := mem_satisfied.mp satisfied
    simp [(mem_waiters_post.mp member).2.2] at met
  have bits : (register.post mask).1.bits ||| mask = register.bits ||| mask := by
    simp [post, UInt32.or_assoc]
  have stay : (register.post mask).1.waiters.filter
      (fun waiter => !waiter.gone && (waiter.condition.matched (register.bits ||| mask)).isNone) =
        (register.post mask).1.waiters := by
    simp [post]
  rw [post, bits, nobody, stay]
  simp [post]

namespace Impulse

/-- Whether an impulse tells something that no register depends on, and that is at most logged. -/
def Informs : Impulse → Prop
  | cloud .connecting | cloud (.connectError _) | cloud .sensorDataAck | cloud (.rxDataShadow _)
  | cloud .fotaStart | cloud .fotaError => True
  | link (.registration _) => False
  | link _ => True
  | _ => False

/-- Whether an impulse reports a state, so that it may be reported again. -/
def Repeats : Impulse → Prop
  | link (.registration _) | dateTime _ => True
  | cloud .connected | cloud .ready | cloud .userAssociationRequest | cloud .userAssociated
  | cloud .disconnected | cloud (.error _) => True
  | _ => False

/-- Whether an impulse says that the device was added to an account after the cloud had asked for that. -/
def associates (found : Connection) : Impulse → Bool
  | cloud .userAssociated => found.cloud.isSet Cloud.associationRequest
  | _ => false

end Impulse

namespace Connection

variable (connection : Connection)

/-- Raising the same bits again is only logged. -/
theorem post_again (name : RegisterName) (mask : UInt32) :
    (connection.post name mask).Echoes 0 ((connection.post name mask).post name mask) := by
  -- The bits are there already, and whoever they satisfy was woken the first time.
  refine ⟨((connection.post name mask).post name mask).telemetry, ?_, by simp [post, log, wake, Telemetry.log]⟩
  have again := (connection.register name).post_again mask
  cases name <;> simp_all [post, register, setRegister, wake, log]

/-- Clearing a register that has no bits is only logged. -/
theorem clear_empty {name : RegisterName} (empty : connection.bits name = 0) :
    connection.Echoes 0 (connection.clear name) := by
  -- There is nothing to clear, and clearing wakes nobody.
  refine ⟨(connection.clear name).telemetry, ?_, by simp [clear, log, Telemetry.log]⟩
  have same : (connection.register name).reset = connection.register name := by
    rw [Flags.Register.reset, ← empty, bits]
  cases name <;> simp_all [clear, register, setRegister, log]

/-- What only informs is only logged. -/
theorem receive_informs {impulse : Impulse} (informs : impulse.Informs) :
    connection.Echoes 0 (connection.receive impulse) := by
  -- One case for each impulse; those that do more than inform are excluded.
  have same := Echoes.refl connection
  cases impulse with
  | link event =>
    cases event with
    | registration status => exact informs.elim
    | _ => exact same.log_other _ _ _
  | cloud event =>
    cases event with
    | connecting | sensorDataAck | fotaStart => exact same.log_other _ _ _
    | connectError _ | rxDataShadow _ | fotaError => exact (same.log_other _ _ _).log_other _ _ _
    | _ => exact informs.elim
  | _ => exact informs.elim

/-- A disconnect that an impulse does not clear is under way if it was before or the impulse calls for it. -/
theorem isDisconnecting_receive {impulse : Impulse} (kept : impulse.isClear = false) :
    (connection.receive impulse).isDisconnecting = true ↔
      connection.isDisconnecting = true ∨ impulse.CallsFor connection :=
  (isSet_receive connection kept).trans (Impulse.raised_disconnected connection impulse)

/-- A standing with the network that is reported again is only logged. -/
theorem onRegistration_again (status : Registration) :
    (connection.onRegistration status).Echoes 0 ((connection.onRegistration status).onRegistration status) := by
  let impulse := Impulse.link (.registration status)
  let found := connection.receive impulse
  have logged := (Echoes.refl found).log_other .debug "Network registration status" [("status", .text status.label)]
  show found.Echoes 0 (found.onRegistration status)
  cases served : status.isRegistered with
  | true =>
    -- The bit is set by the first report, and setting it again does nothing.
    have raised : found = (connection.log .debug "Network registration status"
        [("status", .text status.label)]).post .network Network.connected := by
      simp [found, impulse, receive, onLinkEvent, onRegistration, served]
    have again := (post_again _ _ _).trans ((raised ▸ logged).post .network Network.connected)
    simpa [onRegistration, served, ← raised] using again
  | false =>
    -- The first loss has left no bits to clear, and where there was a session it has called for a disconnect.
    have empty : found.bits .network = 0 := by
      have follows : found.bits .network = _ := connection.network_receive impulse
      simpa [impulse, Impulse.registration?, served] using follows
    have reported : (found.isConnected && !found.isDisconnecting) = false := by
      have session : found.isConnected = true → connection.isConnected = true := fun connected =>
        ((isSet_receive connection rfl).mp connected).resolve_right
          (mt (Impulse.raised_alone connection impulse).1.mp (by simp [impulse]))
      have dropped : connection.isConnected = true → found.isDisconnecting = true := fun connected =>
        (isDisconnecting_receive connection rfl).mpr
          (.inr ⟨by simp [Registration.served_iff, served], connected⟩)
      grind
    have cleared := logged.trans (clear_empty _ (by simpa using empty))
    rw [onRegistration]
    simp only [served, Bool.false_eq_true, if_false]
    rw [cleared.isConnected, cleared.isDisconnecting, reported]
    exact cleared

/-- An event of the radio link that comes again is only logged. -/
theorem onLinkEvent_again (event : LinkEvent) :
    (connection.onLinkEvent event).Echoes 0 ((connection.onLinkEvent event).onLinkEvent event) := by
  -- Only a change of the standing is more than an entry.
  cases event with
  | registration status => exact connection.onRegistration_again status
  | _ => exact (Echoes.refl _).log_other _ _ _

/-- A report of the clock that comes again is only logged. -/
theorem onDateTime_again (isValid : Bool) :
    (connection.onDateTime isValid).Echoes 0 ((connection.onDateTime isValid).onDateTime isValid) := by
  -- The bit is set already when the report comes again.
  cases isValid with
  | false => exact .refl connection
  | true => exact (post_again _ _ _).trans (((Echoes.refl _).log_other _ _ _).post _ _)

/-- A device that was added to an account twice counts as one more forced disconnect if the cloud had asked. -/
theorem onAssociated_again :
    (connection.onCloudEvent .userAssociated).Echoes (if connection.cloud.isSet Cloud.associationRequest then 1 else 0)
      ((connection.onCloudEvent .userAssociated).onCloudEvent .userAssociated) := by
  let found := connection.receive (.cloud .userAssociated)
  have logged := (Echoes.refl found).log_other .debug "Cloud transport event"
    [("event", .text (CloudEvent.name .userAssociated))]
  -- The request still stands the second time if it did the first time, since nothing was cleared.
  have stands : found.cloud.isSet Cloud.associationRequest = connection.cloud.isSet Cloud.associationRequest :=
    Bool.eq_iff_iff.mpr <| (isSet_receive connection rfl).trans <| or_iff_left <|
      mt (Impulse.raised_alone connection _).2.2.mp (by simp)
  have asks := (logged.isSet Cloud.associationRequest).trans stands
  cases asked : connection.cloud.isSet Cloud.associationRequest with
  | false =>
    show found.Echoes 0 ((found.log _ _ _).onAssociated)
    rw [onAssociated, asks, asked]
    exact logged
  | true =>
    -- The disconnect was asked for by the first, and asking again only counts.
    have raised : found = (((connection.log .debug "Cloud transport event"
        [("event", .text (CloudEvent.name .userAssociated))]).log .info "Device successfully associated with cloud!"
          []).count .forcedDisconnect).post .cloud Cloud.disconnected := if_pos asked
    have again := (post_again _ _ _).trans ((raised ▸ (logged.log_other .info
      "Device successfully associated with cloud!" []).force_other).post .cloud Cloud.disconnected)
    show found.Echoes 1 ((found.log _ _ _).onAssociated)
    rw [onAssociated, asks, asked]
    exact raised ▸ again

/-- What reports a state may be reported again: that is only logged, but for a device that was added to an account,
which counts as one more forced disconnect. -/
theorem receive_again {impulse : Impulse} (repeats : impulse.Repeats) :
    (connection.receive impulse).Echoes (if impulse.associates connection then 1 else 0)
      ((connection.receive impulse).receive impulse) := by
  have same (found : Connection) := Echoes.refl found
  -- What raises bits finds them raised the second time, and what it logs is all that is added.
  cases impulse with
  | link event => exact connection.onLinkEvent_again event
  | dateTime isValid => exact connection.onDateTime_again isValid
  | cloud event =>
    cases event with
    | connected | ready | disconnected =>
      exact (post_again _ _ _).trans (((same _).log_other _ _ _).post _ _)
    | userAssociationRequest | error _ =>
      exact (post_again _ _ _).trans ((((same _).log_other _ _ _).log_other _ _ _).post _ _)
    | userAssociated => exact connection.onAssociated_again
    | _ => exact repeats.elim
  | _ => exact repeats.elim

end Connection

/-! ### Impulses with others in between -/

/-- What a connection makes of impulses that come one after the other. -/
def Connection.hear (connection : Connection) (impulses : List Impulse) : Connection :=
  impulses.foldl Connection.receive connection

namespace Impulse

/-- Whether an impulse says that the device was added to an account. -/
def isAssociation : Impulse → Bool
  | cloud .userAssociated => true
  | _ => false

/-- An association counts if the cloud had asked for it. -/
theorem associates_le (impulse : Impulse) (found : Connection) :
    (if impulse.associates found then 1 else 0) ≤ if impulse.isAssociation then 1 else 0 := by
  -- An event that is no association counts for nothing.
  unfold associates
  split
  · cases found.cloud.isSet Cloud.associationRequest <;> decide
  · exact Nat.zero_le _

/-- The other impulses are the same with others inserted: anywhere some that only inform, and after each one that
reports a state the same again, before the next one comes. The number is that of the inserted ones which say again
that the device was added to an account. -/
inductive Padded : Nat → List Impulse → List Impulse → Prop where
  | none : Padded 0 [] []
  | informs {repeats : Nat} {impulse : Impulse} {impulses padded : List Impulse} (informs : impulse.Informs)
      (later : Padded repeats impulses padded) : Padded repeats impulses (impulse :: padded)
  | same {repeats : Nat} {impulses padded : List Impulse} (impulse : Impulse) (inserted : List Impulse)
      (redundant : ∀ other ∈ inserted, other.Informs ∨ other = impulse ∧ impulse.Repeats)
      (later : Padded repeats impulses padded) :
      Padded (inserted.countP isAssociation + repeats) (impulse :: impulses) (impulse :: inserted ++ padded)

/-- Nothing needs to be inserted. -/
theorem Padded.refl (impulses : List Impulse) : Padded 0 impulses impulses := by
  -- Induction on the impulses, each of which stands for itself.
  induction impulses with
  | nil => exact .none
  | cons impulse later ih => exact .same impulse [] nofun ih

end Impulse

namespace Connection

variable {one other : Connection} {extra : Nat}

/-- After an impulse that reports a state the same again, and whatever only informs, is only logged, but for the
forced disconnects. -/
theorem Echoes.hear_again {impulse : Impulse} {inserted : List Impulse}
    (echoes : (one.receive impulse).Echoes extra other)
    (redundant : ∀ another ∈ inserted, another.Informs ∨ another = impulse ∧ impulse.Repeats) :
    ∃ more ≤ inserted.countP Impulse.isAssociation,
      (one.receive impulse).Echoes (extra + more) (other.hear inserted) := by
  induction inserted generalizing extra other with
  | nil => exact ⟨0, Nat.le_refl 0, echoes⟩
  | cons first later ih =>
    -- The first one is absorbed, and counts at most as what it says.
    have absorbed : ∃ more ≤ if first.isAssociation then 1 else 0,
        (one.receive impulse).Echoes (extra + more) (other.receive first) := by
      rcases redundant first (by simp) with informs | ⟨rfl, repeats⟩
      · exact ⟨0, Nat.zero_le _, echoes.trans (other.receive_informs informs)⟩
      · refine ⟨_, ?_, Nat.add_comm .. ▸ (one.receive_again repeats).trans (echoes.receive first)⟩
        exact first.associates_le one
    obtain ⟨more, bounded, echoes⟩ := absorbed
    obtain ⟨rest, counted, all⟩ := ih echoes fun another member => redundant another (by simp [member])
    exact ⟨more + rest, by rw [List.countP_cons]; omega, Nat.add_assoc .. ▸ all⟩

/-- Impulses with others inserted lead to the same, but for the forced disconnects. -/
theorem Echoes.hear (echoes : one.Echoes extra other) {repeats : Nat} {impulses padded : List Impulse}
    (inserted : Impulse.Padded repeats impulses padded) :
    ∃ more ≤ repeats, (one.hear impulses).Echoes (extra + more) (other.hear padded) := by
  -- Induction on what was inserted; the connection changes from one impulse to the next.
  induction inserted generalizing one other extra with
  | none => exact ⟨0, Nat.le_refl 0, echoes⟩
  | informs informs later ih => exact ih (echoes.trans (other.receive_informs informs))
  | @same repeats impulses padded impulse inserted redundant later ih =>
    -- An impulse is heard with what repeats it, and the rest comes after that.
    obtain ⟨more, bounded, again⟩ := (echoes.receive impulse).hear_again redundant
    obtain ⟨rest, counted, all⟩ := ih again
    refine ⟨more + rest, by omega, ?_⟩
    have split : other.hear (impulse :: inserted ++ padded) =
        ((other.receive impulse).hear inserted).hear padded := by simp [Connection.hear]
    exact split ▸ Nat.add_assoc .. ▸ all

end Connection

end Uplink
