import Mathlib.Data.List.DropRight
import Uplink.Proofs.Tells

/-!
The registers follow from what was reported: at every moment their bits are a function of the impulses so far.
-/

namespace Uplink

/-! ### Impulses -/

/-- What changes the registers of a connection. -/
inductive Impulse where
  | link (event : LinkEvent)
  | cloud (event : CloudEvent)
  /-- The clock reported whether it knows the date and the time. -/
  | dateTime (isValid : Bool)
  | requestDisconnect
  | clearCloud

/-- What a connection makes of an impulse. -/
def Connection.receive (connection : Connection) : Impulse → Connection
  | .link event => connection.onLinkEvent event
  | .cloud event => connection.onCloudEvent event
  | .dateTime isValid => connection.onDateTime isValid
  | .requestDisconnect => connection.requestDisconnect
  | .clearCloud => connection.clearCloud

/-- The impulses that have driven a connection since it was new, the latest last. In between others may do to it
whatever leaves the bits of its registers alone. -/
inductive Connection.Driven : List Impulse → Connection → Prop where
  | new (queue : Queue.Outgoing) : Driven [] { queue }
  | impulse {history : List Impulse} {connection : Connection} (driven : Driven history connection)
      (impulse : Impulse) : Driven (history ++ [impulse]) (connection.receive impulse)
  | aside {history : List Impulse} {connection after : Connection} (driven : Driven history connection)
      (same : ∀ name, (after.register name).bits = (connection.register name).bits) : Driven history after

/-- There is data connectivity at home and while roaming. -/
def Registration.Served (status : Registration) : Prop :=
  status = .registeredHome ∨ status = .registeredRoaming

namespace Impulse

/-- The standing with the network that an impulse reports. -/
def registration? : Impulse → Option Registration
  | link (.registration status) => some status
  | _ => none

/-- Whether an impulse clears the cloud register. -/
def isClear : Impulse → Bool
  | clearCloud => true
  | _ => false

/-- The impulses since the cloud register was cleared for the last time, or all of them. -/
def sinceClear (history : List Impulse) : List Impulse :=
  history.rtakeWhile (!·.isClear)

/-- The impulses call for a disconnect: one of them says so, the device was added to an account after the cloud
had asked for that, or the network was lost after the transport had connected. -/
def CallForDisconnect (impulses : List Impulse) : Prop :=
  cloud .disconnected ∈ impulses ∨ (∃ status, cloud (.error status) ∈ impulses) ∨
    requestDisconnect ∈ impulses ∨
    [cloud .userAssociationRequest, cloud .userAssociated].Sublist impulses ∨
    ∃ status : Registration, ¬status.Served ∧ [cloud .connected, link (.registration status)].Sublist impulses

end Impulse

/-- The bits of the cloud register that have a meaning. -/
def Cloud.known : UInt32 :=
  Cloud.connected ||| Cloud.ready ||| Cloud.associationRequest ||| Cloud.disconnected

/-- The bits of the registers are those that the impulses account for. -/
structure Connection.Tracks (connection : Connection) (history : List Impulse) : Prop where
  network : connection.network.isSet Network.connected = true ↔
    ∃ status : Registration, (history.filterMap Impulse.registration?).getLast? = some status ∧ status.Served
  dateTime : connection.dateTime.isSet DateTime.known = true ↔ .dateTime true ∈ history
  connected : connection.isConnected = true ↔ .cloud .connected ∈ Impulse.sinceClear history
  ready : connection.cloud.isSet Cloud.ready = true ↔ .cloud .ready ∈ Impulse.sinceClear history
  associationRequest : connection.cloud.isSet Cloud.associationRequest = true ↔
    .cloud .userAssociationRequest ∈ Impulse.sinceClear history
  disconnected : connection.isDisconnecting = true ↔ Impulse.CallForDisconnect (Impulse.sinceClear history)
  /-- No other bit of any register is set. -/
  only : Flags.Covers Network.connected connection.network.bits ∧
    Flags.Covers DateTime.known connection.dateTime.bits ∧
    Flags.Covers Cloud.known connection.cloud.bits

/-! ### What one impulse does to the bits -/

namespace Connection

variable {connection : Connection} {name other : RegisterName} {history : List Impulse}

/-- The bits of a register by its name. -/
def bits (connection : Connection) (name : RegisterName) : UInt32 :=
  (connection.register name).bits

/-- A log entry sets no bits. -/
@[simp] theorem bits_log (connection : Connection) (level : Level) (message : String) (fields : Fields) :
    (connection.log level message fields).bits name = connection.bits name :=
  -- The whole register is the same, not only its bits.
  congrArg Flags.Register.bits (register_log connection level message fields name)

/-- Counting sets no bits. -/
@[simp] theorem bits_count (connection : Connection) (event : Metrics.Count) :
    (connection.count event).bits name = connection.bits name :=
  -- The whole register is the same, not only its bits.
  congrArg Flags.Register.bits (register_count connection event name)

/-- Raised bits are added to those of their register. -/
@[simp] theorem bits_post (connection : Connection) (mask : UInt32) :
    (connection.post other mask).bits name =
      if name = other then connection.bits name ||| mask else connection.bits name := by
  -- The register that is raised may be this one or another.
  split
  · rename_i same
    subst same
    simp [bits, Flags.Register.post]
  · rename_i apart
    simp [bits, register_post_of_ne apart]

/-- A register that is cleared has no bits. -/
@[simp] theorem bits_clear (connection : Connection) :
    (connection.clear other).bits name = if name = other then 0 else connection.bits name := by
  -- The register that is cleared may be this one or another.
  split
  · rename_i same
    subst same
    simp [bits, Flags.Register.reset]
  · rename_i apart
    simp [bits, register_clear_of_ne apart]

/-- Handing a device message on sets no bits. -/
@[simp] theorem bits_onInbound (connection : Connection) (payload : ByteArray) :
    (connection.onInbound payload).bits name = connection.bits name := by
  -- With no handler nothing is done; otherwise the message is counted or logged.
  unfold onInbound
  split
  · cases name <;> rfl
  · simp
  · simp

/-- Handing firmware on sets no bits. -/
@[simp] theorem bits_onFirmware (connection : Connection) (kind : Option FirmwareKind) :
    (connection.onFirmware kind).bits name = connection.bits name := by
  -- With no handler nothing is done; otherwise the request is logged.
  unfold onFirmware
  split
  · cases name <;> rfl
  · simp

/-- An event of the cloud is no matter of the other registers. -/
theorem bits_onCloudEvent_of_ne (apart : name ≠ .cloud) (connection : Connection) (event : CloudEvent) :
    (connection.onCloudEvent event).bits name = connection.bits name :=
  -- The other registers are the same as a whole.
  congrArg Flags.Register.bits (onCloudEvent_of_ne apart connection event)

/-- The network register follows the modem's standing and nothing else. -/
theorem network_receive (connection : Connection) (impulse : Impulse) :
    (connection.receive impulse).bits .network =
      match impulse.registration? with
      | some status => if status.isRegistered then connection.bits .network ||| Network.connected else 0
      | none => connection.bits .network := by
  cases impulse with
  | link event =>
    cases event with
    | registration status =>
      -- A loss clears the register, whether or not it forces a disconnect as well.
      cases served : status.isRegistered with
      | true => simp [receive, onLinkEvent, onRegistration, Impulse.registration?, served]
      | false =>
        simp only [receive, onLinkEvent, onRegistration, Impulse.registration?, served, Bool.false_eq_true, if_false]
        split <;> simp [requestDisconnect]
    | _ => simp [receive, onLinkEvent, Impulse.registration?]
  | cloud event => exact bits_onCloudEvent_of_ne (by decide) connection event
  | dateTime isValid => cases isValid <;> simp [receive, onDateTime, Impulse.registration?]
  | requestDisconnect | clearCloud =>
    simp [receive, Connection.requestDisconnect, Connection.clearCloud, Impulse.registration?]

/-- The date-time register follows the clock and nothing else. -/
theorem dateTime_receive (connection : Connection) (impulse : Impulse) :
    (connection.receive impulse).bits .dateTime =
      match impulse with
      | .dateTime true => connection.bits .dateTime ||| DateTime.known
      | _ => connection.bits .dateTime := by
  -- Only the modem that tells of its clock sets the bit, and nothing takes it back.
  cases impulse with
  | link event =>
    cases event with
    | registration status =>
      simp only [receive, onLinkEvent, onRegistration]
      split
      · simp
      · split <;> simp [requestDisconnect]
    | _ => simp [receive, onLinkEvent]
  | cloud event => exact bits_onCloudEvent_of_ne (by decide) connection event
  | dateTime isValid => cases isValid <;> simp [receive, onDateTime]
  | requestDisconnect | clearCloud => simp [receive, Connection.requestDisconnect, Connection.clearCloud]

end Connection

namespace Impulse

/-- The bits of the cloud register that an impulse raises. -/
def raised (connection : Connection) : Impulse → UInt32
  | cloud .connected => Cloud.connected
  | cloud .ready => Cloud.ready
  | cloud .userAssociationRequest => Cloud.associationRequest
  | cloud .userAssociated =>
    if connection.cloud.isSet Cloud.associationRequest then Cloud.disconnected else 0
  | cloud .disconnected | cloud (.error _) | requestDisconnect => Cloud.disconnected
  | link (.registration status) =>
    if !status.isRegistered && (connection.isConnected && !connection.isDisconnecting) then Cloud.disconnected
    else 0
  | _ => 0

end Impulse

namespace Connection

/-- An impulse clears the cloud register or raises its bits there. -/
theorem cloud_receive (connection : Connection) (impulse : Impulse) :
    (connection.receive impulse).bits .cloud =
      if impulse.isClear then 0 else connection.bits .cloud ||| impulse.raised connection := by
  cases impulse with
  | link event =>
    cases event with
    | registration status =>
      cases served : status.isRegistered with
      | true => simp [receive, onLinkEvent, onRegistration, Impulse.isClear, Impulse.raised, served]
      | false =>
        -- The question whether a disconnect is called for is put after the network register was cleared.
        have asked (level : Level) (message : String) (fields : Fields) :
            (((connection.log level message fields).clear .network).isConnected &&
              !((connection.log level message fields).clear .network).isDisconnecting) =
            (connection.isConnected && !connection.isDisconnecting) := rfl
        simp only [receive, onLinkEvent, onRegistration, Impulse.isClear, Impulse.raised, served, asked]
        cases connection.isConnected && !connection.isDisconnecting <;> simp [requestDisconnect]
    | _ => simp [receive, onLinkEvent, Impulse.isClear, Impulse.raised]
  | cloud event =>
    cases event with
    -- Only an association looks at what was set before.
    | userAssociated =>
      have asked (level : Level) (message : String) (fields : Fields) :
          (connection.log level message fields).cloud.isSet Cloud.associationRequest =
            connection.cloud.isSet Cloud.associationRequest := rfl
      simp only [receive, onCloudEvent, onAssociated, Impulse.isClear, Impulse.raised, asked]
      split <;> simp [requestDisconnect]
    | _ => simp [receive, onCloudEvent, Impulse.isClear, Impulse.raised, requestDisconnect]
  | dateTime isValid => cases isValid <;> simp [receive, onDateTime, Impulse.isClear, Impulse.raised]
  | requestDisconnect | clearCloud =>
    simp [receive, Connection.requestDisconnect, Connection.clearCloud, Impulse.isClear, Impulse.raised]

end Connection

/-! ### What is set -/

/-- The standings with data connectivity are those that count as registered. -/
theorem Registration.served_iff (status : Registration) : status.Served ↔ status.isRegistered = true := by
  -- One case for each standing.
  cases status <;> simp [Served, isRegistered]

namespace Impulse

variable {connection : Connection} {history : List Impulse}

/-- Whether an impulse calls for a disconnect, given what the cloud register says. -/
def CallsFor (connection : Connection) : Impulse → Prop
  | cloud .disconnected | cloud (.error _) | requestDisconnect => True
  | cloud .userAssociated => connection.cloud.isSet Cloud.associationRequest = true
  | link (.registration status) => ¬status.Served ∧ connection.isConnected = true
  | _ => False

/-- An impulse that clears begins the impulses since the last clearing anew; any other is added to them. -/
theorem sinceClear_concat (history : List Impulse) (impulse : Impulse) :
    sinceClear (history ++ [impulse]) = if impulse.isClear then [] else sinceClear history ++ [impulse] := by
  -- The fold over the impulses takes the last one last.
  cases cleared : impulse.isClear <;> simp [sinceClear, cleared]

/-- Two impulses come in this order if they already have, or if the first has and the second comes now. -/
theorem pair_concat (first second impulse : Impulse) (impulses : List Impulse) :
    [first, second].Sublist (impulses ++ [impulse]) ↔
      [first, second].Sublist impulses ∨ first ∈ impulses ∧ impulse = second := by
  -- Read from its end, the second impulse is the last one or none of the two is.
  have earlier : [first, second].Sublist impulses ↔ [first, second].reverse.Sublist impulses.reverse :=
    List.reverse_sublist.symm
  rw [← List.reverse_sublist, earlier]
  simp [List.sublist_cons_iff, and_comm, eq_comm]

/-- A disconnect is called for if it already was, or if the last impulse calls for it. -/
theorem callForDisconnect_concat {impulses : List Impulse} (impulse : Impulse)
    (connected : connection.isConnected = true ↔ cloud .connected ∈ impulses)
    (requested : connection.cloud.isSet Cloud.associationRequest = true ↔
      cloud .userAssociationRequest ∈ impulses) :
    CallForDisconnect (impulses ++ [impulse]) ↔ CallForDisconnect impulses ∨ impulse.CallsFor connection := by
  -- A pair of impulses ends with the last, or lies before it; what a connection can say of the first is read
  -- off its bits.
  simp only [CallForDisconnect, pair_concat, List.mem_append, List.mem_singleton]
  cases impulse with
  | cloud event =>
    cases event <;> simp only [CallsFor, requested, reduceCtorEq, and_false, or_false, and_true] <;> grind
  | link event =>
    cases event <;> simp only [CallsFor, connected] <;> grind
  | dateTime isValid | requestDisconnect | clearCloud => simp [CallsFor]

/-- A bit that only one impulse raises is raised by no other. -/
theorem raised_alone (connection : Connection) (impulse : Impulse) :
    (impulse.raised connection &&& Cloud.connected ≠ 0 ↔ impulse = cloud .connected) ∧
    (impulse.raised connection &&& Cloud.ready ≠ 0 ↔ impulse = cloud .ready) ∧
    (impulse.raised connection &&& Cloud.associationRequest ≠ 0 ↔ impulse = cloud .userAssociationRequest) := by
  -- Each of the three bits is raised by one event of the cloud; the other impulses raise nothing, or the
  -- bit of a disconnect.
  cases impulse with
  | cloud event =>
    cases event with
    | userAssociated =>
      simp only [raised]
      split <;> simp +decide
    | _ => simp +decide [raised]
  | link event =>
    cases event with
    | registration status =>
      simp only [raised]
      split <;> simp +decide
    | _ => simp +decide [raised]
  | dateTime isValid | requestDisconnect | clearCloud => simp +decide [raised]

/-- A disconnect that is not under way comes under way by the impulses that call for it. -/
theorem raised_disconnected (connection : Connection) (impulse : Impulse) :
    connection.isDisconnecting = true ∨ impulse.raised connection &&& Cloud.disconnected ≠ 0 ↔
      connection.isDisconnecting = true ∨ impulse.CallsFor connection := by
  cases impulse with
  | cloud event =>
    cases event with
    | userAssociated =>
      simp only [raised, CallsFor]
      split <;> simp_all +decide
    | _ => simp +decide [raised, CallsFor]
  | link event =>
    cases event with
    | registration status =>
      -- A loss raises the bit only where it is not set, which makes no difference to whether it is.
      simp only [raised, CallsFor, Registration.served_iff]
      cases connection.isDisconnecting <;> cases connection.isConnected <;> cases status.isRegistered <;>
        simp +decide
    | _ => simp +decide [raised, CallsFor]
  | dateTime isValid | requestDisconnect | clearCloud => simp +decide [raised, CallsFor]

/-- Impulses raise no other bits. -/
theorem raised_known (connection : Connection) (impulse : Impulse) :
    Flags.Covers Cloud.known (impulse.raised connection) := by
  -- One case for each way to raise bits, each of which is a fixed mask.
  unfold Flags.Covers
  fun_cases raised connection impulse <;> decide

end Impulse

/-! ### Every history -/

namespace Connection

variable {connection after : Connection} {history : List Impulse} {mask : UInt32}

/-- A part of a mask is among the bits of a register that has it or gets it. -/
theorem isSet_raised {register later : Flags.Register} {more : UInt32}
    (raised : later.bits = register.bits ||| more) :
    later.isSet mask = true ↔ register.isSet mask = true ∨ more &&& mask ≠ 0 := by
  -- The raised bits meet the mask if either of their parts does.
  simp only [Flags.Register.isSet, raised, Flags.raised_and, bne_iff_ne, ne_eq, UInt32.or_eq_zero_iff]
  exact Classical.not_and_iff_not_or_not

/-- A bit of the cloud register is set after an impulse that does not clear if it was or is raised. -/
theorem isSet_receive (connection : Connection) {impulse : Impulse} (kept : impulse.isClear = false) :
    (connection.receive impulse).cloud.isSet mask = true ↔
      connection.cloud.isSet mask = true ∨ impulse.raised connection &&& mask ≠ 0 := by
  -- Where nothing is cleared, the bits are joined with those that are raised.
  have raised : (connection.receive impulse).bits .cloud =
      connection.bits .cloud ||| impulse.raised connection := by simp [cloud_receive, kept]
  exact isSet_raised raised

/-- A bit that one impulse raises is set if that impulse came since the last clearing. -/
theorem isSet_since {own impulse : Impulse} (raises : impulse.raised connection &&& mask ≠ 0 ↔ impulse = own)
    (before : connection.cloud.isSet mask = true ↔ own ∈ Impulse.sinceClear history) :
    (connection.receive impulse).cloud.isSet mask = true ↔ own ∈ Impulse.sinceClear (history ++ [impulse]) := by
  rw [Impulse.sinceClear_concat]
  cases cleared : impulse.isClear with
  -- Cleared bits are none, and the impulses begin anew.
  | true =>
    have none : (connection.receive impulse).bits .cloud = 0 := by simp [cloud_receive, cleared]
    simp [Flags.Register.isSet, show (connection.receive impulse).cloud.bits = 0 from none]
  -- The bit was raised before, or this impulse is the one that raises it.
  | false => simp [isSet_receive connection cleared, raises, before, eq_comm]

/-- A new connection has had no impulses. -/
theorem tracks_new (queue : Queue.Outgoing) : Tracks { queue } [] where
  -- A new register has no bits, and without impulses nothing has been called for.
  network := by simp [Flags.Register.isSet]
  dateTime := by simp [Flags.Register.isSet]
  connected := by simp [isConnected, Flags.Register.isSet, Impulse.sinceClear]
  ready := by simp [Flags.Register.isSet, Impulse.sinceClear]
  associationRequest := by simp [Flags.Register.isSet, Impulse.sinceClear]
  disconnected := by simp [isDisconnecting, Flags.Register.isSet, Impulse.sinceClear, Impulse.CallForDisconnect]
  only := ⟨Flags.Covers.none, Flags.Covers.none, Flags.Covers.none⟩

/-- What the bits account for is a matter of the bits. -/
theorem Tracks.aside (tracks : connection.Tracks history)
    (same : ∀ name, (after.register name).bits = (connection.register name).bits) : after.Tracks history := by
  -- Each field reads one of the three registers, and only by its bits.
  have network : after.network.bits = connection.network.bits := same .network
  have dateTime : after.dateTime.bits = connection.dateTime.bits := same .dateTime
  have cloud : after.cloud.bits = connection.cloud.bits := same .cloud
  exact {
    network := by simpa [Flags.Register.isSet, network] using tracks.network
    dateTime := by simpa [Flags.Register.isSet, dateTime] using tracks.dateTime
    connected := by simpa [isConnected, Flags.Register.isSet, cloud] using tracks.connected
    ready := by simpa [Flags.Register.isSet, cloud] using tracks.ready
    associationRequest := by simpa [Flags.Register.isSet, cloud] using tracks.associationRequest
    disconnected := by simpa [isDisconnecting, Flags.Register.isSet, cloud] using tracks.disconnected
    only := by simpa [network, dateTime, cloud] using tracks.only }

/-- The network register tells the latest standing. -/
theorem network_concat (impulse : Impulse)
    (before : connection.network.isSet Network.connected = true ↔
      ∃ status : Registration, (history.filterMap Impulse.registration?).getLast? = some status ∧ status.Served) :
    (connection.receive impulse).network.isSet Network.connected = true ↔
      ∃ status : Registration,
        ((history ++ [impulse]).filterMap Impulse.registration?).getLast? = some status ∧ status.Served := by
  have follows := connection.network_receive impulse
  simp only [bits, register] at follows
  -- A standing is the latest one now; without one the latest is what it was.
  cases reported : impulse.registration? with
  | none => simpa [Flags.Register.isSet, follows, List.filterMap_append, reported] using before
  | some status =>
    cases served : status.isRegistered with
    | true =>
      simp only [reported, served, if_true] at follows
      simp [isSet_raised follows, List.filterMap_append, reported, Registration.served_iff, served,
        Network.connected]
    | false =>
      simp [Flags.Register.isSet, follows, List.filterMap_append, reported, Registration.served_iff, served]

/-- The date-time register tells whether the time was ever known. -/
theorem dateTime_concat (impulse : Impulse)
    (before : connection.dateTime.isSet DateTime.known = true ↔ .dateTime true ∈ history) :
    (connection.receive impulse).dateTime.isSet DateTime.known = true ↔ .dateTime true ∈ history ++ [impulse] := by
  have follows := connection.dateTime_receive impulse
  simp only [bits, register] at follows
  -- Only a report of a known time raises the bit; nothing takes it back.
  split at follows
  · simp [isSet_raised follows, DateTime.known]
  · rename_i other
    have apart : .dateTime true ≠ impulse := fun same => other same.symm
    simpa [Flags.Register.isSet, follows, apart] using before

/-- A disconnect is under way if the impulses since the last clearing call for it. -/
theorem disconnecting_concat (tracks : connection.Tracks history) (impulse : Impulse) :
    (connection.receive impulse).isDisconnecting = true ↔
      Impulse.CallForDisconnect (Impulse.sinceClear (history ++ [impulse])) := by
  rw [Impulse.sinceClear_concat]
  -- A clearing forgets every call; anything else adds what it raises to what was raised before.
  cases cleared : impulse.isClear with
  | true =>
    have none : (connection.receive impulse).bits .cloud = 0 := by simp [cloud_receive, cleared]
    simp [isDisconnecting, Flags.Register.isSet, Impulse.CallForDisconnect,
      show (connection.receive impulse).cloud.bits = 0 from none]
  | false =>
    calc (connection.receive impulse).isDisconnecting = true
        ↔ connection.isDisconnecting = true ∨ impulse.raised connection &&& Cloud.disconnected ≠ 0 :=
          isSet_receive connection cleared
      _ ↔ connection.isDisconnecting = true ∨ impulse.CallsFor connection :=
          Impulse.raised_disconnected connection impulse
      _ ↔ Impulse.CallForDisconnect (Impulse.sinceClear history) ∨ impulse.CallsFor connection := by
          rw [tracks.disconnected]
      _ ↔ Impulse.CallForDisconnect (Impulse.sinceClear history ++ [impulse]) :=
          (Impulse.callForDisconnect_concat impulse tracks.connected tracks.associationRequest).symm

/-- No impulse sets a bit that means nothing. -/
theorem only_concat (tracks : connection.Tracks history) (impulse : Impulse) :
    Flags.Covers Network.connected (connection.receive impulse).network.bits ∧
      Flags.Covers DateTime.known (connection.receive impulse).dateTime.bits ∧
      Flags.Covers Cloud.known (connection.receive impulse).cloud.bits := by
  obtain ⟨network, dateTime, cloud⟩ := tracks.only
  -- One register after the other: each is joined with known bits, cleared, or left alone.
  refine ⟨?_, ?_, ?_⟩
  · show Flags.Covers _ ((connection.receive impulse).bits .network)
    rw [network_receive]
    split
    · split
      · exact network.join (.refl _)
      · exact .none
    · exact network
  · show Flags.Covers _ ((connection.receive impulse).bits .dateTime)
    rw [dateTime_receive]
    split
    · exact dateTime.join (.refl _)
    · exact dateTime
  · show Flags.Covers _ ((connection.receive impulse).bits .cloud)
    rw [cloud_receive]
    split
    · exact .none
    · exact cloud.join (Impulse.raised_known connection impulse)

/-- What the bits account for they still do after one more impulse. -/
theorem Tracks.receive (tracks : connection.Tracks history) (impulse : Impulse) :
    (connection.receive impulse).Tracks (history ++ [impulse]) where
  -- One lemma for each bit.
  network := network_concat impulse tracks.network
  dateTime := dateTime_concat impulse tracks.dateTime
  connected := isSet_since (Impulse.raised_alone connection impulse).1 tracks.connected
  ready := isSet_since (Impulse.raised_alone connection impulse).2.1 tracks.ready
  associationRequest := isSet_since (Impulse.raised_alone connection impulse).2.2 tracks.associationRequest
  disconnected := disconnecting_concat tracks impulse
  only := only_concat tracks impulse

/-- At every moment the registers are determined by the impulses since the connection was new: the network bit by
the latest standing, the date-time bit by any report of a known time, the cloud bits by what has come since they
were cleared for the last time; and no other bit is ever set. -/
theorem registers_track_impulses (driven : Driven history connection) : connection.Tracks history := by
  -- Induction on what has driven the connection.
  induction driven with
  | new queue => exact tracks_new queue
  | impulse driven impulse tracks => exact tracks.receive impulse
  | aside driven same tracks => exact tracks.aside same

/-- The transport connected while roaming, and the association that was asked for before the clearing no longer
counts; so it is the loss of the network that calls for the disconnect. -/
theorem loss_while_roaming_is_tracked :
    ∃ connection : Connection,
      Driven [.cloud .userAssociationRequest, .clearCloud, .link (.registration .registeredRoaming),
        .cloud .connected, .cloud .userAssociated, .link (.registration .searching)] connection ∧
      connection.Tracks [.cloud .userAssociationRequest, .clearCloud, .link (.registration .registeredRoaming),
        .cloud .connected, .cloud .userAssociated, .link (.registration .searching)] ∧
      connection.isDisconnecting = true ∧ connection.cloud.isSet Cloud.associationRequest = false := by
  -- The last two bits are evaluated; that they stand for this history is the general statement.
  have driven := (((((Driven.new (.ofCapacity 4 0)).impulse (.cloud .userAssociationRequest)).impulse
    .clearCloud).impulse (.link (.registration .registeredRoaming))).impulse (.cloud .connected)).impulse
    (.cloud .userAssociated) |>.impulse (.link (.registration .searching))
  exact ⟨_, driven, registers_track_impulses driven, by decide +kernel, by decide +kernel⟩

end Connection

end Uplink
