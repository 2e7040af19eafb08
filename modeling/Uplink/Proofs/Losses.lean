import Uplink.Proofs.Echoes

/-!
Losses of the radio link: each session reports at most one, and every forced disconnect is one of these or follows a
first-time association.
-/

namespace Uplink

/-- There is data connectivity or there is none. -/
instance (status : Registration) : Decidable status.Served :=
  inferInstanceAs (Decidable (_ ∨ _))

/-- Whether an impulse is the loss of the radio link under a session that nothing has dropped yet. -/
def Impulse.loses (found : Connection) : Impulse → Bool
  | link (.registration status) => ¬status.Served && (found.isConnected && !found.isDisconnecting)
  | _ => false

namespace Connection

/-- The impulses that a connection has met since it was new, each with the connection that it found, the latest last.
In between others may do to it whatever leaves the bits of its registers and the counters of losses and of forced
disconnects alone. -/
inductive Met : List (Connection × Impulse) → Connection → Prop where
  | new (queue : Queue.Outgoing) : Met [] { queue }
  | impulse {history : List (Connection × Impulse)} {connection : Connection} (met : Met history connection)
      (impulse : Impulse) : Met (history ++ [(connection, impulse)]) (connection.receive impulse)
  | aside {history : List (Connection × Impulse)} {connection after : Connection} (met : Met history connection)
      (same : ∀ name, (after.register name).bits = (connection.register name).bits)
      (losses : after.telemetry.metrics.linkLosses = connection.telemetry.metrics.linkLosses)
      (forced : after.telemetry.metrics.forcedDisconnects = connection.telemetry.metrics.forcedDisconnects) :
      Met history after

/-- The counters of losses and of forced disconnects are those that the history accounts for, and within a stretch of
it in which the cloud register was not cleared nothing is reported as a loss once a disconnect is called for. -/
structure Reckons (history : List (Connection × Impulse)) (connection : Connection) : Prop where
  /-- A loss is counted for the impulses that lose the link under a session, and for no others. -/
  losses : connection.telemetry.metrics.linkLosses = .ofNat (history.countP fun met => met.2.loses met.1)
  /-- Every forced disconnect follows a loss or the association of a device. -/
  forced : connection.telemetry.metrics.forcedDisconnects = connection.telemetry.metrics.linkLosses +
    .ofNat (history.countP fun met => met.2.associates met.1)
  /-- There is at most one loss between two clearings. -/
  once : ∀ before span after, history = before ++ span ++ after → (∀ met ∈ span, met.2.isClear = false) →
    span.countP (fun met => met.2.loses met.1) ≤ 1
  /-- Once something has called for a disconnect no loss follows before the next clearing. -/
  last : ∀ before (first : Connection × Impulse) span after, history = before ++ first :: span ++ after →
    first.2.CallsFor first.1 → (∀ met ∈ span, met.2.isClear = false) →
    ∀ met ∈ span, met.2.loses met.1 = false

/-! ### What one impulse counts -/

section Tally

variable (connection : Connection)

/-- The losses and the forced disconnects that were counted. -/
def tally : UInt64 × UInt64 :=
  (connection.telemetry.metrics.linkLosses, connection.telemetry.metrics.forcedDisconnects)

/-- A log entry counts nothing. -/
@[simp] theorem tally_log (level : Level) (message : String) (fields : Fields) :
    (connection.log level message fields).tally = connection.tally := rfl

/-- A loss is one loss more. -/
@[simp] theorem tally_linkLost :
    (connection.count .linkLost).tally = (connection.tally.1 + 1, connection.tally.2) := rfl

/-- A forced disconnect is one more of them. -/
@[simp] theorem tally_forcedDisconnect :
    (connection.count .forcedDisconnect).tally = (connection.tally.1, connection.tally.2 + 1) := rfl

/-- A device message that arrives counts neither. -/
@[simp] theorem tally_inboundMessage : (connection.count .inboundMessage).tally = connection.tally := rfl

/-- Raising bits counts nothing. -/
@[simp] theorem tally_post (name : RegisterName) (mask : UInt32) :
    (connection.post name mask).tally = connection.tally := by
  -- Each register is raised in place.
  cases name <;> rfl

/-- Clearing a register counts nothing. -/
@[simp] theorem tally_clear (name : RegisterName) : (connection.clear name).tally = connection.tally := by
  -- Each register is cleared in place.
  cases name <;> rfl

/-- A device message from the cloud counts neither. -/
@[simp] theorem tally_onInbound (payload : ByteArray) : (connection.onInbound payload).tally = connection.tally := by
  -- With no handler nothing is done; otherwise other counters change, or none.
  unfold onInbound
  split <;> rfl

/-- Downloaded firmware counts neither. -/
@[simp] theorem tally_onFirmware (kind : Option FirmwareKind) :
    (connection.onFirmware kind).tally = connection.tally := by
  -- With no handler nothing is done; otherwise an entry is logged.
  unfold onFirmware
  split <;> rfl

/-- An event of the cloud counts as a forced disconnect if it is an association that the cloud had asked for. -/
theorem tally_onCloudEvent (event : CloudEvent) :
    (connection.onCloudEvent event).tally =
      (connection.tally.1, connection.tally.2 + if Impulse.associates connection (.cloud event) then 1 else 0) := by
  -- Only an association looks for what the cloud had asked; a disconnect of the transport raises its bit
  -- without counting.
  cases event with
  | userAssociated =>
    -- Logging comes before the look, and changes no bit.
    have asked (level : Level) (message : String) (fields : Fields) :
        (connection.log level message fields).cloud.isSet Cloud.associationRequest =
          connection.cloud.isSet Cloud.associationRequest := rfl
    simp only [onCloudEvent, onAssociated, Impulse.associates, asked]
    split <;> simp_all [requestDisconnect]
  | _ => simp [onCloudEvent, requestDisconnect, Impulse.associates]

/-- A standing with the network counts as both if the link is lost under a session. -/
theorem tally_onRegistration (status : Registration) :
    (connection.onRegistration status).tally =
      (connection.tally.1 + (if Impulse.loses connection (.link (.registration status)) then 1 else 0),
        connection.tally.2 + if Impulse.loses connection (.link (.registration status)) then 1 else 0) := by
  cases served : status.isRegistered with
  -- A standing that counts as registered is no loss.
  | true => simp [onRegistration, Impulse.loses, Registration.served_iff, served]
  | false =>
    -- Neither the entry nor the cleared network bit has to do with the bits of the cloud.
    have asked (level : Level) (message : String) (fields : Fields) :
        (((connection.log level message fields).clear .network).isConnected &&
          !((connection.log level message fields).clear .network).isDisconnecting) =
        (connection.isConnected && !connection.isDisconnecting) := rfl
    simp only [onRegistration, Impulse.loses, Registration.served_iff, served, asked]
    cases connection.isConnected && !connection.isDisconnecting <;> simp [requestDisconnect]

/-- An impulse counts as a loss and as a forced disconnect for what it is. -/
theorem tally_receive (impulse : Impulse) :
    (connection.receive impulse).tally =
      (connection.tally.1 + (if impulse.loses connection then 1 else 0),
        connection.tally.2 + (if impulse.loses connection then 1 else 0) +
          if impulse.associates connection then 1 else 0) := by
  -- A standing and an event of the cloud have a lemma each; no other impulse counts as either.
  cases impulse with
  | link event =>
    cases event with
    | registration status =>
      simpa [receive, onLinkEvent, Impulse.associates] using connection.tally_onRegistration status
    | _ => simp [receive, onLinkEvent, Impulse.loses, Impulse.associates]
  | cloud event => simpa [receive, Impulse.loses] using connection.tally_onCloudEvent event
  | dateTime isValid => cases isValid <;> simp [receive, onDateTime, Impulse.loses, Impulse.associates]
  | requestDisconnect | clearCloud =>
    simp [receive, Connection.requestDisconnect, Connection.clearCloud, Impulse.loses, Impulse.associates]

end Tally

/-! ### Every history -/

variable {connection : Connection} {history before after span : List (Connection × Impulse)}
  {first : Connection × Impulse}

/-- The loss of the link under a session calls for a disconnect. -/
theorem callsFor_of_loses {found : Connection} {impulse : Impulse} (loses : impulse.loses found = true) :
    impulse.CallsFor found := by
  -- A loss is a standing without service while the transport is connected, and that is one of the calls.
  cases impulse with
  | link event =>
    cases event with
    | registration status => simp_all [Impulse.loses, Impulse.CallsFor]
    | _ => simp [Impulse.loses] at loses
  | _ => simp [Impulse.loses] at loses

/-- While a disconnect is under way no loss is reported. -/
theorem not_loses_of_disconnecting {found : Connection} (dropped : found.isDisconnecting = true) (impulse : Impulse) :
    impulse.loses found = false := by
  -- A loss asks for a connection that nobody is ending.
  cases impulse with
  | link event => cases event <;> simp [Impulse.loses, dropped]
  | _ => rfl

/-- A connection that an impulse has found had met what came before. -/
theorem Met.found (met : Met history connection) (split : history = before ++ first :: after) : Met before first.1 := by
  induction met generalizing after with
  | new queue => simp at split
  | @impulse earlier found met impulse ih =>
    -- Either the impulse is the last one, or it is among the earlier ones.
    cases after using List.reverseRec with
    | nil =>
      obtain ⟨rfl, rfl⟩ := List.append_inj' split rfl |>.imp id List.singleton_inj.mp
      exact met
    | append_singleton rest last _ =>
      have ends : earlier ++ [(found, impulse)] = (before ++ first :: rest) ++ [last] := by simpa using split
      exact ih (List.append_inj' ends rfl).1
  | aside _ _ _ _ ih => exact ih split

/-- A disconnect that was called for is under way until the register is cleared. -/
theorem Met.disconnecting (met : Met history connection) (split : history = before ++ first :: span)
    (calls : first.2.CallsFor first.1) (kept : ∀ met ∈ span, met.2.isClear = false) :
    connection.isDisconnecting = true := by
  -- Induction on what the connection has met, with the span since the call growing by the last impulse.
  induction met generalizing span with
  | new queue => simp at split
  | @impulse earlier found met impulse ih =>
    cases span using List.reverseRec with
    | nil =>
      obtain ⟨-, rfl⟩ := List.append_inj' split rfl |>.imp id List.singleton_inj.mp
      have stays : impulse.isClear = false := by cases impulse <;> first | rfl | exact calls.elim
      exact (found.isDisconnecting_receive stays).mpr (.inr calls)
    | append_singleton rest last _ =>
      have ends : earlier ++ [(found, impulse)] = (before ++ first :: rest) ++ [last] := by simpa using split
      obtain ⟨shorter, rfl⟩ := List.append_inj' ends rfl |>.imp id List.singleton_inj.mp
      have dropped := ih shorter fun met member => kept met (by simp [member])
      exact (found.isDisconnecting_receive (kept (found, impulse) (by simp))).mpr (.inl dropped)
  | @aside _ found after _ same _ _ ih =>
    have dropped := ih split kept
    have cloud : after.cloud.bits = found.cloud.bits := same .cloud
    rwa [isDisconnecting, Flags.Register.isSet, cloud]

/-- Nothing is reported as a loss once a disconnect is called for and until the register is cleared. -/
theorem Met.last (met : Met history connection) (split : history = before ++ first :: span ++ after)
    (calls : first.2.CallsFor first.1) (kept : ∀ met ∈ span, met.2.isClear = false) :
    ∀ met ∈ span, met.2.loses met.1 = false := by
  intro later member
  obtain ⟨sooner, rest, rfl⟩ := List.append_of_mem member
  -- The disconnect that was called for is under way in the connection that the later impulse has found.
  have earlier : history = (before ++ first :: sooner) ++ later :: (rest ++ after) := by simp [split]
  have found := met.found earlier
  exact not_loses_of_disconnecting
    (found.disconnecting rfl calls fun met sooner => kept met (by simp [sooner])) later.2

/-- There is at most one loss between two clearings. -/
theorem Met.once (met : Met history connection) (split : history = before ++ span ++ after)
    (kept : ∀ met ∈ span, met.2.isClear = false) :
    span.countP (fun met => met.2.loses met.1) ≤ 1 := by
  -- Induction on the span: after its first loss a disconnect is called for, and from then on no loss is
  -- counted.
  induction span generalizing before with
  | nil => simp
  | cons first rest ih =>
    have keptRest : ∀ met ∈ rest, met.2.isClear = false := fun met member => kept met (by simp [member])
    cases loses : first.2.loses first.1 with
    | false =>
      rw [List.countP_cons_of_neg (by simp [loses])]
      have rests : history = (before ++ [first]) ++ rest ++ after := by simp [split]
      exact ih rests keptRest
    | true =>
      have none := met.last split (callsFor_of_loses loses) keptRest
      have zero : rest.countP (fun met => met.2.loses met.1) = 0 :=
        List.countP_eq_zero.mpr fun later member => by simp [none later member]
      rw [List.countP_cons_of_pos (by simp [loses]), zero]

/-- The counters of losses and of forced disconnects are those that the history accounts for. -/
theorem Met.tally (met : Met history connection) :
    connection.tally =
      (.ofNat (history.countP fun met => met.2.loses met.1),
        .ofNat (history.countP fun met => met.2.loses met.1) +
          .ofNat (history.countP fun met => met.2.associates met.1)) := by
  induction met with
  | new queue => rfl
  | @impulse earlier found met impulse ih =>
    -- An impulse adds the same to the counter and to the history's account.
    have one (counts : Bool) : UInt64.ofNat (if counts then 1 else 0) = if counts then 1 else 0 := by
      cases counts <;> rfl
    rw [tally_receive, ih]
    simp only [List.countP_append, List.countP_singleton, UInt64.ofNat_add, one, Prod.mk.injEq, true_and]
    ac_rfl
  | aside _ _ losses forced ih => rw [← ih, Connection.tally, losses, forced]; rfl

/-- Whatever reaches a connection in whatever order: the link losses are the reports of a standing without
connectivity that find the transport connected and no disconnect under way, at most one between two clearings of the
cloud register and none there after anything else has called for a disconnect; the forced disconnects are the losses
and the associations that the cloud had asked for; and the same link event twice in a row leaves the registers and
the counters as it does once. -/
theorem losses_are_reported_once (met : Met history connection) :
    connection.Reckons history ∧ ∀ event,
      (∀ name, ((connection.onLinkEvent event).onLinkEvent event).register name =
        (connection.onLinkEvent event).register name) ∧
      ((connection.onLinkEvent event).onLinkEvent event).telemetry.metrics =
        (connection.onLinkEvent event).telemetry.metrics := by
  have counted := met.tally
  refine ⟨⟨congrArg Prod.fst counted, ?_, ?_, ?_⟩, ?_⟩
  · have losses : connection.telemetry.metrics.linkLosses = _ := congrArg Prod.fst counted
    rw [losses]
    exact congrArg Prod.snd counted
  · exact fun before span after split => met.once split
  · exact fun before first span after split => met.last split
  · -- The second time an event finds the registers as it would leave them, so at most the journal grows.
    intro event
    have again := connection.onLinkEvent_again event
    refine ⟨again.register, ?_⟩
    obtain ⟨telemetry, same, metrics⟩ := again
    rw [same, ← Metrics.forcing_zero (connection.onLinkEvent event).telemetry.metrics]
    exact metrics

/-- The link is lost twice in a session and once in the next, where an association has called for the disconnect
already: one loss, two forced disconnects. -/
theorem second_loss_is_not_reported :
    ∃ (history : List (Connection × Impulse)) (connection : Connection),
      Met history connection ∧
      history.map (·.2) = [.cloud .connected, .link (.registration .searching),
        .link (.registration .notRegistered), .clearCloud, .cloud .connected, .cloud .userAssociationRequest,
        .cloud .userAssociated, .link (.registration .uiccFail)] ∧
      (connection.Reckons history ∧ ∀ event,
        (∀ name, ((connection.onLinkEvent event).onLinkEvent event).register name =
          (connection.onLinkEvent event).register name) ∧
        ((connection.onLinkEvent event).onLinkEvent event).telemetry.metrics =
          (connection.onLinkEvent event).telemetry.metrics) ∧
      connection.tally = (1, 2) := by
  -- Eight impulses, one after the other, from a new connection.
  have met := (((((((Met.new (.ofCapacity 4 0)).impulse (.cloud .connected)).impulse
    (.link (.registration .searching))).impulse (.link (.registration .notRegistered))).impulse
    .clearCloud).impulse (.cloud .connected)).impulse (.cloud .userAssociationRequest)).impulse
    (.cloud .userAssociated) |>.impulse (.link (.registration .uiccFail))
  -- The numbers are evaluated; what they stand for is the general statement.
  exact ⟨_, _, met, rfl, losses_are_reported_once met, by decide +kernel⟩

end Connection

end Uplink
