/-!
Counters of the connection cycle, the monitors and the message path.

Every counter wraps at 64 bits. The collector also knows whether a session is up, the name of the
phase last set and how often that name changed.
-/

namespace Uplink

/-- What is counted, one field for each kind of event. -/
structure Metrics where
  connectAttempts : UInt64 := 0
  cloudConnections : UInt64 := 0
  cloudReady : UInt64 := 0
  readyTimeouts : UInt64 := 0
  resets : UInt64 := 0
  /-- A session became ready and has not been reset since. -/
  connected : Bool := false
  linkLosses : UInt64 := 0
  forcedDisconnects : UInt64 := 0
  inbound : UInt64 := 0
  shadowUpdates : UInt64 := 0
  shadowFailures : UInt64 := 0
  enqueued : UInt64 := 0
  rejected : UInt64 := 0
  sent : UInt64 := 0
  sendFailures : UInt64 := 0
  phase : String := "init"
  phaseTransitions : UInt64 := 0
deriving Repr, DecidableEq

namespace Metrics

/-- What can happen to the collector. -/
inductive Count where
  | connectAttempt
  | cloudConnectionEstablished
  | cloudReady
  | readyTimeout
  | resetPerformed
  | linkLost
  | forcedDisconnect
  | inboundMessage
  | shadowUpdated
  | shadowFailed
  | messageEnqueued
  | messageRejected
  | messageSent
  | messageSendFailed
  | setPhase (name : String)
  /-- Forget everything. -/
  | reset
deriving Repr, DecidableEq

/-- Count one event. Setting the phase counts only if the name changes. -/
def count (metrics : Metrics) : Count → Metrics
  | .connectAttempt => { metrics with connectAttempts := metrics.connectAttempts + 1 }
  | .cloudConnectionEstablished => { metrics with cloudConnections := metrics.cloudConnections + 1 }
  | .cloudReady => { metrics with cloudReady := metrics.cloudReady + 1, connected := true }
  | .readyTimeout => { metrics with readyTimeouts := metrics.readyTimeouts + 1 }
  | .resetPerformed => { metrics with resets := metrics.resets + 1, connected := false }
  | .linkLost => { metrics with linkLosses := metrics.linkLosses + 1 }
  | .forcedDisconnect => { metrics with forcedDisconnects := metrics.forcedDisconnects + 1 }
  | .inboundMessage => { metrics with inbound := metrics.inbound + 1 }
  | .shadowUpdated => { metrics with shadowUpdates := metrics.shadowUpdates + 1 }
  | .shadowFailed => { metrics with shadowFailures := metrics.shadowFailures + 1 }
  | .messageEnqueued => { metrics with enqueued := metrics.enqueued + 1 }
  | .messageRejected => { metrics with rejected := metrics.rejected + 1 }
  | .messageSent => { metrics with sent := metrics.sent + 1 }
  | .messageSendFailed => { metrics with sendFailures := metrics.sendFailures + 1 }
  | .setPhase name =>
    if metrics.phase = name then metrics
    else { metrics with phase := name, phaseTransitions := metrics.phaseTransitions + 1 }
  -- The fields are named one by one, as none of them may stay as it is.
  | .reset =>
    { metrics with
      connectAttempts := 0
      cloudConnections := 0
      cloudReady := 0
      readyTimeouts := 0
      resets := 0
      connected := false
      linkLosses := 0
      forcedDisconnects := 0
      inbound := 0
      shadowUpdates := 0
      shadowFailures := 0
      enqueued := 0
      rejected := 0
      sent := 0
      sendFailures := 0
      phase := "init"
      phaseTransitions := 0 }

/-- Count events in the given order. -/
def countAll (metrics : Metrics) (counts : List Count) : Metrics :=
  counts.foldl count metrics

/-- What is told about the connection. -/
structure ConnectionCounters where
  connected : Bool
  connectAttempts : UInt64
  cloudConnections : UInt64
  cloudReady : UInt64
  readyTimeouts : UInt64
  resets : UInt64
  linkLosses : UInt64
  forcedDisconnects : UInt64
deriving Repr, DecidableEq

/-- What is told about messages and the shadow. -/
structure MessageCounters where
  enqueued : UInt64
  rejected : UInt64
  sent : UInt64
  sendFailures : UInt64
  inbound : UInt64
  shadowUpdates : UInt64
  shadowFailures : UInt64
deriving Repr, DecidableEq

/-- What the collector tells when it is asked. -/
structure Snapshot where
  connection : ConnectionCounters
  messages : MessageCounters
  phase : String
  phaseTransitions : UInt64
deriving Repr, DecidableEq

/-- What the collector tells now. -/
def snapshot (metrics : Metrics) : Snapshot where
  connection :=
    { connected := metrics.connected
      connectAttempts := metrics.connectAttempts
      cloudConnections := metrics.cloudConnections
      cloudReady := metrics.cloudReady
      readyTimeouts := metrics.readyTimeouts
      resets := metrics.resets
      linkLosses := metrics.linkLosses
      forcedDisconnects := metrics.forcedDisconnects }
  messages :=
    { enqueued := metrics.enqueued
      rejected := metrics.rejected
      sent := metrics.sent
      sendFailures := metrics.sendFailures
      inbound := metrics.inbound
      shadowUpdates := metrics.shadowUpdates
      shadowFailures := metrics.shadowFailures }
  phase := metrics.phase
  phaseTransitions := metrics.phaseTransitions

/-- The event that goes by a name; setting the phase has none, as it takes one. -/
def Count.ofName? : String → Option Count
  | "connect_attempt" => some .connectAttempt
  | "cloud_connection_established" => some .cloudConnectionEstablished
  | "cloud_ready" => some .cloudReady
  | "ready_timeout" => some .readyTimeout
  | "reset_performed" => some .resetPerformed
  | "link_lost" => some .linkLost
  | "forced_disconnect" => some .forcedDisconnect
  | "inbound_message" => some .inboundMessage
  | "shadow_updated" => some .shadowUpdated
  | "shadow_failed" => some .shadowFailed
  | "message_enqueued" => some .messageEnqueued
  | "message_rejected" => some .messageRejected
  | "message_sent" => some .messageSent
  | "message_send_failed" => some .messageSendFailed
  | "reset" => some .reset
  | _ => none

end Metrics

end Uplink
