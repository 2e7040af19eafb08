import Uplink.Connection

/-!
Monitors: what the connection makes of the events of the cloud, the radio link and the clock.

Each event becomes bits of a register. A radio link that is lost while the transport is connected
forces a disconnect, as the transport cannot notice the loss by itself; a loss that a disconnect is
already under way for is not reported again.
-/

namespace Uplink.Connection

/-- Firmware of some kind was downloaded. -/
def onFirmware (connection : Connection) (kind : Option FirmwareKind) : Connection :=
  match connection.firmwareHandler with
  | .record => { connection with downloads := kind :: connection.downloads }
  | .note =>
    connection.log .info "Firmware image downloaded, reboot required to apply"
      [("fota_type", .text (FirmwareKind.labelOf kind))]

/-- A device message came from the cloud. -/
def onInbound (connection : Connection) (payload : ByteArray) : Connection :=
  match connection.inboundHandler with
  | some (.deliver handler) => { connection with inbound := ⟨handler, payload⟩ :: connection.inbound }
  | some .note => connection.log .info "Received device message from cloud" [("bytes", .int payload.size)]
  | none => connection.log .debug "No inbound message handler registered, dropping message" []

/-- The device was added to a user's account. Only if the cloud had asked for that does the session
have to be set up again. -/
def onAssociated (connection : Connection) : Connection :=
  if connection.cloud.isSet Cloud.associationRequest then
    ((connection.log .info "Device successfully associated with cloud!" []).count
      .forcedDisconnect).requestDisconnect
  else connection

/-- What an event of the cloud transport leads to. -/
def onCloudEvent (connection : Connection) (event : CloudEvent) : Connection :=
  let connection := connection.log .debug "Cloud transport event" [("event", .text event.name)]
  match event with
  | .connected => connection.post .cloud Cloud.connected
  | .connecting => connection
  | .connectError status => connection.log .debug "Cloud connect error" [("status", .int status)]
  | .userAssociationRequest =>
    (connection.log .info "Please add this device to your cloud account in the cloud portal." []).post
      .cloud Cloud.associationRequest
  | .userAssociated => connection.onAssociated
  | .ready => connection.post .cloud Cloud.ready
  | .sensorDataAck => connection
  | .disconnected => connection.requestDisconnect
  | .error status =>
    (connection.log .warn "Cloud transport error, treating as disconnect"
      [("status", .int status)]).requestDisconnect
  | .rxDataGeneral payload =>
    ((connection.log .debug "Device message received from cloud" [("bytes", .int payload.size)]).count
      .inboundMessage).onInbound payload
  | .rxDataShadow payload =>
    connection.log .debug "Shadow data received from cloud" [("bytes", .int payload.size)]
  | .fotaStart => connection
  | .fotaDone kind =>
    (connection.log .debug "Firmware update download complete"
      [("fota_type", .text (FirmwareKind.labelOf kind))]).onFirmware kind
  | .fotaError => connection.log .warn "Firmware update failed" []

/-- The modem's standing with the network changed. -/
def onRegistration (connection : Connection) (status : Registration) : Connection :=
  let connection := connection.log .debug "Network registration status" [("status", .text status.label)]
  if status.isRegistered then connection.post .network Network.connected
  else
    -- Every standing but the two with data connectivity is a loss of the network.
    let connection := connection.clear .network
    -- Without a session there is nothing to drop, and one drop is enough.
    if connection.isConnected && !connection.isDisconnecting then
      (((connection.log .info "LTE connection lost. Disconnecting from cloud too..." []).count
        .linkLost).count .forcedDisconnect).requestDisconnect
    else connection

/-- What an event of the radio link leads to. -/
def onLinkEvent (connection : Connection) : LinkEvent → Connection
  | .registration status => connection.onRegistration status
  | .psmUpdate tau activeTime =>
    connection.log .debug "PSM parameter update" [("tau", .int tau), ("active_time", .int activeTime)]
  | .edrxUpdate edrx ptw =>
    connection.log .debug "eDRX parameter update"
      [("edrx", .real edrx.toFloat), ("ptw", .real ptw.toFloat)]
  | .rrcUpdate mode => connection.log .debug "RRC mode" [("rrc_mode", .text mode.label)]
  | .cellUpdate id trackingArea =>
    connection.log .debug "LTE cell changed" [("cell_id", .int id), ("tracking_area", .int trackingArea)]
  | .lteModeUpdate mode => connection.log .debug "Active LTE mode changed" [("lte_mode", .text mode.label)]
  | .modemEvent notice => connection.log .debug "Modem domain event" [("modem_event", .text notice.label)]

/-- The clock reported whether it knows the date and the time. -/
def onDateTime (connection : Connection) (isValid : Bool) : Connection :=
  -- That the time was known once is not taken back.
  if isValid then
    (connection.log .debug "Date and time are now known" []).post .dateTime DateTime.known
  else connection

end Uplink.Connection
