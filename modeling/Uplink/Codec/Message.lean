import Uplink.Codec.Decoder
import Uplink.Message

/-!
The document form of a device message: its identifier, the instant of its making, and a body that
may be any value.
-/

namespace Uplink

open Codec (Decoder Format Layout required)

/-- Decode an identifier from any of its written forms. -/
def Uuid.decode (format : Format) : Decoder Uuid := fun value => do
  let text ← format.text value
  match Uuid.parse? text with
  | some uuid => .ok uuid
  | none => .error "malformed identifier"

/-- Decode an instant from its written form. -/
def Instant.decode (format : Format) : Decoder Instant := fun value => do
  let text ← format.text value
  match Instant.parse? text with
  | some instant => .ok instant
  | none => .error "malformed date and time"

namespace Message

/-- The fields of a message. -/
def layout (format : Format) : Layout Message where
  name := "DeviceMessage"
  start := { id := ⟨0⟩, createdAt := ⟨0, 0⟩, payload := .null }
  fields :=
    [ required "id" (Uuid.decode format) fun id whole => { whole with id },
      required "created_at" (Instant.decode format) fun createdAt whole => { whole with createdAt },
      required "payload" .ok fun payload whole => { whole with payload } ]

/-- Decode a message. -/
def decode (format : Format) : Decoder Message :=
  (layout format).decode format

/-- The document form of a message. -/
def encode (message : Message) : Value :=
  .table
    [ ("id", .str message.id.render), ("created_at", .str message.createdAt.render),
      ("payload", message.payload) ]

end Message

end Uplink
