import Mathlib.Data.List.Basic

/-!
# Alexandria message framing

The ten message classes, the registry their `@register` decorators build, `to_wire_bytes` and
`decode_message`: a message is its class's one-byte id, then its SSZ payload. py-ssz and the
payload classes are not under `src/`; `ssz.decode` and `from_payload_args` are parameters.
-/

namespace Ddht

namespace Alexandria

/-- The `AlexandriaMessage` subclasses `messages.py` defines. -/
inductive MessageClass where
  | ping
  | pong
  | findNodes
  | foundNodes
  | getContent
  | content
  | advertise
  | ack
  | locate
  | locations
  deriving DecidableEq, Repr

/-- `AlexandriaMessageType`. -/
inductive MessageType where
  | request
  | response
  deriving DecidableEq, Repr

namespace MessageClass

/-- The class attribute `message_id`. -/
def messageId : MessageClass → Nat
  | .ping => 1
  | .pong => 2
  | .findNodes => 3
  | .foundNodes => 4
  | .getContent => 5
  | .content => 6
  | .advertise => 7
  | .ack => 8
  | .locate => 9
  | .locations => 10

/-- The class attribute `type`. -/
def type : MessageClass → MessageType
  | .ping | .findNodes | .getContent | .advertise | .locate => .request
  | .pong | .foundNodes | .content | .ack | .locations => .response

/-- The class's name in `messages.py`. -/
def name : MessageClass → String
  | .ping => "PingMessage"
  | .pong => "PongMessage"
  | .findNodes => "FindNodesMessage"
  | .foundNodes => "FoundNodesMessage"
  | .getContent => "GetContentMessage"
  | .content => "ContentMessage"
  | .advertise => "AdvertiseMessage"
  | .ack => "AckMessage"
  | .locate => "LocateMessage"
  | .locations => "LocationsMessage"

/-- How a class prints in an f-string. -/
instance instToString : ToString MessageClass :=
  ⟨fun c => "<class \x27ddht.v5_1.alexandria.messages." ++ c.name ++ "\x27>"⟩

end MessageClass

/-- The classes in the order the module registers them. -/
def definedClasses : List MessageClass :=
  [.ping, .pong, .findNodes, .foundNodes, .getContent, .content, .advertise, .ack, .locate,
    .locations]

/-- `MESSAGE_REGISTRY`, as a list of `(message_id, class)` entries. -/
abbrev Registry := List (Nat × MessageClass)

/-- `register(message_class)`; the error is its `ValueError`. -/
def register (registry : Registry) (messageClass : MessageClass) : Except String Registry :=
  let messageId := messageClass.messageId
  match registry.lookup messageId with
  | some existing =>
    .error s!"Message id already in registry: id={messageId} class={existing}"
  | none => .ok (registry ++ [(messageId, messageClass)])

/-- `MESSAGE_REGISTRY` once the module is imported; an error would abort the import. -/
def messageRegistry : Except String Registry := definedClasses.foldlM register []

/-- Importing the module registers every class under its own id. -/
theorem messageRegistry_eq :
    messageRegistry = .ok (definedClasses.map fun c => (c.messageId, c)) :=
  rfl

/-- `MESSAGE_REGISTRY[message_id]`, `none` being the `KeyError`. -/
def registryLookup (messageId : Nat) : Option MessageClass :=
  match messageRegistry with
  | .ok registry => registry.lookup messageId
  | .error _ => none

/-- A registry built of `(message_id, class)` entries maps an id only to a class with that id. -/
theorem lookup_map_messageId {n : Nat} {c : MessageClass} :
    ∀ {l : List MessageClass}, (l.map fun c => (c.messageId, c)).lookup n = some c →
      c.messageId = n
  | [], h => by cases h
  | x :: xs, h => by
    rw [List.map_cons, List.lookup_cons] at h
    split at h
    · rename_i hx
      cases h
      exact (beq_iff_eq.mp hx).symm
    · exact lookup_map_messageId h

/-- The registry maps an id to a class exactly when it is that class's `message_id`: the
ids are distinct, so the leading byte names one class. -/
theorem registryLookup_eq_some {n : Nat} {c : MessageClass} :
    registryLookup n = some c ↔ c.messageId = n := by
  rw [registryLookup, messageRegistry_eq]
  refine ⟨lookup_map_messageId, ?_⟩
  rintro rfl
  cases c <;> rfl

/-- What `decode_message` needs from outside `src/`: `ssz.decode` under a class's sedes, with
its `DeserializationError` message, and the class's `from_payload_args`, which may raise `ε`. -/
structure Decoder (ε Args Message : Type) where
  decode : MessageClass → List UInt8 → Except String Args
  fromPayloadArgs : MessageClass → Args → Except ε Message

/-- The exceptions `decode_message` lets out. -/
inductive DecodeFailure (ε : Type) where
  /-- `data[0]` on empty data. -/
  | indexError
  /-- `DecodingError`, with its message. -/
  | decodingError (message : String)
  /-- What a class's `from_payload_args` raised. -/
  | payloadError (e : ε)
  deriving DecidableEq, Repr

variable {ε Args Message : Type}

/-- `decode_message(data)`. -/
def decodeMessage (d : Decoder ε Args Message) (data : List UInt8) :
    Except (DecodeFailure ε) Message :=
  match data with
  | [] => .error .indexError
  | messageId :: payload =>
    match registryLookup messageId.toNat with
    | none => .error (.decodingError s!"Unknown message type: id={messageId}")
    | some c =>
      match d.decode c payload with
      | .error err => .error (.decodingError err)
      | .ok args => (d.fromPayloadArgs c args).mapError .payloadError

/-- `message.to_wire_bytes()`, given the SSZ bytes of its payload for encoding. -/
def toWireBytes (c : MessageClass) (sszPayload : List UInt8) : List UInt8 :=
  c.messageId.toUInt8 :: sszPayload

/-- `decode_message` of the empty string is `data[0]`'s `IndexError`, whatever the classes. -/
theorem decodeMessage_empty (d : Decoder ε Args Message) :
    decodeMessage d [] = .error .indexError :=
  rfl

/-- The framing round trip: `decode_message` of what `to_wire_bytes` wrote picks the same
class again and hands its sedes exactly the SSZ bytes of the payload. -/
theorem decodeMessage_toWireBytes (d : Decoder ε Args Message) (c : MessageClass)
    (sszPayload : List UInt8) :
    decodeMessage d (toWireBytes c sszPayload) =
      match d.decode c sszPayload with
      | .error err => .error (.decodingError err)
      | .ok args => (d.fromPayloadArgs c args).mapError .payloadError := by
  have hid : c.messageId.toUInt8.toNat = c.messageId := by
    cases c <;> rfl
  simp only [decodeMessage, toWireBytes, hid, registryLookup_eq_some.mpr rfl]

end Alexandria

end Ddht
