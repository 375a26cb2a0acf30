import HostTypes.Codec.Binary
import HostTypes.Codec.JsonPayload
import HostTypes.Report.Error

/-!
Serializers: how the values of one registered type become bytes and come back. The two stock
serializers, binary and JSON, each handle one kind of payload.
-/

namespace HostTypes

structure Serializer where
  encode : Value → Except CodecError Bytes
  /-- Decodes bytes as a value of the given type. -/
  decode : TypeKey → Bytes → Except CodecError Value
  /-- Decoding must happen on the primary execution context. -/
  synchronous : Bool

namespace Serializer

def encodeKind (kind : PayloadKind) (encode : Payload → Bytes) (value : Value) :
    Except CodecError Bytes :=
  if value.payload.kind = kind then .ok (encode value.payload)
  else .error (.unexpectedPayload kind)

def decodeWith (read : Bytes → Option Payload) (failure : CodecError) (native : TypeKey)
    (bytes : Bytes) : Except CodecError Value :=
  match read bytes with
  | some payload => .ok ⟨native, payload⟩
  | none => .error failure

def binary (kind : PayloadKind) (synchronous : Bool) : Serializer where
  encode := encodeKind kind Payload.toBinary
  decode := decodeWith (Payload.ofBinary? kind) .binary
  synchronous := synchronous

def json (kind : PayloadKind) (synchronous : Bool) : Serializer where
  encode := encodeKind kind Payload.toJson
  decode := decodeWith (Payload.ofJson? kind) .json
  synchronous := synchronous

end Serializer

end HostTypes
