import HostTypes.Codec.Bytes
import HostTypes.Value

/-!
The binary format. Words have a fixed width and put their low byte first; texts and lists are an
eight-byte length and their content; records are their fields in order. A reader takes what it needs
from the front and leaves the rest.
-/

namespace HostTypes

structure BinaryFormat (α : Type) where
  write : α → Bytes
  read : Bytes → Option (α × Bytes)

namespace BinaryFormat

variable {α β : Type}

/-- The low `width` bytes of a number, low byte first. -/
def wordBytes : Nat → Nat → Bytes
  | 0, _ => []
  | width + 1, n => UInt8.ofNat (n % 256) :: wordBytes width (n / 256)

def wordValue : Bytes → Nat
  | [] => 0
  | byte :: rest => byte.toNat + 256 * wordValue rest

def word (width : Nat) : BinaryFormat Nat where
  write := wordBytes width
  read bytes :=
    if width ≤ bytes.length then some (wordValue (bytes.take width), bytes.drop width) else none

def imap (format : BinaryFormat α) (into : α → β) (back : β → α) : BinaryFormat β where
  write value := format.write (back value)
  read bytes := (format.read bytes).map fun (value, rest) => (into value, rest)

def pair (first : BinaryFormat α) (second : BinaryFormat β) : BinaryFormat (α × β) where
  write value := first.write value.1 ++ second.write value.2
  read bytes := do
    let (one, rest) ← first.read bytes
    let (two, rest) ← second.read rest
    return ((one, two), rest)

def readMany (format : BinaryFormat α) : Nat → Bytes → Option (List α × Bytes)
  | 0, bytes => some ([], bytes)
  | count + 1, bytes => do
    let (value, rest) ← format.read bytes
    let (values, rest) ← readMany format count rest
    return (value :: values, rest)

/-- Lengths take eight bytes. -/
def length : BinaryFormat Nat :=
  word 8

/-- A list, its length first. -/
def list (format : BinaryFormat α) : BinaryFormat (List α) where
  write values := length.write values.length ++ values.flatMap format.write
  read bytes := do
    let (count, rest) ← length.read bytes
    readMany format count rest

def byte : BinaryFormat UInt8 :=
  (word 1).imap UInt8.ofNat UInt8.toNat

def text : BinaryFormat String where
  write content := length.write (textBytes content).length ++ textBytes content
  read bytes := do
    let (count, rest) ← length.read bytes
    if count ≤ rest.length then
      let content ← textOfBytes? (rest.take count)
      return (content, rest.drop count)
    else none

/-- A truth value, as a byte that is zero or one. -/
def truth : BinaryFormat Bool where
  write value := [if value then 1 else 0]
  read
    | 0 :: rest => some (false, rest)
    | 1 :: rest => some (true, rest)
    | _ => none

def uint64 : BinaryFormat UInt64 :=
  (word 8).imap UInt64.ofNat UInt64.toNat

def uint32 : BinaryFormat UInt32 :=
  (word 4).imap UInt32.ofNat UInt32.toNat

def int64 : BinaryFormat Int64 :=
  uint64.imap UInt64.toInt64 Int64.toUInt64

def int32 : BinaryFormat Int32 :=
  uint32.imap UInt32.toInt32 Int32.toUInt32

def number : BinaryFormat Binary64 :=
  uint64.imap Binary64.mk Binary64.bits

def timespan : BinaryFormat Timespan :=
  uint64.imap Timespan.mk Timespan.millis

def place : BinaryFormat Place :=
  (text.pair (int32.pair int32)).imap (fun (world, x, z) => ⟨world, x, z⟩)
    fun spot => (spot.world, spot.x, spot.z)

def nothing : BinaryFormat Unit where
  write _ := []
  read bytes := some ((), bytes)

end BinaryFormat

namespace Payload

/-- The binary form of a payload. Its kind is not written. -/
def toBinary : Payload → Bytes
  | text content => BinaryFormat.text.write content
  | number value => BinaryFormat.number.write value
  | truth value => BinaryFormat.truth.write value
  | timespan span => BinaryFormat.timespan.write span
  | integer value => BinaryFormat.int64.write value
  | count value => BinaryFormat.uint32.write value
  | texts content => (BinaryFormat.list BinaryFormat.text).write content
  | place spot => BinaryFormat.place.write spot
  | unit => BinaryFormat.nothing.write ()

def readBinary? (kind : PayloadKind) (bytes : Bytes) : Option (Payload × Bytes) :=
  match kind with
  | .text => (BinaryFormat.text.read bytes).map (Prod.map text id)
  | .number => (BinaryFormat.number.read bytes).map (Prod.map number id)
  | .truth => (BinaryFormat.truth.read bytes).map (Prod.map truth id)
  | .timespan => (BinaryFormat.timespan.read bytes).map (Prod.map timespan id)
  | .integer => (BinaryFormat.int64.read bytes).map (Prod.map integer id)
  | .count => (BinaryFormat.uint32.read bytes).map (Prod.map count id)
  | .texts => ((BinaryFormat.list BinaryFormat.text).read bytes).map (Prod.map texts id)
  | .place => (BinaryFormat.place.read bytes).map (Prod.map place id)
  | .unit => (BinaryFormat.nothing.read bytes).map (Prod.map (fun _ => unit) id)

/-- The payload of a known kind that a byte string starts with. What follows it is ignored. -/
def ofBinary? (kind : PayloadKind) (bytes : Bytes) : Option Payload :=
  (readBinary? kind bytes).map Prod.fst

end Payload

/-- A value as it is stored: the code name of its entry and its encoded payload. -/
structure StoredValue where
  codeName : String
  bytes : Bytes
  deriving DecidableEq, Repr

namespace StoredValue

def format : BinaryFormat StoredValue :=
  (BinaryFormat.text.pair (BinaryFormat.list BinaryFormat.byte)).imap
    (fun (codeName, bytes) => ⟨codeName, bytes⟩) fun stored => (stored.codeName, stored.bytes)

def toBytes (stored : StoredValue) : Bytes :=
  format.write stored

def ofBytes? (bytes : Bytes) : Option StoredValue :=
  (format.read bytes).map Prod.fst

end StoredValue

end HostTypes
