/-!
Byte strings, and text as bytes in UTF-8.
-/

namespace HostTypes

abbrev Bytes := List UInt8

def textBytes (text : String) : Bytes :=
  text.toUTF8.data.toList

def textOfBytes? (bytes : Bytes) : Option String :=
  String.fromUTF8? ⟨bytes.toArray⟩

end HostTypes
