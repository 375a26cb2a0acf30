import HostTypes.Codec.JsonPayload
import HostTypes.Proofs.Codec.ExactFormat
import Mathlib.Tactic.SplitIfs

/-!
Quoted texts of JSON documents. A character within quotes is read as pieces that stand for its bytes
(`denotes_escapeChar`), whether it is escaped or not, and so is a list of characters; so every text is
read back from its quotation (`readText?_quote`).
-/

namespace HostTypes

/-! ## Text as bytes -/

def charBytes (cs : List Char) : Bytes :=
  cs.flatMap String.utf8EncodeChar

@[simp]
theorem charBytes_nil : charBytes [] = [] := rfl

theorem charBytes_cons (c : Char) (cs : List Char) :
    charBytes (c :: cs) = String.utf8EncodeChar c ++ charBytes cs := rfl

@[simp]
theorem charBytes_append (cs more : List Char) :
    charBytes (cs ++ more) = charBytes cs ++ charBytes more :=
  List.flatMap_append

theorem textBytes_ofList (cs : List Char) : textBytes (String.ofList cs) = charBytes cs := by
  unfold textBytes charBytes
  rw [String.toUTF8_eq_toByteArray, String.toByteArray_ofList, List.utf8Encode,
    List.data_toByteArray]

theorem textOfBytes?_charBytes (cs : List Char) :
    textOfBytes? (charBytes cs) = some (String.ofList cs) :=
  textOfBytes?_eq_some_iff.2 (textBytes_ofList cs).symm

theorem toNat_of_mem_utf8EncodeChar {c : Char} {byte : UInt8}
    (member : byte ∈ String.utf8EncodeChar c) : byte.toNat = c.toNat ∨ 128 ≤ byte.toNat := by
  have value : c.toNat = c.val.toNat := rfl
  unfold String.utf8EncodeChar at member
  dsimp only at member
  split_ifs at member <;> simp only [List.mem_cons, List.not_mem_nil, or_false] at member <;>
    rcases member with rfl | rfl | rfl | rfl <;> simp only [UInt8.toNat_ofNat'] <;> omega

namespace Json

/-! ## Pieces of texts -/

/-- A byte that stands for itself within quotes. -/
def IsPlain (byte : UInt8) : Prop :=
  byte ≠ ascii '"' ∧ byte ≠ ascii '\\' ∧ ¬ byte < 0x20

theorem isPlain_iff {byte : UInt8} :
    IsPlain byte ↔ byte.toNat ≠ 34 ∧ byte.toNat ≠ 92 ∧ 32 ≤ byte.toNat := by
  simp only [IsPlain, ne_eq, ← UInt8.toNat_inj, UInt8.lt_iff_toNat_lt, Nat.not_lt]
  rfl

variable {rest : Bytes}

theorem readPieces?_end : readPieces? (ascii '"' :: rest) = some ([], rest) := by
  rw [readPieces?.eq_def]
  rfl

theorem readPieces?_byte {byte : UInt8} (plain : IsPlain byte) :
    readPieces? (byte :: rest) =
      (readPieces? rest).map fun read => (.byte byte :: read.1, read.2) := by
  obtain ⟨quote, backslash, control⟩ := plain
  rw [readPieces?.eq_def]
  simp only [beq_iff_eq, quote, backslash, control, if_false]
  cases readPieces? rest <;> rfl

theorem readPieces?_escape {escape value : UInt8} (other : escape ≠ ascii 'u')
    (stands : simpleEscape? escape = some value) :
    readPieces? (ascii '\\' :: escape :: rest) =
      (readPieces? rest).map fun read => (.byte value :: read.1, read.2) := by
  have quote : ascii '\\' ≠ ascii '"' := by decide
  rw [readPieces?.eq_def]
  simp only [beq_iff_eq, quote, other, stands, if_false, if_true]
  cases readPieces? rest <;> rfl

theorem readPieces?_unit {high low : UInt8} {upper lower : Nat} (first : hexValue? high = some upper)
    (second : hexValue? low = some lower) :
    readPieces? (charBytes ['\\', 'u', '0', '0'] ++ high :: low :: rest) =
      (readPieces? rest).map fun read => (.unit (upper * 16 + lower) :: read.1, read.2) := by
  have bytes : charBytes ['\\', 'u', '0', '0'] ++ high :: low :: rest =
    ascii '\\' :: ascii 'u' :: ascii '0' :: ascii '0' :: high :: low :: rest := rfl
  have quote : ascii '\\' ≠ ascii '"' := by decide
  have zero : hexValue? (ascii '0') = some 0 := by decide
  rw [bytes, readPieces?.eq_def]
  simp only [beq_iff_eq, quote, zero, first, second, if_false, if_true]
  cases readPieces? rest <;> simp

theorem readPieces?_bytes {bytes : Bytes} (plain : ∀ byte ∈ bytes, IsPlain byte) :
    readPieces? (bytes ++ rest) =
      (readPieces? rest).map fun read => (bytes.map TextPiece.byte ++ read.1, read.2) := by
  induction bytes with
  | nil => simp
  | cons byte more ih =>
      obtain ⟨first, others⟩ := List.forall_mem_cons.1 plain
      rw [List.cons_append, readPieces?_byte first, ih others, Option.map_map]
      rfl

theorem bytesOfPieces?_bytes (bytes : Bytes) (more : List TextPiece) :
    bytesOfPieces? (bytes.map TextPiece.byte ++ more) = (bytesOfPieces? more).map (bytes ++ ·) := by
  induction bytes with
  | nil => simp
  | cons byte others ih =>
      rw [List.map_cons, List.cons_append, bytesOfPieces?, ih, Option.map_map]
      rfl

/-- Within quotes the characters are read as pieces that stand for the bytes. -/
def Denotes (quoted : List Char) (bytes : Bytes) : Prop :=
  ∃ pieces, (∀ rest, readPieces? (charBytes quoted ++ rest) =
      (readPieces? rest).map fun read => (pieces ++ read.1, read.2)) ∧
    ∀ more, bytesOfPieces? (pieces ++ more) = (bytesOfPieces? more).map (bytes ++ ·)

theorem denotes_nil : Denotes [] [] :=
  ⟨[], fun rest => by simp, fun more => by simp⟩

theorem Denotes.append {quoted more : List Char} {bytes others : Bytes} (first : Denotes quoted bytes)
    (second : Denotes more others) : Denotes (quoted ++ more) (bytes ++ others) := by
  obtain ⟨pieces, reads, stands⟩ := first
  obtain ⟨later, readsLater, standsLater⟩ := second
  refine ⟨pieces ++ later, fun rest => ?_, fun following => ?_⟩
  · rw [charBytes_append, List.append_assoc, reads, readsLater, Option.map_map]
    simp [Function.comp_def]
  · rw [List.append_assoc, stands, standsLater, Option.map_map]
    simp [Function.comp_def]

theorem denotes_plain {c : Char} (quote : c ≠ '"') (backslash : c ≠ '\\')
    (shown : 0x20 ≤ c.toNat) : Denotes [c] (String.utf8EncodeChar c) := by
  have plain : ∀ byte ∈ String.utf8EncodeChar c, IsPlain byte := by
    intro byte member
    have number := toNat_of_mem_utf8EncodeChar member
    have notQuote : c.toNat ≠ 34 := fun same => quote (Char.toNat_inj.1 same)
    have notBackslash : c.toNat ≠ 92 := fun same => backslash (Char.toNat_inj.1 same)
    rw [isPlain_iff]
    omega
  refine ⟨(String.utf8EncodeChar c).map .byte, fun rest => ?_, bytesOfPieces?_bytes _⟩
  rw [charBytes_cons, charBytes_nil, List.append_nil]
  exact readPieces?_bytes plain

theorem denotes_escape {escape : Char} {value : UInt8}
    (single : String.utf8EncodeChar escape = [ascii escape]) (other : ascii escape ≠ ascii 'u')
    (stands : simpleEscape? (ascii escape) = some value) : Denotes ['\\', escape] [value] := by
  refine ⟨[.byte value], fun rest => ?_, bytesOfPieces?_bytes [value]⟩
  rw [charBytes_cons, charBytes_cons, single]
  exact readPieces?_escape other stands

theorem hexValue?_hexDigit : ∀ n < 16, String.utf8EncodeChar (hexDigit n) = [ascii (hexDigit n)] ∧
    hexValue? (ascii (hexDigit n)) = some n := by
  decide

theorem denotes_control {c : Char} (control : c.toNat < 0x20) :
    Denotes ['\\', 'u', '0', '0', hexDigit (c.toNat / 16), hexDigit (c.toNat % 16)]
      (String.utf8EncodeChar c) := by
  obtain ⟨high, upper⟩ := hexValue?_hexDigit (c.toNat / 16) (by omega)
  obtain ⟨low, lower⟩ := hexValue?_hexDigit (c.toNat % 16) (by omega)
  refine ⟨[.unit c.toNat], fun rest => ?_, fun more => ?_⟩
  · have digits : c.toNat / 16 * 16 + c.toNat % 16 = c.toNat := by omega
    have bytes : charBytes ['\\', 'u', '0', '0', hexDigit (c.toNat / 16), hexDigit (c.toNat % 16)] ++
        rest = charBytes ['\\', 'u', '0', '0'] ++ ascii (hexDigit (c.toNat / 16)) ::
          ascii (hexDigit (c.toNat % 16)) :: rest := by
      simp only [charBytes_cons, charBytes_nil, high, low, List.append_assoc, List.cons_append,
        List.nil_append]
    rw [bytes, readPieces?_unit upper lower, digits]
    rfl
  · -- No control character is a surrogate, so the unit is the character.
    have high : ¬ 0xD800 ≤ c.toNat := by omega
    have low : ¬ 0xDC00 ≤ c.toNat := by omega
    have bytes : textBytes (String.singleton c) = String.utf8EncodeChar c := by
      rw [String.singleton_eq_ofList, textBytes_ofList, charBytes_cons, charBytes_nil,
        List.append_nil]
    rw [List.singleton_append, bytesOfPieces?.eq_def]
    simp [low, high, Char.ofNat_toNat, bytes]

theorem denotes_escapeChar (c : Char) : Denotes (escapeChar c) (String.utf8EncodeChar c) := by
  unfold escapeChar
  split_ifs with quote backslash backspace tab newline feed back control
  · subst quote
    exact denotes_escape rfl (by decide) rfl
  · subst backslash
    exact denotes_escape rfl (by decide) rfl
  · obtain rfl : c = '\x08' := Char.toNat_inj.1 backspace
    exact denotes_escape rfl (by decide) rfl
  · obtain rfl : c = '\t' := Char.toNat_inj.1 tab
    exact denotes_escape rfl (by decide) rfl
  · obtain rfl : c = '\n' := Char.toNat_inj.1 newline
    exact denotes_escape rfl (by decide) rfl
  · obtain rfl : c = '\x0c' := Char.toNat_inj.1 feed
    exact denotes_escape rfl (by decide) rfl
  · obtain rfl : c = '\r' := Char.toNat_inj.1 back
    exact denotes_escape rfl (by decide) rfl
  · exact denotes_control control
  · exact denotes_plain quote backslash (by omega)

theorem denotes_escaped (cs : List Char) : Denotes (cs.flatMap escapeChar) (charBytes cs) := by
  induction cs with
  | nil => exact denotes_nil
  | cons c rest ih => exact (denotes_escapeChar c).append ih

theorem readText?_quote (content : String) (rest : Bytes) :
    ∃ more, charBytes (quote content) ++ rest = ascii '"' :: more ∧
      readText? more = some (some content, rest) := by
  obtain ⟨pieces, reads, stands⟩ := denotes_escaped content.toList
  have bytes : bytesOfPieces? pieces = some (charBytes content.toList) := by
    have whole := stands []
    rwa [List.append_nil, bytesOfPieces?, Option.map_some, List.append_nil] at whole
  refine ⟨charBytes (content.toList.flatMap escapeChar) ++ ascii '"' :: rest, ?_, ?_⟩
  · simp only [quote, charBytes_cons, charBytes_append, charBytes_nil, List.append_assoc,
      List.append_nil]
    rfl
  · rw [readText?, reads, readPieces?_end]
    simp [bytes, textOfBytes?_charBytes]

end Json

end HostTypes
