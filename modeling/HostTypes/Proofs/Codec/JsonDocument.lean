import HostTypes.Proofs.Codec.JsonText
import Mathlib.Data.List.DropRight

/-!
Compact JSON documents. `Spells` says of some characters that they are read as a document wherever no
number could go on after them; numbers, texts, arrays and objects are spelt by what writing puts
together for them, and a document that is spelt is read back as a whole (`read?_of_spells`).
-/

namespace HostTypes

def digitChars (digits : List Nat) : List Char :=
  digits.map Nat.digitChar

def IsDigits (digits : List Nat) : Prop :=
  digits ≠ [] ∧ ∀ digit ∈ digits, digit < 10

namespace JsonNumber

def fractionChars : Option (List Nat) → List Char
  | none => []
  | some digits => '.' :: digitChars digits

def exponentChars : Option (Bool × List Nat) → List Char
  | none => []
  | some (negative, digits) => 'e' :: ((if negative then ['-'] else []) ++ digitChars digits)

def unsignedChars (spelling : JsonNumber) : List Char :=
  digitChars spelling.whole ++ (fractionChars spelling.fraction ++ exponentChars spelling.exponent)

def chars (spelling : JsonNumber) : List Char :=
  (if spelling.negative then ['-'] else []) ++ spelling.unsignedChars

structure Valid (spelling : JsonNumber) : Prop where
  whole : IsDigits spelling.whole
  noNeedlessZero : 1 < spelling.whole.length → spelling.whole.head? ≠ some 0
  fraction : ∀ digits ∈ spelling.fraction, IsDigits digits
  exponent : ∀ negative digits, (negative, digits) ∈ spelling.exponent → IsDigits digits

end JsonNumber

namespace Json

/-! ## Digits -/

theorem digitValue?_digitChar : ∀ digit < 10,
    String.utf8EncodeChar (Nat.digitChar digit) = [ascii (Nat.digitChar digit)] ∧
      digitValue? (ascii (Nat.digitChar digit)) = some digit := by
  decide

theorem charBytes_digitChars_cons {digit : Nat} (small : digit < 10) (others : List Nat) :
    charBytes (digitChars (digit :: others)) =
      ascii (Nat.digitChar digit) :: charBytes (digitChars others) := by
  rw [digitChars, List.map_cons, charBytes_cons, (digitValue?_digitChar digit small).1]
  rfl

theorem ne_of_digitValue? {byte other : UInt8} {digit : Nat} (value : digitValue? byte = some digit)
    (none : digitValue? other = none) : byte ≠ other := by
  rintro rfl
  rw [value] at none
  cases none

/-- No digit comes next. -/
def NoDigit (rest : Bytes) : Prop :=
  ∀ byte ∈ rest.head?, digitValue? byte = none

theorem takeDigits_digitChars {digits : List Nat} (small : ∀ digit ∈ digits, digit < 10)
    {rest : Bytes} (stops : NoDigit rest) :
    takeDigits (charBytes (digitChars digits) ++ rest) = (digits, rest) := by
  induction digits with
  | nil =>
      cases rest with
      | nil => rfl
      | cons byte more =>
          have other : digitValue? byte = none := stops byte rfl
          rw [digitChars, List.map_nil, charBytes_nil, List.nil_append, takeDigits, other]
  | cons digit others ih =>
      obtain ⟨first, later⟩ := List.forall_mem_cons.1 small
      rw [charBytes_digitChars_cons first, List.cons_append, takeDigits,
        (digitValue?_digitChar digit first).2]
      simp only [ih later]

theorem readDigits?_digitChars {digits : List Nat} (isDigits : IsDigits digits) {rest : Bytes}
    (stops : NoDigit rest) :
    readDigits? (charBytes (digitChars digits) ++ rest) = some (digits, rest) := by
  rw [readDigits?, takeDigits_digitChars isDigits.2 stops]
  simp [isDigits.1]

/-! ## Numbers -/

/-- A number does not go on here. -/
def Ends (rest : Bytes) : Prop :=
  ∀ byte ∈ rest.head?, digitValue? byte = none ∧ byte ≠ ascii '.' ∧ byte ≠ ascii 'e' ∧
    byte ≠ ascii 'E'

theorem ends_nil : Ends [] :=
  nofun

variable {rest : Bytes}

theorem Ends.noDigit (ends : Ends rest) : NoDigit rest := fun byte first => (ends byte first).1

theorem Ends.noDigit_exponent (ends : Ends rest) (exponent : Option (Bool × List Nat)) :
    NoDigit (charBytes (JsonNumber.exponentChars exponent) ++ rest) := by
  cases exponent with
  | none => exact ends.noDigit
  | some pair =>
      intro byte first
      obtain rfl : ascii 'e' = byte := Option.some.inj first
      decide

theorem Ends.noDigit_fraction (ends : Ends rest) (fraction : Option (List Nat))
    (exponent : Option (Bool × List Nat)) :
    NoDigit (charBytes (JsonNumber.fractionChars fraction) ++
      (charBytes (JsonNumber.exponentChars exponent) ++ rest)) := by
  cases fraction with
  | none => exact ends.noDigit_exponent exponent
  | some digits =>
      intro byte first
      obtain rfl : ascii '.' = byte := Option.some.inj first
      decide

theorem readWhole?_digitChars {digits : List Nat} (isDigits : IsDigits digits)
    (noNeedlessZero : 1 < digits.length → digits.head? ≠ some 0) (stops : NoDigit rest) :
    readWhole? (charBytes (digitChars digits) ++ rest) = some (digits, rest) := by
  rw [readWhole?, readDigits?_digitChars isDigits stops]
  simpa using noNeedlessZero

theorem readExponent?_exponentChars {exponent : Option (Bool × List Nat)}
    (valid : ∀ negative digits, (negative, digits) ∈ exponent → IsDigits digits)
    (ends : Ends rest) :
    readExponent? (charBytes (JsonNumber.exponentChars exponent) ++ rest) =
      some (exponent, rest) := by
  cases exponent with
  | none =>
      cases rest with
      | nil => rfl
      | cons byte more =>
          obtain ⟨_, _, small, large⟩ := ends byte rfl
          simp [JsonNumber.exponentChars, readExponent?, small, large]
  | some pair =>
      obtain ⟨negative, digits⟩ := pair
      have isDigits := valid negative digits rfl
      have read := readDigits?_digitChars isDigits ends.noDigit
      cases negative with
      | true => exact (congrArg (Option.map _) read).trans rfl
      | false =>
          obtain ⟨digit, others, rfl⟩ := List.exists_cons_of_ne_nil isDigits.1
          have small := isDigits.2 digit List.mem_cons_self
          have value := (digitValue?_digitChar digit small).2
          have minus : ascii (Nat.digitChar digit) ≠ ascii '-' := ne_of_digitValue? value rfl
          have plus : ascii (Nat.digitChar digit) ≠ ascii '+' := ne_of_digitValue? value rfl
          have bytes : charBytes (JsonNumber.exponentChars (some (false, digit :: others))) ++ rest =
            ascii 'e' :: (charBytes (digitChars (digit :: others)) ++ rest) := rfl
          rw [charBytes_digitChars_cons small, List.cons_append] at read bytes
          rw [bytes]
          simp [readExponent?, minus, plus, read]

theorem readFraction?_fractionChars {fraction : Option (List Nat)}
    (valid : ∀ digits ∈ fraction, IsDigits digits) (ends : Ends rest)
    (exponent : Option (Bool × List Nat)) :
    readFraction? (charBytes (JsonNumber.fractionChars fraction) ++
        (charBytes (JsonNumber.exponentChars exponent) ++ rest)) =
      some (fraction, charBytes (JsonNumber.exponentChars exponent) ++ rest) := by
  cases fraction with
  | none =>
      cases exponent with
      | some pair => rfl
      | none =>
          cases rest with
          | nil => rfl
          | cons byte more =>
              have point : byte ≠ ascii '.' := (ends byte rfl).2.1
              simp [JsonNumber.fractionChars, JsonNumber.exponentChars, readFraction?, point]
  | some digits =>
      have read := readDigits?_digitChars (valid digits rfl) (ends.noDigit_exponent exponent)
      exact (congrArg (Option.map _) read).trans rfl

theorem readNumber?_unsignedChars {spelling : JsonNumber} (valid : spelling.Valid)
    (ends : Ends rest) :
    readNumber? spelling.negative (charBytes spelling.unsignedChars ++ rest) =
      some (spelling, rest) := by
  rw [JsonNumber.unsignedChars, charBytes_append, charBytes_append, List.append_assoc,
    List.append_assoc, readNumber?,
    readWhole?_digitChars valid.whole valid.noNeedlessZero (ends.noDigit_fraction _ _)]
  simp [readFraction?_fractionChars valid.fraction ends, readExponent?_exponentChars valid.exponent ends]

/-! ## Documents -/

/-- The characters are read as the document wherever a number would end. -/
def Spells (chars : List Char) (json : Json) : Prop :=
  ∀ fuel rest, chars.length ≤ fuel → Ends rest →
    readValue? fuel (charBytes chars ++ rest) = some (json, rest)

theorem skipBlanks_cons {byte : UInt8} (shown : isBlankByte byte = false) :
    skipBlanks (byte :: rest) = byte :: rest := by
  simp [skipBlanks, shown]

theorem spells_null : Spells "null".toList null := by
  intro fuel rest enough _
  obtain ⟨fuel, rfl⟩ := Nat.exists_eq_add_of_le' enough
  rfl

theorem spells_truth (value : Bool) :
    Spells (if value then "true" else "false").toList (truth value) := by
  intro fuel rest enough _
  cases value with
  | true =>
      obtain ⟨fuel, rfl⟩ := Nat.exists_eq_add_of_le' enough
      rfl
  | false =>
      obtain ⟨fuel, rfl⟩ := Nat.exists_eq_add_of_le' enough
      rfl

theorem spells_text (content : String) : Spells (quote content) (text (some content)) := by
  intro fuel rest enough _
  obtain ⟨more, bytes, read⟩ := readText?_quote content rest
  cases fuel with
  | zero => simp [quote] at enough
  | succ fuel =>
      rw [bytes, readValue?, skipBlanks_cons rfl]
      simp [read]

theorem readValue?_digit {byte : UInt8} {digit : Nat} (value : digitValue? byte = some digit)
    (fuel : Nat) : readValue? (fuel + 1) (byte :: rest) =
      (readNumber? false (byte :: rest)).map (Prod.map number id) := by
  have other (c : Char) (none : digitValue? (ascii c) = none) : byte ≠ ascii c :=
    ne_of_digitValue? value none
  have shown : isBlankByte byte = false := by
    simp [isBlankByte, other ' ' rfl, other '\n' rfl, other '\t' rfl, other '\r' rfl]
  rw [readValue?, skipBlanks_cons shown]
  simp [other '"' rfl, other '-' rfl, value]

theorem spells_number {spelling : JsonNumber} (valid : spelling.Valid) :
    Spells spelling.chars (number spelling) := by
  intro fuel rest enough ends
  have read := readNumber?_unsignedChars valid ends
  obtain ⟨negative, whole, fraction, exponent⟩ := spelling
  obtain ⟨digit, others, rfl⟩ := List.exists_cons_of_ne_nil valid.whole.1
  have small := valid.whole.2 digit List.mem_cons_self
  cases fuel with
  | zero => simp [JsonNumber.chars, JsonNumber.unsignedChars, digitChars] at enough
  | succ fuel =>
      cases negative with
      | true => exact (congrArg (Option.map _) read).trans rfl
      | false =>
          rw [JsonNumber.unsignedChars, charBytes_append, charBytes_digitChars_cons small] at read
          rw [JsonNumber.chars, JsonNumber.unsignedChars, if_neg Bool.false_ne_true,
            List.nil_append, charBytes_append, charBytes_digitChars_cons small, List.cons_append,
            List.cons_append]
          exact (readValue?_digit (digitValue?_digitChar digit small).2 fuel).trans
            ((congrArg (Option.map _) read).trans rfl)

/-! ## Lists -/

theorem charBytes_intercalate_cons (first second : List Char) (others : List (List Char)) :
    charBytes (List.intercalate [','] (first :: second :: others)) ++ rest =
      charBytes first ++ ascii ',' ::
        (charBytes (List.intercalate [','] (second :: others)) ++ rest) := by
  rw [List.intercalate_cons_cons, charBytes_append, charBytes_append, List.append_assoc,
    List.append_assoc]
  rfl

theorem length_intercalate_cons (first second : List Char) (others : List (List Char)) :
    (List.intercalate [','] (first :: second :: others)).length =
      first.length + 1 + (List.intercalate [','] (second :: others)).length := by
  rw [List.intercalate_cons_cons, List.length_append, List.length_append, List.length_singleton]

theorem charBytes_jsonList (opening closing : Char) (parts : List (List Char)) :
    charBytes (Payload.jsonList opening closing parts) ++ rest =
      String.utf8EncodeChar opening ++ (charBytes (List.intercalate [','] parts) ++
        (String.utf8EncodeChar closing ++ rest)) := by
  rw [Payload.jsonList, charBytes_append, charBytes_cons, charBytes_cons, charBytes_nil,
    List.append_nil, List.append_assoc, List.append_assoc]

theorem length_jsonList (opening closing : Char) (parts : List (List Char)) :
    (Payload.jsonList opening closing parts).length =
      (List.intercalate [','] parts).length + 2 := by
  rw [Payload.jsonList, List.length_append, List.length_cons, List.length_singleton]

theorem skipBlanks_skipBlanks (bytes : Bytes) : skipBlanks (skipBlanks bytes) = skipBlanks bytes :=
  List.dropWhile_idempotent _ _

theorem readValue?_skipBlanks (fuel : Nat) (bytes : Bytes) :
    readValue? fuel (skipBlanks bytes) = readValue? fuel bytes := by
  cases fuel with
  | zero => rfl
  | succ fuel => rw [readValue?, readValue?, skipBlanks_skipBlanks]

theorem readMembers?_skipBlanks (fuel : Nat) (bytes : Bytes) :
    readMembers? fuel (skipBlanks bytes) = readMembers? fuel bytes := by
  cases fuel with
  | zero => rfl
  | succ fuel => rw [readMembers?, readMembers?, readValue?_skipBlanks]

theorem ends_cons {c : Char} (other : digitValue? (ascii c) = none ∧ ascii c ≠ ascii '.' ∧
    ascii c ≠ ascii 'e' ∧ ascii c ≠ ascii 'E') : Ends (ascii c :: rest) := by
  intro byte first
  obtain rfl : ascii c = byte := Option.some.inj first
  exact other

theorem readMembers?_spelt {members : List (List Char × Json)} (filled : members ≠ [])
    (spelt : ∀ member ∈ members, Spells member.1 member.2) (fuel : Nat)
    (enough : (List.intercalate [','] (members.map Prod.fst)).length < fuel) :
    readMembers? fuel
        (charBytes (List.intercalate [','] (members.map Prod.fst)) ++ ascii ']' :: rest) =
      some (members.map Prod.snd, rest) := by
  induction members generalizing fuel with
  | nil => exact absurd rfl filled
  | cons member others ih =>
      obtain ⟨first, later⟩ := List.forall_mem_cons.1 spelt
      obtain ⟨fuel, rfl⟩ := Nat.exists_eq_succ_of_ne_zero (Nat.ne_zero_of_lt enough)
      cases others with
      | nil =>
          rw [List.map_singleton, List.intercalate_singleton] at enough ⊢
          rw [readMembers?, first fuel _ (by omega) (ends_cons (by decide))]
          rfl
      | cons second others =>
          rw [List.map_cons, List.map_cons, length_intercalate_cons, ← List.map_cons] at enough
          -- The first member and the comma take more characters than the step takes fuel.
          have read := ih (List.cons_ne_nil _ _) later fuel (by omega)
          rw [List.map_cons, List.map_cons, charBytes_intercalate_cons, ← List.map_cons,
            readMembers?, first fuel _ (by omega) (ends_cons (by decide))]
          exact (congrArg (Option.bind · _) read).trans rfl

theorem readMembers?_eq_none {bytes : Bytes} (unread : ∀ fuel, readValue? fuel bytes = none)
    (fuel : Nat) : readMembers? fuel bytes = none := by
  cases fuel with
  | zero => rfl
  | succ fuel =>
      rw [readMembers?, unread]
      rfl

theorem readValue?_bracket {fuel : Nat} {bytes : Bytes} {members : List Json}
    (read : readMembers? fuel bytes = some (members, rest)) :
    readValue? (fuel + 1) (ascii '[' :: bytes) = some (array members, rest) := by
  rw [← readMembers?_skipBlanks] at read
  rw [readValue?, skipBlanks_cons rfl]
  cases shown : skipBlanks bytes with
  | nil =>
      have unread (fuel : Nat) : readValue? fuel [] = none := by cases fuel <;> rfl
      rw [shown, readMembers?_eq_none unread] at read
      cases read
  | cons next after =>
      rw [shown] at read
      have goesOn : next ≠ ascii ']' := by
        rintro rfl
        have unread (fuel : Nat) : readValue? fuel (ascii ']' :: after) = none := by
          cases fuel <;> rfl
        rw [readMembers?_eq_none unread] at read
        cases read
      have bracket : digitValue? (ascii '[') = none := by decide
      have quote : ascii '[' ≠ ascii '"' := by decide
      have minus : ascii '[' ≠ ascii '-' := by decide
      simp [shown, bracket, quote, minus, goesOn, read]

theorem spells_array {members : List (List Char × Json)}
    (spelt : ∀ member ∈ members, Spells member.1 member.2) :
    Spells (Payload.jsonList '[' ']' (members.map Prod.fst)) (array (members.map Prod.snd)) := by
  intro fuel rest enough _
  rw [length_jsonList] at enough
  obtain ⟨fuel, rfl⟩ := Nat.exists_eq_succ_of_ne_zero (n := fuel) (by omega)
  rw [charBytes_jsonList]
  cases members with
  | nil => rfl
  | cons member others =>
      exact readValue?_bracket (readMembers?_spelt (List.cons_ne_nil _ _) spelt _ (by omega))

/-! ## Objects -/

/-- A field with the spelling of its value. -/
structure SpeltField where
  name : String
  chars : List Char
  value : Json

namespace SpeltField

def spelling (field : SpeltField) : List Char :=
  Payload.jsonField field.name field.chars

def toField (field : SpeltField) : Option String × Json :=
  (some field.name, field.value)

theorem length_chars_lt (field : SpeltField) : field.chars.length < field.spelling.length := by
  simp [spelling, Payload.jsonField, quote]
  omega

end SpeltField

theorem readFields?_field {field : SpeltField} (spelt : Spells field.chars field.value) {fuel : Nat}
    (enough : field.chars.length ≤ fuel) {following : Bytes} (ends : Ends following) :
    readFields? (fuel + 1) (charBytes field.spelling ++ following) =
      match skipBlanks following with
      | [] => none
      | byte :: rest =>
        if byte == ascii '\x7d' then some ([field.toField], rest)
        else if byte == ascii ',' then do
          let (fields, rest) ← readFields? fuel rest
          some (field.toField :: fields, rest)
        else none := by
  obtain ⟨more, text, read⟩ :=
    readText?_quote field.name (ascii ':' :: (charBytes field.chars ++ following))
  have bytes : charBytes field.spelling ++ following = ascii '"' :: more := by
    rw [SpeltField.spelling, Payload.jsonField, charBytes_append, List.append_assoc, ← text]
    rfl
  have value := spelt fuel following enough ends
  have colon : skipBlanks (ascii ':' :: (charBytes field.chars ++ following)) =
    ascii ':' :: (charBytes field.chars ++ following) := skipBlanks_cons rfl
  rw [bytes, readFields?, skipBlanks_cons rfl]
  simp only [bne_self_eq_false, Bool.false_eq_true, if_false, read, Option.bind_eq_bind,
    Option.bind_some, colon, value]
  cases skipBlanks following <;> rfl

theorem readFields?_spelt {fields : List SpeltField} (filled : fields ≠ [])
    (spelt : ∀ field ∈ fields, Spells field.chars field.value) (fuel : Nat)
    (enough : (List.intercalate [','] (fields.map SpeltField.spelling)).length < fuel) :
    readFields? fuel (charBytes (List.intercalate [','] (fields.map SpeltField.spelling)) ++
        ascii '\x7d' :: rest) = some (fields.map SpeltField.toField, rest) := by
  induction fields generalizing fuel with
  | nil => exact absurd rfl filled
  | cons field others ih =>
      obtain ⟨first, later⟩ := List.forall_mem_cons.1 spelt
      obtain ⟨fuel, rfl⟩ := Nat.exists_eq_succ_of_ne_zero (Nat.ne_zero_of_lt enough)
      have shorter := field.length_chars_lt
      cases others with
      | nil =>
          rw [List.map_singleton, List.intercalate_singleton] at enough ⊢
          rw [readFields?_field first (by omega) (ends_cons (by decide))]
          rfl
      | cons second others =>
          rw [List.map_cons, List.map_cons, length_intercalate_cons, ← List.map_cons] at enough
          have read := ih (List.cons_ne_nil _ _) later fuel (by omega)
          rw [List.map_cons, List.map_cons, charBytes_intercalate_cons, ← List.map_cons,
            readFields?_field first (by omega) (ends_cons (by decide))]
          exact (congrArg (Option.bind · _) read).trans rfl

theorem readFields?_skipBlanks (fuel : Nat) (bytes : Bytes) :
    readFields? fuel (skipBlanks bytes) = readFields? fuel bytes := by
  cases fuel with
  | zero => rfl
  | succ fuel => rw [readFields?, readFields?, skipBlanks_skipBlanks]

theorem readValue?_brace {fuel : Nat} {bytes : Bytes} {fields : List (Option String × Json)}
    (read : readFields? fuel bytes = some (fields, rest)) :
    readValue? (fuel + 1) (ascii '\x7b' :: bytes) = some (object fields, rest) := by
  rw [← readFields?_skipBlanks] at read
  rw [readValue?, skipBlanks_cons rfl]
  cases shown : skipBlanks bytes with
  | nil =>
      rw [shown] at read
      cases fuel <;> cases read
  | cons next after =>
      rw [shown] at read
      have goesOn : next ≠ ascii '\x7d' := by
        rintro rfl
        cases fuel <;> cases read
      have brace : digitValue? (ascii '\x7b') = none := by decide
      have quote : ascii '\x7b' ≠ ascii '"' := by decide
      have minus : ascii '\x7b' ≠ ascii '-' := by decide
      have bracket : ascii '\x7b' ≠ ascii '[' := by decide
      simp [shown, brace, quote, minus, bracket, goesOn, read]

theorem spells_object {fields : List SpeltField}
    (spelt : ∀ field ∈ fields, Spells field.chars field.value) :
    Spells (Payload.jsonList '\x7b' '\x7d' (fields.map SpeltField.spelling))
      (object (fields.map SpeltField.toField)) := by
  intro fuel rest enough _
  rw [length_jsonList] at enough
  obtain ⟨fuel, rfl⟩ := Nat.exists_eq_succ_of_ne_zero (n := fuel) (by omega)
  rw [charBytes_jsonList]
  cases fields with
  | nil => rfl
  | cons field others =>
      exact readValue?_brace (readFields?_spelt (List.cons_ne_nil _ _) spelt _ (by omega))

/-! ## Whole documents -/

theorem length_le_charBytes (cs : List Char) : cs.length ≤ (charBytes cs).length := by
  induction cs with
  | nil => exact Nat.le_refl _
  | cons c rest ih =>
      have filled : 0 < (String.utf8EncodeChar c).length := by
        rw [String.length_utf8EncodeChar]
        exact c.utf8Size_pos
      rw [charBytes_cons, List.length_append, List.length_cons]
      omega

theorem read?_of_spells {chars : List Char} {json : Json} (spelt : Spells chars json) :
    read? (charBytes chars) = some json := by
  have short := length_le_charBytes chars
  have read := spelt (2 * (charBytes chars).length + 2) [] (by omega) ends_nil
  rw [List.append_nil] at read
  rw [read?, read]
  rfl

end Json

end HostTypes
