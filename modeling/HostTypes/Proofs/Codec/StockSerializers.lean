import HostTypes.Codec.Serializer
import HostTypes.Proofs.Codec.JsonDocument

/-!
The stock serializers. A payload is read back from its binary form, and nothing else is read there
(`readBinary?_eq_some_iff`); a payload that is no double is read back from its JSON document
(`ofJson?_toJson`). So what a stock serializer has encoded it decodes to the same payload
(`stock_restore`).
-/

namespace HostTypes

namespace Payload

/-! ## Binary forms -/

/-- The lengths have room in eight bytes each, as those of all texts and lists in memory do. -/
def Fits : Payload → Prop
  | text content => BinaryFormat.FitsText content
  | texts content =>
    BinaryFormat.FitsLength content.length ∧ ∀ part ∈ content, BinaryFormat.FitsText part
  | place spot => BinaryFormat.FitsText spot.world
  | _ => True

variable {payload : Payload} {kind : PayloadKind} {bytes rest : Bytes}

/-- The payloads of one kind, given by their contents and written in the format of these. -/
theorem read_form_eq_some_iff {α : Type} {format : BinaryFormat α} {fits : α → Prop}
    (exact : format.Exact fits) {form : α → Payload}
    (own : ∀ value, (form value).kind = kind ∧ (form value).toBinary = format.write value ∧
      ((form value).Fits ↔ fits value))
    (only : payload.kind = kind → ∃ value, form value = payload) :
    (format.read bytes).map (Prod.map form id) = some (payload, rest) ↔
      payload.kind = kind ∧ payload.Fits ∧ bytes = payload.toBinary ++ rest := by
  simp only [Option.map_eq_some_iff, Prod.exists, Prod.map_apply, id_eq, Prod.mk.injEq,
    exact _ _ _]
  constructor
  · rintro ⟨value, _, ⟨fit, written⟩, rfl, rfl⟩
    obtain ⟨same, writes, fitting⟩ := own value
    exact ⟨same, fitting.2 fit, writes ▸ written⟩
  · rintro ⟨same, fit, written⟩
    obtain ⟨value, rfl⟩ := only same
    obtain ⟨_, writes, fitting⟩ := own value
    exact ⟨value, rest, ⟨fitting.1 fit, writes ▸ written⟩, rfl, rfl⟩

theorem readBinary?_eq_some_iff :
    readBinary? kind bytes = some (payload, rest) ↔
      payload.kind = kind ∧ payload.Fits ∧ bytes = payload.toBinary ++ rest := by
  cases kind with
  | text =>
      refine read_form_eq_some_iff BinaryFormat.text_exact (fun _ => ⟨rfl, rfl, .rfl⟩) ?_
      cases payload <;> simp [kind]
  | number =>
      refine read_form_eq_some_iff BinaryFormat.number_exact (fun _ => ⟨rfl, rfl, .rfl⟩) ?_
      cases payload <;> simp [kind]
  | truth =>
      refine read_form_eq_some_iff BinaryFormat.truth_exact (fun _ => ⟨rfl, rfl, .rfl⟩) ?_
      cases payload <;> simp [kind]
  | timespan =>
      refine read_form_eq_some_iff BinaryFormat.timespan_exact (fun _ => ⟨rfl, rfl, .rfl⟩) ?_
      cases payload <;> simp [kind]
  | integer =>
      refine read_form_eq_some_iff BinaryFormat.int64_exact (fun _ => ⟨rfl, rfl, .rfl⟩) ?_
      cases payload <;> simp [kind]
  | count =>
      refine read_form_eq_some_iff BinaryFormat.uint32_exact (fun _ => ⟨rfl, rfl, .rfl⟩) ?_
      cases payload <;> simp [kind]
  | texts =>
      refine read_form_eq_some_iff BinaryFormat.text_exact.list (fun _ => ⟨rfl, rfl, .rfl⟩) ?_
      cases payload <;> simp [kind]
  | place =>
      refine read_form_eq_some_iff BinaryFormat.place_exact (fun _ => ⟨rfl, rfl, .rfl⟩) ?_
      cases payload <;> simp [kind]
  | unit =>
      refine read_form_eq_some_iff BinaryFormat.nothing_exact (fun _ => ⟨rfl, rfl, .rfl⟩) ?_
      cases payload <;> simp [kind]

theorem ofBinary?_toBinary (fits : payload.Fits) :
    ofBinary? payload.kind payload.toBinary = some payload := by
  have read : readBinary? payload.kind payload.toBinary = some (payload, []) :=
    readBinary?_eq_some_iff.2 ⟨rfl, fits, (List.append_nil _).symm⟩
  rw [ofBinary?, read]
  rfl

theorem kind_of_ofBinary? (read : ofBinary? kind bytes = some payload) : payload.kind = kind := by
  obtain ⟨⟨found, rest⟩, reads, rfl⟩ := Option.map_eq_some_iff.1 read
  exact (readBinary?_eq_some_iff.1 reads).1

/-! ## Integers in JSON -/

theorem exists_digits (n : Nat) : ∃ digits, IsDigits digits ∧
    (digits.head? = some 0 → digits = [0]) ∧ digitChars digits = Nat.toDigits 10 n ∧
      JsonNumber.ofDigits digits = n := by
  induction n using Nat.strong_induction_on with
  | _ n ih =>
      by_cases small : n < 10
      · refine ⟨[n], ⟨List.cons_ne_nil _ _, by simpa using small⟩, by simp, ?_, ?_⟩
        · rw [Nat.toDigits_of_lt_base small]
          rfl
        · simp [JsonNumber.ofDigits]
      · -- The last digit comes after those of the quotient.
        obtain ⟨digits, ⟨filled, below⟩, first, chars, value⟩ := ih (n / 10) (by omega)
        refine ⟨digits ++ [n % 10], ⟨by simp, ?_⟩, ?_, ?_, ?_⟩
        · intro digit member
          rcases List.mem_append.1 member with old | new
          · exact below digit old
          · rw [List.mem_singleton.1 new]
            exact Nat.mod_lt _ (by omega)
        · intro zero
          rw [List.head?_append_of_ne_nil _ filled] at zero
          rw [first zero] at value
          simp [JsonNumber.ofDigits] at value
          omega
        · rw [digitChars, List.map_append, ← digitChars, chars,
            Nat.toDigits_of_base_le (by omega) (Nat.le_of_not_lt small)]
          rfl
        · rw [JsonNumber.ofDigits, List.foldl_append, ← JsonNumber.ofDigits, value]
          simp
          omega

theorem noNeedlessZero_of_first {digits : List Nat} (first : digits.head? = some 0 → digits = [0])
    (several : 1 < digits.length) : digits.head? ≠ some 0 := by
  intro zero
  rw [first zero] at several
  exact absurd several (by decide)

theorem exists_signed_digits (n : Int) : ∃ (negative : Bool) (digits : List Nat),
    IsDigits digits ∧ (digits.head? = some 0 → digits = [0]) ∧
      (if negative then ['-'] else []) ++ digitChars digits = (toString n).toList ∧
      n = (if negative then -(JsonNumber.ofDigits digits : Int) else JsonNumber.ofDigits digits) ∧
      (negative → 0 < JsonNumber.ofDigits digits) := by
  cases n with
  | ofNat n =>
      obtain ⟨digits, isDigits, first, chars, value⟩ := exists_digits n
      have text : (toString (Int.ofNat n)).toList = Nat.toDigits 10 n := Nat.toList_repr
      refine ⟨false, digits, isDigits, first, ?_, ?_, nofun⟩
      · rw [text, ← chars]
        rfl
      · rw [value]
        rfl
  | negSucc n =>
      obtain ⟨digits, isDigits, first, chars, value⟩ := exists_digits (n + 1)
      have text : (toString (Int.negSucc n)).toList = '-' :: Nat.toDigits 10 (n + 1) := by
        rw [← Nat.toList_repr]
        exact String.toList_append
      refine ⟨true, digits, isDigits, first, ?_, ?_, fun _ => by omega⟩
      · rw [text, ← chars]
        rfl
      · rw [value]
        rfl

theorem exists_spelling (n : Int) : ∃ spelling : JsonNumber, spelling.Valid ∧
    spelling.chars = (toString n).toList ∧
      (-twoTo 63 ≤ n → n < twoTo 64 → spelling.integer? = some n) := by
  obtain ⟨negative, digits, isDigits, first, chars, value, filled⟩ := exists_signed_digits n
  refine ⟨⟨negative, digits, none, none⟩, ⟨isDigits, noNeedlessZero_of_first first, nofun, nofun⟩,
    ?_, fun low high => ?_⟩
  · rw [← chars, JsonNumber.chars, JsonNumber.unsignedChars, JsonNumber.fractionChars,
      JsonNumber.exponentChars, List.append_nil, List.append_nil]
  · cases negative with
    | false =>
        obtain rfl : n = JsonNumber.ofDigits digits := value
        have fits : JsonNumber.ofDigits digits < twoTo 64 := Int.ofNat_lt.1 high
        simp [JsonNumber.integer?, fits]
    | true =>
        obtain rfl : n = -(JsonNumber.ofDigits digits : Int) := value
        have fits : JsonNumber.ofDigits digits ≤ twoTo 63 := by omega
        simp [JsonNumber.integer?, fits, filled rfl]

theorem exists_spelt_integer (n least greatest : Int) (lowest : -twoTo 63 ≤ least)
    (highest : greatest < twoTo 64) (low : least ≤ n) (high : n ≤ greatest) :
    ∃ json, Json.Spells (toString n).toList json ∧ json.asInteger? least greatest = some n := by
  obtain ⟨spelling, valid, chars, value⟩ := exists_spelling n
  refine ⟨.number spelling, chars ▸ Json.spells_number valid, ?_⟩
  rw [Json.asInteger?, value (by omega) (by omega)]
  simp [low, high]

/-! ## Lists and records in JSON -/

theorem mapM_eq_some_map {α β : Type} {f : α → Option β} {g : α → β} {xs : List α}
    (agree : ∀ x ∈ xs, f x = some (g x)) : xs.mapM f = some (xs.map g) := by
  induction xs with
  | nil => rfl
  | cons x rest ih =>
      obtain ⟨first, others⟩ := List.forall_mem_cons.1 agree
      rw [List.mapM_cons, first, ih others]
      rfl

theorem asTexts?_map (content : List String) :
    (Json.array (content.map fun part => .text (some part))).asTexts? = some content := by
  rw [Json.asTexts?, List.mapM_map]
  exact (mapM_eq_some_map fun _ _ => rfl).trans (by rw [List.map_id'])

theorem filter_toField {fields : List Json.SpeltField}
    (nodup : (fields.map Json.SpeltField.name).Nodup) {field : Json.SpeltField}
    (member : field ∈ fields) :
    (fields.map Json.SpeltField.toField).filter (fun other => other.1 == some field.name) =
      [field.toField] := by
  induction fields with
  | nil => cases member
  | cons first rest ih =>
      obtain ⟨fresh, others⟩ := List.nodup_cons.1 nodup
      rw [List.map_cons]
      rcases List.mem_cons.1 member with rfl | later
      · have alone : (rest.map Json.SpeltField.toField).filter
            (fun other => other.1 == some field.name) = [] := by
          rw [List.filter_eq_nil_iff]
          rintro _ inside same
          obtain ⟨other, present, rfl⟩ := List.mem_map.1 inside
          have name : other.name = field.name := by simpa [Json.SpeltField.toField] using same
          exact fresh (name ▸ List.mem_map_of_mem present)
        rw [List.filter_cons_of_pos (by simp [Json.SpeltField.toField]), alone]
      · have other : first.name ≠ field.name := by
          rintro same
          exact fresh (same ▸ List.mem_map_of_mem later)
        rw [List.filter_cons_of_neg (by simpa [Json.SpeltField.toField] using other), ih others later]

theorem asRecord?_object (fields : List Json.SpeltField)
    (nodup : (fields.map Json.SpeltField.name).Nodup) :
    (Json.object (fields.map Json.SpeltField.toField)).asRecord? (fields.map Json.SpeltField.name) =
      some (fields.map Json.SpeltField.value) := by
  have named : (fields.map Json.SpeltField.toField).any (fun field => field.1.isNone) = false := by
    simp [Json.SpeltField.toField]
  rw [Json.asRecord?, named, if_neg Bool.false_ne_true, List.mapM_map]
  refine mapM_eq_some_map fun field member => ?_
  rw [Function.comp_apply, filter_toField nodup member]
  rfl

/-! ## JSON documents -/

theorem exists_spelt_timespan (span : Timespan) :
    ∃ json, Json.Spells (jsonText (timespan span)) json ∧
      Timespan.ofJson? json = some span := by
  have power : ((twoTo 64 : Nat) : Int) = 2 ^ 64 := rfl
  have bound := span.millis.toNat_lt
  obtain ⟨json, spelt, millis⟩ := exists_spelt_integer span.millis.toNat 0 (twoTo 64 - 1)
    (by decide) (by decide) (by omega) (by omega)
  let fields : List Json.SpeltField := [⟨"millis", (toString span.millis).toList, json⟩]
  have spells : ∀ field ∈ fields, Json.Spells field.chars field.value :=
    List.forall_mem_singleton.2 spelt
  have record : (Json.object (fields.map Json.SpeltField.toField)).asRecord? Timespan.jsonFields =
    some [json] := asRecord?_object fields (by simp [fields])
  refine ⟨_, Json.spells_object spells, ?_⟩
  rw [Timespan.ofJson?, record]
  simp only [Option.bind_eq_bind, Option.bind_some, millis]
  rw [Int.toNat_natCast, Timespan.ofMillis?, if_pos bound, UInt64.ofNat_toNat]

theorem exists_spelt_int32 (value : Int32) : ∃ json, Json.Spells (toString value).toList json ∧
    json.asInteger? (-twoTo 31) (twoTo 31 - 1) = some value.toInt := by
  have power : ((twoTo 31 : Nat) : Int) = 2 ^ 31 := rfl
  have low := value.le_toInt
  have high := value.toInt_lt
  exact exists_spelt_integer value.toInt _ _ (by decide) (by decide) (by omega) (by omega)

theorem exists_spelt_place (spot : Place) :
    ∃ json, Json.Spells (jsonText (place spot)) json ∧ Place.ofJson? json = some spot := by
  obtain ⟨x, speltX, readX⟩ := exists_spelt_int32 spot.x
  obtain ⟨z, speltZ, readZ⟩ := exists_spelt_int32 spot.z
  let fields : List Json.SpeltField :=
    [⟨"world", Json.quote spot.world, .text (some spot.world)⟩, ⟨"x", (toString spot.x).toList, x⟩,
      ⟨"z", (toString spot.z).toList, z⟩]
  have spells : ∀ field ∈ fields, Json.Spells field.chars field.value := by
    simp [fields, speltX, speltZ, Json.spells_text]
  have record : (Json.object (fields.map Json.SpeltField.toField)).asRecord? Place.jsonFields =
    some [.text (some spot.world), x, z] := asRecord?_object fields (by simp [fields])
  refine ⟨_, Json.spells_object spells, ?_⟩
  rw [Place.ofJson?, record]
  simp only [Option.bind_eq_bind, Option.bind_some, Json.asText?, readX, readZ, Int32.ofInt_toInt]
  rfl

theorem exists_spelt (payload : Payload) (exact : payload.kind ≠ .number) :
    ∃ json, Json.Spells payload.jsonText json ∧ ofJsonTree? payload.kind json = some payload := by
  cases payload with
  | text content => exact ⟨_, Json.spells_text content, rfl⟩
  | number value => exact absurd rfl exact
  | truth value => exact ⟨_, Json.spells_truth value, rfl⟩
  | timespan span =>
      obtain ⟨json, spelt, read⟩ := exists_spelt_timespan span
      exact ⟨json, spelt, congrArg (Option.map timespan) read⟩
  | integer value =>
      have power : ((twoTo 63 : Nat) : Int) = 2 ^ 63 := rfl
      have low := value.le_toInt
      have high := value.toInt_lt
      obtain ⟨json, spelt, read⟩ := exists_spelt_integer value.toInt (-twoTo 63) (twoTo 63 - 1)
        (by decide) (by decide) (by omega) (by omega)
      refine ⟨json, spelt, (congrArg (Option.map _) read).trans ?_⟩
      rw [Option.map_some, Int64.ofInt_toInt]
  | count value =>
      have power : ((twoTo 32 : Nat) : Int) = 2 ^ 32 := rfl
      have bound := value.toNat_lt
      obtain ⟨json, spelt, read⟩ := exists_spelt_integer value.toNat 0 (twoTo 32 - 1)
        (by decide) (by decide) (by omega) (by omega)
      refine ⟨json, spelt, (congrArg (Option.map _) read).trans ?_⟩
      rw [Option.map_some, Int.toNat_natCast, UInt32.ofNat_toNat]
  | texts content =>
      have spells : ∀ member ∈ content.map fun part => (Json.quote part, Json.text (some part)),
          Json.Spells member.1 member.2 := by
        simp [Json.spells_text]
      have spelt := Json.spells_array spells
      rw [List.map_map, List.map_map] at spelt
      exact ⟨_, spelt, congrArg (Option.map texts) (asTexts?_map content)⟩
  | place spot =>
      obtain ⟨json, spelt, read⟩ := exists_spelt_place spot
      exact ⟨json, spelt, congrArg (Option.map place) read⟩
  | unit => exact ⟨_, Json.spells_null, rfl⟩

theorem ofJson?_toJson (exact : payload.kind ≠ .number) :
    ofJson? payload.kind payload.toJson = some payload := by
  obtain ⟨json, spelt, read⟩ := exists_spelt payload exact
  rw [ofJson?, toJson, textBytes_ofList, Json.read?_of_spells spelt]
  exact read

theorem kind_of_ofJson? (read : ofJson? kind bytes = some payload) : payload.kind = kind := by
  obtain ⟨json, -, reads⟩ := Option.bind_eq_some_iff.1 read
  have built {α : Type} {content : Option α} {form : α → Payload}
      (own : ∀ value, (form value).kind = kind) (read : content.map form = some payload) :
      payload.kind = kind := by
    obtain ⟨value, -, rfl⟩ := Option.map_eq_some_iff.1 read
    exact own value
  cases kind with
  | unit =>
      cases json with
      | null =>
          cases reads
          rfl
      | _ => cases reads
  | _ => exact built (fun _ => rfl) reads

end Payload

/-! ## Serializers -/

namespace Serializer

variable {kind : PayloadKind} {native : TypeKey} {bytes : Bytes} {decoded value : Value}

theorem encodeKind_of_kind {encode : Payload → Bytes} (same : value.payload.kind = kind) :
    encodeKind kind encode value = .ok (encode value.payload) :=
  if_pos same

theorem encodeKind_of_ne {encode : Payload → Bytes} (other : value.payload.kind ≠ kind) :
    encodeKind kind encode value = .error (.unexpectedPayload kind) :=
  if_neg other

theorem decodeWith_eq_ok_iff {read : Bytes → Option Payload} {failure : CodecError} :
    decodeWith read failure native bytes = .ok decoded ↔
      decoded.type = native ∧ read bytes = some decoded.payload := by
  obtain ⟨type, payload⟩ := decoded
  unfold decodeWith
  cases read bytes with
  | none => simp
  | some found => simp [eq_comm]

end Serializer

/-! ## The statement -/

theorem stock_restore (kind : PayloadKind) (synchronous : Bool) (value : Value) (native : TypeKey) :
    let binary := Serializer.binary kind synchronous
    let json := Serializer.json kind synchronous
    (value.payload.kind = kind → value.payload.Fits → ∃ bytes, binary.encode value = .ok bytes ∧
      binary.decode native bytes = .ok ⟨native, value.payload⟩) ∧
    (value.payload.kind = kind → kind ≠ .number → ∃ bytes, json.encode value = .ok bytes ∧
      json.decode native bytes = .ok ⟨native, value.payload⟩) ∧
    ∀ serializer ∈ [binary, json],
      (value.payload.kind ≠ kind → serializer.encode value = .error (.unexpectedPayload kind)) ∧
      ∀ bytes decoded, serializer.decode native bytes = .ok decoded →
        decoded.type = native ∧ decoded.payload.kind = kind := by
  intro binary json
  refine ⟨fun same fits => ?_, fun same exact => ?_, fun serializer stock => ?_⟩
  · subst same
    exact ⟨_, Serializer.encodeKind_of_kind rfl,
      Serializer.decodeWith_eq_ok_iff.2 ⟨rfl, Payload.ofBinary?_toBinary fits⟩⟩
  · subst same
    exact ⟨_, Serializer.encodeKind_of_kind rfl,
      Serializer.decodeWith_eq_ok_iff.2 ⟨rfl, Payload.ofJson?_toJson exact⟩⟩
  · rcases List.mem_pair.1 stock with rfl | rfl
    · refine ⟨Serializer.encodeKind_of_ne, fun bytes decoded decodes => ?_⟩
      obtain ⟨type, read⟩ := Serializer.decodeWith_eq_ok_iff.1 decodes
      exact ⟨type, Payload.kind_of_ofBinary? read⟩
    · refine ⟨Serializer.encodeKind_of_ne, fun bytes decoded decodes => ?_⟩
      obtain ⟨type, read⟩ := Serializer.decodeWith_eq_ok_iff.1 decodes
      exact ⟨type, Payload.kind_of_ofJson? read⟩

def Payload.awkward : Payload := .texts ["a \"b\" \\", "\n\u0001ß"]

theorem stock_restore_awkward :
    Payload.awkward.Fits ∧
      (∃ bytes, (Serializer.binary .texts false).encode ⟨⟨3⟩, .awkward⟩ = .ok bytes ∧
        (Serializer.binary .texts false).decode ⟨5⟩ bytes = .ok ⟨⟨5⟩, .awkward⟩) ∧
      (∃ bytes, (Serializer.json .texts false).encode ⟨⟨3⟩, .awkward⟩ = .ok bytes ∧
        (Serializer.json .texts false).decode ⟨5⟩ bytes = .ok ⟨⟨5⟩, .awkward⟩) ∧
      (Serializer.json .text false).encode ⟨⟨3⟩, .awkward⟩ = .error (.unexpectedPayload .text) := by
  have fits : Payload.awkward.Fits := ⟨by decide, by decide⟩
  obtain ⟨binary, json, _⟩ := stock_restore .texts false ⟨⟨3⟩, .awkward⟩ ⟨5⟩
  obtain ⟨_, _, others⟩ := stock_restore .text false ⟨⟨3⟩, .awkward⟩ ⟨5⟩
  obtain ⟨refuses, _⟩ := others (.json .text false) (List.mem_pair.2 (.inr rfl))
  exact ⟨fits, binary rfl fits, json rfl (by decide), refuses (by decide)⟩

end HostTypes
