import HostTypes.Proofs.Catalog.RoundTrip
import HostTypes.Proofs.Codec.NumberDocuments
import Mathlib.Algebra.Order.BigOperators.Group.List

/-!
Loading what has been stored. The stock serializers decode what they have encoded, with one exception:
a double that is not finite is written as the document `null`, which is no double
(`IsStock.exists_decode`, `Loses.decode_eq_error`). So a frozen catalog of stock serializers loads each
of its stored forms but these (`stored_loads`).
-/

namespace HostTypes

/-! ## Lengths of binary forms -/

namespace BinaryFormat

theorem length_textBytes_le (content : String) :
    (textBytes content).length ≤ (text.write content).length := by
  rw [text, List.length_append]
  exact Nat.le_add_left _ _

theorem length_write_le_of_mem {content : String} {contents : List String}
    (member : content ∈ contents) :
    (text.write content).length ≤ (contents.flatMap text.write).length :=
  (List.sublist_flatten_of_mem (List.mem_map_of_mem member)).length_le

theorem length_le_flatMap (contents : List String) :
    contents.length ≤ (contents.flatMap text.write).length := by
  induction contents with
  | nil => exact Nat.le_refl _
  | cons content rest ih =>
      have filled : 0 < (text.write content).length := by
        rw [text, List.length_append, length, word, length_wordBytes]
        omega
      rw [List.flatMap_cons, List.length_append, List.length_cons]
      omega

end BinaryFormat

namespace Payload

/-- What is written in full is longer than its parts, so these have room if the whole has. -/
theorem fits_of_length {payload : Payload}
    (short : BinaryFormat.FitsLength payload.toBinary.length) : payload.Fits := by
  cases payload with
  | text content => exact (BinaryFormat.length_textBytes_le content).trans_lt short
  | texts content =>
      have whole : (content.flatMap BinaryFormat.text.write).length ≤
          (toBinary (texts content)).length := by
        rw [toBinary, BinaryFormat.list, List.length_append]
        exact Nat.le_add_left _ _
      refine ⟨((BinaryFormat.length_le_flatMap content).trans whole).trans_lt short, ?_⟩
      intro part member
      calc (textBytes part).length
          ≤ (BinaryFormat.text.write part).length := BinaryFormat.length_textBytes_le part
        _ ≤ (content.flatMap BinaryFormat.text.write).length :=
            BinaryFormat.length_write_le_of_mem member
        _ ≤ (toBinary (texts content)).length := whole
        _ < 256 ^ 8 := short
  | place spot =>
      have world : (BinaryFormat.text.write spot.world).length ≤ (toBinary (place spot)).length := by
        rw [toBinary, BinaryFormat.place, BinaryFormat.imap, BinaryFormat.pair, List.length_append]
        exact Nat.le_add_right _ _
      exact ((BinaryFormat.length_textBytes_le spot.world).trans world).trans_lt short
  | _ => trivial

end Payload

/-! ## Stock serializers -/

namespace Serializer

inductive IsStock : Serializer → Prop
  | binary (kind : PayloadKind) (synchronous : Bool) : IsStock (.binary kind synchronous)
  | json (kind : PayloadKind) (synchronous : Bool) : IsStock (.json kind synchronous)

/-- The payload is a double that is not finite, and is written as JSON. -/
def Loses (serializer : Serializer) (payload : Payload) : Prop :=
  (∃ synchronous, serializer = .json .number synchronous) ∧
    ∃ x : Binary64, payload = .number x ∧ ¬ x.isFinite

variable {serializer : Serializer} {value : Value} {bytes : Bytes}

theorem encodeKind_eq_ok_iff {kind : PayloadKind} {encode : Payload → Bytes} :
    encodeKind kind encode value = .ok bytes ↔
      value.payload.kind = kind ∧ encode value.payload = bytes := by
  unfold encodeKind
  split <;> simp [*]

theorem Loses.decode_eq_error (loses : serializer.Loses value.payload)
    (encodes : serializer.encode value = .ok bytes) (native : TypeKey) :
    bytes = textBytes "null" ∧ serializer.decode native bytes = .error .json := by
  obtain ⟨⟨synchronous, rfl⟩, x, payload, infinite⟩ := loses
  obtain ⟨-, rfl⟩ := encodeKind_eq_ok_iff.1 encodes
  rw [payload]
  have document : Payload.toJson (.number x) = textBytes "null" := by
    rw [Payload.toJson, Payload.jsonText, if_neg infinite, String.ofList_toList]
  have unread : Payload.ofJson? .number (Payload.toJson (.number x)) = none := by
    rw [← Option.not_isSome_iff_eq_none, Payload.isSome_ofJson?_number_iff]
    exact infinite
  refine ⟨document, ?_⟩
  change decodeWith (Payload.ofJson? .number) .json native _ = _
  unfold decodeWith
  rw [unread]

theorem IsStock.exists_decode (stock : serializer.IsStock)
    (encodes : serializer.encode value = .ok bytes) (short : BinaryFormat.FitsLength bytes.length)
    (keeps : ¬ serializer.Loses value.payload) (native : TypeKey) :
    ∃ payload, serializer.decode native bytes = .ok ⟨native, payload⟩ ∧
      payload.kind = value.payload.kind ∧
      ((∀ synchronous, serializer ≠ .json .number synchronous) → payload = value.payload) := by
  cases stock with
  | binary kind synchronous =>
      obtain ⟨rfl, rfl⟩ := encodeKind_eq_ok_iff.1 encodes
      have read := Payload.ofBinary?_toBinary (Payload.fits_of_length short)
      exact ⟨value.payload, decodeWith_eq_ok_iff.2 ⟨rfl, read⟩, rfl, fun _ => rfl⟩
  | json kind synchronous =>
      obtain ⟨rfl, rfl⟩ := encodeKind_eq_ok_iff.1 encodes
      obtain ⟨type, payload⟩ := value
      by_cases number : payload.kind = .number
      · obtain ⟨x, rfl⟩ : ∃ x, payload = .number x := by
          cases payload <;> first | exact ⟨_, rfl⟩ | cases number
        have finite : x.isFinite := by
          by_contra infinite
          exact keeps ⟨⟨synchronous, rfl⟩, x, rfl, infinite⟩
        obtain ⟨loaded, read⟩ :=
          Option.isSome_iff_exists.1 ((Payload.isSome_ofJson?_number_iff x).2 finite)
        exact ⟨loaded, decodeWith_eq_ok_iff.2 ⟨rfl, read⟩, Payload.kind_of_ofJson? read,
          fun other => absurd rfl (other synchronous)⟩
      · exact ⟨payload, decodeWith_eq_ok_iff.2 ⟨rfl, Payload.ofJson?_toJson number⟩, rfl,
          fun _ => rfl⟩

end Serializer

/-! ## The statement -/

theorem stored_loads (env : Environment) (frozen : env.catalog.IsFrozen)
    (stock : ∀ entry ∈ env.catalog.entries, ∀ serializer ∈ entry.serializer, serializer.IsStock)
    (questions : List Environment.Question) (value : Value) (onPrimary : Bool) (stored : StoredValue)
    (serialized : ((env.catalog.serialize value onPrimary).run (env.memoryAfter questions)).1 =
      some stored)
    (short : BinaryFormat.FitsLength stored.bytes.length) :
    let catalog := env.catalog
    ∃ first entry serializer encoded,
      catalog.Stores value stored first entry serializer encoded ∧
      (¬ serializer.Loses encoded.payload → ∃ payload,
        catalog.deserialize stored = (return some ⟨entry.native, payload⟩) ∧
        payload.kind = encoded.payload.kind ∧
        ((∀ synchronous, serializer ≠ .json .number synchronous) → payload = encoded.payload)) ∧
      (serializer.Loses encoded.payload → stored.bytes = textBytes "null" ∧
        catalog.deserialize stored = do
          notify (.deserializeFailed stored.codeName .json)
          return none) := by
  intro catalog
  have faithful := env.faithful_memoryAfter questions
  have plain : catalog.storedForm? value = some stored :=
    (env.computes_serialize value onPrimary _ faithful).1.symm.trans serialized
  obtain ⟨first, entry, serializer, encoded, stores⟩ := Catalog.exists_stores frozen plain
  have loads := Catalog.deserialize_eq_load stores.named stores.serializes
  refine ⟨first, entry, serializer, encoded, stores, fun keeps => ?_, fun loses => ?_⟩
  · obtain ⟨payload, decodes, same⟩ :=
      (stock entry stores.registered serializer stores.serializes).exists_decode stores.encodes short
        keeps entry.native
    refine ⟨payload, ?_, same⟩
    rw [loads, Serializer.load, decodes]
  · obtain ⟨null, fails⟩ := loses.decode_eq_error stores.encodes entry.native
    refine ⟨null, ?_⟩
    rw [loads, Serializer.load, fails]

/-- Numbers are stored as JSON. -/
def Catalog.gauge : Catalog where
  hierarchy := .diamond
  display := {}
  entries := [{ codeName := "number", native := ⟨1⟩, serializer := some (.json .number false) }]
  graph := ⟨.diamond, []⟩
  issues := []

def Environment.gauge : Environment :=
  ⟨.gauge, ⟨.diamond, Catalog.gauge.graph, []⟩, rfl⟩

theorem Catalog.gauge_isFrozen : gauge.IsFrozen :=
  ⟨.diamond, {}, gauge.entries.map .entry, rfl⟩

theorem Catalog.gauge_stock : ∀ entry ∈ gauge.entries, ∀ serializer ∈ entry.serializer,
    serializer.IsStock := by
  intro entry member serializer present
  obtain rfl := List.mem_singleton.1 member
  obtain rfl := Option.some.inj present
  exact .json .number false

theorem stored_loads_greatest :
    let env := Environment.gauge
    let memory := env.memoryAfter [.closest ⟨3⟩]
    let stored : StoredValue := ⟨"number", textBytes "1.7976931348623157e308"⟩
    env.catalog.IsFrozen ∧
      ((env.catalog.serialize ⟨⟨1⟩, .number .greatest⟩ true).run memory).1 = some stored ∧
      ∃ payload, env.catalog.deserialize stored = return some ⟨⟨1⟩, payload⟩ := by
  intro env memory stored
  have serialized : ((env.catalog.serialize ⟨⟨1⟩, .number .greatest⟩ true).run memory).1 =
    some stored := by decide +kernel
  obtain ⟨_, entry, serializer, encoded, stores, loads, lost⟩ :=
    stored_loads .gauge Catalog.gauge_isFrozen Catalog.gauge_stock [.closest ⟨3⟩] _ _ _ serialized
      (by decide)
  obtain rfl : _ = entry := Option.some.inj stores.named
  have keeps : ¬ serializer.Loses encoded.payload := fun loses =>
    absurd (lost loses).1 (by decide)
  obtain ⟨payload, loaded, _⟩ := loads keeps
  exact ⟨Catalog.gauge_isFrozen, serialized, payload, loaded⟩

/-- Infinity is stored, but its stored form is no double and is not loaded. -/
theorem stored_lost_infinity :
    let env := Environment.gauge
    let memory := env.memoryAfter []
    let infinity := Binary64.signed false Binary64.infinityBits
    let stored : StoredValue := ⟨"number", textBytes "null"⟩
    env.catalog.IsFrozen ∧
      (∀ entry ∈ env.catalog.entries, ∀ serializer ∈ entry.serializer, serializer.IsStock) ∧
      ((env.catalog.serialize ⟨⟨1⟩, .number infinity⟩ true).run memory).1 = some stored ∧
      ((env.catalog.deserialize stored).run memory).1 = none := by
  refine ⟨Catalog.gauge_isFrozen, Catalog.gauge_stock, ?_, ?_⟩
  · decide +kernel
  · decide +kernel

end HostTypes
