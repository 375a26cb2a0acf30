import HostTypes.Codec.Binary
import Mathlib.Algebra.Group.Nat.Defs

/-!
Binary formats that are exact: what they write is read back from the front of any bytes, and they read
nothing else. Words of a fixed width are exact (`word_exact`), and so is what is put together from exact
formats. So of two stored values neither is written as the beginning of the other (`stored_exact`).
-/

namespace HostTypes

theorem textOfBytes?_eq_some_iff {bytes : Bytes} {content : String} :
    textOfBytes? bytes = some content ↔ bytes = textBytes content := by
  unfold textOfBytes? textBytes String.fromUTF8?
  constructor
  · intro read
    split at read
    · cases read
      rfl
    · cases read
  · rintro rfl
    exact dif_pos content.isValidUTF8

namespace BinaryFormat

variable {α β : Type}

/-- The format reads the values that fit from their written forms, whatever follows, and it reads
nothing else. -/
def Exact (format : BinaryFormat α) (fits : α → Prop) : Prop :=
  ∀ bytes value rest, format.read bytes = some (value, rest) ↔
    fits value ∧ bytes = format.write value ++ rest

section

variable {format : BinaryFormat α} {fits : α → Prop}

theorem Exact.read_write (exact : format.Exact fits) {value : α} (fit : fits value) (rest : Bytes) :
    format.read (format.write value ++ rest) = some (value, rest) :=
  (exact _ _ _).2 ⟨fit, rfl⟩

theorem Exact.congr (exact : format.Exact fits) {other : α → Prop}
    (same : ∀ value, fits value ↔ other value) : format.Exact other := fun bytes value rest =>
  (exact bytes value rest).trans (and_congr_left' (same value))

/-- A value is read only where its whole written form stands. -/
theorem Exact.write_prefix (exact : format.Exact fits) {bytes : Bytes} {value : α}
    (read : (format.read bytes).map Prod.fst = some value) :
    fits value ∧ format.write value <+: bytes := by
  obtain ⟨⟨found, rest⟩, reads, rfl⟩ := Option.map_eq_some_iff.1 read
  obtain ⟨fit, rfl⟩ := (exact _ _ _).1 reads
  exact ⟨fit, List.prefix_append _ _⟩

theorem Exact.eq_of_prefix (exact : format.Exact fits) {one other : α} (fitsOne : fits one)
    (fitsOther : fits other) (begins : format.write one <+: format.write other) : one = other := by
  obtain ⟨rest, same⟩ := begins
  have first := exact.read_write fitsOne rest
  have second := exact.read_write fitsOther []
  rw [List.append_nil, ← same, first, Option.some.injEq, Prod.mk.injEq] at second
  exact second.1

/-- Nothing is read where a written form is cut off. -/
theorem Exact.read_cut (exact : format.Exact fits) {value : α} (fit : fits value) {cut : Bytes}
    (begins : cut <+: format.write value) (shorter : cut ≠ format.write value) :
    format.read cut = none := by
  rw [Option.eq_none_iff_forall_ne_some]
  rintro ⟨found, rest⟩ reads
  obtain ⟨fitFound, rfl⟩ := (exact _ _ _).1 reads
  obtain rfl : found = value :=
    exact.eq_of_prefix fitFound fit ((List.prefix_append _ _).trans begins)
  exact shorter (begins.eq_of_length_le (by simp))

end

/-! ## Words -/

theorem length_wordBytes (width n : Nat) : (wordBytes width n).length = width := by
  induction width generalizing n with
  | zero => rfl
  | succ width ih => rw [wordBytes, List.length_cons, ih]

theorem wordBytes_eq_map (width n : Nat) :
    wordBytes width n = (List.range width).map fun place => UInt8.ofNat (n / 256 ^ place) := by
  induction width generalizing n with
  | zero => rfl
  | succ width ih =>
      have low : UInt8.ofNat (n % 256) = UInt8.ofNat n := by
        apply UInt8.toNat_inj.1
        simp
      rw [wordBytes, low, ih, List.range_succ_eq_map, List.map_cons, List.map_map]
      simp [Function.comp_def, Nat.pow_succ', Nat.div_div_eq_div_mul]

theorem wordValue_wordBytes {width n : Nat} (fits : n < 256 ^ width) :
    wordValue (wordBytes width n) = n := by
  induction width generalizing n with
  | zero => rw [wordBytes, wordValue, Nat.lt_one_iff.1 fits]
  | succ width ih =>
      have rest : n / 256 < 256 ^ width := Nat.div_lt_of_lt_mul (by rwa [← Nat.pow_succ'])
      rw [wordBytes, wordValue, ih rest, UInt8.toNat_ofNat', Nat.mod_mod, Nat.mod_add_div]

theorem wordBytes_wordValue (bytes : Bytes) : wordBytes bytes.length (wordValue bytes) = bytes := by
  induction bytes with
  | nil => rfl
  | cons byte rest ih =>
      have bound := byte.toNat_lt
      have low : (byte.toNat + 256 * wordValue rest) % 256 = byte.toNat := by omega
      have high : (byte.toNat + 256 * wordValue rest) / 256 = wordValue rest := by omega
      rw [List.length_cons, wordValue, wordBytes, low, high, ih, UInt8.ofNat_toNat]

theorem wordValue_lt (bytes : Bytes) : wordValue bytes < 256 ^ bytes.length := by
  induction bytes with
  | nil => exact Nat.one_pos
  | cons byte rest ih =>
      have bound := byte.toNat_lt
      rw [List.length_cons, wordValue, Nat.pow_succ]
      omega

theorem word_exact (width : Nat) : (word width).Exact (· < 256 ^ width) := by
  intro bytes n rest
  dsimp only [word]
  constructor
  · intro read
    split at read
    · rename_i enough
      obtain ⟨rfl, rfl⟩ := Prod.mk.inj (Option.some.inj read)
      have length : (bytes.take width).length = width := List.length_take_of_le enough
      have bound := wordValue_lt (bytes.take width)
      have written := wordBytes_wordValue (bytes.take width)
      rw [length] at bound written
      exact ⟨bound, by rw [written, List.take_append_drop]⟩
    · cases read
  · rintro ⟨fits, rfl⟩
    have length := length_wordBytes width n
    rw [if_pos (by simp [length]), List.take_left' length, List.drop_left' length,
      wordValue_wordBytes fits]

/-! ## Formats made of others -/

theorem Exact.imap {format : BinaryFormat α} {fits : α → Prop} (exact : format.Exact fits)
    {into : α → β} {back : β → α} (unpacked : ∀ raw, fits raw → back (into raw) = raw)
    (packed : ∀ value, into (back value) = value) :
    (format.imap into back).Exact fun value => fits (back value) := by
  intro bytes value rest
  simp only [BinaryFormat.imap, Option.map_eq_some_iff, Prod.mk.injEq, Prod.exists, exact _ _ _]
  constructor
  · rintro ⟨raw, _, ⟨fit, rfl⟩, rfl, rfl⟩
    rw [unpacked raw fit]
    exact ⟨fit, rfl⟩
  · rintro ⟨fit, rfl⟩
    exact ⟨back value, rest, ⟨fit, rfl⟩, packed value, rfl⟩

theorem Exact.pair {first : BinaryFormat α} {second : BinaryFormat β} {fitsFirst : α → Prop}
    {fitsSecond : β → Prop} (exactFirst : first.Exact fitsFirst)
    (exactSecond : second.Exact fitsSecond) :
    (first.pair second).Exact fun value => fitsFirst value.1 ∧ fitsSecond value.2 := by
  rintro bytes ⟨one, two⟩ rest
  simp only [BinaryFormat.pair, Option.bind_eq_bind, Option.bind_eq_some_iff, Prod.exists,
    exactFirst _ _ _, exactSecond _ _ _, Option.pure_def, Option.some.injEq, Prod.mk.injEq]
  constructor
  · rintro ⟨_, _, ⟨fitOne, rfl⟩, _, _, ⟨fitTwo, rfl⟩, ⟨rfl, rfl⟩, rfl⟩
    exact ⟨⟨fitOne, fitTwo⟩, (List.append_assoc _ _ _).symm⟩
  · rintro ⟨⟨fitOne, fitTwo⟩, rfl⟩
    exact ⟨one, _, ⟨fitOne, List.append_assoc _ _ _⟩, two, rest, ⟨fitTwo, rfl⟩, ⟨rfl, rfl⟩, rfl⟩

theorem readMany_eq_some_iff {format : BinaryFormat α} {fits : α → Prop}
    (exact : format.Exact fits) {count : Nat} {bytes rest : Bytes} {values : List α} :
    readMany format count bytes = some (values, rest) ↔ values.length = count ∧
      (∀ value ∈ values, fits value) ∧ bytes = values.flatMap format.write ++ rest := by
  induction count generalizing bytes values rest with
  | zero =>
      simp only [readMany, Option.some.injEq, Prod.mk.injEq, List.length_eq_zero_iff]
      constructor
      · rintro ⟨rfl, rfl⟩
        exact ⟨rfl, nofun, rfl⟩
      · rintro ⟨rfl, -, rfl⟩
        exact ⟨rfl, rfl⟩
  | succ count ih =>
      simp only [readMany, Option.bind_eq_bind, Option.bind_eq_some_iff, Prod.exists,
        exact _ _ _, ih, Option.pure_def, Option.some.injEq, Prod.mk.injEq]
      constructor
      · rintro ⟨value, _, ⟨fit, rfl⟩, others, _, ⟨rfl, fitOthers, rfl⟩, rfl, rfl⟩
        exact ⟨rfl, List.forall_mem_cons.2 ⟨fit, fitOthers⟩, by simp⟩
      · rintro ⟨length, fitAll, rfl⟩
        obtain ⟨value, others, rfl⟩ := List.exists_cons_of_length_eq_add_one length
        obtain ⟨fit, fitOthers⟩ := List.forall_mem_cons.1 fitAll
        exact ⟨value, _, ⟨fit, by simp⟩, others, rest, ⟨by simpa using length, fitOthers, rfl⟩,
          rfl, rfl⟩

/-- A length for which there is room in eight bytes. -/
def FitsLength (count : Nat) : Prop :=
  count < 256 ^ 8
  deriving Decidable

theorem length_exact : BinaryFormat.length.Exact FitsLength :=
  word_exact 8

theorem Exact.list {format : BinaryFormat α} {fits : α → Prop} (exact : format.Exact fits) :
    (BinaryFormat.list format).Exact fun values =>
      FitsLength values.length ∧ ∀ value ∈ values, fits value := by
  intro bytes values rest
  simp only [BinaryFormat.list, Option.bind_eq_bind, Option.bind_eq_some_iff, Prod.exists,
    length_exact _ _ _, readMany_eq_some_iff exact]
  constructor
  · rintro ⟨_, _, ⟨fit, rfl⟩, rfl, fitAll, rfl⟩
    exact ⟨⟨fit, fitAll⟩, (List.append_assoc _ _ _).symm⟩
  · rintro ⟨⟨fit, fitAll⟩, rfl⟩
    exact ⟨values.length, _, ⟨fit, List.append_assoc _ _ _⟩, rfl, fitAll, rfl⟩

def FitsText (content : String) : Prop :=
  FitsLength (textBytes content).length
  deriving Decidable

theorem text_exact : text.Exact FitsText := by
  intro bytes content rest
  simp only [text, Option.bind_eq_bind, Option.bind_eq_some_iff, Prod.exists, length_exact _ _ _,
    Option.pure_def]
  constructor
  · rintro ⟨count, following, ⟨fit, rfl⟩, read⟩
    split at read
    · rename_i enough
      simp only [Option.bind_eq_some_iff, textOfBytes?_eq_some_iff, Option.some.injEq,
        Prod.mk.injEq] at read
      obtain ⟨found, taken, rfl, rfl⟩ := read
      have length : (textBytes found).length = count := by
        rw [← taken, List.length_take_of_le enough]
      refine ⟨by rwa [FitsText, length], ?_⟩
      rw [length, List.append_assoc, ← taken, List.take_append_drop]
    · cases read
  · rintro ⟨fit, rfl⟩
    refine ⟨_, textBytes content ++ rest, ⟨fit, List.append_assoc _ _ _⟩, ?_⟩
    rw [if_pos (by simp), List.take_left, List.drop_left, textOfBytes?_eq_some_iff.2 rfl]
    rfl

theorem truth_exact : truth.Exact fun _ => True := by
  intro bytes value rest
  dsimp only [truth]
  constructor
  · intro read
    split at read <;> cases read <;> exact ⟨trivial, rfl⟩
  · rintro ⟨-, rfl⟩
    cases value <;> rfl

theorem nothing_exact : nothing.Exact fun _ => True := by
  intro bytes value rest
  simp [nothing, eq_comm]

/-! ## Numbers -/

theorem byte_exact : byte.Exact fun _ => True :=
  ((word_exact 1).imap (fun _ fit => UInt8.toNat_ofNat_of_lt' fit) fun _ => UInt8.ofNat_toNat).congr
    fun value => iff_true_intro value.toNat_lt

theorem uint64_exact : uint64.Exact fun _ => True :=
  ((word_exact 8).imap (fun _ fit => UInt64.toNat_ofNat_of_lt' fit) fun _ =>
    UInt64.ofNat_toNat).congr fun value => iff_true_intro value.toNat_lt

theorem uint32_exact : uint32.Exact fun _ => True :=
  ((word_exact 4).imap (fun _ fit => UInt32.toNat_ofNat_of_lt' fit) fun _ =>
    UInt32.ofNat_toNat).congr fun value => iff_true_intro value.toNat_lt

theorem int64_exact : int64.Exact fun _ => True :=
  uint64_exact.imap (fun raw _ => raw.toUInt64_toInt64) fun value => value.toInt64_toUInt64

theorem int32_exact : int32.Exact fun _ => True :=
  uint32_exact.imap (fun raw _ => raw.toUInt32_toInt32) fun value => value.toInt32_toUInt32

theorem number_exact : number.Exact fun _ => True :=
  uint64_exact.imap (fun _ _ => rfl) fun _ => rfl

theorem timespan_exact : timespan.Exact fun _ => True :=
  uint64_exact.imap (fun _ _ => rfl) fun _ => rfl

theorem place_exact : place.Exact fun spot => FitsText spot.world :=
  ((text_exact.pair (int32_exact.pair int32_exact)).imap (fun _ _ => rfl) fun _ => rfl).congr
    fun _ => by simp

end BinaryFormat

/-! ## Stored values -/

namespace StoredValue

/-- The lengths have room in eight bytes each, as those of all texts and lists in memory do. -/
def Fits (stored : StoredValue) : Prop :=
  BinaryFormat.FitsText stored.codeName ∧ BinaryFormat.FitsLength stored.bytes.length
  deriving Decidable

theorem format_exact : format.Exact Fits :=
  ((BinaryFormat.text_exact.pair BinaryFormat.byte_exact.list).imap (fun _ _ => rfl)
    fun _ => rfl).congr fun _ => by simp [Fits]

theorem flatMap_byte (bytes : Bytes) : bytes.flatMap BinaryFormat.byte.write = bytes := by
  induction bytes with
  | nil => rfl
  | cons byte rest ih =>
      have written : BinaryFormat.byte.write byte = [byte] := by
        simp [BinaryFormat.byte, BinaryFormat.word, BinaryFormat.imap, BinaryFormat.wordBytes_eq_map]
      rw [List.flatMap_cons, written, ih, List.singleton_append]

theorem toBytes_eq (stored : StoredValue) :
    stored.toBytes = BinaryFormat.length.write (textBytes stored.codeName).length ++
      textBytes stored.codeName ++ BinaryFormat.length.write stored.bytes.length ++ stored.bytes := by
  have content := flatMap_byte stored.bytes
  unfold toBytes format
  simp only [BinaryFormat.imap, BinaryFormat.pair, BinaryFormat.text, BinaryFormat.list, content,
    List.append_assoc]

end StoredValue

/-! ## The statement -/

theorem stored_exact :
    (∀ stored : StoredValue,
      let lengthBytes (count : Nat) : Bytes :=
        (List.range 8).map fun place => UInt8.ofNat (count / 256 ^ place)
      stored.toBytes = lengthBytes stored.codeName.utf8ByteSize ++ stored.codeName.toUTF8.data.toList ++
        lengthBytes stored.bytes.length ++ stored.bytes) ∧
    (∀ (stored : StoredValue) (rest : Bytes), stored.Fits →
      StoredValue.ofBytes? (stored.toBytes ++ rest) = some stored) ∧
    (∀ (stored : StoredValue) (cut : Bytes), stored.Fits → cut <+: stored.toBytes →
      cut ≠ stored.toBytes → StoredValue.ofBytes? cut = none) ∧
    (∀ (bytes : Bytes) (stored : StoredValue), StoredValue.ofBytes? bytes = some stored →
      stored.Fits ∧ stored.toBytes <+: bytes) ∧
    ∀ one other : StoredValue, one.Fits → other.Fits → one.toBytes <+: other.toBytes →
      one = other := by
  have exact := StoredValue.format_exact
  refine ⟨fun stored => ?_, fun stored rest fits => ?_, fun stored cut fits begins shorter => ?_,
    fun bytes stored read => exact.write_prefix read,
    fun one other fitsOne fitsOther begins => exact.eq_of_prefix fitsOne fitsOther begins⟩
  · intro lengthBytes
    have written (count : Nat) : BinaryFormat.length.write count = lengthBytes count :=
      BinaryFormat.wordBytes_eq_map 8 count
    rw [stored.toBytes_eq, written, written]
    rfl
  · rw [StoredValue.ofBytes?, StoredValue.toBytes, exact.read_write fits]
    rfl
  · rw [StoredValue.ofBytes?, exact.read_cut fits begins shorter]
    rfl

def StoredValue.sample : StoredValue := ⟨"größe", [1, 255]⟩

theorem stored_exact_sample :
    StoredValue.sample.Fits ∧
      StoredValue.ofBytes? (StoredValue.sample.toBytes ++ [7]) = some .sample ∧
      StoredValue.ofBytes? (StoredValue.sample.toBytes.take 24) = none ∧
      ∀ other : StoredValue, other.Fits → StoredValue.sample.toBytes <+: other.toBytes →
        .sample = other := by
  have fits : StoredValue.sample.Fits := by decide
  obtain ⟨_, reads, cut, _, alone⟩ := stored_exact
  exact ⟨fits, reads _ _ fits, cut _ _ fits (List.take_prefix _ _) (by decide),
    fun other => alone _ other fits⟩

end HostTypes
