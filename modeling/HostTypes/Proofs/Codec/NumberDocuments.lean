import HostTypes.Proofs.Codec.StockSerializers
import HostTypes.Proofs.Number.ShortestDecimal

/-!
Doubles as JSON documents. The digits of a shortest decimal fit into a word, so all of them are read
(`appendDigits_of_lt`), and they are scaled by a power of ten without overflow
(`isSome_scale?_shortest`). So exactly the documents of finite numbers are read as doubles
(`isSome_ofJson?_number_iff`); each of the others is `null`.
-/

namespace HostTypes

open Binary64 (overflow)

namespace JsonNumber

/-! ## Scaling -/

/-- The greatest digits of a shortest decimal with this exponent. The decimal
`17976931348623158e292` is read as the greatest double, but `17976931348623157e292` is shortest. -/
def greatestDigits (exponent : Nat) : Nat :=
  if exponent = 292 then 17976931348623157
  else min (tenTo 17) ((overflow - 1) / tenTo exponent)

theorem isFinite_greatest : ∀ exponent ∈ List.range' 291 18,
    (Binary64.ofNat (greatestDigits exponent)).isFinite ∧ (powerOfTen exponent).isFinite ∧
      (Binary64.ofNat (greatestDigits exponent) * powerOfTen exponent).isFinite := by
  decide +kernel

theorem isFinite_scaled {digits exponent : Nat} (low : exponent ≤ 308)
    (small : digits ≤ greatestDigits exponent) :
    (Binary64.ofNat digits * powerOfTen exponent).isFinite := by
  -- Below 291 any digits will do, and the power of ten is less.
  obtain ⟨high, member, digitsLe, exponentLe⟩ : ∃ high ∈ List.range' 291 18,
      digits ≤ greatestDigits high ∧ exponent ≤ high := by
    by_cases few : exponent ≤ 291
    · have all : digits ≤ tenTo 17 := by
        rw [greatestDigits, if_neg (by omega)] at small
        exact small.trans (Nat.min_le_left _ _)
      have greatest : greatestDigits 291 = tenTo 17 := by decide +kernel
      exact ⟨291, by decide, greatest ▸ all, few⟩
    · refine ⟨exponent, ?_, small, Nat.le_refl _⟩
      rw [List.mem_range'_1]
      omega
  obtain ⟨finiteDigits, finitePower, finite⟩ := isFinite_greatest high member
  exact Binary64.isFinite_mul_of_le (Binary64.unsignedBits_ofNat_mono digitsLe)
    (Binary64.unsignedBits_ofNat_mono (tenTo_le_tenTo exponentLe)) finiteDigits finitePower finite

theorem isSome_scale?_of_neg {exponent : Int} (negative : exponent < 0) (significand : Nat) :
    (scale? significand exponent).isSome := by
  unfold scale?
  rw [if_neg (by omega)]
  split_ifs <;> rfl

theorem isSome_scale?_of_isFinite {significand exponent : Nat} (low : exponent ≤ 308)
    (finite : (Binary64.ofNat significand * powerOfTen exponent).isFinite) :
    (scale? significand exponent).isSome := by
  unfold scale?
  rw [if_pos (by omega), if_neg (by omega), Int.toNat_natCast]
  dsimp only
  rw [Binary64.isInfinite_of_isFinite finite]
  rfl

end JsonNumber

namespace Binary64

variable {x y : Binary64}

theorem shortest_congr (same : x.unsignedBits = y.unsignedBits) : x.shortest = y.shortest := by
  have steps : x.steps = y.steps :=
    Nat.le_antisymm (steps_le_steps same.le) (steps_le_steps same.ge)
  have found : x.decimalWith? = y.decimalWith? := by
    funext places
    unfold decimalWith? decimalBelow
    rw [steps, same]
  unfold shortest fewestDigits?
  rw [found]

/-- The greatest double. -/
def greatest : Binary64 := ⟨0x7fefffffffffffff⟩

theorem shortest_greatest : greatest.shortest = ⟨17976931348623157, 292⟩ := by
  decide +kernel

theorem mul_tenTo_lt_overflow (finite : x.isFinite) {digits exponent : Nat}
    (reads : Decimal.nearestBits ⟨digits, exponent⟩ = x.unsignedBits) :
    digits * tenTo exponent < overflow := by
  have fits : nearestBits (digits * tenTo exponent) 1 < infinityBits := by
    rw [← Decimal.nearestBits_natCast, reads]
    exact isFinite_iff.1 finite
  exact (lt_overflow_of_nearestBits Nat.one_pos fits).trans_eq (Nat.mul_one _)

theorem exponent_le_of_lt_overflow {digits exponent : Nat} (some : 0 < digits)
    (below : digits * tenTo exponent < overflow) : exponent ≤ 308 := by
  have power : tenTo exponent < tenTo 309 :=
    calc tenTo exponent
        ≤ digits * tenTo exponent := Nat.le_mul_of_pos_left _ some
      _ < overflow := below
      _ < tenTo 309 := by decide +kernel
  exact Nat.le_of_lt_succ ((tenTo_lt_tenTo_iff (n := 309)).1 power)

/-- These digits are another way to write the greatest double, and its shortest decimal has others. -/
theorem shortest_ne (reads : x.shortest.nearestBits = x.unsignedBits) :
    x.shortest ≠ ⟨17976931348623158, 292⟩ := by
  intro written
  have bits : x.unsignedBits = greatest.unsignedBits := by
    rw [← reads, written]
    decide +kernel
  cases written.symm.trans ((shortest_congr bits).trans shortest_greatest)

theorem digits_shortest_le (finite : x.isFinite) (filled : ¬ x.isZero) {exponent : Nat}
    (scale : x.shortest.exponent = exponent) (reads : x.shortest.nearestBits = x.unsignedBits)
    (few : x.shortest.digits ≤ tenTo 17) :
    exponent ≤ 308 ∧ x.shortest.digits ≤ JsonNumber.greatestDigits exponent := by
  have other := shortest_ne reads
  generalize x.shortest = decimal at scale reads few other ⊢
  obtain ⟨digits, power⟩ := decimal
  obtain rfl : power = exponent := scale
  dsimp only at few ⊢
  have below := mul_tenTo_lt_overflow finite reads
  have some : 0 < digits := by
    refine Nat.pos_of_ne_zero fun zero => filled (decide_eq_true ?_)
    rw [← reads, Decimal.nearestBits_of_digits_zero zero]
  have whole : digits ≤ (overflow - 1) / tenTo exponent := by
    rw [Nat.le_div_iff_mul_le (tenTo_pos _)]
    omega
  refine ⟨exponent_le_of_lt_overflow some below, ?_⟩
  unfold JsonNumber.greatestDigits
  split_ifs with special
  · subst special
    have bound : (overflow - 1) / tenTo 292 = 17976931348623158 := by decide +kernel
    have differs : digits ≠ 17976931348623158 := by
      rintro rfl
      exact other rfl
    rw [bound] at whole
    omega
  · exact Nat.le_min.2 ⟨few, whole⟩

theorem isSome_scale?_shortest (finite : x.isFinite) (filled : ¬ x.isZero) :
    (JsonNumber.scale? x.shortest.digits x.shortest.exponent).isSome := by
  rcases Int.lt_or_le x.shortest.exponent 0 with negative | whole
  · exact JsonNumber.isSome_scale?_of_neg negative _
  · obtain ⟨exponent, scale⟩ := Int.eq_ofNat_of_zero_le whole
    rcases shortest_cases (steps_ne_zero filled) with none | ⟨reads, few⟩
    · rw [none]
      decide +kernel
    · obtain ⟨low, small⟩ := digits_shortest_le finite filled scale reads few
      rw [scale]
      exact JsonNumber.isSome_scale?_of_isFinite low (JsonNumber.isFinite_scaled low small)

end Binary64

/-! ## Digits -/

namespace JsonNumber

theorem ofDigits_append (digits more : List Nat) :
    ofDigits (digits ++ more) =
      more.foldl (fun total digit => 10 * total + digit) (ofDigits digits) :=
  List.foldl_append

theorem ofDigits_concat (digits : List Nat) (digit : Nat) :
    ofDigits (digits ++ [digit]) = 10 * ofDigits digits + digit :=
  ofDigits_append digits [digit]

theorem ofDigits_lt {digits : List Nat} (small : ∀ digit ∈ digits, digit < 10) :
    ofDigits digits < tenTo digits.length := by
  induction digits using List.reverseRecOn with
  | nil => exact Nat.one_pos
  | append_singleton digits digit ih =>
      obtain ⟨early, last⟩ := List.forall_mem_append.1 small
      have below := ih early
      have one : digit < 10 := last digit List.mem_cons_self
      rw [ofDigits_concat, List.length_append, List.length_singleton, tenTo_succ]
      omega

theorem ofDigits_zeros (count : Nat) (digits : List Nat) :
    ofDigits (List.replicate count 0 ++ digits) = ofDigits digits := by
  induction count with
  | zero => rfl
  | succ count ih => exact ih

theorem le_foldl_digits (digits : List Nat) (total : Nat) :
    total ≤ digits.foldl (fun total digit => 10 * total + digit) total := by
  induction digits generalizing total with
  | nil => exact Nat.le_refl _
  | cons digit rest ih => exact (by omega : total ≤ 10 * total + digit).trans (ih _)

theorem appendDigits_of_lt {digits : List Nat} {total : Nat}
    (fits : digits.foldl (fun total digit => 10 * total + digit) total < twoTo 64) :
    appendDigits total digits =
      (digits.foldl (fun total digit => 10 * total + digit) total, []) := by
  induction digits generalizing total with
  | nil => rfl
  | cons digit rest ih =>
      have next : 10 * total + digit < twoTo 64 := (le_foldl_digits rest _).trans_lt fits
      rw [appendDigits, if_pos next, ih fits]
      rfl

def writtenExponent (exponent : Option (Bool × List Nat)) : Int :=
  exponent.elim 0 fun (negative, digits) =>
    if negative then -(ofDigits digits : Int) else ofDigits digits

/-- Digits that fit into a word are all read, so the spelling is read if they are scaled. -/
theorem isSome_double? {spelling : JsonNumber}
    (fits : ofDigits (spelling.whole ++ spelling.fraction.getD []) < twoTo 64)
    (scaled : (scale? (ofDigits (spelling.whole ++ spelling.fraction.getD []))
      (writtenExponent spelling.exponent - (spelling.fraction.getD []).length)).isSome) :
    spelling.double?.isSome := by
  unfold double?
  split
  · rfl
  · rw [ofDigits_append] at fits scaled
    have lead : ofDigits spelling.whole < twoTo 64 := (le_foldl_digits _ _).trans_lt fits
    rw [appendDigits_of_lt lead]
    dsimp only
    rw [← ofDigits, appendDigits_of_lt fits]
    simp only [List.length_nil, Nat.sub_zero, Nat.cast_zero, zero_sub, neg_add_eq_sub,
      Option.isSome_map]
    cases written : spelling.exponent with
    | none =>
        rw [written] at scaled
        exact scaled
    | some pair =>
        rw [written] at scaled
        exact scaled

/-! ## Layouts -/

/-- With either sign, the characters spell a number that is read as some double. -/
def SpellsDouble (unsigned : List Char) : Prop :=
  ∀ negative : Bool, ∃ spelling : JsonNumber, spelling.Valid ∧ spelling.negative = negative ∧
    spelling.unsignedChars = unsigned ∧ spelling.double?.isSome

variable {digits : List Nat}

theorem lt_ten_of_mem_zeros {count digit : Nat} (member : digit ∈ List.replicate count 0) :
    digit < 10 := by
  rw [List.eq_of_mem_replicate member]
  decide

theorem isDigits_append_zeros (isDigits : IsDigits digits) (count : Nat) :
    IsDigits (digits ++ List.replicate count 0) :=
  ⟨List.append_ne_nil_of_left_ne_nil isDigits.1 _,
    List.forall_mem_append.2 ⟨isDigits.2, fun _ => lt_ten_of_mem_zeros⟩⟩

theorem isDigits_zeros_append (isDigits : IsDigits digits) (count : Nat) :
    IsDigits (List.replicate count 0 ++ digits) :=
  ⟨List.append_ne_nil_of_right_ne_nil _ isDigits.1,
    List.forall_mem_append.2 ⟨fun _ => lt_ten_of_mem_zeros, isDigits.2⟩⟩

theorem digitChars_append (digits more : List Nat) :
    digitChars (digits ++ more) = digitChars digits ++ digitChars more :=
  List.map_append

theorem digitChars_zeros (count : Nat) :
    digitChars (List.replicate count 0) = List.replicate count '0' :=
  List.map_replicate

theorem isDigits_zero : IsDigits [0] :=
  ⟨List.cons_ne_nil _ _, by decide⟩

theorem spellsDouble_whole (isDigits : IsDigits digits)
    (first : digits.head? = some 0 → digits = [0]) {count : Nat} (zero : digits = [0] → count = 0)
    (short : digits.length + count ≤ 16) :
    SpellsDouble (digitChars digits ++ List.replicate count '0' ++ ['.', '0']) := by
  intro negative
  have whole := isDigits_append_zeros isDigits count
  refine ⟨⟨negative, digits ++ List.replicate count 0, some [0], none⟩, ⟨whole, ?_, ?_, nofun⟩, rfl,
    ?_, isSome_double? ?_ ?_⟩
  · dsimp only
    rw [List.head?_append_of_ne_nil _ isDigits.1]
    intro several none
    have single := first none
    rw [single, zero single] at several
    exact absurd several (by decide)
  · rintro _ ⟨⟩
    exact isDigits_zero
  · rw [unsignedChars, digitChars_append, digitChars_zeros]
    rfl
  · have below := ofDigits_lt (List.forall_mem_append.2 ⟨whole.2, isDigits_zero.2⟩)
    refine (below.trans_le (tenTo_le_tenTo (n := 17) ?_)).trans (by decide)
    simp
    omega
  · exact isSome_scale?_of_neg (by simp [writtenExponent]) _

theorem spellsDouble_inner (isDigits : IsDigits digits)
    (first : digits.head? = some 0 → digits = [0]) (fits : ofDigits digits < twoTo 64) {point : Nat}
    (after : 0 < point) (before : point < digits.length) :
    SpellsDouble ((digitChars digits).take point ++ '.' :: (digitChars digits).drop point) := by
  intro negative
  have whole : IsDigits (digits.take point) := by
    refine ⟨?_, fun digit member => isDigits.2 digit (List.mem_of_mem_take member)⟩
    rw [ne_eq, List.take_eq_nil_iff]
    rintro (none | none)
    · omega
    · exact isDigits.1 none
  have fraction : IsDigits (digits.drop point) :=
    ⟨by simpa using before, fun digit member => isDigits.2 digit (List.mem_of_mem_drop member)⟩
  have joined : digits.take point ++ digits.drop point = digits := List.take_append_drop _ _
  refine ⟨⟨negative, digits.take point, some (digits.drop point), none⟩,
    ⟨whole, ?_, ?_, nofun⟩, rfl, ?_, isSome_double? ?_ (isSome_scale?_of_neg ?_ _)⟩
  · dsimp only
    rw [List.head?_take, if_neg (by omega)]
    exact fun _ => Payload.noNeedlessZero_of_first first (by omega)
  · rintro _ ⟨⟩
    exact fraction
  · rw [unsignedChars, fractionChars, exponentChars, List.append_nil, digitChars, digitChars,
      List.map_take, List.map_drop]
    rfl
  · exact (congrArg ofDigits joined).trans_lt fits
  · have length : 0 < (digits.drop point).length := List.length_pos_of_ne_nil fraction.1
    exact sub_neg.2 (Int.natCast_pos.2 length)

theorem spellsDouble_leading (isDigits : IsDigits digits) (fits : ofDigits digits < twoTo 64)
    (count : Nat) :
    SpellsDouble (['0', '.'] ++ List.replicate count '0' ++ digitChars digits) := by
  intro negative
  have fraction := isDigits_zeros_append isDigits count
  have value : ofDigits ([0] ++ (List.replicate count 0 ++ digits)) = ofDigits digits :=
    ofDigits_zeros (count + 1) digits
  refine ⟨⟨negative, [0], some (List.replicate count 0 ++ digits), none⟩,
    ⟨isDigits_zero, fun several => absurd several (Nat.lt_irrefl 1), ?_, nofun⟩, rfl,
    ?_, isSome_double? (value.trans_lt fits) (isSome_scale?_of_neg ?_ _)⟩
  · rintro _ ⟨⟩
    exact fraction
  · rw [unsignedChars, fractionChars, exponentChars, List.append_nil, digitChars_append,
      digitChars_zeros]
    rfl
  · exact sub_neg.2 (Int.natCast_pos.2 (List.length_pos_of_ne_nil fraction.1))

theorem spellsDouble_scientific (isDigits : IsDigits digits)
    (fits : ofDigits digits < twoTo 64) {exponent : Int}
    (scales : (scale? (ofDigits digits) (exponent - (digits.length - 1 : Nat))).isSome) :
    SpellsDouble ((digitChars digits).take 1 ++
      (if digits.length = 1 then [] else '.' :: (digitChars digits).drop 1) ++
        'e' :: (toString exponent).toList) := by
  intro negative
  obtain ⟨digit, others, rfl⟩ := List.exists_cons_of_ne_nil isDigits.1
  obtain ⟨small, smallOthers⟩ := List.forall_mem_cons.1 isDigits.2
  obtain ⟨minus, power, isPower, -, chars, value, -⟩ := Payload.exists_signed_digits exponent
  have exponentValue : writtenExponent (some (minus, power)) = exponent := value.symm
  have single : IsDigits [digit] := ⟨List.cons_ne_nil _ _, List.forall_mem_singleton.2 small⟩
  obtain ⟨fraction, others_eq, valid, fractionText⟩ : ∃ fraction : Option (List Nat),
      fraction.getD [] = others ∧ (∀ digits ∈ fraction, IsDigits digits) ∧
        fractionChars fraction =
          if (digit :: others).length = 1 then [] else '.' :: digitChars others := by
    cases others with
    | nil => exact ⟨none, rfl, nofun, rfl⟩
    | cons second more =>
        refine ⟨some (second :: more), rfl, ?_, rfl⟩
        rintro _ ⟨⟩
        exact ⟨List.cons_ne_nil _ _, smallOthers⟩
  refine ⟨⟨negative, [digit], fraction, some (minus, power)⟩,
    ⟨single, fun several => absurd several (Nat.lt_irrefl 1), valid, ?_⟩, rfl,
    ?_, isSome_double? ?_ ?_⟩
  · rintro _ _ ⟨⟩
    exact isPower
  · rw [unsignedChars, fractionText, exponentChars, chars]
    rfl
  · rw [others_eq]
    exact fits
  · rw [others_eq, exponentValue]
    exact scales

end JsonNumber

/-! ## Documents -/

open JsonNumber

theorem Decimal.spellsDouble_text {decimal : Decimal} (few : decimal.digits ≤ tenTo 17)
    (normal : decimal.digits = 0 → decimal.exponent = 0)
    (scales : (scale? decimal.digits decimal.exponent).isSome) : SpellsDouble decimal.text := by
  obtain ⟨number, exponent⟩ := decimal
  dsimp only at few normal scales
  obtain ⟨digits, isDigits, first, chars, value⟩ := Payload.exists_digits number
  have fits : ofDigits digits < twoTo 64 := value.trans_lt (few.trans_lt (by decide))
  have filled : 0 < digits.length := List.length_pos_of_ne_nil isDigits.1
  have length : (Nat.toDigits 10 number).length = digits.length := by
    rw [← chars, digitChars, List.length_map]
  unfold Decimal.text
  simp only [length, Bool.and_eq_true, decide_eq_true_eq]
  rw [← chars]
  by_cases whole : 0 ≤ exponent ∧ digits.length + exponent ≤ 16
  · rw [if_pos whole]
    refine spellsDouble_whole isDigits first (fun zero => ?_) (by omega)
    rw [normal (by rw [← value, zero]; rfl)]
    rfl
  rw [if_neg whole]
  by_cases inner : 0 < digits.length + exponent ∧ digits.length + exponent ≤ 16
  · rw [if_pos inner]
    exact spellsDouble_inner isDigits first fits (by omega) (by omega)
  rw [if_neg inner]
  by_cases leading : -5 < digits.length + exponent ∧ digits.length + exponent ≤ 0
  · rw [if_pos leading]
    exact spellsDouble_leading isDigits fits _
  rw [if_neg leading]
  refine spellsDouble_scientific isDigits fits ?_
  have power : digits.length + exponent - 1 - (digits.length - 1 : Nat) = exponent := by omega
  rw [power, value]
  exact scales

namespace Binary64

variable {x : Binary64}

theorem exists_spelling_shortestText (finite : x.isFinite) :
    ∃ spelling : JsonNumber, spelling.Valid ∧ spelling.chars = x.shortestText ∧
      spelling.double?.isSome := by
  have unsigned : SpellsDouble (if x.isZero then ['0', '.', '0'] else x.shortest.text) := by
    split
    · exact spellsDouble_leading isDigits_zero (by decide) 0
    · rename_i filled
      have scales := isSome_scale?_shortest finite filled
      rcases shortest_cases (steps_ne_zero filled) with none | ⟨reads, few⟩
      · rw [none] at scales ⊢
        exact Decimal.spellsDouble_text (Nat.zero_le _) (fun _ => rfl) scales
      · refine Decimal.spellsDouble_text few (fun zero => ?_) scales
        refine absurd (decide_eq_true ?_) filled
        rw [← reads, Decimal.nearestBits_of_digits_zero zero]
  obtain ⟨spelling, valid, sign, chars, read⟩ := unsigned x.negative
  refine ⟨spelling, valid, ?_, read⟩
  rw [shortestText, JsonNumber.chars, sign, chars]

end Binary64

namespace Payload

theorem isSome_ofJson?_number_iff (x : Binary64) :
    (ofJson? .number (number x).toJson).isSome ↔ x.isFinite := by
  rw [ofJson?, toJson, textBytes_ofList, jsonText]
  split
  · rename_i finite
    obtain ⟨spelling, valid, chars, read⟩ := Binary64.exists_spelling_shortestText finite
    have document := Json.read?_of_spells (Json.spells_number valid)
    rw [chars] at document
    simp [document, finite, ofJsonTree?, Json.asNumber?, read]
  · rename_i infinite
    rw [Json.read?_of_spells Json.spells_null]
    simp [infinite, ofJsonTree?, Json.asNumber?]

end Payload

end HostTypes
