import HostTypes.Proofs.Number.DecimalDigits
import HostTypes.Timespan.Phrase
import Mathlib.Algebra.BigOperators.Group.List.Basic

/-!
Timespans in clock notation. A text is read as a clock exactly if it is put together from groups of
decimal digits in the way of a clock (`ClockText.read?_eq_some_iff`). The running sum of the groups in
their units is given up exactly if the whole sum does not fit (`foldlM_addUnits?`), and so a clock is a
timespan exactly if its groups can be read and their exact sum fits (`read?_clock`).
-/

namespace HostTypes

/-! ## The notation -/

namespace ClockText

/-- Decimal digits of some script, as many as the bounds say. -/
def IsGroup (least : Nat) (most : Option Nat) (digits : List Char) : Prop :=
  (∀ c ∈ digits, isDecimalDigit c) ∧ least ≤ digits.length ∧ ∀ bound ∈ most, digits.length ≤ bound

structure WellFormed (clock : ClockText) : Prop where
  first : IsGroup 1 none clock.first
  second : IsGroup 2 (some 2) clock.second
  third : ∀ digits ∈ clock.third, IsGroup 2 (some 2) digits
  decimals : ∀ digits ∈ clock.decimals, IsGroup 1 (some 4) digits

def tailText (third decimals : Option (List Char)) : List Char :=
  third.elim [] (':' :: ·) ++ decimals.elim [] ('.' :: ·)

/-- The groups as they are written. -/
def text (clock : ClockText) : List Char :=
  clock.first ++ ':' :: (clock.second ++ tailText clock.third clock.decimals)

theorem isGroup_pair_iff {digits : List Char} : IsGroup 2 (some 2) digits ↔
    ∃ a b, digits = [a, b] ∧ isDecimalDigit a ∧ isDecimalDigit b := by
  constructor
  · rintro ⟨all, least, most⟩
    obtain ⟨a, b, rfl⟩ := List.length_eq_two.1 (Nat.le_antisymm (most 2 rfl) least)
    exact ⟨a, b, rfl, all a (by simp), all b (by simp)⟩
  · rintro ⟨a, b, rfl, first, second⟩
    exact ⟨by simp [first, second], Nat.le_refl _, fun bound same => (Option.some.inj same).le⟩

theorem readPair?_eq_some_iff {text pair rest : List Char} :
    readPair? text = some (pair, rest) ↔ IsGroup 2 (some 2) pair ∧ text = ':' :: (pair ++ rest) := by
  rw [isGroup_pair_iff]
  constructor
  · intro read
    unfold readPair? at read
    split at read
    · rename_i a b more
      split at read
      · rename_i digits
        obtain ⟨rfl, rfl⟩ := Prod.mk.inj (Option.some.inj read)
        obtain ⟨first, second⟩ := Bool.and_eq_true_iff.1 digits
        exact ⟨⟨a, b, rfl, first, second⟩, rfl⟩
      · cases read
    · cases read
  · rintro ⟨⟨a, b, rfl, first, second⟩, rfl⟩
    simp [readPair?, first, second]

theorem readDecimals?_eq_some_iff {text : List Char} {decimals : Option (List Char)} :
    readDecimals? text = some decimals ↔
      (∀ digits ∈ decimals, IsGroup 1 (some 4) digits) ∧ text = decimals.elim [] ('.' :: ·) := by
  constructor
  · intro read
    unfold readDecimals? at read
    split at read
    · cases read
      exact ⟨nofun, rfl⟩
    · rename_i digits
      split at read
      · rename_i good
        cases read
        simp only [Bool.and_eq_true, decide_eq_true_eq, List.all_eq_true] at good
        refine ⟨?_, rfl⟩
        rintro _ ⟨⟩
        exact ⟨good.2, good.1.1, fun bound same => good.1.2.trans (Option.some.inj same).le⟩
      · cases read
    · cases read
  · rintro ⟨valid, rfl⟩
    cases decimals with
    | none => rfl
    | some digits =>
        obtain ⟨all, least, most⟩ := valid digits rfl
        have good : 1 ≤ digits.length ∧ digits.length ≤ 4 ∧ ∀ c ∈ digits, isDecimalDigit c :=
          ⟨least, most 4 rfl, all⟩
        simpa [readDecimals?, and_assoc] using good

/-- Nothing but a third group begins with a colon after the second one. -/
theorem readPair?_decimals (decimals : Option (List Char)) :
    readPair? (decimals.elim [] ('.' :: ·)) = none := by
  cases decimals <;> rfl

theorem wellFormed_of_read? {text : List Char} {clock : ClockText} (read : read? text = some clock) :
    clock.WellFormed ∧ text = clock.text := by
  have digits : (text.takeWhile isDecimalDigit).all isDecimalDigit := List.all_takeWhile
  have whole : text.takeWhile isDecimalDigit ++ text.dropWhile isDecimalDigit = text :=
    List.takeWhile_append_dropWhile
  unfold read? at read
  generalize text.takeWhile isDecimalDigit = first at digits whole read
  generalize text.dropWhile isDecimalDigit = rest at whole read
  subst whole
  simp only [Option.bind_eq_bind] at read
  split at read
  · cases read
  · rename_i filled
    have isFirst : IsGroup 1 none first :=
      ⟨List.all_eq_true.1 digits, List.length_pos_of_ne_nil (by simpa using filled), nofun⟩
    obtain ⟨⟨second, more⟩, readSecond, goesOn⟩ := Option.bind_eq_some_iff.1 read
    obtain ⟨isSecond, rfl⟩ := readPair?_eq_some_iff.1 readSecond
    dsimp only at goesOn
    split at goesOn
    · rename_i third last readThird
      obtain ⟨isThird, rfl⟩ := readPair?_eq_some_iff.1 readThird
      obtain ⟨decimals, readLast, same⟩ := Option.bind_eq_some_iff.1 goesOn
      obtain ⟨valid, rfl⟩ := readDecimals?_eq_some_iff.1 readLast
      obtain rfl := Option.some.inj same
      refine ⟨⟨isFirst, isSecond, ?_, valid⟩, rfl⟩
      rintro _ ⟨⟩
      exact isThird
    · obtain ⟨decimals, readLast, same⟩ := Option.bind_eq_some_iff.1 goesOn
      obtain ⟨valid, rfl⟩ := readDecimals?_eq_some_iff.1 readLast
      obtain rfl := Option.some.inj same
      exact ⟨⟨isFirst, isSecond, nofun, valid⟩, rfl⟩

theorem read?_text {clock : ClockText} (wellFormed : clock.WellFormed) :
    read? clock.text = some clock := by
  obtain ⟨first, second, third, decimals⟩ := clock
  obtain ⟨isFirst, isSecond, isThird, valid⟩ := wellFormed
  dsimp only at isFirst isSecond isThird valid
  have stops : ∀ c ∈ (':' :: (second ++ tailText third decimals)).head?, isDecimalDigit c = false := by
    rintro _ ⟨⟩
    decide
  obtain ⟨taken, dropped⟩ := cut_while isFirst.1 stops
  have filled : first.isEmpty = false := by
    rw [List.isEmpty_eq_false_iff]
    exact List.ne_nil_of_length_pos isFirst.2.1
  have readSecond : readPair? (':' :: (second ++ tailText third decimals)) =
    some (second, tailText third decimals) := readPair?_eq_some_iff.2 ⟨isSecond, rfl⟩
  have readLast : readDecimals? (decimals.elim [] ('.' :: ·)) = some decimals :=
    readDecimals?_eq_some_iff.2 ⟨valid, rfl⟩
  rw [ClockText.text, read?, taken, dropped, readSecond]
  cases third with
  | none =>
      have tail : tailText none decimals = decimals.elim [] ('.' :: ·) := rfl
      simp [filled, tail, readPair?_decimals, readLast]
  | some third =>
      have readThird : readPair? (tailText (some third) decimals) =
        some (third, decimals.elim [] ('.' :: ·)) := readPair?_eq_some_iff.2 ⟨isThird third rfl, rfl⟩
      simp [filled, readThird, readLast]

theorem read?_eq_some_iff {text : List Char} {clock : ClockText} :
    read? text = some clock ↔ clock.WellFormed ∧ text = clock.text := by
  refine ⟨wellFormed_of_read?, ?_⟩
  rintro ⟨wellFormed, rfl⟩
  exact read?_text wellFormed

/-! ## The running sum -/

theorem foldlM_addUnits? (amounts : List (Nat × Nat)) {total : Nat} (fits : total < twoTo 64) :
    amounts.foldlM addUnits? total =
      fitting? (total + (amounts.map fun amount => amount.2 * amount.1).sum) := by
  induction amounts generalizing total with
  | nil => simp [fitting?, fits]
  | cons amount amounts ih =>
      obtain ⟨count, unit⟩ := amount
      rw [List.foldlM_cons, List.map_cons, List.sum_cons, ← Nat.add_assoc]
      dsimp only
      by_cases product : unit * count < twoTo 64
      · by_cases sum : total + unit * count < twoTo 64
        · have added : addUnits? total (count, unit) = some (total + unit * count) := by
            simp [addUnits?, fitting?, product, sum]
          rw [added, Option.bind_eq_bind, Option.bind_some, ih sum]
        · -- A sum that does not fit can only grow.
          have added : addUnits? total (count, unit) = none := by
            simp [addUnits?, fitting?, product, sum]
          rw [added, fitting?, if_neg (by omega)]
          rfl
      · have added : addUnits? total (count, unit) = none := by
          simp [addUnits?, fitting?, product]
        rw [added, fitting?, if_neg (by omega)]
        rfl

theorem foldlM_addUnits?_eq_some_iff (amounts : List (Nat × Nat)) (millis : Nat) :
    amounts.foldlM addUnits? 0 = some millis ↔
      (amounts.map fun amount => amount.2 * amount.1).sum = millis ∧ millis < twoTo 64 := by
  rw [foldlM_addUnits? amounts (Nat.two_pow_pos 64), Nat.zero_add, fitting?]
  constructor
  · intro summed
    split at summed
    · rename_i fits
      obtain rfl := Option.some.inj summed
      exact ⟨rfl, fits⟩
    · cases summed
  · rintro ⟨rfl, fits⟩
    exact if_pos fits

/-! ## Groups and their units -/

/-- Digits from `0` to `9` with a value that fits. -/
def IsReadable (digits : List Char) : Prop :=
  (∀ c ∈ digits, c.isDigit) ∧ decimalValue digits < 2 ^ 64

/-- The sum of the groups, with hours if there are three of them before the point. -/
def exactMillis (clock : ClockText) : Nat :=
  (match clock.third with
    | some third =>
      decimalValue clock.first * 3600000 + decimalValue clock.second * 60000 +
        decimalValue third * 1000
    | none => decimalValue clock.first * 60000 + decimalValue clock.second * 1000) +
    clock.decimals.elim 0 decimalValue

theorem groupValue?_eq_some_iff {digits : List Char} {n : Nat} :
    groupValue? digits = some n ↔ IsReadable digits ∧ decimalValue digits = n := by
  simp only [groupValue?, Option.bind_eq_some_iff, asciiNumber?_eq_some_iff, fitting?,
    Option.ite_none_right_eq_some, Option.some.injEq, IsReadable]
  constructor
  · rintro ⟨_, ⟨ascii, rfl⟩, fits, same⟩
    exact ⟨⟨ascii, fits⟩, same⟩
  · rintro ⟨⟨ascii, fits⟩, same⟩
    exact ⟨_, ⟨ascii, rfl⟩, fits, same⟩

theorem mapM_groupValue?_eq_some_iff {groups : List (List Char)} {counts : List Nat} :
    groups.mapM groupValue? = some counts ↔
      (∀ group ∈ groups, IsReadable group) ∧ groups.map decimalValue = counts := by
  induction groups generalizing counts with
  | nil => simp [eq_comm]
  | cons group groups ih =>
      simp only [List.mapM_cons, Option.bind_eq_bind, Option.bind_eq_some_iff,
        groupValue?_eq_some_iff, ih, Option.pure_def, Option.some.injEq, List.forall_mem_cons,
        List.map_cons]
      constructor
      · rintro ⟨_, ⟨first, rfl⟩, _, ⟨others, rfl⟩, same⟩
        exact ⟨⟨first, others⟩, same⟩
      · rintro ⟨⟨first, others⟩, same⟩
        exact ⟨_, ⟨first, rfl⟩, _, ⟨others, rfl⟩, same⟩

/-- Two to four groups, three of them in either of two ways: each has its unit. -/
theorem zip_units (clock : ClockText) :
    (clock.groups.zip clock.units).map Prod.fst = clock.groups ∧
      ∀ unit ∈ clock.units, unit ∈ allUnits := by
  obtain ⟨first, second, third, decimals⟩ := clock
  cases third <;> cases decimals <;> exact ⟨rfl, by simp [units, groups, allUnits]⟩

theorem sum_zip_units (clock : ClockText) :
    (((clock.groups.map decimalValue).zip clock.units).map fun amount => amount.2 * amount.1).sum =
      clock.exactMillis := by
  obtain ⟨first, second, third, decimals⟩ := clock
  cases third <;> cases decimals <;>
    simp [units, groups, allUnits, exactMillis, TimeUnit.hour, TimeUnit.minute, TimeUnit.second,
      Nat.mul_comm] <;> omega

theorem span?_eq_some_iff {clock : ClockText} {span : Timespan} :
    clock.span? = some span ↔ (∀ group ∈ clock.groups, IsReadable group) ∧
      clock.exactMillis < 2 ^ 64 ∧ span.millis.toNat = clock.exactMillis := by
  simp only [span?, Option.bind_eq_bind, Option.bind_eq_some_iff, mapM_groupValue?_eq_some_iff,
    foldlM_addUnits?_eq_some_iff, Timespan.ofMillis?, Option.ite_none_right_eq_some,
    Option.some.injEq]
  constructor
  · rintro ⟨_, ⟨readable, rfl⟩, millis, ⟨sum, fits⟩, -, rfl⟩
    rw [sum_zip_units] at sum
    subst sum
    exact ⟨readable, fits, UInt64.toNat_ofNat_of_lt' fits⟩
  · rintro ⟨readable, fits, same⟩
    refine ⟨_, ⟨readable, rfl⟩, _, ⟨sum_zip_units clock, fits⟩, fits, ?_⟩
    rw [← same, UInt64.ofNat_toNat]

end ClockText

/-! ## The statement -/

theorem read?_clock (text : List Char) (clock : ClockText) (wellFormed : clock.WellFormed)
    (spelt : trimBlanks text = clock.text) :
    let fits := (∀ group ∈ clock.groups, (∀ c ∈ group, c.isDigit) ∧ decimalValue group < 2 ^ 64) ∧
      clock.exactMillis < 2 ^ 64
    ((Timespan.read? text).isSome ↔ fits) ∧ (Timespan.read? text = none ↔ ¬fits) ∧
      (∀ span, Timespan.read? text = some span → span.millis.toNat = clock.exactMillis) ∧
      (clock.groups.zip clock.units).map Prod.fst = clock.groups ∧
      ∀ unit ∈ clock.units, unit ∈ [3600000, 60000, 1000, 1] := by
  intro fits
  have filled : (trimBlanks text).isEmpty = false := by
    rw [spelt, List.isEmpty_eq_false_iff]
    simp [ClockText.text]
  have read : Timespan.read? text = clock.span? := by
    rw [Timespan.read?]
    simp only [filled, Bool.false_eq_true, if_false]
    rw [spelt, ClockText.read?_text wellFormed]
  have isSome : (Timespan.read? text).isSome ↔ fits := by
    rw [read, Option.isSome_iff_exists]
    simp only [ClockText.span?_eq_some_iff]
    constructor
    · rintro ⟨_, readable, bound, _⟩
      exact ⟨readable, bound⟩
    · rintro ⟨readable, bound⟩
      exact ⟨⟨UInt64.ofNat clock.exactMillis⟩, readable, bound, UInt64.toNat_ofNat_of_lt' bound⟩
  refine ⟨isSome, ?_, ?_, clock.zip_units⟩
  · rw [← isSome, Option.not_isSome_iff_eq_none]
  · intro span found
    rw [read] at found
    exact (ClockText.span?_eq_some_iff.1 found).2.2

def ClockText.afternoon : ClockText where
  first := ['1', '5']
  second := ['0', '4']
  third := some ['0', '5']
  decimals := some ['6', '7']

theorem ClockText.afternoon_wellFormed : afternoon.WellFormed where
  first := ⟨List.all_eq_true.1 rfl, by decide, nofun⟩
  second := ⟨List.all_eq_true.1 rfl, by decide, by decide⟩
  third := by
    rintro _ ⟨⟩
    exact ⟨List.all_eq_true.1 rfl, by decide, by decide⟩
  decimals := by
    rintro _ ⟨⟩
    exact ⟨List.all_eq_true.1 rfl, by decide, by decide⟩

theorem read?_clock_afternoon :
    let text := " 15:04:05.67\n".toList
    ClockText.afternoon.WellFormed ∧ trimBlanks text = ClockText.afternoon.text ∧
      ∃ span, Timespan.read? text = some span ∧ span.millis.toNat = 54245067 := by
  intro text
  have spelt : trimBlanks text = ClockText.afternoon.text := by decide
  have digits : ∀ group ∈ ClockText.afternoon.groups,
      group.all Char.isDigit ∧ decimalValue group < 2 ^ 64 := by decide
  obtain ⟨isSome, _, sum, _⟩ :=
    read?_clock text .afternoon ClockText.afternoon_wellFormed spelt
  obtain ⟨span, read⟩ := Option.isSome_iff_exists.1 (isSome.2
    ⟨fun group member => ⟨List.all_eq_true.1 (digits group member).1, (digits group member).2⟩,
      by decide⟩)
  exact ⟨ClockText.afternoon_wellFormed, spelt, span, read, (sum span read).trans (by decide)⟩

end HostTypes
