import HostTypes.Text.Digit
import HostTypes.Number.Power
import Mathlib.Data.Nat.Digits.Defs
import Mathlib.Data.List.Basic
import Mathlib.Data.List.Induction

/-!
What runs of decimal digits denote. Digits are read as a number exactly if all of them are from `0` to
`9` (`asciiNumber?_eq_some_iff`), and the digits of a number denote it (`decimalValue_toDigits`).
-/

namespace HostTypes

/-- The number that decimal digits denote. -/
def decimalValue (digits : List Char) : Nat :=
  Nat.ofDigits 10 (digits.reverse.map fun c => c.toNat - '0'.toNat)

theorem decimalValue_concat (digits : List Char) (c : Char) :
    decimalValue (digits ++ [c]) = 10 * decimalValue digits + (c.toNat - '0'.toNat) := by
  simp [decimalValue, Nat.ofDigits_cons, Nat.add_comm]

theorem asciiNumber?_concat (digits : List Char) (c : Char) :
    asciiNumber? (digits ++ [c]) =
      (asciiNumber? digits).bind fun total => (asciiDigit? c).map (10 * total + ·) := by
  rw [asciiNumber?, List.foldlM_append]
  simp [asciiNumber?]

theorem asciiNumber?_eq_some_iff {digits : List Char} {n : Nat} :
    asciiNumber? digits = some n ↔ (∀ c ∈ digits, c.isDigit) ∧ decimalValue digits = n := by
  induction digits using List.reverseRecOn generalizing n with
  | nil => simp [asciiNumber?, decimalValue]
  | append_singleton digits c ih =>
      rw [asciiNumber?_concat, decimalValue_concat]
      by_cases digit : c.isDigit
      · have last : asciiDigit? c = some (c.toNat - '0'.toNat) := if_pos digit
        simp only [Option.bind_eq_some_iff, ih, last, Option.map_some, Option.some.injEq,
          List.forall_mem_append, List.forall_mem_singleton, digit, and_true]
        constructor
        · rintro ⟨_, ⟨early, rfl⟩, same⟩
          exact ⟨early, same⟩
        · rintro ⟨early, same⟩
          exact ⟨_, ⟨early, rfl⟩, same⟩
      · have last : asciiDigit? c = none := if_neg digit
        simp [last, digit]

theorem asciiNumber?_eq_none_iff {digits : List Char} :
    asciiNumber? digits = none ↔ ∃ c ∈ digits, ¬ c.isDigit := by
  constructor
  · intro unread
    by_contra! ascii
    cases unread.symm.trans (asciiNumber?_eq_some_iff.2 ⟨ascii, rfl⟩)
  · rintro ⟨c, member, foreign⟩
    cases read : asciiNumber? digits with
    | none => rfl
    | some n => exact absurd ((asciiNumber?_eq_some_iff.1 read).1 c member) foreign

theorem decimalValue_eq_ofDigitChars (digits : List Char) :
    decimalValue digits = Nat.ofDigitChars 10 digits 0 := by
  induction digits using List.reverseRecOn with
  | nil => rfl
  | append_singleton digits c ih =>
      rw [decimalValue_concat, ih, Nat.ofDigitChars_append, Nat.ofDigitChars_cons,
        Nat.ofDigitChars_nil]

theorem decimalValue_toDigits (n : Nat) : decimalValue (Nat.toDigits 10 n) = n := by
  rw [decimalValue_eq_ofDigitChars, Nat.ofDigitChars_ten_toDigits]

theorem isDigit_toDigits (n : Nat) : ∀ c ∈ Nat.toDigits 10 n, c.isDigit := fun _ member =>
  Nat.isDigit_of_mem_toDigits (by decide) (by decide) member

theorem exists_toDigits (n : Nat) : ∃ c more, Nat.toDigits 10 n = c :: more ∧ c.isDigit := by
  obtain ⟨c, more, written⟩ := List.exists_cons_of_ne_nil (Nat.toDigits_ne_nil (b := 10) (n := n))
  exact ⟨c, more, written, isDigit_toDigits n c (written ▸ List.mem_cons_self)⟩

theorem head?_toDigits {n : Nat} (positive : 0 < n) : (Nat.toDigits 10 n).head? ≠ some '0' := by
  induction n using Nat.strongRecOn with
  | ind n ih =>
      by_cases small : n < 10
      · have other : ∀ digit < 10, 0 < digit → Nat.digitChar digit ≠ '0' := by decide
        rw [Nat.toDigits_of_lt_base small]
        simpa using other n small positive
      · have shorter := ih (n / 10) (by omega) (by omega)
        rwa [Nat.toDigits_of_base_le (by decide) (Nat.le_of_not_lt small),
          List.head?_append_of_ne_nil _ Nat.toDigits_ne_nil]

theorem decimalValue_append (digits more : List Char) :
    decimalValue (digits ++ more) = tenTo more.length * decimalValue digits + decimalValue more := by
  simp only [decimalValue_eq_ofDigitChars, Nat.ofDigitChars_append]
  exact Nat.ofDigitChars_eq_ofDigitChars_zero

theorem decimalValue_zeros (count : Nat) : decimalValue (List.replicate count '0') = 0 := by
  rw [decimalValue_eq_ofDigitChars, Nat.ofDigitChars_replicate_zero, Nat.mul_zero]

theorem isDecimalDigit_of_isDigit {c : Char} (digit : c.isDigit) : isDecimalDigit c := by
  obtain ⟨low, high⟩ := Char.isDigit_iff_toNat.1 digit
  rw [isDecimalDigit, List.any_eq_true]
  refine ⟨'0'.toNat, by decide, ?_⟩
  rw [Bool.and_eq_true]
  exact ⟨decide_eq_true low, decide_eq_true (Nat.lt_succ_of_le high)⟩

/-- Where something else follows, a run of characters ends. -/
theorem cut_while {p : Char → Bool} {run rest : List Char} (all : ∀ c ∈ run, p c)
    (stops : ∀ c ∈ rest.head?, p c = false) :
    (run ++ rest).takeWhile p = run ∧ (run ++ rest).dropWhile p = rest := by
  rw [List.takeWhile_append_of_pos all, List.dropWhile_append_of_pos all]
  cases rest with
  | nil => simp
  | cons c rest =>
      have stop : p c = false := stops c rfl
      simp [stop]

end HostTypes
