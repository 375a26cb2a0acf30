import HostTypes.Proofs.Number.DecimalDigits
import HostTypes.Proofs.Toml.Texts

/-!
Counts in TOML documents. The digits of a number up to a line break are read as that number
(`readNumeric?_toDigits`): they begin no date, time or fraction and have no base of their own.
-/

namespace HostTypes

namespace Toml

/-! ## Digits -/

theorem hexDigit?_of_isDigit {c : Char} (digit : c.isDigit) :
    hexDigit? c = some (c.toNat - '0'.toNat) := by
  simp [hexDigit?, digit]

theorem ofDigits_eq_decimalValue {digits : List Char} (all : ∀ c ∈ digits, c.isDigit) :
    ofDigits 10 digits = decimalValue digits := by
  induction digits using List.reverseRecOn with
  | nil => rfl
  | append_singleton digits c ih =>
      obtain ⟨early, last⟩ := List.forall_mem_append.1 all
      have digit : c.isDigit := last c (List.mem_singleton_self c)
      rw [ofDigits, List.foldl_append, ← ofDigits, ih early, decimalValue_concat]
      simp [hexDigit?_of_isDigit digit]

variable {digits rest : List Char}

theorem readMoreDigits?_digits (all : ∀ c ∈ digits, c.isDigit) :
    readMoreDigits? Char.isDigit (digits ++ '\n' :: rest) = some (digits, '\n' :: rest) := by
  induction digits with
  | nil => rfl
  | cons c more ih =>
      obtain ⟨digit, later⟩ := List.forall_mem_cons.1 all
      have other : c ≠ '_' := ne_of_class digit rfl
      simp [readMoreDigits?, other, digit, ih later, consRead]

theorem readDecimal?_toDigits (n : Nat) :
    readDecimal? (Nat.toDigits 10 n ++ '\n' :: rest) = some (Nat.toDigits 10 n, '\n' :: rest) := by
  have all := isDigit_toDigits n
  obtain rfl | positive := Nat.eq_zero_or_pos n
  · rfl
  · have canonical := head?_toDigits positive
    cases written : Nat.toDigits 10 n with
    | nil => exact absurd written Nat.toDigits_ne_nil
    | cons c more =>
        rw [written] at all canonical
        obtain ⟨digit, later⟩ := List.forall_mem_cons.1 all
        have other : c ≠ '0' := by simpa using canonical
        simp [readDecimal?, other, readDigits?, digit, readMoreDigits?_digits later, consRead]

/-! ## Neither dates nor times -/

/-- Digits up to a line break. -/
inductive DigitLine : List Char → Prop where
  | stop (rest : List Char) : DigitLine ('\n' :: rest)
  | digit {c : Char} {rest : List Char} : c.isDigit → DigitLine rest → DigitLine (c :: rest)

theorem digitLine_append (all : ∀ c ∈ digits, c.isDigit) : DigitLine (digits ++ '\n' :: rest) := by
  induction digits with
  | nil => exact .stop rest
  | cons c more ih =>
      obtain ⟨digit, later⟩ := List.forall_mem_cons.1 all
      exact .digit digit (ih later)

theorem DigitLine.tail {c : Char} (line : DigitLine (c :: rest)) (digit : c.isDigit) :
    DigitLine rest := by
  cases line with
  | stop => cases digit
  | digit _ later => exact later

theorem DigitLine.afterChar? {input : List Char} (line : DigitLine input) (mark : Char)
    (foreign : mark.isDigit = false) (other : mark ≠ '\n') : afterChar? mark input = none := by
  cases line with
  | stop => simp [Toml.afterChar?, Ne.symm other]
  | digit digit _ => exact if_neg (ne_of_class digit foreign)

theorem DigitLine.readPair? {least greatest n : Nat} {input : List Char} (line : DigitLine input)
    (read : readPair? least greatest input = some (n, rest)) : DigitLine rest := by
  unfold Toml.readPair? at read
  split at read
  · next a b more =>
      dsimp only at read
      split_ifs at read with both
      · rw [Bool.and_eq_true] at both
        obtain ⟨-, rfl⟩ := Prod.mk.inj (Option.some.inj read)
        exact (line.tail both.1).tail both.2
  · cases read

theorem DigitLine.afterDate? {input : List Char} (line : DigitLine input) : afterDate? input = none := by
  unfold Toml.afterDate?
  split
  · next a b c d more =>
      split_ifs with all
      · simp only [List.all_cons, List.all_nil, Bool.and_true, Bool.and_eq_true] at all
        obtain ⟨first, second, third, fourth⟩ := all
        have late := (((line.tail first).tail second).tail third).tail fourth
        simp [late.afterChar? '-' rfl (by decide)]
      · rfl
  · rfl

theorem DigitLine.afterTime? {input : List Char} (line : DigitLine input) : afterTime? input = none := by
  unfold Toml.afterTime?
  cases read : Toml.readPair? 0 23 input with
  | none => rfl
  | some pair =>
      have late := line.readPair? read
      simp [late.afterChar? ':' rfl (by decide)]

theorem DigitLine.readMoment? {input : List Char} (line : DigitLine input) :
    readMoment? input = none := by
  simp [Toml.readMoment?, line.afterDate?, line.afterTime?]

/-! ## Integers -/

theorem readSign_toDigits (n : Nat) :
    readSign (Nat.toDigits 10 n ++ rest) = (false, Nat.toDigits 10 n ++ rest) := by
  obtain ⟨c, more, written, digit⟩ := exists_toDigits n
  have minus : c ≠ '-' := ne_of_class digit rfl
  have plus : c ≠ '+' := ne_of_class digit rfl
  simp [written, readSign, minus, plus]

theorem readDecimalFloat?_toDigits (n : Nat) (rest : List Char) :
    readDecimalFloat? (Nat.toDigits 10 n ++ '\n' :: rest) = none := by
  simp [readDecimalFloat?, readSign_toDigits, readDecimal?_toDigits, readExponent?]

theorem readFloat?_toDigits (n : Nat) : readFloat? (Nat.toDigits 10 n ++ '\n' :: rest) = none := by
  obtain ⟨c, more, written, digit⟩ := exists_toDigits n
  have infinite : c ≠ 'i' := ne_of_class digit rfl
  have undefined : c ≠ 'n' := ne_of_class digit rfl
  have decimal := readDecimalFloat?_toDigits n rest
  rw [readFloat?, readSign_toDigits]
  rw [written, List.cons_append] at decimal ⊢
  simp [infinite, undefined, decimal]

theorem integer?_natCast {n : Nat} (fits : n < twoTo 63) : integer? n = some (integer n) := by
  have least : -(twoTo 63 : Int) ≤ n := by
    have positive : (0 : Int) ≤ twoTo 63 := Int.natCast_nonneg _
    omega
  have greatest : (n : Int) < twoTo 63 := Int.ofNat_lt.2 fits
  simp only [integer?, least, greatest, decide_true, Bool.and_true, if_true]

theorem readInteger?_toDigits {n : Nat} (fits : n < twoTo 63) :
    readInteger? (Nat.toDigits 10 n ++ '\n' :: rest) = some (integer n, '\n' :: rest) := by
  have number : ofDigits 10 (Nat.toDigits 10 n) = n := by
    rw [ofDigits_eq_decimalValue (isDigit_toDigits n), decimalValue_toDigits]
  -- A zero stands alone, so no mark of another base follows it.
  have decimal {mark : Char} (foreign : mark ≠ '\n') (more : List Char) :
      Nat.toDigits 10 n ++ '\n' :: rest ≠ '0' :: mark :: more := by
    obtain rfl | positive := Nat.eq_zero_or_pos n
    · intro same
      exact foreign (List.head_eq_of_cons_eq (List.tail_eq_of_cons_eq same)).symm
    · have canonical := head?_toDigits positive
      obtain ⟨c, others, written, -⟩ := exists_toDigits n
      rw [written] at canonical ⊢
      intro same
      exact canonical (congrArg some (List.head_eq_of_cons_eq same))
  rw [readInteger?, readSign_toDigits]
  · dsimp only
    rw [readDecimal?_toDigits, Option.bind_eq_bind, Option.bind_some, if_neg Bool.false_ne_true, number,
      integer?_natCast fits]
    rfl
  all_goals exact decimal (by decide)

theorem readNumeric?_toDigits {n : Nat} (fits : n < twoTo 63) (rest : List Char) :
    readNumeric? (Nat.toDigits 10 n ++ '\n' :: rest) = some (integer n, '\n' :: rest) := by
  have line : DigitLine (Nat.toDigits 10 n ++ '\n' :: rest) :=
    digitLine_append (isDigit_toDigits n)
  rw [readNumeric?, line.readMoment?, readFloat?_toDigits, readInteger?_toDigits fits]
  rfl

end Toml

end HostTypes
