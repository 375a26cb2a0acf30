import HostTypes.Proofs.Timespan.Phrases

/-!
Reading the words of a phrase by an index, which moves by one to three words for a term. Every look at a
word after the first of a term could leave the list. None of them does: reading by an index comes to the
same sum as adding up the sorted words, or is refused as they are (`readFrom_eq`).
-/

namespace HostTypes

/-- Words are refused, or a word is asked for where there is none. -/
inductive IndexFailure where
  | refused
  | noWord (index : Nat)
  deriving DecidableEq, Repr

namespace WordIndex

open PhraseToken (ofWord amountOf? scaleNamed? unitOf?)
open PhraseSum (total? termMillis? total?_termTokens)

def ofOption {α : Type} : Option α → Except IndexFailure α
  | some value => .ok value
  | none => .error .refused

def wordAt (words : List (List Char)) (index : Nat) : Except IndexFailure (List Char) :=
  match words[index]? with
  | some word => .ok word
  | none => .error (.noWord index)

/-- Goes on after a word that must not be the last. -/
def goOn {α : Type} (words : List (List Char)) (index : Nat) (value : α) :
    Except IndexFailure (α × Nat) :=
  if index + 1 = words.length then .error .refused else .ok (value, index + 1)

/-- The amount at an index, one if there is none, and the index behind it. -/
def amountAt (words : List (List Char)) (index : Nat) : Except IndexFailure (Binary64 × Nat) := do
  let word ← wordAt words index
  if word = ['a'] || word = ['a', 'n'] then goOn words index (.ofNat 1)
  else
    match Numeral.readUnsigned? word with
    | none => .ok (.ofNat 1, index)
    | some numeral => goOn words index (← ofOption numeral.value?)

/-- The scale at an index, or else the one before it, and the index behind it. -/
def scaleAt (words : List (List Char)) (before : Option TimeScale) (index : Nat) :
    Except IndexFailure (TimeScale × Nat) := do
  match scaleNamed? (String.ofList (← wordAt words index)) with
  | none => .ok (before.getD .real, index)
  | some named =>
    if before.any (· != named) then .error .refused else goOn words index named

/-- The sum with a term whose scale is settled, when it fits. -/
def addAt? (sum : PhraseSum) (amount : Binary64) (scale : TimeScale) (unit : TimeUnit) :
    Option PhraseSum := do
  let millis := sum.millis + (← termMillis? amount scale unit)
  if millis < twoTo 64 then some ⟨millis, some scale⟩ else none

/-- The sum with the unit at an index, and the index behind it. -/
def unitAt (words : List (List Char)) (sum : PhraseSum) (amount : Binary64) (scale : TimeScale)
    (index : Nat) : Except IndexFailure (PhraseSum × Nat) := do
  match unitOf? (← wordAt words index) with
  | none => .error .refused
  | some unit => return (← ofOption (addAt? sum amount scale unit), index + 1)

def termAt (words : List (List Char)) (sum : PhraseSum) (index : Nat) :
    Except IndexFailure (PhraseSum × Nat) := do
  let (amount, index) ← amountAt words index
  let (scale, index) ← scaleAt words sum.scale index
  unitAt words sum amount scale index

/-! ## The words that are left -/

variable {words : List (List Char)} {index : Nat} {sum : PhraseSum}

def tokensFrom (words : List (List Char)) (index : Nat) : List PhraseToken :=
  (words.drop index).map ofWord

/-- A reading is refused if there is no total, and else leaves words from which the total follows. -/
def Tells {α : Type} (words : List (List Char)) (start : Nat) (total : Option Nat)
    (onwards : α → List PhraseToken → Option Nat) : Except IndexFailure (α × Nat) → Prop
  | .error failure => failure = .refused ∧ total = none
  | .ok (value, index) =>
    start ≤ index ∧ index < words.length ∧ total = onwards value (tokensFrom words index)

/-- The same for a whole term, after which no words have to be left. -/
def TellsSum (words : List (List Char)) (start : Nat) (total : Option Nat) :
    Except IndexFailure (PhraseSum × Nat) → Prop
  | .error failure => failure = .refused ∧ total = none
  | .ok (next, index) =>
    start < index ∧ index ≤ words.length ∧ next.scale ≠ none ∧
      total = total? next (tokensFrom words index)

/-- Readings one after the other. -/
theorem Tells.bind {α : Type} {total : Option Nat} {onwards : α → List PhraseToken → Option Nat}
    {read : Except IndexFailure (α × Nat)} {next : α → Nat → Except IndexFailure (PhraseSum × Nat)}
    (first : Tells words index total onwards read)
    (later : ∀ value later, later < words.length →
      TellsSum words later (onwards value (tokensFrom words later)) (next value later)) :
    TellsSum words index total (read >>= fun (value, later) => next value later) := by
  cases read with
  | error failure => exact first
  | ok found =>
      obtain ⟨value, second⟩ := found
      obtain ⟨before, inside, rfl⟩ := first
      have second := later value second inside
      change TellsSum words index _ (next value _)
      generalize next value _ = outcome at second
      cases outcome with
      | error failure => exact second
      | ok found => exact ⟨before.trans_lt second.1, second.2⟩

def afterScale (sum : PhraseSum) (amount : Binary64) (scale : TimeScale) :
    List PhraseToken → Option Nat
  | .unit unit :: rest => (addAt? sum amount scale unit).bind (total? · rest)
  | _ => none

def afterAmount (sum : PhraseSum) (amount : Binary64) : List PhraseToken → Option Nat
  | .scale named :: rest => (sum.nextScale? (some named)).bind (afterScale sum amount · rest)
  | tokens => (sum.nextScale? none).bind (afterScale sum amount · tokens)

theorem wordAt_eq (inside : index < words.length) : wordAt words index = .ok words[index] := by
  rw [wordAt, List.getElem?_eq_getElem inside]

theorem tokensFrom_eq (inside : index < words.length) :
    tokensFrom words index = ofWord words[index] :: tokensFrom words (index + 1) := by
  rw [tokensFrom, List.drop_eq_getElem_cons inside, List.map_cons, tokensFrom]

theorem tokensFrom_eq_nil_iff (within : index ≤ words.length) :
    tokensFrom words index = [] ↔ index = words.length := by
  rw [tokensFrom, List.map_eq_nil_iff, List.drop_eq_nil_iff]
  omega

theorem goOn_tells {α : Type} {onwards : α → List PhraseToken → Option Nat} (inside : index < words.length)
    (value : α) (filled : onwards value [] = none) :
    Tells words index (onwards value (tokensFrom words (index + 1))) onwards
      (goOn words index value) := by
  unfold goOn
  split_ifs with last
  · have none := (tokensFrom_eq_nil_iff (Nat.succ_le_of_lt inside)).2 last
    exact ⟨rfl, by rw [none, filled]⟩
  · exact ⟨index.le_succ, by omega, rfl⟩

theorem add?_eq (sum : PhraseSum) (amount : Binary64) (named : Option TimeScale) (unit : TimeUnit) :
    sum.add? amount named unit = (sum.nextScale? named).bind (addAt? sum amount · unit) :=
  rfl

theorem bind_afterScale (scale : Option TimeScale) (sum : PhraseSum) (amount : Binary64) (unit : TimeUnit)
    (rest : List PhraseToken) : scale.bind (afterScale sum amount · (.unit unit :: rest)) =
      (scale.bind (addAt? sum amount · unit)).bind (total? · rest) := by
  cases scale <;> rfl

theorem total?_unit (sum : PhraseSum) (amount : Option Binary64) (unit : TimeUnit)
    (rest : List PhraseToken) : total? sum ((amount.map .amount).toList ++ .unit unit :: rest) =
      afterAmount sum (amount.getD (.ofNat 1)) (.unit unit :: rest) := by
  rw [afterAmount, bind_afterScale, ← add?_eq, ← total?_termTokens]
  · cases amount <;> rfl
  · exact nofun

theorem total?_scale (sum : PhraseSum) (amount : Option Binary64) (named : TimeScale)
    (rest : List PhraseToken) : total? sum ((amount.map .amount).toList ++ .scale named :: rest) =
      afterAmount sum (amount.getD (.ofNat 1)) (.scale named :: rest) := by
  rw [afterAmount]
  rcases rest with _ | ⟨next, rest⟩
  · cases amount <;> simp [total?, afterScale]
  · cases next
    case unit unit =>
      rw [bind_afterScale, ← add?_eq, ← total?_termTokens]
      cases amount <;> rfl
    all_goals cases amount <;> simp [total?, afterScale]

theorem total?_amount (sum : PhraseSum) (amount : Binary64) (rest : List PhraseToken) :
    total? sum (.amount amount :: rest) = afterAmount sum amount rest := by
  rcases rest with _ | ⟨next, rest⟩
  · simp [total?, afterAmount, afterScale]
  · cases next
    case unit unit => exact total?_unit sum (some amount) unit rest
    case scale named => exact total?_scale sum (some amount) named rest
    all_goals simp [total?, afterAmount, afterScale]

theorem total?_other (sum : PhraseSum) {token : PhraseToken} (noAnd : token ≠ .and)
    (noAmount : ∀ amount, token ≠ .amount amount) (rest : List PhraseToken) :
    total? sum (token :: rest) = afterAmount sum (.ofNat 1) (token :: rest) := by
  cases token with
  | and => exact absurd rfl noAnd
  | amount amount => exact absurd rfl (noAmount amount)
  | unknown => simp [total?, afterAmount, afterScale]
  | unit unit => exact total?_unit sum none unit rest
  | scale named => exact total?_scale sum none named rest

/-! ## A term -/

theorem readUnsigned?_unitWord : ∀ unit ∈ TimeUnit.all, ∀ plural comma,
    Numeral.readUnsigned? (UnitWord.text ⟨unit, plural, comma⟩) = none := by
  decide +kernel

/-- A numeral without a value is not a word of another kind. -/
theorem ofWord_foreign {word : List Char} {numeral : Numeral}
    (read : Numeral.readUnsigned? word = some numeral) (foreign : numeral.value? = none)
    (noArticle : ¬ (word = ['a'] ∨ word = ['a', 'n'])) : ofWord word = .unknown := by
  have noAmount : amountOf? word = none := by
    rw [amountOf?, if_neg (by simpa using noArticle), read, Option.bind_some, foreign]
  rcases PhraseToken.ofWord_cases word with ⟨rfl, _⟩ | ⟨x, amount, _⟩ | ⟨scale, named, _⟩ |
    ⟨unit, named, _⟩ | unknown
  · cases read
  · cases noAmount.symm.trans amount
  · obtain ⟨name, rfl, _⟩ := PhraseToken.exists_scaleWord named
    cases name <;> cases read
  · obtain ⟨⟨_, plural, comma⟩, member, rfl, _⟩ := PhraseToken.exists_unitWord named
    cases read.symm.trans (readUnsigned?_unitWord _ member plural comma)
  · exact unknown

theorem amountAt_tells (sum : PhraseSum) (inside : index < words.length)
    (noAnd : words[index] ≠ "and".toList) :
    Tells words index (total? sum (tokensFrom words index)) (afterAmount sum)
      (amountAt words index) := by
  have goesOn (amount : Binary64) (sorted : ofWord words[index] = .amount amount) :
      Tells words index (total? sum (tokensFrom words index)) (afterAmount sum)
        (goOn words index amount) := by
    rw [tokensFrom_eq inside, sorted, total?_amount]
    exact goOn_tells inside amount (by simp [afterAmount, afterScale])
  rw [amountAt, wordAt_eq inside]
  simp only [bind, Except.bind]
  split_ifs with article
  · have one : amountOf? words[index] = some (.ofNat 1) := if_pos article
    exact goesOn _ (by rw [ofWord, if_neg noAnd, one])
  · split
    · rename_i noNumeral
      have none : amountOf? words[index] = none := by
        rw [amountOf?, if_neg article, noNumeral, Option.bind_none]
      have noAmount (amount : Binary64) : ofWord words[index] ≠ .amount amount := by
        intro sorted
        cases none.symm.trans (PhraseToken.amountOf?_eq_some_iff.2
          (PhraseToken.ofWord_eq_amount_iff.1 sorted))
      refine ⟨Nat.le_refl _, inside, ?_⟩
      rw [tokensFrom_eq inside,
        total?_other sum (mt PhraseToken.ofWord_eq_and_iff.1 noAnd) noAmount]
    · rename_i numeral read
      cases value : numeral.value? with
      | none =>
          have unknown := ofWord_foreign read value (by simpa using article)
          refine ⟨rfl, ?_⟩
          rw [tokensFrom_eq inside, unknown]
          simp [total?]
      | some amount =>
          have some : amountOf? words[index] = some amount := by
            rw [amountOf?, if_neg article, read, Option.bind_some, value]
          exact goesOn amount (by rw [ofWord, if_neg noAnd, some])

theorem nextScale?_unnamed (sum : PhraseSum) :
    sum.nextScale? none = some (sum.scale.getD .real) := by
  cases named : sum.scale <;> simp [PhraseSum.nextScale?, named]

theorem nextScale?_named (sum : PhraseSum) (named : TimeScale) : sum.nextScale? (some named) =
    if sum.scale.any (· != named) then none else some named := by
  cases before : sum.scale with
  | none => simp [PhraseSum.nextScale?, before]
  | some scale =>
      by_cases same : named = scale
      · simp [PhraseSum.nextScale?, before, same]
      · simp [PhraseSum.nextScale?, before, same, Ne.symm same]

theorem scaleAt_tells (sum : PhraseSum) (amount : Binary64) (inside : index < words.length) :
    Tells words index (afterAmount sum amount (tokensFrom words index)) (afterScale sum amount)
      (scaleAt words sum.scale index) := by
  rw [scaleAt, wordAt_eq inside]
  simp only [bind, Except.bind]
  split
  · rename_i noScale
    refine ⟨Nat.le_refl _, inside, ?_⟩
    rw [tokensFrom_eq inside, afterAmount, nextScale?_unnamed, Option.bind_some]
    intro named rest same
    obtain ⟨name, spelt, rfl⟩ := PhraseToken.ofWord_eq_scale_iff.1 (List.cons.inj same).1
    rw [← spelt] at noScale
    cases name <;> cases noScale
  · rename_i named isScale
    obtain ⟨name, spelt, rfl⟩ := PhraseToken.exists_scaleWord isScale
    rw [tokensFrom_eq inside, ← spelt, PhraseToken.ofWord_scale, afterAmount, nextScale?_named]
    split_ifs with differs
    · exact ⟨rfl, rfl⟩
    · have tells : Tells words index (afterScale sum amount name.scale (tokensFrom words (index + 1)))
          (afterScale sum amount) (goOn words index name.scale) := goOn_tells inside name.scale rfl
      exact tells

theorem scale_ne_none_of_addAt? {amount : Binary64} {scale : TimeScale} {unit : TimeUnit}
    {next : PhraseSum} (added : addAt? sum amount scale unit = some next) : next.scale ≠ none := by
  obtain ⟨part, _, fits⟩ := Option.bind_eq_some_iff.1 added
  obtain ⟨_, same⟩ := Option.ite_none_right_eq_some.1 fits
  rw [← Option.some.inj same]
  exact nofun

theorem unitAt_tells (sum : PhraseSum) (amount : Binary64) (scale : TimeScale)
    (inside : index < words.length) :
    TellsSum words index (afterScale sum amount scale (tokensFrom words index))
      (unitAt words sum amount scale index) := by
  rw [unitAt, wordAt_eq inside, tokensFrom_eq inside]
  simp only [bind, Except.bind]
  split
  · rename_i noUnit
    refine ⟨rfl, ?_⟩
    rcases PhraseToken.ofWord_cases words[index] with ⟨_, other⟩ | ⟨_, _, other⟩ | ⟨_, _, other⟩ |
      ⟨_, isUnit, _⟩ | other
    case inr.inr.inr.inl => cases noUnit.symm.trans isUnit
    all_goals simp [other, afterScale]
  · rename_i unit isUnit
    have sorted : ofWord words[index] = .unit unit :=
      PhraseToken.ofWord_eq_unit_iff.2 (PhraseToken.exists_unitWord isUnit)
    rw [sorted, afterScale]
    cases added : addAt? sum amount scale unit with
    | none => exact ⟨rfl, rfl⟩
    | some next => exact ⟨Nat.lt_succ_self _, inside, scale_ne_none_of_addAt? added, rfl⟩

theorem termAt_tells (sum : PhraseSum) (inside : index < words.length)
    (noAnd : words[index] ≠ "and".toList) :
    TellsSum words index (total? sum (tokensFrom words index)) (termAt words sum index) :=
  (amountAt_tells sum inside noAnd).bind fun amount _ inside =>
    (scaleAt_tells sum amount inside).bind fun scale _ inside => unitAt_tells sum amount scale inside

/-! ## The loop -/

/-- Reads on from an index until the words end. -/
def readFrom (words : List (List Char)) (index : Nat) (sum : PhraseSum) :
    Except IndexFailure Nat :=
  if inside : index < words.length then
    if noAnd : words[index] = "and".toList then
      if index = 0 || index + 1 = words.length then .error .refused
      else readFrom words (index + 1) sum
    else
      match read : termAt words sum index with
      | .error failure => .error failure
      | .ok (next, later) => readFrom words later next
  else .ok sum.millis
termination_by words.length - index
decreasing_by
  · omega
  · have tells := termAt_tells sum inside noAnd
    rw [read] at tells
    have := tells.1
    omega

theorem readFrom_eq (words : List (List Char)) {index : Nat} {sum : PhraseSum}
    (within : index ≤ words.length) (named : sum.scale = none ↔ index = 0) :
    readFrom words index sum = ofOption (total? sum (tokensFrom words index)) := by
  fun_induction readFrom words index sum with
  | case1 index sum inside conjunction stops =>
      rw [tokensFrom_eq inside, PhraseToken.ofWord_eq_and_iff.2 conjunction, total?, if_pos]
      · rfl
      · simpa [named, tokensFrom_eq_nil_iff (Nat.succ_le_of_lt inside)] using stops
  | case2 index sum inside conjunction goesOn ih =>
      rw [tokensFrom_eq inside, PhraseToken.ofWord_eq_and_iff.2 conjunction, total?, if_neg]
      · have started : sum.scale ≠ none := fun none => by simp [named.1 none] at goesOn
        exact ih inside ⟨fun none => absurd none started, fun zero => absurd zero index.succ_ne_zero⟩
      · simpa [named, tokensFrom_eq_nil_iff (Nat.succ_le_of_lt inside)] using goesOn
  | case3 index sum inside noAnd failure refused =>
      have tells := termAt_tells sum inside noAnd
      rw [refused] at tells
      obtain ⟨rfl, none⟩ := tells
      rw [none]
      rfl
  | case4 index sum inside noAnd next later read ih =>
      have tells := termAt_tells sum inside noAnd
      rw [read] at tells
      obtain ⟨after, within, scale, same⟩ := tells
      rw [same]
      exact ih within ⟨fun none => absurd none scale, fun zero => by omega⟩
  | case5 index sum outside =>
      rw [(tokensFrom_eq_nil_iff within).2 (by omega)]
      rfl

end WordIndex

/-- Reads a phrase by an index. There is nothing to read in blanks. -/
def Timespan.readByIndex (text : List Char) : Except IndexFailure Nat :=
  if (trimBlanks text).isEmpty then .error .refused
  else WordIndex.readFrom ((wordsOf text).map lowercase) 0 ⟨0, none⟩

end HostTypes
