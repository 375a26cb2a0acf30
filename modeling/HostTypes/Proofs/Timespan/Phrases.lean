import HostTypes.Proofs.Timespan.PhraseWords
import Mathlib.Algebra.BigOperators.Ring.Finset

/-!
Timespan phrases. A phrase is one or more terms with any number of `and` between them. Its words can be
added up exactly if it keeps to one time scale and the sum of its terms fits (`total?_eq_some_iff`):
adding the first term settles the scale (`total?_start_iff`), and every later term has to agree with it
(`total?_others_iff`).
-/

namespace HostTypes

/-- An amount and a time scale, which may both be left out, and a unit. -/
structure PhraseTerm where
  amount : Option AmountWord
  scale : Option ScaleWord
  unit : UnitWord
  deriving DecidableEq, Repr

namespace PhraseTerm

def words (term : PhraseTerm) : List (List Char) :=
  (term.amount.map AmountWord.text).toList ++ (term.scale.map ScaleWord.text).toList ++
    [term.unit.text]

structure WellFormed (term : PhraseTerm) : Prop where
  amount : ∀ amount ∈ term.amount, amount.WellFormed
  unit : term.unit.unit ∈ TimeUnit.all

/-- An amount that is left out is one. -/
def rational (term : PhraseTerm) : ℚ :=
  term.amount.elim 1 AmountWord.rational

def double (term : PhraseTerm) : Binary64 :=
  term.amount.elim (.ofNat 1) AmountWord.double

/-- The milliseconds of a term in doubles. Game time runs 72 times faster, but a tick is a tick. -/
def product (term : PhraseTerm) (scale : TimeScale) : Binary64 :=
  (if scale = .game ∧ term.unit.unit ≠ .tick then term.double / .ofNat 72 else term.double) *
    .ofNat term.unit.unit.millis

/-- The milliseconds of a term, rounded, which have to fit into sixty-four bits. -/
def IsPart (scale : TimeScale) (term : PhraseTerm) (part : Nat) : Prop :=
  (term.product scale).roundMagnitude? = some part ∧ part < 2 ^ 64

def Agrees (scale : TimeScale) (term : PhraseTerm) : Prop :=
  ∀ word ∈ term.scale, word.scale = scale

end PhraseTerm

/-- Terms with the number of times that `and` stands before each of them but the first. -/
structure Phrase where
  first : PhraseTerm
  others : List (Nat × PhraseTerm)
  deriving DecidableEq, Repr

namespace Phrase

def otherWords (others : List (Nat × PhraseTerm)) : List (List Char) :=
  others.flatMap fun (count, term) => List.replicate count "and".toList ++ term.words

theorem otherWords_and (count : Nat) (term : PhraseTerm) (others : List (Nat × PhraseTerm)) :
    otherWords ((count + 1, term) :: others) = "and".toList :: otherWords ((count, term) :: others) :=
  rfl

def words (phrase : Phrase) : List (List Char) :=
  phrase.first.words ++ otherWords phrase.others

def terms (phrase : Phrase) : List PhraseTerm :=
  phrase.first :: phrase.others.map Prod.snd

def WellFormed (phrase : Phrase) : Prop :=
  ∀ term ∈ phrase.terms, term.WellFormed

/-- The scale of the first term, real time if it names none. -/
def scale (phrase : Phrase) : TimeScale :=
  (phrase.first.scale.map ScaleWord.scale).getD .real

theorem agrees_scale (phrase : Phrase) : phrase.first.Agrees phrase.scale := by
  intro word named
  simp [scale, Option.mem_def.1 named]

/-- Every scale that is named is that of the first term. -/
def OneScale (phrase : Phrase) : Prop :=
  ∀ term ∈ phrase.terms, term.Agrees phrase.scale

/-- The sum of all terms, each of which fits, as does the sum. -/
def Sums (phrase : Phrase) (millis : Nat) : Prop :=
  ∃ parts, List.Forall₂ (PhraseTerm.IsPart phrase.scale) phrase.terms parts ∧
    parts.sum = millis ∧ millis < 2 ^ 64

end Phrase

/-! ## One term -/

namespace PhraseSum

open PhraseToken (ofWord)

variable {sum next : PhraseSum} {term : PhraseTerm} {scale : TimeScale} {millis part : Nat}

def addTerm? (sum : PhraseSum) (term : PhraseTerm) : Option PhraseSum :=
  sum.add? term.double (term.scale.map ScaleWord.scale) term.unit.unit

theorem termMillis?_eq_some_iff :
    termMillis? term.double scale term.unit.unit = some part ↔ term.IsPart scale part := by
  have factor : ((if scale = .game && term.unit.unit != .tick then
      term.double / Binary64.ofNat gameTimeFactor else term.double) *
        Binary64.ofNat term.unit.unit.millis) = term.product scale := by
    simp [PhraseTerm.product, gameTimeFactor]
  rw [termMillis?, factor]
  simp only [Option.bind_eq_some_iff, Option.ite_none_right_eq_some, Option.some.injEq,
    PhraseTerm.IsPart]
  constructor
  · rintro ⟨_, rounded, fits, rfl⟩
    exact ⟨rounded, fits⟩
  · rintro ⟨rounded, fits⟩
    exact ⟨part, rounded, fits, rfl⟩

theorem addTerm?_start_iff : addTerm? ⟨0, none⟩ term = some next ↔
    ∃ part, term.IsPart ((term.scale.map ScaleWord.scale).getD .real) part ∧
      next = ⟨part, some ((term.scale.map ScaleWord.scale).getD .real)⟩ := by
  have named : nextScale? ⟨0, none⟩ (term.scale.map ScaleWord.scale) =
      some ((term.scale.map ScaleWord.scale).getD .real) := by
    cases term.scale <;> rfl
  simp only [addTerm?, add?, named, Option.bind_eq_bind, Option.bind_some, Option.bind_eq_some_iff,
    termMillis?_eq_some_iff, Nat.zero_add, Option.ite_none_right_eq_some, Option.some.injEq]
  constructor
  · rintro ⟨part, isPart, _, rfl⟩
    exact ⟨part, isPart, rfl⟩
  · rintro ⟨part, isPart, rfl⟩
    exact ⟨part, isPart, isPart.2, rfl⟩

theorem nextScale?_some_iff {before : TimeScale} :
    nextScale? ⟨millis, some before⟩ (term.scale.map ScaleWord.scale) = some scale ↔
      term.Agrees before ∧ scale = before := by
  cases named : term.scale with
  | none => simp [nextScale?, PhraseTerm.Agrees, named, eq_comm]
  | some word =>
      simp only [Option.map_some, nextScale?, Option.ite_none_right_eq_some, Option.some.injEq,
        PhraseTerm.Agrees, named, Option.mem_def, forall_eq']
      constructor
      · rintro ⟨same, rfl⟩
        exact ⟨same, same⟩
      · rintro ⟨same, rfl⟩
        exact ⟨same, same⟩

theorem addTerm?_some_iff : addTerm? ⟨millis, some scale⟩ term = some next ↔
    term.Agrees scale ∧ ∃ part, term.IsPart scale part ∧ millis + part < 2 ^ 64 ∧
      next = ⟨millis + part, some scale⟩ := by
  simp only [addTerm?, add?, Option.bind_eq_bind, Option.bind_eq_some_iff, nextScale?_some_iff,
    termMillis?_eq_some_iff, Option.ite_none_right_eq_some, Option.some.injEq]
  constructor
  · rintro ⟨_, ⟨agrees, rfl⟩, part, isPart, fits, rfl⟩
    exact ⟨agrees, part, isPart, fits, rfl⟩
  · rintro ⟨agrees, part, isPart, fits, rfl⟩
    exact ⟨scale, ⟨agrees, rfl⟩, part, isPart, fits, rfl⟩

/-! ## One step -/

/-- The tokens of a term. -/
def termTokens (amount : Option Binary64) (scale : Option TimeScale) (unit : TimeUnit) :
    List PhraseToken :=
  (amount.map .amount).toList ++ (scale.map .scale).toList ++ [.unit unit]

theorem total?_termTokens (sum : PhraseSum) (amount : Option Binary64) (scale : Option TimeScale)
    (unit : TimeUnit) (rest : List PhraseToken) :
    total? sum (termTokens amount scale unit ++ rest) =
      (sum.add? (amount.getD (.ofNat 1)) scale unit).bind (total? · rest) := by
  cases amount <;> cases scale <;>
    simp only [termTokens, Option.map_none, Option.map_some, Option.toList_none, Option.toList_some,
      List.nil_append, List.cons_append, total?, Option.getD_none, Option.getD_some] <;>
    split <;> simp_all

/-- What a sum that can be told begins with. -/
theorem total?_cases {tokens : List PhraseToken} (read : total? sum tokens = some millis) :
    (tokens = [] ∧ sum.millis = millis) ∨
      (∃ rest, tokens = .and :: rest ∧ sum.scale ≠ none ∧ rest ≠ [] ∧
        total? sum rest = some millis) ∨
      ∃ amount named unit rest next, tokens = termTokens amount named unit ++ rest ∧
        sum.add? (amount.getD (.ofNat 1)) named unit = some next ∧
        total? next rest = some millis := by
  have term (amount : Option Binary64) (named : Option TimeScale) (unit : TimeUnit)
      (rest : List PhraseToken) (split : tokens = termTokens amount named unit ++ rest) :
      ∃ amount named unit rest next, tokens = termTokens amount named unit ++ rest ∧
        sum.add? (amount.getD (.ofNat 1)) named unit = some next ∧
        total? next rest = some millis := by
    rw [split, total?_termTokens] at read
    obtain ⟨next, added, goesOn⟩ := Option.bind_eq_some_iff.1 read
    exact ⟨amount, named, unit, rest, next, split, added, goesOn⟩
  unfold total? at read
  split at read
  · exact .inl ⟨rfl, Option.some.inj read⟩
  · rename_i rest
    split_ifs at read with stops
    simp only [Bool.or_eq_true, not_or, Option.isNone_iff_eq_none, List.isEmpty_iff] at stops
    exact .inr (.inl ⟨rest, rfl, stops.1, stops.2, read⟩)
  · exact .inr (.inr (term (some _) (some _) _ _ rfl))
  · exact .inr (.inr (term (some _) none _ _ rfl))
  · exact .inr (.inr (term none (some _) _ _ rfl))
  · exact .inr (.inr (term none none _ _ rfl))
  · cases read

theorem map_ofWord_words (wellFormed : term.WellFormed) :
    term.words.map ofWord = termTokens (term.amount.map AmountWord.double)
      (term.scale.map ScaleWord.scale) term.unit.unit := by
  obtain ⟨amount, scale, unit⟩ := term
  obtain ⟨isAmount, isUnit⟩ := wellFormed
  have amountKind : (amount.map AmountWord.text).toList.map ofWord =
      ((amount.map AmountWord.double).map PhraseToken.amount).toList := by
    cases amount with
    | none => rfl
    | some word =>
        exact congrArg (· :: []) (PhraseToken.ofWord_eq_amount_iff.2 ⟨word, isAmount word rfl, rfl, rfl⟩)
  have scaleKind : (scale.map ScaleWord.text).toList.map ofWord =
      ((scale.map ScaleWord.scale).map PhraseToken.scale).toList := by
    cases scale with
    | none => rfl
    | some word => exact congrArg (· :: []) (PhraseToken.ofWord_scale word)
  have unitKind : ofWord unit.text = .unit unit.unit :=
    PhraseToken.ofWord_eq_unit_iff.2 ⟨unit, isUnit, rfl, rfl⟩
  rw [PhraseTerm.words, List.map_append, List.map_append, amountKind, scaleKind, List.map_singleton,
    unitKind]
  rfl

theorem total?_term (wellFormed : term.WellFormed) (sum : PhraseSum) (rest : List PhraseToken) :
    total? sum (term.words.map ofWord ++ rest) = (sum.addTerm? term).bind (total? · rest) := by
  have amount : (term.amount.map AmountWord.double).getD (.ofNat 1) = term.double := by
    rw [PhraseTerm.double]
    cases term.amount <;> rfl
  rw [map_ofWord_words wellFormed, total?_termTokens, amount, addTerm?]

/-- Words that are sorted as the tokens of a term make a term. -/
theorem exists_words {words : List (List Char)} {amount : Option Binary64} {named : Option TimeScale}
    {unit : TimeUnit} (sorted : words.map ofWord = termTokens amount named unit) :
    ∃ term : PhraseTerm, term.WellFormed ∧ term.words = words ∧ term.double = amount.getD (.ofNat 1) ∧
      term.scale.map ScaleWord.scale = named ∧ term.unit.unit = unit := by
  obtain ⟨front, last, rfl, sortedFront, sortedLast⟩ := List.map_eq_append_iff.1 sorted
  obtain ⟨amounts, scales, rfl, sortedAmounts, sortedScales⟩ := List.map_eq_append_iff.1 sortedFront
  obtain ⟨amountWord, isAmount, rfl, rfl⟩ : ∃ word : Option AmountWord,
      (∀ amount ∈ word, amount.WellFormed) ∧ (word.map AmountWord.text).toList = amounts ∧
        word.map AmountWord.double = amount := by
    cases amount with
    | none => exact ⟨none, nofun, (List.map_eq_nil_iff.1 sortedAmounts).symm, rfl⟩
    | some value =>
        obtain ⟨word, rfl, kind⟩ := List.map_eq_singleton_iff.1 sortedAmounts
        obtain ⟨amount, wellFormed, rfl, rfl⟩ := PhraseToken.ofWord_eq_amount_iff.1 kind
        refine ⟨some amount, ?_, rfl, rfl⟩
        rintro _ ⟨⟩
        exact wellFormed
  obtain ⟨scaleWord, rfl, rfl⟩ : ∃ word : Option ScaleWord,
      (word.map ScaleWord.text).toList = scales ∧ word.map ScaleWord.scale = named := by
    cases named with
    | none => exact ⟨none, (List.map_eq_nil_iff.1 sortedScales).symm, rfl⟩
    | some scale =>
        obtain ⟨word, rfl, kind⟩ := List.map_eq_singleton_iff.1 sortedScales
        obtain ⟨name, rfl, rfl⟩ := PhraseToken.ofWord_eq_scale_iff.1 kind
        exact ⟨some name, rfl, rfl⟩
  obtain ⟨word, rfl, kind⟩ := List.map_eq_singleton_iff.1 sortedLast
  obtain ⟨unitWord, isUnit, rfl, rfl⟩ := PhraseToken.ofWord_eq_unit_iff.1 kind
  refine ⟨⟨amountWord, scaleWord, unitWord⟩, ⟨isAmount, isUnit⟩, rfl, ?_, rfl, rfl⟩
  cases amountWord <;> rfl

theorem exists_term {words : List (List Char)}
    (read : total? sum (words.map ofWord) = some millis) :
    (words = [] ∧ sum.millis = millis) ∨
      (∃ rest, words = "and".toList :: rest ∧ sum.scale ≠ none ∧ rest ≠ [] ∧
        total? sum (rest.map ofWord) = some millis) ∨
      ∃ (term : PhraseTerm) (rest : List (List Char)) (next : PhraseSum), term.WellFormed ∧
        words = term.words ++ rest ∧
        sum.addTerm? term = some next ∧ total? next (rest.map ofWord) = some millis := by
  rcases total?_cases read with ⟨none, same⟩ | ⟨tokens, split, named, filled, goesOn⟩ |
    ⟨amount, named, unit, tokens, next, split, added, goesOn⟩
  · exact .inl ⟨List.map_eq_nil_iff.1 none, same⟩
  · obtain ⟨word, rest, rfl, kind, rfl⟩ := List.map_eq_cons_iff.1 split
    obtain rfl := PhraseToken.ofWord_eq_and_iff.1 kind
    exact .inr (.inl ⟨rest, rfl, named, fun empty => filled (by rw [empty, List.map_nil]), goesOn⟩)
  · obtain ⟨front, rest, rfl, sorted, rfl⟩ := List.map_eq_append_iff.1 split
    obtain ⟨term, wellFormed, rfl, double, rfl, rfl⟩ := exists_words sorted
    rw [← double] at added
    exact .inr (.inr ⟨term, rest, next, wellFormed, rfl, added, goesOn⟩)

/-! ## All terms -/

theorem total?_and (named : sum.scale ≠ none) {rest : List PhraseToken} (filled : rest ≠ []) :
    total? sum (.and :: rest) = total? sum rest := by
  rw [total?]
  simp [named, filled]

theorem total?_ands (named : sum.scale ≠ none) (count : Nat) {rest : List PhraseToken}
    (filled : rest ≠ []) : total? sum (List.replicate count .and ++ rest) = total? sum rest := by
  induction count with
  | zero => rfl
  | succ count ih =>
      rw [List.replicate_succ, List.cons_append, total?_and named (by simp [filled]), ih]

theorem words_ne_nil (term : PhraseTerm) : term.words ≠ [] := by
  simp [PhraseTerm.words]

/-- Terms that are added to a sum agree with its scale, and the new sum fits. -/
def AddsUp (scale : TimeScale) (terms : List PhraseTerm) (millis result : Nat) : Prop :=
  (∀ term ∈ terms, term.Agrees scale) ∧
    ∃ parts, List.Forall₂ (PhraseTerm.IsPart scale) terms parts ∧ millis + parts.sum = result ∧
      result < 2 ^ 64

theorem addsUp_cons_iff {terms : List PhraseTerm} {result : Nat} :
    AddsUp scale (term :: terms) millis result ↔ term.Agrees scale ∧ ∃ part,
      term.IsPart scale part ∧ millis + part < 2 ^ 64 ∧ AddsUp scale terms (millis + part) result := by
  constructor
  · rintro ⟨agrees, parts, isParts, rfl, fits⟩
    obtain ⟨part, others, isPart, areParts, rfl⟩ := List.forall₂_cons_left_iff.1 isParts
    obtain ⟨first, later⟩ := List.forall_mem_cons.1 agrees
    rw [List.sum_cons] at fits ⊢
    exact ⟨first, part, isPart, by omega, later, others, areParts, by omega, fits⟩
  · rintro ⟨first, part, isPart, _, later, others, areParts, rfl, fits⟩
    exact ⟨List.forall_mem_cons.2 ⟨first, later⟩, part :: others, .cons isPart areParts,
      by rw [List.sum_cons]; omega, fits⟩

theorem exists_others {words : List (List Char)} (fits : millis < 2 ^ 64) {result : Nat}
    (read : total? ⟨millis, some scale⟩ (words.map ofWord) = some result) :
    ∃ others : List (Nat × PhraseTerm), (∀ term ∈ others.map Prod.snd, term.WellFormed) ∧
      words = Phrase.otherWords others ∧ AddsUp scale (others.map Prod.snd) millis result := by
  induction length : words.length using Nat.strong_induction_on generalizing words millis with
  | _ length ih =>
      subst length
      rcases exists_term read with ⟨rfl, rfl⟩ | ⟨rest, rfl, _, filled, goesOn⟩ |
        ⟨term, rest, next, wellFormed, rfl, added, goesOn⟩
      · exact ⟨[], List.forall_mem_nil _, rfl, List.forall_mem_nil _, [], .nil, rfl, fits⟩
      · -- One more `and` stands before the next of the terms, of which there is one.
        obtain ⟨others, areWellFormed, same, addsUp⟩ := ih _ (Nat.lt_succ_self _) fits goesOn rfl
        cases others with
        | nil => exact absurd same filled
        | cons other others =>
            obtain ⟨count, term⟩ := other
            refine ⟨(count + 1, term) :: others, areWellFormed, ?_, addsUp⟩
            rw [Phrase.otherWords_and, ← same]
      · obtain ⟨agrees, part, isPart, more, rfl⟩ := addTerm?_some_iff.1 added
        have shorter : rest.length < (term.words ++ rest).length := by
          have some := List.length_pos_of_ne_nil (words_ne_nil term)
          rw [List.length_append]
          omega
        obtain ⟨others, areWellFormed, rfl, addsUp⟩ := ih _ shorter more goesOn rfl
        exact ⟨(0, term) :: others, List.forall_mem_cons.2 ⟨wellFormed, areWellFormed⟩, rfl,
          addsUp_cons_iff.2 ⟨agrees, part, isPart, more, addsUp⟩⟩

theorem total?_others {others : List (Nat × PhraseTerm)}
    (wellFormed : ∀ term ∈ others.map Prod.snd, term.WellFormed) {result : Nat}
    (addsUp : AddsUp scale (others.map Prod.snd) millis result) :
    total? ⟨millis, some scale⟩ ((Phrase.otherWords others).map ofWord) = some result := by
  induction others generalizing millis with
  | nil =>
      obtain ⟨_, parts, isParts, rfl, _⟩ := addsUp
      obtain rfl := List.forall₂_nil_left_iff.1 isParts
      rfl
  | cons other others ih =>
      obtain ⟨count, term⟩ := other
      obtain ⟨isWellFormed, areWellFormed⟩ := List.forall_mem_cons.1 wellFormed
      obtain ⟨agrees, part, isPart, fits, goesOn⟩ := addsUp_cons_iff.1 addsUp
      have added : addTerm? ⟨millis, some scale⟩ term = some ⟨millis + part, some scale⟩ :=
        addTerm?_some_iff.2 ⟨agrees, part, isPart, fits, rfl⟩
      have conjunction : ofWord "and".toList = .and := rfl
      have tokens : (Phrase.otherWords ((count, term) :: others)).map ofWord =
          List.replicate count .and ++ (term.words.map ofWord ++
            (Phrase.otherWords others).map ofWord) := by
        rw [Phrase.otherWords, List.flatMap_cons, List.map_append, List.map_append,
          List.map_replicate, conjunction, List.append_assoc]
        rfl
      rw [tokens, total?_ands (by simp) _ (by simp [words_ne_nil]), total?_term isWellFormed, added,
        Option.bind_some]
      exact ih areWellFormed goesOn

/-- Words can be added up exactly if they make a phrase that keeps to one scale and whose sum fits. -/
theorem total?_eq_some_iff {words : List (List Char)} (filled : words ≠ []) :
    total? ⟨0, none⟩ (words.map ofWord) = some millis ↔
      ∃ phrase : Phrase, phrase.WellFormed ∧ phrase.words = words ∧ phrase.OneScale ∧
        phrase.Sums millis := by
  constructor
  · intro read
    rcases exists_term read with ⟨none, _⟩ | ⟨_, _, named, _⟩ |
      ⟨first, rest, next, wellFormed, rfl, added, goesOn⟩
    · exact absurd none filled
    · exact absurd rfl named
    · obtain ⟨part, isPart, rfl⟩ := addTerm?_start_iff.1 added
      obtain ⟨others, areWellFormed, rfl, agree, parts, areParts, sum, fits⟩ :=
        exists_others isPart.2 goesOn
      exact ⟨⟨first, others⟩, List.forall_mem_cons.2 ⟨wellFormed, areWellFormed⟩, rfl,
        List.forall_mem_cons.2 ⟨Phrase.agrees_scale ⟨first, others⟩, agree⟩, part :: parts,
        .cons isPart areParts, sum, fits⟩
  · rintro ⟨⟨first, others⟩, wellFormed, rfl, oneScale, parts, areParts, rfl, fits⟩
    obtain ⟨isWellFormed, areWellFormed⟩ := List.forall_mem_cons.1 wellFormed
    obtain ⟨part, more, isPart, areMore, rfl⟩ := List.forall₂_cons_left_iff.1 areParts
    have added := addTerm?_start_iff.2 ⟨part, isPart, rfl⟩
    rw [Phrase.words, List.map_append, total?_term isWellFormed, added, Option.bind_some]
    exact total?_others areWellFormed
      ⟨(List.forall_mem_cons.1 oneScale).2, more, areMore, List.sum_cons.symm, fits⟩

end PhraseSum

/-! ## Whole amounts -/

namespace PhraseTerm

variable {term : PhraseTerm} {n : Nat}

theorem double_of_whole (wellFormed : term.WellFormed) (whole : term.rational = n) :
    term.double = .ofNat n := by
  have one (isOne : (1 : ℚ) = n) : Binary64.ofNat 1 = .ofNat n := by
    rw [← Nat.cast_one] at isOne
    rw [Nat.cast_injective isOne]
  obtain ⟨amount, scale, unit⟩ := term
  cases amount with
  | none => exact one whole
  | some amount =>
      cases amount with
      | a => exact one whole
      | an => exact one whole
      | decimal numeral => exact Numeral.double_of_whole (wellFormed.amount _ rfl).2.2 whole

theorem millis_bounds : ∀ unit ∈ TimeUnit.all, 0 < unit.millis ∧ unit.millis < twoTo 53 := by
  decide

theorem amount_lt {unit : TimeUnit} (member : unit ∈ TimeUnit.all)
    (small : n * unit.millis < twoTo 53) : n < twoTo 53 :=
  (Nat.le_mul_of_pos_right n (millis_bounds unit member).1).trans_lt small

/-- A whole amount of real time is not rounded as long as it is below `2 ^ 53` milliseconds. -/
theorem isPart_of_whole (wellFormed : term.WellFormed) (whole : term.rational = n)
    (small : n * term.unit.unit.millis < twoTo 53) :
    term.IsPart .real (n * term.unit.unit.millis) := by
  have bound := (millis_bounds _ wellFormed.unit).2
  have amount := amount_lt wellFormed.unit small
  have product : term.product .real = .ofNat (n * term.unit.unit.millis) := by
    rw [PhraseTerm.product, if_neg (by simp), double_of_whole wellFormed whole,
      Binary64.ofNat_mul_ofNat amount bound]
  refine ⟨?_, small.trans (by decide)⟩
  rw [product, Binary64.roundMagnitude?_ofNat small]

end PhraseTerm

/-- The sum of the amounts times their units. -/
def Phrase.exactMillis (phrase : Phrase) : ℚ :=
  (phrase.terms.map fun (term : PhraseTerm) => term.rational * term.unit.unit.millis).sum

theorem Phrase.sums_of_whole {phrase : Phrase} (wellFormed : phrase.WellFormed)
    (real : phrase.scale = .real) (whole : ∀ term ∈ phrase.terms, ∃ n : ℕ, term.rational = n)
    {millis : Nat} (sum : phrase.exactMillis = millis) (small : millis < 2 ^ 53) :
    phrase.Sums millis := by
  let part (term : PhraseTerm) : Nat := term.rational.num.toNat * term.unit.unit.millis
  have amount (term : PhraseTerm) (member : term ∈ phrase.terms) :
      term.rational = (term.rational.num.toNat : ℕ) := by
    obtain ⟨n, same⟩ := whole term member
    rw [same]
    simp
  have total : (phrase.terms.map part).sum = millis := by
    have exact : ((phrase.terms.map part).sum : ℚ) = phrase.exactMillis := by
      rw [Nat.cast_list_sum, List.map_map, Phrase.exactMillis]
      refine congrArg List.sum (List.map_congr_left fun term member => ?_)
      rw [Function.comp_apply, Nat.cast_mul, ← amount term member]
    exact_mod_cast exact.trans sum
  refine ⟨phrase.terms.map part, ?_, total, small.trans (by decide)⟩
  rw [real, List.forall₂_map_right_iff, List.forall₂_same]
  intro term member
  refine PhraseTerm.isPart_of_whole (wellFormed term member) (amount term member) ?_
  have le : part term ≤ (phrase.terms.map part).sum :=
    List.single_le_sum (by simp) _ (List.mem_map_of_mem member)
  exact (le.trans total.le).trans_lt small

end HostTypes
