import HostTypes.Proofs.Number.DisplayedNumber
import HostTypes.Proofs.Timespan.PhraseText

/-!
Timespans as they are shown to users. The text is that of a phrase of one or two terms in real time
(`Timespan.display_eq`).
-/

namespace HostTypes

namespace Timespan

variable {accuracy millis : Nat} {unit : TimeUnit} {amount : Binary64}

def shownTerm (accuracy : Nat) (amount : Binary64) (unit : TimeUnit) : PhraseTerm where
  amount := some (.decimal (amount.displayed accuracy))
  scale := none
  unit := ⟨unit, (amount.displayed accuracy).text != ['1'], false⟩

@[simp]
theorem unit_shownTerm (accuracy : Nat) (amount : Binary64) (unit : TimeUnit) :
    (shownTerm accuracy amount unit).unit.unit = unit :=
  rfl

/-- The largest unit that a number of milliseconds fills, with the next smaller one. -/
def displayStep? (millis : Nat) : Option (TimeUnit × TimeUnit) :=
  displaySteps.find? fun step => step.1.millis ≤ millis

/-- The amounts and units that are shown. -/
def shown (accuracy : Nat) (span : Timespan) : Phrase :=
  let millis := span.millis.toNat
  match displayStep? millis with
  | none => ⟨shownTerm accuracy (inUnit millis .second) .second, []⟩
  | some (big, small) =>
    let rest := inUnit (millis % big.millis) small
    if rest.display accuracy = "0" then ⟨shownTerm accuracy (inUnit millis big) big, []⟩
    else
      ⟨shownTerm accuracy (.ofNat (millis / big.millis)) big, [(1, shownTerm accuracy rest small)]⟩

/-- The cases of the largest unit. -/
theorem displayStep?_cases (millis : Nat) :
    (displayStep? millis = none ∧ millis < TimeUnit.minute.millis) ∨
      (displayStep? millis = some (.minute, .second) ∧ TimeUnit.minute.millis ≤ millis ∧
        millis < TimeUnit.hour.millis) ∨
      (displayStep? millis = some (.hour, .minute) ∧ TimeUnit.hour.millis ≤ millis ∧
        millis < TimeUnit.day.millis) ∨
      displayStep? millis = some (.day, .hour) ∧ TimeUnit.day.millis ≤ millis := by
  simp only [displayStep?, displaySteps, List.find?_cons, List.find?_nil]
  by_cases day : TimeUnit.day.millis ≤ millis
  · simp [day]
  · by_cases hour : TimeUnit.hour.millis ≤ millis
    · simp [day, hour, Nat.lt_of_not_le]
    · by_cases minute : TimeUnit.minute.millis ≤ millis
      · simp [day, hour, minute, Nat.lt_of_not_le]
      · simp [day, hour, minute, Nat.lt_of_not_le]

theorem lt_of_displayStep?_eq_none (none : displayStep? millis = none) :
    millis < TimeUnit.minute.millis := by
  rcases displayStep?_cases millis with ⟨_, below⟩ | ⟨step, _⟩ | ⟨step, _⟩ | ⟨step, _⟩
  · exact below
  all_goals cases none.symm.trans step

theorem inUnit_eq (fits : millis < 2 ^ 64) (member : unit ∈ TimeUnit.all) : inUnit millis unit =
    .nearest false (Binary64.ofNat millis).steps (Binary64.ofNat unit.millis).steps := by
  obtain ⟨pos, small⟩ := PhraseTerm.millis_bounds unit member
  rw [inUnit, Binary64.div_of_isFinite (Binary64.isFinite_ofNat fits.le)
    (Binary64.isFinite_ofNat (small.le.trans (by decide))) (Binary64.isZero_ofNat small pos.ne'),
    Binary64.negative_ofNat, Binary64.negative_ofNat]
  rfl

theorem negative_inUnit (fits : millis < 2 ^ 64) (member : unit ∈ TimeUnit.all) :
    (inUnit millis unit).negative = false := by
  rw [inUnit_eq fits member, Binary64.negative_nearest]

theorem isFinite_inUnit (fits : millis < 2 ^ 64) (member : unit ∈ TimeUnit.all) :
    (inUnit millis unit).isFinite := by
  obtain ⟨pos, small⟩ := PhraseTerm.millis_bounds unit member
  have greatest : (Binary64.ofNat (twoTo 64)).steps < Binary64.overflow * Binary64.stepsPerUnit := by
    decide +kernel
  have units : Binary64.stepsPerUnit ≤ (Binary64.ofNat unit.millis).steps := by
    rw [Binary64.steps_ofNat small]
    exact Nat.le_mul_of_pos_left _ pos
  rw [inUnit_eq fits member,
    Binary64.isFinite_nearest_iff _ (Binary64.stepsPerUnit_pos.trans_le units)]
  calc (Binary64.ofNat millis).steps
      ≤ (Binary64.ofNat (twoTo 64)).steps :=
        Binary64.steps_le_steps (Binary64.unsignedBits_ofNat_mono fits.le)
    _ < Binary64.overflow * Binary64.stepsPerUnit := greatest
    _ ≤ Binary64.overflow * (Binary64.ofNat unit.millis).steps := Nat.mul_le_mul_left _ units

theorem amountText_eq (finite : amount.isFinite) : (amountText accuracy amount unit).toList =
    [' '].intercalate (shownTerm accuracy amount unit).words := by
  have number : amount.display accuracy = String.ofList (amount.displayed accuracy).text := by
    rw [Binary64.display, Binary64.displayChars_eq finite]
  have one : String.ofList (amount.displayed accuracy).text = "1" ↔
      (amount.displayed accuracy).text = ['1'] := by
    rw [← String.toList_inj, String.toList_ofList]
    rfl
  rw [amountText, number]
  by_cases single : (amount.displayed accuracy).text = ['1']
  · rw [if_pos (one.2 single)]
    simp [shownTerm, PhraseTerm.words, AmountWord.text, UnitWord.text, UnitWord.name, single]
  · rw [if_neg (mt one.1 single)]
    simp [shownTerm, PhraseTerm.words, AmountWord.text, UnitWord.text, UnitWord.name, single]

theorem mem_all_of_displaySteps : ∀ step ∈ displaySteps,
    step.1 ∈ TimeUnit.all ∧ step.2 ∈ TimeUnit.all := by
  decide

theorem mem_all_of_displayStep? {step : TimeUnit × TimeUnit} (found : displayStep? millis = some step) :
    step.1 ∈ TimeUnit.all ∧ step.2 ∈ TimeUnit.all :=
  mem_all_of_displaySteps step (List.mem_of_find?_eq_some found)

theorem display_eq (accuracy : Nat) (span : Timespan) :
    (span.display accuracy).toList = (span.shown accuracy).text := by
  have fits : span.millis.toNat < 2 ^ 64 := span.millis.toNat_lt
  unfold display shown
  generalize span.millis.toNat = millis at fits
  have step : displaySteps.find? (fun step => decide (step.1.millis ≤ millis)) = displayStep? millis :=
    rfl
  dsimp only
  rw [step]
  cases found : displayStep? millis with
  | none =>
      simp only
      rw [Phrase.text_one, amountText_eq (isFinite_inUnit fits (by decide))]
  | some step =>
      obtain ⟨isBig, isSmall⟩ := mem_all_of_displayStep? found
      simp only
      split_ifs
      · rw [Phrase.text_one, amountText_eq (isFinite_inUnit fits isBig)]
      · have whole : (Binary64.ofNat (millis / step.1.millis)).isFinite :=
          Binary64.isFinite_ofNat ((Nat.div_le_self _ _).trans fits.le)
        have rest : (inUnit (millis % step.1.millis) step.2).isFinite :=
          isFinite_inUnit ((Nat.mod_le _ _).trans_lt fits) isSmall
        rw [Phrase.text_two, String.toList_append, String.toList_append, amountText_eq whole,
          amountText_eq rest]

/-! ## Its terms -/

theorem shownTerm_wellFormed (accuracy : Nat) (positive : amount.negative = false)
    (member : unit ∈ TimeUnit.all) : (shownTerm accuracy amount unit).WellFormed where
  amount := by
    rintro _ ⟨⟩
    refine ⟨amount.displayed_wellFormed accuracy, amount.displayed_isAscii accuracy, ?_⟩
    simp [Binary64.displayed, positive]
  unit := member

theorem shown_cases (accuracy : Nat) (span : Timespan) :
    (displayStep? span.millis.toNat = none ∧
      span.shown accuracy = ⟨shownTerm accuracy (inUnit span.millis.toNat .second) .second, []⟩) ∨
    ∃ big small, displayStep? span.millis.toNat = some (big, small) ∧
      let rest := inUnit (span.millis.toNat % big.millis) small
      (rest.display accuracy = "0" ∧
        span.shown accuracy = ⟨shownTerm accuracy (inUnit span.millis.toNat big) big, []⟩) ∨
      (rest.display accuracy ≠ "0" ∧ span.shown accuracy =
        ⟨shownTerm accuracy (.ofNat (span.millis.toNat / big.millis)) big,
          [(1, shownTerm accuracy rest small)]⟩) := by
  cases found : displayStep? span.millis.toNat with
  | none => exact .inl ⟨rfl, by simp only [shown, found]⟩
  | some step =>
      refine .inr ⟨step.1, step.2, rfl, ?_⟩
      simp only [shown, found]
      split_ifs with none
      · exact .inl ⟨none, rfl⟩
      · exact .inr ⟨none, rfl⟩

theorem shown_wellFormed (accuracy : Nat) (span : Timespan) : (span.shown accuracy).WellFormed := by
  have fits : span.millis.toNat < 2 ^ 64 := span.millis.toNat_lt
  have term {millis : Nat} (bound : millis < 2 ^ 64) {unit : TimeUnit} (member : unit ∈ TimeUnit.all) :
      (shownTerm accuracy (inUnit millis unit) unit).WellFormed :=
    shownTerm_wellFormed accuracy (negative_inUnit bound member) member
  rcases shown_cases accuracy span with ⟨_, same⟩ | ⟨big, small, found, ⟨_, same⟩ | ⟨_, same⟩⟩
  all_goals rw [same]
  · exact List.forall_mem_singleton.2 (term fits (by decide))
  · obtain ⟨isBig, _⟩ := mem_all_of_displayStep? found
    exact List.forall_mem_singleton.2 (term fits isBig)
  · obtain ⟨isBig, isSmall⟩ := mem_all_of_displayStep? found
    have whole := shownTerm_wellFormed accuracy
      (Binary64.negative_ofNat (span.millis.toNat / big.millis)) isBig
    exact List.forall_mem_cons.2
      ⟨whole, List.forall_mem_singleton.2 (term ((Nat.mod_le _ _).trans_lt fits) isSmall)⟩

/-- No time scale is named, so the time is real. -/
theorem shown_unscaled (accuracy : Nat) (span : Timespan) :
    ∀ term ∈ (span.shown accuracy).terms, term.scale = none := by
  rcases shown_cases accuracy span with ⟨_, same⟩ | ⟨big, small, found, ⟨_, same⟩ | ⟨_, same⟩⟩ <;>
    simp [same, Phrase.terms, shownTerm]

theorem shown_real (accuracy : Nat) (span : Timespan) : (span.shown accuracy).scale = .real := by
  rw [Phrase.scale, shown_unscaled accuracy span _ List.mem_cons_self]
  rfl

theorem shown_oneScale (accuracy : Nat) (span : Timespan) : (span.shown accuracy).OneScale := by
  intro term member word named
  cases (shown_unscaled accuracy span term member).symm.trans named

end Timespan

end HostTypes
