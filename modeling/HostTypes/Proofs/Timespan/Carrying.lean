import HostTypes.Proofs.Timespan.ShownPhrase
import Mathlib.Tactic.Linarith

/-!
Carrying in timespans that are shown. The units are chosen before the amounts are rounded, so the last
amount may be rounded up to a whole larger unit, as in `60 seconds`. It is exactly if it lies at most half
a unit of the last decimal below (`carried_iff`), which no timespan does if there are enough decimals.
-/

namespace HostTypes

/-! ## Rounding up to a limit -/

namespace Binary64

variable {x : Binary64} {accuracy limit : Nat}

/-- The absolute value of a finite number. -/
def magnitude (x : Binary64) : ℚ :=
  x.steps / stepsPerUnit

/-- An even limit wins the tie against the odd amount of units below it. -/
theorem le_unitsOf_iff (even : limit % 2 = 0) (pos : 0 < limit) :
    limit * tenTo accuracy ≤ x.unitsOf accuracy ↔
      2 * (limit * tenTo accuracy) * stepsPerUnit ≤ 2 * (x.steps * tenTo accuracy) + stepsPerUnit := by
  obtain ⟨count, next⟩ : ∃ count, limit * tenTo accuracy = count + 1 :=
    Nat.exists_eq_succ_of_ne_zero (Nat.mul_pos pos (tenTo_pos accuracy)).ne'
  have odd : count % 2 = 1 := by
    have := Nat.mul_mod limit (tenTo accuracy) 2
    rw [even, Nat.zero_mul, Nat.zero_mod, next] at this
    omega
  have middle : 2 * (count + 1) * stepsPerUnit = (2 * count + 1) * stepsPerUnit + stepsPerUnit := by ring
  rw [next, middle, Nat.succ_le_iff, unitsOf, lt_roundHalfEven_iff stepsPerUnit_pos]
  omega

/-- Half a unit of the last decimal below a limit, without and with fractions. -/
theorem half_below_iff {steps units places : Nat} (unitsPos : 0 < units) (placesPos : 0 < places) :
    2 * (limit * places) * units ≤ 2 * (steps * places) + units ↔
      (limit : ℚ) - 1 / (2 * places) ≤ steps / units := by
  have cast : (0 : ℚ) < units := Nat.cast_pos.2 unitsPos
  have castPlaces : (0 : ℚ) < places := Nat.cast_pos.2 placesPos
  rw [sub_le_iff_le_add, div_add_div _ _ cast.ne' (by positivity), le_div_iff₀ (by positivity),
    ← Nat.cast_le (α := ℚ)]
  push_cast
  constructor <;> intro le <;> linarith

theorem le_unitsOf_iff_magnitude (even : limit % 2 = 0) (pos : 0 < limit) :
    limit * tenTo accuracy ≤ x.unitsOf accuracy ↔
      (limit : ℚ) - 1 / (2 * 10 ^ accuracy) ≤ x.magnitude := by
  rw [le_unitsOf_iff even pos, half_below_iff stepsPerUnit_pos (tenTo_pos accuracy), cast_tenTo,
    magnitude]

/-- What stays away from a limit with few decimals does so with more of them. -/
theorem unitsOf_lt_of_gap (even : limit % 2 = 0) (pos : 0 < limit) {few : Nat} (more : few ≤ accuracy)
    (gap : 2 * (x.steps * tenTo few) + stepsPerUnit < 2 * (limit * tenTo few) * stepsPerUnit) :
    x.unitsOf accuracy < limit * tenTo accuracy := by
  obtain ⟨extra, rfl⟩ := Nat.exists_eq_add_of_le more
  have extraPos := tenTo_pos extra
  have scaled := Nat.mul_lt_mul_of_pos_right gap extraPos
  have unit := Nat.le_mul_of_pos_right stepsPerUnit extraPos
  rw [← Nat.not_le, le_unitsOf_iff even pos, Nat.not_le, tenTo_add]
  calc 2 * (x.steps * (tenTo few * tenTo extra)) + stepsPerUnit
      ≤ (2 * (x.steps * tenTo few) + stepsPerUnit) * tenTo extra := by
        rw [Nat.add_mul, Nat.mul_assoc 2, Nat.mul_assoc x.steps]
        exact Nat.add_le_add_left unit _
    _ < 2 * (limit * tenTo few) * stepsPerUnit * tenTo extra := scaled
    _ = 2 * (limit * (tenTo few * tenTo extra)) * stepsPerUnit := by ring

theorem steps_lt_of_unitsOf (zero : x.unitsOf accuracy = 0) : x.steps < stepsPerUnit := by
  by_contra! large
  have one : 1 ≤ x.unitsOf accuracy := by
    refine le_roundHalfEven stepsPerUnit_pos ?_
    rw [Nat.one_mul]
    exact large.trans (Nat.le_mul_of_pos_right _ (tenTo_pos accuracy))
  omega

end Binary64

/-! ## The last amount -/

/-- No amount that is shown, but for days, fills the next larger unit. -/
def Phrase.Carried (phrase : Phrase) : Prop :=
  match phrase.others with
  | [] => ∀ larger, (larger, phrase.first.unit.unit) ∈ Timespan.displaySteps →
      phrase.first.rational * phrase.first.unit.unit.millis < larger.millis
  | (_, rest) :: _ => rest.rational * rest.unit.unit.millis < phrase.first.unit.unit.millis

namespace Timespan

variable {accuracy millis : Nat} {big small unit : TimeUnit} {amount : Binary64} {span : Timespan}

/-- How many of a unit make one of the next larger kind. -/
def limit (big small : TimeUnit) : Nat :=
  big.millis / small.millis

/-- The unit of the last amount, below the next larger one. Seconds alone are below the minute. -/
def lastStep (millis : Nat) : TimeUnit × TimeUnit :=
  (displayStep? millis).getD (.minute, .second)

/-- An amount lies at most half a unit of the last decimal below a whole larger unit. -/
def Reaches (accuracy : Nat) (big small : TimeUnit) (amount : Binary64) : Prop :=
  (limit big small : ℚ) - 1 / (2 * 10 ^ accuracy) ≤ amount.magnitude

/-- The last amount is rounded up to a whole larger unit. -/
def RoundsUp (accuracy : Nat) (span : Timespan) : Prop :=
  let (big, small) := lastStep span.millis.toNat
  Reaches accuracy big small (inUnit (span.millis.toNat % big.millis) small)

theorem limit_facts : ∀ step ∈ displaySteps, limit step.1 step.2 * step.2.millis = step.1.millis ∧
    limit step.1 step.2 % 2 = 0 ∧ 4 ≤ limit step.1 step.2 := by
  decide

theorem reaches_iff (member : (big, small) ∈ displaySteps) : Reaches accuracy big small amount ↔
    limit big small * tenTo accuracy ≤ amount.unitsOf accuracy := by
  obtain ⟨_, even, some⟩ := limit_facts _ member
  exact (Binary64.le_unitsOf_iff_magnitude even (Nat.zero_lt_of_lt some)).symm

theorem fills_iff (accuracy : Nat) (member : (big, small) ∈ displaySteps)
    (positive : amount.negative = false) :
    (shownTerm accuracy amount small).rational * small.millis < big.millis ↔
      ¬ Reaches accuracy big small amount := by
  obtain ⟨product, _⟩ := limit_facts _ member
  obtain ⟨_, isSmall⟩ := mem_all_of_displaySteps _ member
  have unit : (0 : ℚ) < small.millis := Nat.cast_pos.2 (PhraseTerm.millis_bounds small isSmall).1
  have shown : (shownTerm accuracy amount small).rational = amount.unitsOf accuracy / 10 ^ accuracy :=
    Binary64.rational_displayed_of_positive accuracy positive
  rw [reaches_iff member, Nat.not_le, ← product, Nat.cast_mul, mul_lt_mul_iff_left₀ unit, shown,
    div_lt_iff₀ (by positivity), ← cast_tenTo, ← Nat.cast_mul, Nat.cast_lt]

theorem inUnit_eq_nearest (bound : millis < twoTo 53) (member : unit ∈ TimeUnit.all) :
    inUnit millis unit = .nearest false millis unit.millis := by
  obtain ⟨pos, small⟩ := PhraseTerm.millis_bounds unit member
  exact Binary64.ofNat_div_ofNat bound small pos.ne'

/-! ## A last amount that is not shown -/

theorem lt_of_steps_lt (bound : millis < twoTo 53) (member : unit ∈ TimeUnit.all)
    (below : (inUnit millis unit).steps < Binary64.stepsPerUnit) : millis < unit.millis := by
  by_contra! large
  have pos := (PhraseTerm.millis_bounds unit member).1
  have one : (Binary64.ofNat 1).steps = Binary64.stepsPerUnit :=
    (Binary64.steps_ofNat (by decide)).trans (Nat.one_mul _)
  have le : (Binary64.ofNat 1).steps ≤ (inUnit millis unit).steps := by
    rw [inUnit_eq_nearest bound member]
    exact Binary64.steps_nearest_mono false Nat.one_pos pos (by omega)
  rw [one] at le
  exact absurd le (Nat.not_le.2 below)

/-- A quarter of a unit is far from the next one. -/
theorem steps_quarter : ∀ step ∈ displaySteps,
    4 * (Binary64.nearest false (4 * limit step.1 step.2 - 3) 4).steps + 3 * Binary64.stepsPerUnit =
      4 * limit step.1 step.2 * Binary64.stepsPerUnit := by
  decide +kernel

theorem displaySteps_lt : ∀ step ∈ displaySteps, step.1.millis < twoTo 53 := by
  decide

theorem not_reaches_of_rest {larger : TimeUnit} (accuracy : Nat) (upper : (larger, big) ∈ displaySteps)
    (lower : (big, small) ∈ displaySteps) (below : millis < larger.millis)
    (rest : millis % big.millis < small.millis) :
    ¬ Reaches accuracy larger big (inUnit millis big) := by
  obtain ⟨upperProduct, even, some⟩ := limit_facts _ upper
  obtain ⟨lowerProduct, _, four⟩ := limit_facts _ lower
  have member := (mem_all_of_displaySteps _ upper).2
  have pos := (PhraseTerm.millis_bounds big member).1
  have bound : millis < twoTo 53 := below.trans (displaySteps_lt _ upper)
  have quarter := steps_quarter _ upper
  dsimp only at upperProduct lowerProduct even some four member quarter
  have quotient : millis / big.millis < limit larger big :=
    Nat.div_lt_of_lt_mul (by rwa [Nat.mul_comm, upperProduct])
  have part : 4 * small.millis ≤ big.millis := lowerProduct ▸ Nat.mul_le_mul_right _ four
  have short : millis * 4 ≤ (4 * limit larger big - 3) * big.millis :=
    calc millis * 4
        = 4 * (millis / big.millis) * big.millis + 4 * (millis % big.millis) := by
          rw [Nat.mul_assoc, ← Nat.mul_add, Nat.mul_comm _ big.millis, Nat.div_add_mod, Nat.mul_comm]
      _ ≤ 4 * (millis / big.millis) * big.millis + big.millis := by omega
      _ = (4 * (millis / big.millis) + 1) * big.millis := (Nat.succ_mul _ _).symm
      _ ≤ (4 * limit larger big - 3) * big.millis := Nat.mul_le_mul_right _ (by omega)
  have le := Binary64.steps_nearest_mono false pos (by decide : 0 < 4) short
  rw [← inUnit_eq_nearest bound member] at le
  rw [reaches_iff upper, Nat.not_le]
  refine Binary64.unitsOf_lt_of_gap even (by omega) (Nat.zero_le _) ?_
  have units := Binary64.stepsPerUnit_pos
  have one : tenTo 0 = 1 := rfl
  rw [Nat.mul_assoc] at quarter
  rw [one, Nat.mul_one, Nat.mul_one, Nat.mul_assoc]
  generalize Binary64.stepsPerUnit = unit at units quarter ⊢
  omega

theorem mem_displaySteps_iff {larger : TimeUnit} : (larger, unit) ∈ displaySteps ↔
    (larger = .day ∧ unit = .hour) ∨ (larger = .hour ∧ unit = .minute) ∨
      larger = .minute ∧ unit = .second := by
  simp [displaySteps]

theorem lt_larger {larger : TimeUnit} (found : displayStep? millis = some (big, small))
    (upper : (larger, big) ∈ displaySteps) : millis < larger.millis := by
  rcases displayStep?_cases millis with ⟨step, _⟩ | ⟨step, _, below⟩ | ⟨step, _, below⟩ | ⟨step, _⟩
  all_goals cases found.symm.trans step
  all_goals rcases mem_displaySteps_iff.1 upper with ⟨rfl, same⟩ | ⟨rfl, same⟩ | ⟨rfl, same⟩
  all_goals first | exact below | exact absurd same (by decide)

/-! ## Carried exactly if not rounded up -/

theorem carried_one_iff (accuracy : Nat) (positive : amount.negative = false) (unit : TimeUnit) :
    Phrase.Carried ⟨shownTerm accuracy amount unit, []⟩ ↔
      ∀ larger, (larger, unit) ∈ displaySteps → ¬ Reaches accuracy larger unit amount :=
  forall_congr' fun _ => imp_congr_right fun member => fills_iff accuracy member positive

theorem carried_iff (accuracy : Nat) (span : Timespan) :
    (span.shown accuracy).Carried ↔ ¬ span.RoundsUp accuracy := by
  have fits : span.millis.toNat < 2 ^ 64 := span.millis.toNat_lt
  rcases shown_cases accuracy span with ⟨none, same⟩ | ⟨big, small, found, parts⟩
  · have below := lt_of_displayStep?_eq_none none
    have only : ∀ larger, (larger, TimeUnit.second) ∈ displaySteps ↔ larger = .minute := by
      simp [mem_displaySteps_iff, TimeUnit.second, TimeUnit.minute, TimeUnit.hour]
    rw [same, carried_one_iff accuracy (negative_inUnit fits (by decide)), RoundsUp, lastStep, none]
    simp only [only, forall_eq, Option.getD_none, Nat.mod_eq_of_lt below]
  · have member : (big, small) ∈ displaySteps := List.mem_of_find?_eq_some found
    have isSmall := (mem_all_of_displayStep? found).2
    have restFits : span.millis.toNat % big.millis < 2 ^ 64 := (Nat.mod_le _ _).trans_lt fits
    have roundsUp : span.RoundsUp accuracy ↔
        Reaches accuracy big small (inUnit (span.millis.toNat % big.millis) small) := by
      rw [RoundsUp, lastStep, found]
      rfl
    rw [roundsUp]
    rcases parts with ⟨zero, same⟩ | ⟨_, same⟩
    · rw [same, carried_one_iff accuracy (negative_inUnit fits (mem_all_of_displayStep? found).1)]
      have finite : (inUnit (span.millis.toNat % big.millis) small).isFinite :=
        isFinite_inUnit restFits isSmall
      have none := (Binary64.display_eq_zero_iff finite).1 zero
      have bound : span.millis.toNat % big.millis < twoTo 53 :=
        (Nat.mod_lt _ (PhraseTerm.millis_bounds big (mem_all_of_displayStep? found).1).1).trans
          (displaySteps_lt _ member)
      have rest := lt_of_steps_lt bound isSmall (Binary64.steps_lt_of_unitsOf none)
      refine iff_of_true ?_ ?_
      · intro larger upper
        exact not_reaches_of_rest accuracy upper member (lt_larger found upper) rest
      · obtain ⟨_, _, four⟩ := limit_facts _ member
        rw [reaches_iff member, none, Nat.not_le]
        exact Nat.mul_pos (Nat.zero_lt_of_lt four) (tenTo_pos accuracy)
    · rw [same]
      exact fills_iff accuracy member (negative_inUnit restFits isSmall)

/-! ## Enough decimals -/

/-- With so many decimals no amount of a unit is rounded up to the next larger unit. -/
def enoughDecimals (small : TimeUnit) : Nat :=
  if small = .second then 3 else if small = .minute then 5 else 7

theorem gap_of_greatest : ∀ step ∈ displaySteps,
    2 * ((Binary64.nearest false (step.1.millis - 1) step.2.millis).steps *
        tenTo (enoughDecimals step.2)) + Binary64.stepsPerUnit <
      2 * (limit step.1 step.2 * tenTo (enoughDecimals step.2)) * Binary64.stepsPerUnit := by
  decide +kernel

theorem lastStep_cases (millis : Nat) :
    (lastStep millis = (.minute, .second) ∧ millis < TimeUnit.hour.millis) ∨
      (lastStep millis = (.hour, .minute) ∧ TimeUnit.hour.millis ≤ millis ∧
        millis < TimeUnit.day.millis) ∨
      lastStep millis = (.day, .hour) ∧ TimeUnit.day.millis ≤ millis := by
  unfold lastStep
  rcases displayStep?_cases millis with ⟨step, below⟩ | ⟨step, _, below⟩ | ⟨step, within⟩ | ⟨step, within⟩
  all_goals rw [step]
  · exact .inl ⟨rfl, below.trans (by decide)⟩
  · exact .inl ⟨rfl, below⟩
  · exact .inr (.inl ⟨rfl, within⟩)
  · exact .inr (.inr ⟨rfl, within⟩)

theorem not_reaches_of_enough (member : (big, small) ∈ displaySteps)
    (enough : enoughDecimals small ≤ accuracy) :
    ¬ Reaches accuracy big small (inUnit (millis % big.millis) small) := by
  obtain ⟨isBig, isSmall⟩ := mem_all_of_displaySteps _ member
  obtain ⟨_, even, four⟩ := limit_facts _ member
  have pos := (PhraseTerm.millis_bounds small isSmall).1
  have below := Nat.mod_lt millis (PhraseTerm.millis_bounds big isBig).1
  have greatest : (inUnit (millis % big.millis) small).steps ≤
      (Binary64.nearest false (big.millis - 1) small.millis).steps := by
    rw [inUnit_eq_nearest (below.trans (displaySteps_lt _ member)) isSmall]
    exact Binary64.steps_nearest_mono false pos pos (Nat.mul_le_mul_right _ (Nat.le_sub_one_of_lt below))
  rw [reaches_iff member, Nat.not_le]
  refine Binary64.unitsOf_lt_of_gap even (Nat.zero_lt_of_lt four) enough ?_
  have gap := gap_of_greatest _ member
  dsimp only at gap ⊢
  generalize Binary64.stepsPerUnit = unit at gap ⊢
  exact (Nat.add_le_add_right (Nat.mul_le_mul_left 2 (Nat.mul_le_mul_right _ greatest)) _).trans_lt gap

theorem carried_of_enough (enough : enoughDecimals (lastStep span.millis.toNat).2 ≤ accuracy) :
    (span.shown accuracy).Carried := by
  rw [carried_iff]
  have member : lastStep span.millis.toNat ∈ displaySteps := by
    rcases lastStep_cases span.millis.toNat with ⟨step, _⟩ | ⟨step, _⟩ | ⟨step, _⟩ <;>
      rw [step] <;> decide
  exact not_reaches_of_enough member enough

end Timespan

/-! ## The statement -/

theorem display_carried (accuracy : Nat) (span : Timespan) :
    (span.display accuracy).toList = (span.shown accuracy).text ∧ (span.shown accuracy).WellFormed ∧
      ((span.shown accuracy).Carried ↔ ¬ span.RoundsUp accuracy) ∧
      (7 ≤ accuracy → (span.shown accuracy).Carried) ∧
      (span.millis.toNat < 86400000 → 5 ≤ accuracy → (span.shown accuracy).Carried) ∧
      (span.millis.toNat < 3600000 → 3 ≤ accuracy → (span.shown accuracy).Carried) := by
  refine ⟨Timespan.display_eq accuracy span, Timespan.shown_wellFormed accuracy span,
    Timespan.carried_iff accuracy span, ?_, ?_, ?_⟩
  · intro enough
    have most : ∀ unit, Timespan.enoughDecimals unit ≤ 7 := by
      intro unit
      unfold Timespan.enoughDecimals
      split_ifs <;> decide
    exact Timespan.carried_of_enough ((most _).trans enough)
  · intro below enough
    rcases Timespan.lastStep_cases span.millis.toNat with ⟨step, _⟩ | ⟨step, _⟩ | ⟨_, least⟩
    · exact Timespan.carried_of_enough (step ▸ (by decide : 3 ≤ 5).trans enough)
    · exact Timespan.carried_of_enough (step ▸ enough)
    · exact absurd least (Nat.not_le.2 below)
  · intro below enough
    rcases Timespan.lastStep_cases span.millis.toNat with ⟨step, _⟩ | ⟨_, least, _⟩ | ⟨_, least⟩
    · exact Timespan.carried_of_enough (step ▸ enough)
    · exact absurd least (Nat.not_le.2 below)
    · exact absurd least (Nat.not_le.2 (below.trans (by decide)))

theorem display_uncarried : Timespan.toText ⟨59999⟩ = "60 seconds" ∧
    ¬ ∀ (accuracy : Nat) (span : Timespan), (span.shown accuracy).Carried := by
  refine ⟨by decide +kernel, fun carried => ?_⟩
  have units : (Timespan.inUnit 59999 .second).unitsOf 2 = 6000 := by decide +kernel
  have reaches : Timespan.Reaches 2 .minute .second (Timespan.inUnit 59999 .second) :=
    (Timespan.reaches_iff (by decide)).2 (by rw [units]; decide)
  exact (Timespan.carried_iff 2 ⟨59999⟩).1 (carried 2 ⟨59999⟩) reaches

end HostTypes
