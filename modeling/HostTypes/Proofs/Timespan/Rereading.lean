import HostTypes.Proofs.Timespan.ShownPhrase

/-!
Reading timespans as they are shown. Where every amount that is shown is a whole number, the timespan is
read back from its text, whatever the accuracy (`read?_display`).
-/

namespace HostTypes

namespace Timespan

variable {accuracy n : Nat} {unit : TimeUnit} {span : Timespan}

/-- A whole number of seconds below one hour, of minutes below one day, and of hours from there on. -/
structure IsExact (span : Timespan) : Prop where
  small : span.millis.toNat < 2 ^ 53
  seconds : span.millis.toNat < 3600000 → 1000 ∣ span.millis.toNat
  minutes : 3600000 ≤ span.millis.toNat → span.millis.toNat < 86400000 → 60000 ∣ span.millis.toNat
  hours : 86400000 ≤ span.millis.toNat → 3600000 ∣ span.millis.toNat

theorem inUnit_mul (member : unit ∈ TimeUnit.all) (small : n * unit.millis < twoTo 53) :
    inUnit (n * unit.millis) unit = .ofNat n := by
  obtain ⟨pos, bound⟩ := PhraseTerm.millis_bounds unit member
  exact Binary64.ofNat_mul_div_ofNat small bound pos.ne'

theorem rational_shownTerm (accuracy : Nat) (small : n < twoTo 53) (unit : TimeUnit) :
    (shownTerm accuracy (.ofNat n) unit).rational = n :=
  Binary64.rational_displayed_ofNat accuracy small

theorem dvd_of_displayStep? (exact : span.IsExact) {big small : TimeUnit}
    (found : displayStep? span.millis.toNat = some (big, small)) :
    small.millis ∣ span.millis.toNat ∧ small.millis ∣ big.millis := by
  rcases displayStep?_cases span.millis.toNat with ⟨none, _⟩ | ⟨step, _, below⟩ |
    ⟨step, least, below⟩ | ⟨step, least⟩
  · cases found.symm.trans none
  all_goals cases found.symm.trans step
  · exact ⟨exact.seconds below, by decide⟩
  · exact ⟨exact.minutes least below, by decide⟩
  · exact ⟨exact.hours least, by decide⟩

theorem one_exact (accuracy : Nat) {millis : Nat} (member : unit ∈ TimeUnit.all)
    (even : n * unit.millis = millis) (small : millis < twoTo 53) :
    let phrase : Phrase := ⟨shownTerm accuracy (inUnit millis unit) unit, []⟩
    (∀ term ∈ phrase.terms, ∃ n : ℕ, term.rational = n) ∧ phrase.exactMillis = millis := by
  subst even
  have amount := PhraseTerm.amount_lt member small
  rw [inUnit_mul member small]
  refine ⟨List.forall_mem_singleton.2 ⟨n, rational_shownTerm accuracy amount unit⟩, ?_⟩
  simp [Phrase.exactMillis, Phrase.terms, rational_shownTerm accuracy amount unit]

theorem two_exact (accuracy : Nat) {millis quotient rest : Nat} {big small : TimeUnit}
    (sum : quotient * big.millis + rest * small.millis = millis) (whole : quotient < twoTo 53)
    (part : rest < twoTo 53) :
    let phrase : Phrase :=
      ⟨shownTerm accuracy (.ofNat quotient) big, [(1, shownTerm accuracy (.ofNat rest) small)]⟩
    (∀ term ∈ phrase.terms, ∃ n : ℕ, term.rational = n) ∧ phrase.exactMillis = millis := by
  subst sum
  have first := rational_shownTerm accuracy whole big
  have second := rational_shownTerm accuracy part small
  refine ⟨List.forall_mem_cons.2 ⟨⟨_, first⟩, List.forall_mem_singleton.2 ⟨_, second⟩⟩, ?_⟩
  simp [Phrase.exactMillis, Phrase.terms, first, second]

/-- What is shown adds up to the timespan. -/
theorem shown_exact (accuracy : Nat) (exact : span.IsExact) :
    (∀ term ∈ (span.shown accuracy).terms, ∃ n : ℕ, term.rational = n) ∧
      (span.shown accuracy).exactMillis = span.millis.toNat := by
  have bound : span.millis.toNat < twoTo 53 := exact.small
  rcases shown_cases accuracy span with ⟨none, same⟩ | ⟨big, small, found, parts⟩
  · have below : span.millis.toNat < 3600000 :=
      (lt_of_displayStep?_eq_none none).trans (by decide)
    obtain ⟨n, seconds⟩ := exact.seconds below
    have isSecond : TimeUnit.second ∈ TimeUnit.all := by decide
    rw [same]
    exact one_exact accuracy isSecond ((Nat.mul_comm n _).trans seconds.symm) bound
  · obtain ⟨divides, units⟩ := dvd_of_displayStep? exact found
    obtain ⟨isBig, isSmall⟩ := mem_all_of_displayStep? found
    generalize span.millis.toNat = millis at bound divides parts ⊢
    obtain ⟨rest, remainder⟩ : small.millis ∣ millis % big.millis := (Nat.dvd_mod_iff units).2 divides
    rw [Nat.mul_comm] at remainder
    have smallRest : rest * small.millis < twoTo 53 :=
      remainder ▸ (Nat.mod_le _ _).trans_lt bound
    have amount := PhraseTerm.amount_lt isSmall smallRest
    have whole : millis / big.millis * big.millis + rest * small.millis = millis := by
      rw [← remainder, Nat.mul_comm, Nat.div_add_mod]
    rw [remainder, inUnit_mul isSmall smallRest] at parts
    rcases parts with ⟨none, same⟩ | ⟨_, same⟩
    · have even : millis / big.millis * big.millis = millis := by
        have finite : (Binary64.ofNat rest).isFinite :=
          Binary64.isFinite_ofNat (amount.le.trans (by decide))
        rw [Binary64.display_eq_zero_iff finite, Binary64.unitsOf_ofNat amount] at none
        have zero : rest = 0 := (Nat.mul_eq_zero.1 none).resolve_right (tenTo_pos accuracy).ne'
        rwa [zero, Nat.zero_mul, Nat.add_zero] at whole
      rw [same]
      exact one_exact accuracy isBig even bound
    · rw [same]
      exact two_exact accuracy whole ((Nat.div_le_self _ big.millis).trans_lt bound) amount

end Timespan

theorem read?_display (accuracy : Nat) (span : Timespan) (exact : span.IsExact) :
    Timespan.read? (span.display accuracy).toList = some span := by
  obtain ⟨whole, sum⟩ := Timespan.shown_exact accuracy exact
  rw [Timespan.display_eq, Phrase.read?_text (Timespan.shown_wellFormed accuracy span)
    (Timespan.shown_oneScale accuracy span) (Timespan.shown_real accuracy span) whole sum exact.small,
    UInt64.ofNat_toNat]

theorem read?_display_hours :
    let span : Timespan := ⟨97200000⟩
    span.IsExact ∧ span.display 2 = "1 day and 3 hours" ∧
      Timespan.read? "1 day and 3 hours".toList = some span := by
  intro span
  have exact : span.IsExact := ⟨by decide, by decide, by decide, by decide⟩
  have text : span.display 2 = "1 day and 3 hours" := by decide +kernel
  exact ⟨exact, text, text ▸ read?_display 2 span exact⟩

end HostTypes
