import HostTypes.Proofs.Catalog.Conflicts
import HostTypes.Proofs.Pattern.CaseFlag
import HostTypes.Proofs.Pattern.Spans

/-!
How entries are named by users. A registered pattern that is well-formed by itself matches an input
exactly if it describes all of it. A pattern that is not can only be registered if a beginning of it is
one, up to a parenthesis that closes the group put around it (`LeavesGroup`); such a pattern is not
anchored.
-/

namespace HostTypes

namespace Pattern

def WellFormed (source : String) : Prop :=
  (read? source.toList).isSome

/-- A pattern of its own matches the whole input, whatever the case. -/
def Describes (source input : String) : Prop :=
  ∃ pattern, caseless? source.toList = some pattern ∧
    pattern.Spans input.toList 0 input.toList.length

/-- A text that is no pattern, but begins with one that is followed by a closing parenthesis. -/
def LeavesGroup (source : String) : Prop :=
  ¬ WellFormed source ∧
    ∃ before after, source.toList = before ++ ')' :: after ∧ (read? before).isSome

theorem wellFormed_or_leavesGroup {source : String} {pattern : Pattern}
    (read : anchored? source = some pattern) : WellFormed source ∨ LeavesGroup source := by
  rcases anchored?_cases read with ⟨body, alone, _⟩ | ⟨broken, before, after, split, alone⟩
  · left
    rw [WellFormed, ← isSome_caseless?, alone]
    rfl
  · right
    refine ⟨?_, before, after, split, isSome_caseless? before ▸ alone⟩
    rw [WellFormed, ← isSome_caseless?, broken]
    exact Bool.false_ne_true

theorem isMatch_anchored?_iff {source input : String} {pattern : Pattern}
    (read : anchored? source = some pattern) (wellFormed : WellFormed source) :
    pattern.isMatch input ↔ Describes source input := by
  rcases anchored?_cases read with ⟨body, alone, rfl⟩ | ⟨broken, _⟩
  · rw [isMatch_anchored_iff, Describes, alone]
    simp
  · rw [WellFormed, ← isSome_caseless?, broken] at wellFormed
    cases wellFormed

end Pattern

/-! ## Compiled patterns -/

theorem exists_of_mapM_eq_error {α β ε : Type} {f : α → Except ε β} {xs : List α} {error : ε}
    (failed : xs.mapM f = .error error) : ∃ x ∈ xs, f x = .error error := by
  induction xs with
  | nil => cases failed
  | cons x rest ih =>
      rw [List.mapM_cons] at failed
      cases first : f x with
      | error other =>
          rw [first] at failed
          obtain ⟨⟩ := failed
          exact ⟨x, List.mem_cons_self, first⟩
      | ok y =>
          rw [first] at failed
          cases others : rest.mapM f with
          | error other =>
              rw [others] at failed
              obtain ⟨⟩ := failed
              obtain ⟨x, member, same⟩ := ih others
              exact ⟨x, List.mem_cons_of_mem _ member, same⟩
          | ok later =>
              rw [others] at failed
              cases failed

theorem exists_of_compilePatterns {entry : TypeEntry} {source : String}
    (refused : entry.compilePatterns = .error source) :
    source ∈ entry.patterns ∧ Pattern.anchored? source = none := by
  obtain ⟨read, refuses, compiles⟩ : ∃ read : String → Except String Pattern,
      (∀ source other, read source = .error other →
        other = source ∧ Pattern.anchored? source = none) ∧
        entry.compilePatterns =
          entry.patterns.mapM read >>= fun patterns => pure { entry with compiled := patterns } := by
    refine ⟨_, fun source other failed => ?_, rfl⟩
    cases read : Pattern.anchored? source with
    | some pattern => simp [read] at failed
    | none => simpa [read, eq_comm] using failed
  rw [compiles] at refused
  cases done : entry.patterns.mapM read with
  | ok patterns => simp [done, bind, Except.bind, pure, Except.pure] at refused
  | error other =>
      rw [done] at refused
      obtain ⟨⟩ := refused
      obtain ⟨listed, member, failed⟩ := exists_of_mapM_eq_error done
      obtain ⟨rfl, none⟩ := refuses listed _ failed
      exact ⟨member, none⟩

/-- The compiled form of an entry is that of all its patterns. -/
def TypeEntry.Compiled (entry : TypeEntry) : Prop :=
  entry.Readable ∧ entry.compiled = entry.patterns.filterMap Pattern.anchored?

namespace CatalogBuilder

theorem register_of_readable {builder : CatalogBuilder} {entry : TypeEntry}
    (named : isCodeName entry.codeName) (free : builder.conflict? entry = none)
    (readable : entry.Readable) :
    builder.register entry = .ok (builder.append entry.ready, []) :=
  (Registers.added named free readable).register_eq

theorem compiled_perform {builder : CatalogBuilder} (call : Registration)
    (compiled : ∀ entry ∈ builder.entries, entry.Compiled) :
    ∀ entry ∈ (builder.perform call).entries, entry.Compiled := by
  cases call with
  | converter converter => exact compiled
  | entry entry =>
      obtain ⟨outcome, next, called⟩ := builder.exists_registers entry
      rw [called.perform_eq]
      cases called with
      | unnamed | conflicting | skipped | unreadable => exact compiled
      | added named free readable =>
          intro other member
          rcases List.mem_append.1 member with old | new
          · exact compiled other old
          · rw [List.mem_singleton.1 new]
            exact ⟨readable, rfl⟩

theorem compiled_performAll {builder : CatalogBuilder} (calls : List Registration)
    (compiled : ∀ entry ∈ builder.entries, entry.Compiled) :
    ∀ entry ∈ (builder.performAll calls).entries, entry.Compiled := by
  induction calls generalizing builder with
  | nil => exact compiled
  | cons call rest ih => exact ih (compiled_perform call compiled)

end CatalogBuilder

theorem TypeEntry.Compiled.matchesUserInput_iff {entry : TypeEntry} (compiled : entry.Compiled)
    {input : String} :
    entry.matchesUserInput input ↔ ∃ source ∈ entry.patterns, ∃ pattern,
      Pattern.anchored? source = some pattern ∧ pattern.isMatch input := by
  rw [TypeEntry.matchesUserInput, compiled.2, List.any_eq_true]
  constructor
  · rintro ⟨pattern, member, matches'⟩
    obtain ⟨source, listed, read⟩ := List.mem_filterMap.1 member
    exact ⟨source, listed, pattern, read, matches'⟩
  · rintro ⟨source, listed, pattern, read, matches'⟩
    exact ⟨pattern, List.mem_filterMap.2 ⟨source, listed, read⟩, matches'⟩

/-! ## The statement -/

theorem userInput_anchored (hierarchy : Hierarchy) (settings : Settings) (calls : List Registration) :
    let builder := (CatalogBuilder.ofSettings hierarchy settings).performAll calls
    (∀ entry ∈ builder.entries,
      (∀ source ∈ entry.patterns, Pattern.WellFormed source ∨ Pattern.LeavesGroup source) ∧
      ∀ input,
        ((∃ source ∈ entry.patterns, Pattern.Describes source input) →
          entry.matchesUserInput input) ∧
        (entry.matchesUserInput input →
          (∃ source ∈ entry.patterns, Pattern.Describes source input) ∨
            ∃ source ∈ entry.patterns, Pattern.LeavesGroup source)) ∧
    ∀ entry : TypeEntry, isCodeName entry.codeName → ¬ builder.Conflicts entry →
      (∃ source ∈ entry.patterns,
        ¬ Pattern.WellFormed source ∧ ¬ Pattern.LeavesGroup source) →
      (∃ source ∈ entry.patterns, Pattern.anchored? source = none ∧
        builder.register entry = .error (.invalidPattern entry.codeName source)) ∧
      builder.perform (.entry entry) = builder := by
  intro builder
  have indexed : builder.Indexed := (CatalogBuilder.indexed_ofSettings _ _).performAll calls
  have compiled : ∀ entry ∈ builder.entries, entry.Compiled :=
    CatalogBuilder.compiled_performAll calls nofun
  refine ⟨fun entry member => ?_, fun entry named free broken => ?_⟩
  · have ready := compiled entry member
    have proper (source : String) (listed : source ∈ entry.patterns) :
        Pattern.WellFormed source ∨ Pattern.LeavesGroup source := by
      obtain ⟨pattern, read⟩ := Option.isSome_iff_exists.1 (ready.1 source listed)
      exact Pattern.wellFormed_or_leavesGroup read
    refine ⟨proper, fun input => ⟨?_, fun matches' => ?_⟩⟩
    · rintro ⟨source, listed, describes⟩
      obtain ⟨pattern, read⟩ := Option.isSome_iff_exists.1 (ready.1 source listed)
      have wellFormed : Pattern.WellFormed source := by
        obtain ⟨_, alone, _⟩ := describes
        rw [Pattern.WellFormed, ← Pattern.isSome_caseless?, alone]
        rfl
      exact ready.matchesUserInput_iff.2
        ⟨source, listed, pattern, read, (Pattern.isMatch_anchored?_iff read wellFormed).2 describes⟩
    · obtain ⟨source, listed, pattern, read, found⟩ := ready.matchesUserInput_iff.1 matches'
      rcases proper source listed with wellFormed | leaves
      · exact .inl ⟨source, listed, (Pattern.isMatch_anchored?_iff read wellFormed).1 found⟩
      · exact .inr ⟨source, listed, leaves⟩
  · obtain ⟨source, listed, ill, stays⟩ := broken
    have unreadable : ¬ entry.Readable := fun readable => by
      obtain ⟨pattern, read⟩ := Option.isSome_iff_exists.1 (readable source listed)
      exact (Pattern.wellFormed_or_leavesGroup read).elim ill stays
    have refused : ∃ source ∈ entry.patterns, Pattern.anchored? source = none ∧
        builder.register entry = .error (.invalidPattern entry.codeName source) := by
      cases compiles : entry.compilePatterns with
      | ok ready => exact absurd (compilePatterns_eq_ok_iff.1 compiles).1 unreadable
      | error other =>
          obtain ⟨member, unread⟩ := exists_of_compilePatterns compiles
          exact ⟨other, member, unread, CatalogBuilder.register_eq_error_iff.2
            (.inr (.inr ⟨named, indexed.conflict?_eq_none_iff.2 free, other, compiles, rfl⟩))⟩
    refine ⟨refused, ?_⟩
    obtain ⟨other, _, _, failed⟩ := refused
    exact CatalogBuilder.perform_of_error failed

theorem userInput_anchored_choice :
    let entry : TypeEntry := { codeName := "letter", native := ⟨0⟩, patterns := ["a|b"] }
    let broken : TypeEntry := { codeName := "other", native := ⟨1⟩, patterns := ["a", "(b"] }
    let builder := (CatalogBuilder.ofSettings .diamond {}).performAll [.entry entry]
    entry.ready ∈ builder.entries ∧ Pattern.Describes "a|b" "B" ∧
      ¬ Pattern.Describes "a|b" "ab" ∧ builder.perform (.entry broken) = builder := by
  intro entry broken builder
  obtain ⟨anchored, refused⟩ := userInput_anchored .diamond {} [.entry entry]
  have readable : entry.Readable := fun source listed => by
    rw [List.mem_singleton.1 listed]
    rfl
  have added : builder = (CatalogBuilder.ofSettings .diamond {}).append entry.ready :=
    CatalogBuilder.Registers.perform_eq (.added (by decide) rfl readable)
  have entries : builder.entries = [entry.ready] := congrArg CatalogBuilder.entries added
  have member : entry.ready ∈ builder.entries := entries ▸ List.mem_cons_self
  have wellFormed : Pattern.WellFormed "a|b" := by
    rw [Pattern.WellFormed]
    decide
  obtain ⟨_, matching⟩ := anchored entry.ready member
  have single (proof : String → Prop) (holds : ∃ source ∈ entry.patterns, proof source) :
      proof "a|b" := by
    obtain ⟨source, listed, held⟩ := holds
    rwa [List.mem_singleton.1 listed] at held
  refine ⟨member, ?_, fun describes => ?_, (refused broken (by decide) ?_ ?_).2⟩
  · rcases (matching "B").2 (by decide) with described | leaves
    · exact single (Pattern.Describes · "B") described
    · exact absurd wellFormed (single Pattern.LeavesGroup leaves).1
  · have found := (matching "ab").1 ⟨_, List.mem_singleton.2 rfl, describes⟩
    exact absurd found (by decide)
  · rintro ⟨other, listed, same⟩
    have first : other = entry.ready := List.mem_singleton.1 (entries ▸ listed)
    rw [first] at same
    exact absurd same (by decide)
  · refine ⟨"(b", by decide, ?_, ?_⟩
    · rw [Pattern.WellFormed]
      decide
    · rintro ⟨_, before, after, split, _⟩
      have inside : ')' ∈ "(b".toList := split ▸ List.mem_append_right _ List.mem_cons_self
      exact absurd inside (by decide)

/-- The text closes the group around it and opens another one, so each of its ends has one anchor. -/
def Pattern.split : String :=
  "a)|(?:b"

/-- An entry with a text for a pattern that is none is let in, and matches an input that none of its
patterns describes. -/
theorem userInput_unanchored_split :
    let entry : TypeEntry := { codeName := "letter", native := ⟨0⟩, patterns := [Pattern.split] }
    let builder := CatalogBuilder.ofSettings .diamond {}
    ¬ Pattern.WellFormed Pattern.split ∧ builder.register entry = .ok (builder.append entry.ready, []) ∧
      entry.ready.matchesUserInput "axyz" ∧
      ¬ ∃ source ∈ entry.patterns, Pattern.Describes source "axyz" := by
  intro entry builder
  have broken : Pattern.read? Pattern.split.toList = none := by decide
  have ill : ¬ Pattern.WellFormed Pattern.split := by
    rw [Pattern.WellFormed, broken]
    exact Bool.false_ne_true
  have readable : entry.Readable := fun source listed => by
    rw [List.mem_singleton.1 listed]
    rfl
  refine ⟨ill, ?_, by decide, ?_⟩
  · exact CatalogBuilder.register_of_readable (by decide) rfl readable
  · rintro ⟨source, listed, pattern, alone, _⟩
    rw [List.mem_singleton.1 listed] at alone
    refine ill ?_
    rw [Pattern.WellFormed, ← Pattern.isSome_caseless?, alone]
    rfl

end HostTypes
