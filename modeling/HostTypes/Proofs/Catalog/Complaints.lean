import HostTypes.Proofs.Catalog.Reading
import Mathlib.Data.List.TakeWhile

/-!
What a failed reading reports. Reading a text as one type reports every entry that is tried and finds
the text invalid, each once (`mem_diagnostics_parseDirect`, `nodup_diagnostics_parseDirect`). With the
help of converters a text is read as several types, one after the other, and all that these attempts
report is reported (`diagnostics_parse`). So an entry is reported twice exactly if it complains in two
of them (`parse_complaints`).
-/

namespace HostTypes

def TypeEntry.Rejects (entry : TypeEntry) (text : String) (context : ParseContext)
    (reason : String) : Prop :=
  ∃ parser, entry.parser = some parser ∧ parser.canParse context ∧
    parser.parse text context = .error (.invalid reason)

theorem TypeEntry.Rejects.unique {entry : TypeEntry} {text : String} {context : ParseContext}
    {reason other : String} (rejects : entry.Rejects text context reason)
    (rejectsToo : entry.Rejects text context other) : reason = other := by
  obtain ⟨parser, has, _, invalid⟩ := rejects
  obtain ⟨twin, same, _, invalidToo⟩ := rejectsToo
  obtain rfl : parser = twin := by simpa [has] using same
  simpa [invalid] using invalidToo

theorem TypeEntry.Rejects.not_reads {entry : TypeEntry} {text : String} {context : ParseContext}
    {reason : String} (rejects : entry.Rejects text context reason) (value : Value) :
    ¬ entry.Reads text context value := by
  obtain ⟨parser, has, _, invalid⟩ := rejects
  rintro ⟨twin, same, _, reads⟩
  obtain rfl : parser = twin := by simpa [has] using same
  simp [invalid] at reads

namespace Catalog

variable {catalog : Catalog} {text : String} {type target : TypeKey} {context : ParseContext}
  {entry : TypeEntry} {diagnostic : ParseDiagnostic}

/-! ## Reading as one type -/

/-- When a text is read as a type, the entry is tried, since no entry before it reads the text, and
finds the text invalid. -/
structure Complains (catalog : Catalog) (text : String) (type : TypeKey) (context : ParseContext)
    (entry : TypeEntry) (reason : String) : Prop where
  fits : catalog.hierarchy.isAssignable entry.native type
  rejects : entry.Rejects text context reason
  tried : ∃ before after, catalog.entries = before ++ entry :: after ∧
    ∀ earlier ∈ before, catalog.hierarchy.isAssignable earlier.native type →
      ∀ value, ¬ earlier.Reads text context value

def complaint? (catalog : Catalog) (text : String) (type : TypeKey) (context : ParseContext)
    (entry : TypeEntry) : Option ParseDiagnostic :=
  (catalog.applicableParser? type context entry).bind fun parser =>
    match parser.parse text context with
    | .error (.invalid reason) => some ⟨entry.codeName, reason⟩
    | _ => none

theorem complaint?_eq_some_iff :
    catalog.complaint? text type context entry = some diagnostic ↔
      catalog.hierarchy.isAssignable entry.native type ∧
        entry.Rejects text context diagnostic.reason ∧ entry.codeName = diagnostic.codeName := by
  simp only [complaint?, applicableParser?, Option.bind_eq_some_iff, Option.filter_eq_some_iff,
    Bool.and_eq_true, TypeEntry.Rejects]
  constructor
  · rintro ⟨parser, ⟨has, applies, fits⟩, complains⟩
    split at complains
    · rename_i invalid
      cases complains
      exact ⟨fits, ⟨parser, has, applies, invalid⟩, rfl⟩
    · cases complains
  · rintro ⟨fits, ⟨parser, has, applies, invalid⟩, named⟩
    refine ⟨parser, ⟨has, applies, fits⟩, ?_⟩
    rw [invalid, named]

def isUnread (catalog : Catalog) (text : String) (type : TypeKey) (context : ParseContext)
    (entry : TypeEntry) : Bool :=
  (catalog.read? text type context entry).isNone

theorem isUnread_iff :
    catalog.isUnread text type context entry = true ↔
      (catalog.hierarchy.isAssignable entry.native type →
        ∀ value, ¬ entry.Reads text context value) := by
  rw [isUnread, Option.isNone_iff_eq_none, read?_eq_none_iff]

theorem diagnostics_readWith (entries : List TypeEntry) :
    (catalog.readWith text type context entries).diagnostics =
      (entries.takeWhile (catalog.isUnread text type context)).filterMap
        (catalog.complaint? text type context) := by
  induction entries with
  | nil => rfl
  | cons entry rest ih =>
      rw [readWith, List.takeWhile_cons, isUnread, read?]
      cases applicable : catalog.applicableParser? type context entry with
      | none => simpa [complaint?, applicable] using ih
      | some parser =>
          cases outcome : parser.parse text context with
          -- A reading ends the scan; what would come after it is not tried.
          | ok value => simp [outcome, Except.toOption]
          | error failure =>
              cases failure with
              | noMatch => simpa [complaint?, applicable, outcome, Except.toOption] using ih
              | invalid reason =>
                  simpa [complaint?, applicable, outcome, Except.toOption, ParseResult.after] using ih

theorem mem_diagnostics_parseDirect :
    diagnostic ∈ (catalog.parseDirect text type context).diagnostics ↔ ∃ entry ∈ catalog.entries,
      entry.codeName = diagnostic.codeName ∧
        catalog.Complains text type context entry diagnostic.reason := by
  rw [parseDirect, diagnostics_readWith, List.mem_filterMap]
  constructor
  · rintro ⟨entry, member, complains⟩
    obtain ⟨fits, rejects, named⟩ := complaint?_eq_some_iff.1 complains
    -- The complaint is in the part that is tried, and the entries go on after that part.
    obtain ⟨before, after, split⟩ := List.append_of_mem member
    have whole := List.takeWhile_append_dropWhile (p := catalog.isUnread text type context)
      (l := catalog.entries)
    rw [split, List.append_assoc, List.cons_append] at whole
    have unread : ∀ earlier ∈ before, catalog.isUnread text type context earlier :=
      fun earlier inside => List.mem_takeWhile_imp (split ▸ List.mem_append_left _ inside)
    exact ⟨entry, (List.takeWhile_sublist _).subset member, named, fits, rejects, before, _, whole.symm,
      fun earlier inside => isUnread_iff.1 (unread earlier inside)⟩
  · rintro ⟨entry, _, named, fits, rejects, before, after, split, unread⟩
    refine ⟨entry, ?_, complaint?_eq_some_iff.2 ⟨fits, rejects, named⟩⟩
    rw [split, List.takeWhile_append_of_pos fun earlier inside =>
        isUnread_iff.2 (unread earlier inside),
      List.takeWhile_cons_of_pos (isUnread_iff.2 fun _ => rejects.not_reads)]
    exact List.mem_append_right _ List.mem_cons_self

theorem nodup_diagnostics_parseDirect (frozen : catalog.IsFrozen) :
    ((catalog.parseDirect text type context).diagnostics.map ParseDiagnostic.codeName).Nodup := by
  have distinct := List.pairwise_map.1 frozen.codeNames_nodup
  rw [parseDirect, diagnostics_readWith, List.Nodup, List.pairwise_map, List.pairwise_filterMap]
  refine (distinct.sublist (List.takeWhile_sublist _)).imp ?_
  intro first second different one found other foundToo same
  have named := (complaint?_eq_some_iff.1 found).2.2
  have namedToo := (complaint?_eq_some_iff.1 foundToo).2.2
  exact different (named.trans (same.trans namedToo.symm))

theorem disjoint_diagnostics_iff (frozen : catalog.IsFrozen) {first second : TypeKey} :
    ((catalog.parseDirect text first context).diagnostics.map ParseDiagnostic.codeName).Disjoint
        ((catalog.parseDirect text second context).diagnostics.map ParseDiagnostic.codeName) ↔
      ∀ entry ∈ catalog.entries, ∀ reason, catalog.Complains text first context entry reason →
        ¬ catalog.Complains text second context entry reason := by
  constructor
  · intro disjoint entry member reason here there
    have reported (type : TypeKey) (complains : catalog.Complains text type context entry reason) :
        entry.codeName ∈
          (catalog.parseDirect text type context).diagnostics.map ParseDiagnostic.codeName :=
      List.mem_map.2 ⟨⟨entry.codeName, reason⟩,
        mem_diagnostics_parseDirect.2 ⟨entry, member, rfl, complains⟩, rfl⟩
    exact disjoint (reported first here) (reported second there)
  · intro apart codeName inFirst inSecond
    obtain ⟨one, reported, rfl⟩ := List.mem_map.1 inFirst
    obtain ⟨two, reportedToo, same⟩ := List.mem_map.1 inSecond
    obtain ⟨entry, member, named, here⟩ := mem_diagnostics_parseDirect.1 reported
    obtain ⟨twin, memberToo, namedToo, there⟩ := mem_diagnostics_parseDirect.1 reportedToo
    have equal : entry.codeName = twin.codeName := named.trans (same.symm.trans namedToo.symm)
    obtain rfl := List.inj_on_of_nodup_map frozen.codeNames_nodup member memberToo equal
    rw [here.rejects.unique there.rejects] at here
    exact apart entry member two.reason here there

/-! ## Reading with the help of converters -/

/-- The types that a text is read as, one after the other, as long as that fails: the target, and the
source of every converter into it that the context allows. -/
def attempts (catalog : Catalog) (target : TypeKey) (context : ParseContext) : List TypeKey :=
  target :: ((catalog.graph.convertersInto target).filter (mayRead context)).map Converter.source

theorem diagnostics_readThrough {converters : List Converter}
    (unread : (catalog.readThrough text context converters).value? = none) :
    (catalog.readThrough text context converters).diagnostics =
      ((converters.filter (mayRead context)).map Converter.source).flatMap fun source =>
        (catalog.parseDirect text source context).diagnostics := by
  induction converters with
  | nil => rfl
  | cons converter rest ih =>
      rw [readThrough] at unread ⊢
      by_cases allowed : mayRead context converter
      · rw [if_pos allowed] at unread ⊢
        rw [List.filter_cons_of_pos allowed, List.map_cons, List.flatMap_cons]
        cases made : (catalog.parseDirect text converter.source context).value?.bind
            converter.apply with
        | none =>
            simp only [made] at unread ⊢
            exact congrArg (_ ++ ·) (ih unread)
        | some value => simp [made] at unread
      · rw [if_neg allowed] at unread ⊢
        rw [List.filter_cons_of_neg allowed]
        exact ih unread

theorem diagnostics_parse (unread : (catalog.parse text target context).value? = none) :
    (catalog.parse text target context).diagnostics = (catalog.attempts target context).flatMap
      fun type => (catalog.parseDirect text type context).diagnostics := by
  rw [parse] at unread ⊢
  cases direct : (catalog.parseDirect text target context).value? with
  | some value => simp [direct] at unread
  | none =>
      simp only [direct, Option.isSome_none, Bool.false_eq_true, if_false] at unread ⊢
      rw [attempts, List.flatMap_cons, ← diagnostics_readThrough unread]
      rfl

theorem diagnostics_of_outcome {error : ParseError}
    (failed : catalog.outcome text target (catalog.parse text target context) = .error error) :
    error.diagnostics = (catalog.attempts target context).flatMap fun type =>
      (catalog.parseDirect text type context).diagnostics := by
  unfold outcome at failed
  cases unread : (catalog.parse text target context).value? with
  | some value => simp [unread] at failed
  | none =>
      simp only [unread, Except.error.injEq] at failed
      rw [← failed]
      exact diagnostics_parse unread

end Catalog

/-! ## The statement -/

theorem parse_complaints (catalog : Catalog) (frozen : catalog.IsFrozen) (text : String)
    (target : TypeKey) (context : ParseContext) (error : ParseError)
    (failed : catalog.outcome text target (catalog.parse text target context) = .error error) :
    let attempts := catalog.attempts target context
    (∀ codeName reason, ⟨codeName, reason⟩ ∈ error.diagnostics ↔
      ∃ entry ∈ catalog.entries, entry.codeName = codeName ∧
        ∃ type ∈ attempts, catalog.Complains text type context entry reason) ∧
    ((error.diagnostics.map ParseDiagnostic.codeName).Nodup ↔
      attempts.Pairwise fun first second => ∀ entry ∈ catalog.entries, ∀ reason,
        catalog.Complains text first context entry reason →
          ¬ catalog.Complains text second context entry reason) ∧
    ∀ type, ((catalog.parseDirect text type context).diagnostics.map
      ParseDiagnostic.codeName).Nodup := by
  intro attempts
  have reported : error.diagnostics = attempts.flatMap fun type =>
      (catalog.parseDirect text type context).diagnostics :=
    Catalog.diagnostics_of_outcome failed
  have once (type : TypeKey) : ((catalog.parseDirect text type context).diagnostics.map
      ParseDiagnostic.codeName).Nodup :=
    Catalog.nodup_diagnostics_parseDirect frozen
  refine ⟨?_, ?_, once⟩
  · intro codeName reason
    simp only [reported, List.mem_flatMap, Catalog.mem_diagnostics_parseDirect]
    constructor
    · rintro ⟨type, attempted, entry, member, named, complains⟩
      exact ⟨entry, member, named, type, attempted, complains⟩
    · rintro ⟨entry, member, named, type, attempted, complains⟩
      exact ⟨type, attempted, entry, member, named, complains⟩
  · rw [reported, List.map_flatMap, List.nodup_flatMap, and_iff_right fun type _ => once type]
    exact List.Pairwise.iff fun _ _ => Catalog.disjoint_diagnostics_iff frozen

/-- Nothing is a proper name, and what is named can be had as a located thing. -/
def Catalog.stern : Catalog where
  hierarchy := .diamond
  display := {}
  entries :=
    [{ codeName := "named", native := ⟨1⟩
       parser := some (.ofFunctions (some fun _ _ => .error (.invalid "no good")) (fun _ => "named")
          none none none) }]
  graph := ⟨.diamond, [{ source := ⟨1⟩, target := ⟨2⟩, apply := some }]⟩
  issues := []

theorem Catalog.stern_isFrozen : stern.IsFrozen :=
  ⟨.diamond, {}, stern.entries.map .entry ++ stern.graph.converters.map .converter, rfl⟩

theorem parse_complaints_stern :
    Catalog.stern.IsFrozen ∧
      Catalog.stern.outcome "steve" ⟨2⟩ (Catalog.stern.parse "steve" ⟨2⟩ .default) =
        .error ⟨"steve", "Located", [⟨"named", "no good"⟩]⟩ ∧
      (∃ entry ∈ Catalog.stern.entries, ∃ type ∈ Catalog.stern.attempts ⟨2⟩ .default,
        Catalog.stern.Complains "steve" type .default entry "no good") ∧
      (Catalog.stern.attempts ⟨2⟩ .default).Pairwise fun first second =>
        ∀ entry ∈ Catalog.stern.entries, ∀ reason,
          Catalog.stern.Complains "steve" first .default entry reason →
            ¬ Catalog.stern.Complains "steve" second .default entry reason := by
  have failed : Catalog.stern.outcome "steve" ⟨2⟩ (Catalog.stern.parse "steve" ⟨2⟩ .default) =
      .error ⟨"steve", "Located", [⟨"named", "no good"⟩]⟩ := rfl
  obtain ⟨listed, repeated, _⟩ :=
    parse_complaints .stern Catalog.stern_isFrozen "steve" ⟨2⟩ .default _ failed
  obtain ⟨entry, member, _, complains⟩ := (listed "named" "no good").1 List.mem_cons_self
  exact ⟨Catalog.stern_isFrozen, failed, ⟨entry, member, complains⟩, repeated.1 (by decide)⟩

/-- As an object, `steve` is read directly and as the source of the converter. -/
theorem parse_complaints_repeated :
    Catalog.stern.IsFrozen ∧
      Catalog.stern.outcome "steve" ⟨0⟩ (Catalog.stern.parse "steve" ⟨0⟩ .default) =
        .error ⟨"steve", "Object", [⟨"named", "no good"⟩, ⟨"named", "no good"⟩]⟩ :=
  ⟨Catalog.stern_isFrozen, rfl⟩

end HostTypes
