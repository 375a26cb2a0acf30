import HostTypes.Toml.Reader
import Mathlib.Tactic.SplitIfs

/-!
The integers of documents. A reader takes an integer only if it fits into sixty-four bits; values are put
into a document as they are read, and so all integers of a document fit (`fieldsFit_of_read?`).
-/

namespace HostTypes

namespace Toml

/-- All integers in a value fit into sixty-four bits. -/
inductive Fits : Toml → Prop where
  | text (content : String) : Fits (text content)
  | integer {value : Int} (least : -twoTo 63 ≤ value) (greatest : value < twoTo 63) :
      Fits (integer value)
  | float : Fits float
  | truth (value : Bool) : Fits (truth value)
  | moment : Fits moment
  | array {members : List Toml} (each : ∀ member ∈ members, Fits member) : Fits (array members)
  | tables {members : List Fields} (each : ∀ fields ∈ members, ∀ field ∈ fields, Fits field.2) :
      Fits (tables members)
  | table (origin : TableOrigin) {fields : Fields} (each : ∀ field ∈ fields, Fits field.2) :
      Fits (table origin fields)

def FieldsFit (fields : Fields) : Prop :=
  ∀ field ∈ fields, Fits field.2

theorem fieldsFit_nil : FieldsFit [] :=
  List.forall_mem_nil _

theorem fits_table_iff {origin : TableOrigin} {fields : Fields} :
    Fits (table origin fields) ↔ FieldsFit fields := by
  constructor
  · rintro ⟨⟩
    assumption
  · exact .table origin

theorem fits_tables_iff {members : List Fields} :
    Fits (tables members) ↔ ∀ fields ∈ members, FieldsFit fields := by
  constructor
  · rintro ⟨⟩
    assumption
  · exact .tables

/-! ## Changes of fields -/

section

variable {fields changed : Fields} {name : String} {value : Toml} {change : Fields → Option Fields}

theorem FieldsFit.lookup (fit : FieldsFit fields) (found : fields.lookup name = some value) :
    Fits value := by
  obtain ⟨before, after, rfl, -⟩ := List.lookup_eq_some_iff.1 found
  exact fit (name, value) (List.mem_append_right before List.mem_cons_self)

theorem FieldsFit.concat (fit : FieldsFit fields) (fits : Fits value) :
    FieldsFit (fields ++ [(name, value)]) :=
  List.forall_mem_append.2 ⟨fit, List.forall_mem_singleton.2 fits⟩

theorem FieldsFit.replaceField (fit : FieldsFit fields) (fits : Fits value) :
    FieldsFit (replaceField name value fields) := by
  induction fields with
  | nil => exact fit
  | cons field others ih =>
      obtain ⟨first, later⟩ := List.forall_mem_cons.1 fit
      unfold Toml.replaceField
      split_ifs
      · exact List.forall_mem_cons.2 ⟨fits, later⟩
      · exact List.forall_mem_cons.2 ⟨first, ih later⟩

/-- A change that brings in no integers out of range. -/
def Keeps (change : Fields → Option Fields) : Prop :=
  ∀ ⦃fields changed⦄, FieldsFit fields → change fields = some changed → FieldsFit changed

theorem Keeps.changeLast? (keeps : Keeps change) {members others : List Fields}
    (fit : ∀ fields ∈ members, FieldsFit fields) (done : changeLast? change members = some others) :
    ∀ fields ∈ others, FieldsFit fields := by
  induction members generalizing others with
  | nil => cases done
  | cons fields more ih =>
      obtain ⟨first, later⟩ := List.forall_mem_cons.1 fit
      cases more with
      | nil =>
          obtain ⟨changed, last, rfl⟩ := Option.map_eq_some_iff.1 done
          exact List.forall_mem_singleton.2 (keeps first last)
      | cons next more =>
          obtain ⟨rest, last, rfl⟩ := Option.map_eq_some_iff.1 done
          exact List.forall_mem_cons.2 ⟨first, ih later last⟩

theorem Keeps.changeAt? (keeps : Keeps change) (path : List String) : Keeps (changeAt? change path) := by
  induction path with
  | nil => exact keeps
  | cons name path ih =>
      intro fields changed fit done
      unfold Toml.changeAt? at done
      split at done
      · obtain ⟨inner, made, rfl⟩ := Option.map_eq_some_iff.1 done
        exact fit.concat (fits_table_iff.2 (ih fieldsFit_nil made))
      · next found =>
          split_ifs at done
          obtain ⟨inner, made, rfl⟩ := Option.map_eq_some_iff.1 done
          have each := fits_table_iff.1 (fit.lookup found)
          exact fit.replaceField (fits_table_iff.2 (ih each made))
      · next found =>
          obtain ⟨members, made, rfl⟩ := Option.map_eq_some_iff.1 done
          have each := fits_tables_iff.1 (fit.lookup found)
          exact fit.replaceField (fits_tables_iff.2 (ih.changeLast? each made))
      · cases done

theorem keeps_openTable? (name : String) : Keeps (openTable? name) := by
  intro fields changed fit done
  unfold openTable? at done
  split at done
  · obtain rfl := Option.some.inj done
    exact fit.concat (fits_table_iff.2 fieldsFit_nil)
  · next found =>
      obtain rfl := Option.some.inj done
      have each := fits_table_iff.1 (fit.lookup found)
      exact fit.replaceField (fits_table_iff.2 each)
  · cases done

theorem keeps_openMember? (name : String) : Keeps (openMember? name) := by
  have empty : ∀ fields ∈ [([] : Fields)], FieldsFit fields := List.forall_mem_singleton.2 fieldsFit_nil
  intro fields changed fit done
  unfold openMember? at done
  split at done
  · obtain rfl := Option.some.inj done
    exact fit.concat (fits_tables_iff.2 empty)
  · next found =>
      obtain rfl := Option.some.inj done
      have each := fits_tables_iff.1 (fit.lookup found)
      exact fit.replaceField (fits_tables_iff.2 (List.forall_mem_append.2 ⟨each, empty⟩))
  · cases done

theorem keeps_insert? (fits : Fits value) (path : List String) : Keeps (insert? value path) := by
  induction path with
  | nil =>
      intro fields changed _ done
      cases done
  | cons name path ih =>
      intro fields changed fit done
      cases path with
      | nil =>
          unfold insert? at done
          split at done
          · obtain rfl := Option.some.inj done
            exact fit.concat fits
          · cases done
      | cons next path =>
          unfold insert? at done
          split at done
          · obtain ⟨inner, made, rfl⟩ := Option.map_eq_some_iff.1 done
            exact fit.concat (fits_table_iff.2 (ih fieldsFit_nil made))
          · next found =>
              split_ifs at done
              obtain ⟨inner, made, rfl⟩ := Option.map_eq_some_iff.1 done
              have each := fits_table_iff.1 (fit.lookup found)
              exact fit.replaceField (fits_table_iff.2 (ih each made))
          · next found =>
              split_ifs at done
              obtain ⟨members, made, rfl⟩ := Option.map_eq_some_iff.1 done
              have each := fits_tables_iff.1 (fit.lookup found)
              exact fit.replaceField (fits_tables_iff.2 (ih.changeLast? each made))
          · cases done

end

/-! ## Values -/

section

variable {input rest : List Char} {value : Toml}

theorem fits_of_integer? {number : Int} (read : integer? number = some value) : Fits value := by
  unfold integer? at read
  split_ifs at read with range
  rw [Bool.and_eq_true, decide_eq_true_eq, decide_eq_true_eq] at range
  obtain rfl := Option.some.inj read
  exact .integer range.1 range.2

theorem fits_of_readBased? {base : Nat} {isDigit : Char → Bool}
    (read : readBased? base isDigit input = some (value, rest)) : Fits value := by
  obtain ⟨_, _, read⟩ := Option.bind_eq_some_iff.1 read
  obtain ⟨_, inRange, read⟩ := Option.bind_eq_some_iff.1 read
  cases read
  exact fits_of_integer? inRange

theorem fits_of_readInteger? (read : readInteger? input = some (value, rest)) : Fits value := by
  unfold readInteger? at read
  split at read
  · exact fits_of_readBased? read
  · exact fits_of_readBased? read
  · exact fits_of_readBased? read
  · obtain ⟨_, _, read⟩ := Option.bind_eq_some_iff.1 read
    obtain ⟨_, inRange, read⟩ := Option.bind_eq_some_iff.1 read
    cases read
    exact fits_of_integer? inRange

theorem eq_moment_of_readMoment? (read : readMoment? input = some (value, rest)) : value = moment := by
  unfold readMoment? at read
  split at read
  · obtain ⟨_, _, same⟩ := Option.map_eq_some_iff.1 read
    exact (Prod.mk.inj same).1.symm
  · split at read
    · split_ifs at read
      · split at read
        all_goals exact (Prod.mk.inj (Option.some.inj read)).1.symm
      · exact (Prod.mk.inj (Option.some.inj read)).1.symm
    · exact (Prod.mk.inj (Option.some.inj read)).1.symm

theorem eq_float_of_readDecimalFloat? (read : readDecimalFloat? input = some (value, rest)) :
    value = float := by
  obtain ⟨⟨whole, afterWhole⟩, _, read⟩ := Option.bind_eq_some_iff.1 read
  dsimp only at read
  split at read
  all_goals
    obtain ⟨_, _, read⟩ := Option.bind_eq_some_iff.1 read
    obtain ⟨_, _, read⟩ := Option.bind_eq_some_iff.1 read
    split_ifs at read
    exact (Prod.mk.inj (Option.some.inj read)).1.symm

theorem eq_float_of_readFloat? (read : readFloat? input = some (value, rest)) : value = float := by
  unfold readFloat? at read
  split at read
  · exact (Prod.mk.inj (Option.some.inj read)).1.symm
  · exact (Prod.mk.inj (Option.some.inj read)).1.symm
  · exact eq_float_of_readDecimalFloat? read

theorem fits_of_readNumeric? (read : readNumeric? input = some (value, rest)) : Fits value := by
  rw [readNumeric?, Option.orElse_eq_or, Option.orElse_eq_or] at read
  obtain read | ⟨-, read⟩ := Option.or_eq_some_iff.1 read
  · rw [eq_moment_of_readMoment? read]
    exact .moment
  obtain read | ⟨-, read⟩ := Option.or_eq_some_iff.1 read
  · rw [eq_float_of_readFloat? read]
    exact .float
  · exact fits_of_readInteger? read

end

/-- All that is read with so much fuel fits. -/
structure FitsWithin (fuel : Nat) : Prop where
  value {depth input value rest} : readValue? fuel depth input = some (value, rest) → Fits value
  members {depth input members rest} : readMembers? fuel depth input = some (members, rest) →
    ∀ member ∈ members, Fits member
  pairs {depth fields input result rest} : FieldsFit fields →
    readPairs? fuel depth fields input = some (result, rest) → FieldsFit result

namespace FitsWithin

variable {fuel depth : Nat} {input rest : List Char}

theorem value_succ (within : FitsWithin fuel) {value : Toml}
    (read : readValue? (fuel + 1) depth input = some (value, rest)) : Fits value := by
  cases input with
  | nil =>
      rw [readValue?] at read
      contradiction
  | cons c more =>
      rw [readValue?.eq_def] at read
      dsimp only at read
      split_ifs at read
      · obtain ⟨_, _, same⟩ := Option.map_eq_some_iff.1 read
        rw [← (Prod.mk.inj same).1]
        exact .text _
      · obtain ⟨_, members, same⟩ := Option.map_eq_some_iff.1 read
        rw [← (Prod.mk.inj same).1]
        exact .array (within.members members)
      · split at read
        · contradiction
        · split_ifs at read
          · rw [← (Prod.mk.inj (Option.some.inj read)).1]
            exact fits_table_iff.2 fieldsFit_nil
          · obtain ⟨_, pairs, same⟩ := Option.map_eq_some_iff.1 read
            rw [← (Prod.mk.inj same).1]
            exact fits_table_iff.2 (within.pairs fieldsFit_nil pairs)
      · split at read
        · rw [← (Prod.mk.inj (Option.some.inj read)).1]
          exact .truth true
        · rw [← (Prod.mk.inj (Option.some.inj read)).1]
          exact .truth false
        · exact fits_of_readNumeric? read

theorem members_succ (within : FitsWithin fuel) {members : List Toml}
    (read : readMembers? (fuel + 1) depth input = some (members, rest)) :
    ∀ member ∈ members, Fits member := by
  rw [readMembers?] at read
  obtain ⟨start, _, read⟩ := Option.bind_eq_some_iff.1 read
  split at read
  · rw [← (Prod.mk.inj (Option.some.inj read)).1]
    exact List.forall_mem_nil _
  · obtain ⟨⟨member, afterMember⟩, first, read⟩ := Option.bind_eq_some_iff.1 read
    obtain ⟨next, _, read⟩ := Option.bind_eq_some_iff.1 read
    split at read
    · rw [← (Prod.mk.inj (Option.some.inj read)).1]
      exact List.forall_mem_singleton.2 (within.value first)
    · obtain ⟨⟨others, afterOthers⟩, later, read⟩ := Option.bind_eq_some_iff.1 read
      rw [← (Prod.mk.inj (Option.some.inj read)).1]
      exact List.forall_mem_cons.2 ⟨within.value first, within.members later⟩
    · contradiction

theorem pairs_succ (within : FitsWithin fuel) {fields result : Fields} (fit : FieldsFit fields)
    (read : readPairs? (fuel + 1) depth fields input = some (result, rest)) : FieldsFit result := by
  rw [readPairs?] at read
  obtain ⟨⟨path, afterPath⟩, _, read⟩ := Option.bind_eq_some_iff.1 read
  obtain ⟨start, _, read⟩ := Option.bind_eq_some_iff.1 read
  obtain ⟨⟨value, afterValue⟩, single, read⟩ := Option.bind_eq_some_iff.1 read
  obtain ⟨inserted, insertion, read⟩ := Option.bind_eq_some_iff.1 read
  have fits := keeps_insert? (within.value single) path fit insertion
  split at read
  · contradiction
  · split_ifs at read
    · rwa [← (Prod.mk.inj (Option.some.inj read)).1]
    · exact within.pairs fits read

end FitsWithin

theorem fitsWithin (fuel : Nat) : FitsWithin fuel := by
  induction fuel with
  | zero =>
      constructor
      · intro depth input value rest read
        rw [readValue?] at read
        contradiction
      · intro depth input members rest read
        rw [readMembers?] at read
        contradiction
      · intro depth fields input result rest _ read
        rw [readPairs?] at read
        contradiction
  | succ fuel ih => exact ⟨ih.value_succ, ih.members_succ, ih.pairs_succ⟩

/-! ## Documents -/

theorem fieldsFit_of_openAt? {openLast : String → Fields → Option Fields}
    (keeps : ∀ name, Keeps (openLast name)) {document opened : OpenDocument} {path : List String}
    (fit : FieldsFit document.fields) (done : openAt? openLast document path = some opened) :
    FieldsFit opened.fields := by
  obtain ⟨⟨parents, name⟩, _, done⟩ := Option.bind_eq_some_iff.1 done
  obtain ⟨fields, changed, done⟩ := Option.bind_eq_some_iff.1 done
  rw [← Option.some.inj done]
  exact (keeps name).changeAt? parents fit changed

theorem fieldsFit_of_readLines? {fuel : Nat} {document : OpenDocument} {input : List Char} {fields : Fields}
    (fit : FieldsFit document.fields) (read : readLines? fuel document input = some fields) :
    FieldsFit fields := by
  induction fuel generalizing document input with
  | zero => cases read
  | succ fuel ih =>
      rw [readLines?] at read
      split at read
      · rwa [← Option.some.inj read]
      · obtain ⟨_, _, read⟩ := Option.bind_eq_some_iff.1 read
        exact ih fit read
      · exact ih fit read
      · obtain ⟨_, _, read⟩ := Option.bind_eq_some_iff.1 read
        exact ih fit read
      · obtain ⟨_, _, read⟩ := Option.bind_eq_some_iff.1 read
        obtain ⟨_, opens, read⟩ := Option.bind_eq_some_iff.1 read
        exact ih (fieldsFit_of_openAt? keeps_openMember? fit opens) read
      · obtain ⟨_, _, read⟩ := Option.bind_eq_some_iff.1 read
        obtain ⟨_, opens, read⟩ := Option.bind_eq_some_iff.1 read
        exact ih (fieldsFit_of_openAt? keeps_openTable? fit opens) read
      · obtain ⟨⟨path, _⟩, _, read⟩ := Option.bind_eq_some_iff.1 read
        obtain ⟨_, _, read⟩ := Option.bind_eq_some_iff.1 read
        obtain ⟨⟨value, _⟩, single, read⟩ := Option.bind_eq_some_iff.1 read
        obtain ⟨_, _, read⟩ := Option.bind_eq_some_iff.1 read
        obtain ⟨_, changed, read⟩ := Option.bind_eq_some_iff.1 read
        have fits := (fitsWithin _).value single
        exact ih ((keeps_insert? fits path).changeAt? document.path fit changed) read

theorem fieldsFit_of_read? {input : List Char} {fields : Fields} (read : read? input = some fields) :
    FieldsFit fields :=
  fieldsFit_of_readLines? fieldsFit_nil read

end Toml

end HostTypes
