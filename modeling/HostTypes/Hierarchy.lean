import HostTypes.Attempt

/-!
The hierarchy of host types. Types are declared one by one, each with supertypes declared before
it, so the direct-supertype relation has no cycles. Building the hierarchy computes the set of
ancestors of every type once; assignability is membership in that set.
-/

namespace HostTypes

/-- The identity of a declared type: its place in declaration order. -/
structure TypeKey where
  index : Nat
  deriving DecidableEq, Repr, Inhabited

namespace TypeKey

def toText (key : TypeKey) : String :=
  "#" ++ toString key.index

end TypeKey

inductive HierarchyError where
  | duplicateType (name : String)
  | unknownSupertype (name : String) (key : TypeKey)
  deriving DecidableEq, Repr

namespace HierarchyError

def message : HierarchyError → String
  | duplicateType name => s!"type '{name}' is already declared"
  | unknownSupertype name key =>
    s!"type '{name}' names an undeclared supertype (key {key.index})"

end HierarchyError

structure Declaration where
  name : String
  supertypes : List TypeKey
  deriving DecidableEq, Repr

/-- Keeps one member of every run of equal neighbours. -/
def dropRepeats {α : Type} [BEq α] : List α → List α
  | [] => []
  | [x] => [x]
  | x :: y :: rest => if x == y then dropRepeats (y :: rest) else x :: dropRepeats (y :: rest)

theorem mem_of_mem_dropRepeats {α : Type} [BEq α] {x : α} {xs : List α}
    (member : x ∈ dropRepeats xs) : x ∈ xs := by
  fun_induction dropRepeats xs with
  | case1 => exact member
  | case2 => exact member
  | case3 _ _ _ _ ih => exact List.mem_cons_of_mem _ (ih member)
  | case4 _ _ _ _ ih =>
    rcases List.mem_cons.1 member with rfl | later
    · exact List.mem_cons_self
    · exact List.mem_cons_of_mem _ (ih later)

/-- An open hierarchy: the types declared so far. Names are distinct, and supertypes come before
their subtypes. -/
structure Declarations where
  rows : List Declaration := []
  names_nodup : (rows.map Declaration.name).Nodup := by simp
  supertypes_earlier : ∀ (index : Nat) (row : Declaration), rows[index]? = some row →
    ∀ key ∈ row.supertypes, key.index < index := by simp

namespace Declarations

def empty : Declarations := {}

def size (declared : Declarations) : Nat :=
  declared.rows.length

def key? (declared : Declarations) (name : String) : Option TypeKey :=
  (declared.rows.findIdx? fun row => row.name == name).map TypeKey.mk

theorem names_nodup_concat {rows : List Declaration} {row : Declaration}
    (nodup : (rows.map Declaration.name).Nodup) (fresh : row.name ∉ rows.map Declaration.name) :
    ((rows ++ [row]).map Declaration.name).Nodup := by
  rw [List.map_append, List.nodup_append]
  refine ⟨nodup, by simp, ?_⟩
  intro old member new last
  simp only [List.map_cons, List.map_nil, List.mem_singleton] at last
  rintro rfl
  exact fresh (last ▸ member)

theorem supertypes_earlier_concat {rows : List Declaration} {row : Declaration}
    (earlier : ∀ (index : Nat) (old : Declaration), rows[index]? = some old →
      ∀ key ∈ old.supertypes, key.index < index)
    (known : ∀ key ∈ row.supertypes, key.index < rows.length) :
    ∀ (index : Nat) (found : Declaration), (rows ++ [row])[index]? = some found →
      ∀ key ∈ found.supertypes, key.index < index := by
  intro index found located key member
  rcases Nat.lt_trichotomy index rows.length with before | here | after
  · rw [List.getElem?_append_left before] at located
    exact earlier index found located key member
  · subst here
    simp only [List.getElem?_concat_length, Option.some.injEq] at located
    subst located
    exact known key member
  · rw [List.getElem?_eq_none (by simp; omega)] at located
    cases located

/-- Adds a type whose name is new and whose supertypes are declared. -/
def add (declared : Declarations) (name : String) (supertypes : List TypeKey)
    (fresh : name ∉ declared.rows.map Declaration.name)
    (known : ∀ key ∈ supertypes, key.index < declared.size) : Declarations where
  rows := declared.rows ++ [⟨name, dropRepeats supertypes⟩]
  names_nodup := names_nodup_concat declared.names_nodup fresh
  supertypes_earlier := supertypes_earlier_concat declared.supertypes_earlier fun key member =>
    known key (mem_of_mem_dropRepeats member)

end Declarations

/-- Declarations one after the other. -/
abbrev Declaring := Attempt HierarchyError Declarations Id

def declareType (name : String) (supertypes : List TypeKey) : Declaring TypeKey := do
  let declared ← get
  if taken : name ∈ declared.rows.map Declaration.name then throw (.duplicateType name)
  else
    match undeclared : supertypes.find? fun key => decide (declared.size ≤ key.index) with
    | some key => throw (.unknownSupertype name key)
    | none =>
      set <| declared.add name supertypes taken fun key member =>
        Nat.lt_of_not_le fun outside =>
          List.find?_eq_none.1 undeclared key member (decide_eq_true outside)
      return ⟨declared.size⟩

/-- The key of a new type and the declarations with it, unless they refuse it. -/
def Declarations.declare (declared : Declarations) (name : String) (supertypes : List TypeKey) :
    Except HierarchyError (TypeKey × Declarations) :=
  outcomeOf (declareType name supertypes) declared

/-- The ancestors of a type, itself included, in declaration order, from the ancestors of all types
declared before it. -/
def ancestorsOf (earlier : List (List TypeKey)) (row : Declaration) : List TypeKey :=
  ((List.range (earlier.length + 1)).map TypeKey.mk).filter fun key =>
    key.index == earlier.length ||
      row.supertypes.any fun supertype => (earlier.getD supertype.index []).contains key

def ancestorTable (rows : List Declaration) : List (List TypeKey) :=
  rows.foldl (fun earlier row => earlier ++ [ancestorsOf earlier row]) []

structure Hierarchy where
  declared : Declarations
  ancestors : List (List TypeKey)
  ancestors_eq : ancestors = ancestorTable declared.rows

def Declarations.build (declared : Declarations) : Hierarchy :=
  ⟨declared, ancestorTable declared.rows, rfl⟩

namespace Hierarchy

variable (hierarchy : Hierarchy)

def empty : Hierarchy := Declarations.empty.build

def size : Nat :=
  hierarchy.declared.size

def isEmpty : Bool :=
  hierarchy.declared.rows.isEmpty

def contains (key : TypeKey) : Bool :=
  decide (key.index < hierarchy.size)

def keys : List TypeKey :=
  (List.range hierarchy.size).map TypeKey.mk

/-- The name of a key, with a text of its own for undeclared keys. -/
def name (key : TypeKey) : String :=
  match hierarchy.declared.rows[key.index]? with
  | some row => row.name
  | none => "<unknown>"

def key? (name : String) : Option TypeKey :=
  hierarchy.declared.key? name

def supertypes (key : TypeKey) : List TypeKey :=
  match hierarchy.declared.rows[key.index]? with
  | some row => row.supertypes
  | none => []

/-- The ancestors of a key, itself included; empty for undeclared keys. -/
def ancestorsAt (key : TypeKey) : List TypeKey :=
  hierarchy.ancestors.getD key.index []

/-- Whether a value of type `sub` can be used where `sup` is expected. -/
def isAssignable (sub sup : TypeKey) : Bool :=
  (hierarchy.ancestorsAt sub).contains sup

def isStrictSubtype (sub sup : TypeKey) : Bool :=
  sub != sup && hierarchy.isAssignable sub sup

/-- The number of proper ancestors. -/
def depth (key : TypeKey) : Nat :=
  (hierarchy.ancestorsAt key).length - 1

/-- Of the keys in a list, the first of those with the greatest depth. -/
def deepest? (keys : List TypeKey) : Option TypeKey :=
  keys.foldl
    (fun best key =>
      match best with
      | some held => if hierarchy.depth key ≤ hierarchy.depth held then some held else some key
      | none => some key)
    none

/-- The deepest type that all listed types are assignable to; of several the one declared first. -/
def commonSupertype? (types : List TypeKey) : Option TypeKey :=
  if types.isEmpty then none
  else
    hierarchy.deepest? <|
      hierarchy.keys.filter fun key => types.all (hierarchy.isAssignable · key)

end Hierarchy

end HostTypes
