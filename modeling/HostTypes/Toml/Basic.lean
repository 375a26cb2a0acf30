/-!
TOML documents as trees. Every table remembers how it came about, because that decides whether a
later line of the document may add to it.
-/

namespace HostTypes

inductive TableOrigin where
  /-- By a header of its own. -/
  | header
  /-- By the header of a table inside it. -/
  | implied
  /-- By a dotted key. -/
  | dotted
  /-- As a value in braces, which is closed. -/
  | inline
  deriving DecidableEq, Repr

inductive Toml where
  | text (content : String)
  | integer (value : Int)
  /-- A number with a point or an exponent. No setting has such a value, so the value is not kept.
  -/
  | float
  | truth (value : Bool)
  /-- A date, a time or both. No setting has such a value, so the value is not kept. -/
  | moment
  | array (members : List Toml)
  /-- An array whose tables have headers, in order. The last one is open. -/
  | tables (members : List (List (String × Toml)))
  | table (origin : TableOrigin) (fields : List (String × Toml))
  deriving Repr

namespace Toml

abbrev Fields := List (String × Toml)

def replaceField (name : String) (value : Toml) : Fields → Fields
  | [] => []
  | field :: rest =>
    if field.1 = name then (name, value) :: rest else field :: replaceField name value rest

def changeLast? (change : Fields → Option Fields) : List Fields → Option (List Fields)
  | [] => none
  | [last] => (change last).map ([·])
  | fields :: rest => (changeLast? change rest).map (fields :: ·)

/-- Changes the table at a path of names. Tables that are missing on the way are implied; an array
of tables is entered at its last table. -/
def changeAt? (change : Fields → Option Fields) : List String → Fields → Option Fields
  | [], fields => change fields
  | name :: path, fields =>
    match fields.lookup name with
    | none => (changeAt? change path []).map fun inner => fields ++ [(name, table .implied inner)]
    | some (table origin inner) =>
      if origin = .inline then none
      else
        (changeAt? change path inner).map fun inner =>
          replaceField name (table origin inner) fields
    | some (tables members) =>
      (changeLast? (changeAt? change path) members).map fun members =>
        replaceField name (tables members) fields
    | some _ => none

/-- Opens the table of a header. A table that is only implied so far is opened with what it has. -/
def openTable? (name : String) (fields : Fields) : Option Fields :=
  match fields.lookup name with
  | none => some (fields ++ [(name, table .header [])])
  | some (table .implied inner) => some (replaceField name (table .header inner) fields)
  | some _ => none

def openMember? (name : String) (fields : Fields) : Option Fields :=
  match fields.lookup name with
  | none => some (fields ++ [(name, tables [[]])])
  | some (tables members) => some (replaceField name (tables (members ++ [[]])) fields)
  | some _ => none

/-- Adds a value under a dotted key. The last table on the way must have come about by dotted keys
alone, the others must not have headers. -/
def insert? (value : Toml) : List String → Fields → Option Fields
  | [], _ => none
  | [name], fields =>
    match fields.lookup name with
    | none => some (fields ++ [(name, value)])
    | some _ => none
  | name :: next :: path, fields =>
    match fields.lookup name with
    | none =>
      (insert? value (next :: path) []).map fun inner => fields ++ [(name, table .dotted inner)]
    | some (table origin inner) =>
      if origin = .dotted || (origin = .implied && !path.isEmpty) then
        (insert? value (next :: path) inner).map fun inner =>
          replaceField name (table origin inner) fields
      else none
    | some (tables members) =>
      if path.isEmpty then none
      else
        (changeLast? (insert? value (next :: path)) members).map fun members =>
          replaceField name (tables members) fields
    | some _ => none

end Toml

end HostTypes
