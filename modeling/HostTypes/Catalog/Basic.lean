import HostTypes.Catalog.Entry
import HostTypes.Conversion.Graph
import HostTypes.Report.Error
import HostTypes.Settings.Basic

/-!
The frozen catalog: all entries in priority order, most specific first, with the conversion graph.
Here are the look-ups that need no cache, and the scans that the cached ones are computed by.
-/

namespace HostTypes

def entryForIn (entries : List TypeEntry) (type : TypeKey) : Option TypeEntry :=
  entries.find? fun entry => entry.native == type

def entryNamedIn (entries : List TypeEntry) (codeName : String) : Option TypeEntry :=
  entries.find? fun entry => entry.codeName == codeName

structure Catalog where
  hierarchy : Hierarchy
  display : DisplaySettings
  entries : List TypeEntry
  graph : ConversionGraph
  /-- Problems met during registration and freezing. -/
  issues : List RegistrationIssue

namespace Catalog

variable (catalog : Catalog)

def entryFor? (type : TypeKey) : Option TypeEntry :=
  entryForIn catalog.entries type

def entryNamed? (codeName : String) : Option TypeEntry :=
  entryNamedIn catalog.entries codeName

/-- The parser of the entry for exactly a type. -/
def parserFor? (type : TypeKey) : Option Parser :=
  (catalog.entryFor? type).bind TypeEntry.parser

def accepts (type : TypeKey) (entry : TypeEntry) : Bool :=
  catalog.hierarchy.isAssignable type entry.native

def supertypeEntries (type : TypeKey) : List TypeEntry :=
  catalog.entries.filter (catalog.accepts type)

def closestNumber? (type : TypeKey) : Option Nat :=
  catalog.entries.findIdx? (catalog.accepts type)

/-- The number of the first entry that accepts a type and has a parser. -/
def printingNumber? (type : TypeKey) : Option Nat :=
  catalog.entries.findIdx? fun entry => entry.parser.isSome && catalog.accepts type entry

/-- The first entry that a text names, blanks around it aside. -/
def entryOfInput? (text : String) : Option TypeEntry :=
  let text := String.ofList (trimBlanks text.toList)
  catalog.entries.find? (·.matchesUserInput text)

end Catalog

end HostTypes
