import HostTypes.Cache
import HostTypes.Event.Getter
import HostTypes.Report.Notice

/-!
Queries are computations that may look things up in caches, which they fill on the way, and that
give notices. The catalog, the conversion graph and the getters that they ask about do not change;
the caches only spare repeated work.
-/

namespace HostTypes

/-- The caches, each with the answers to one kind of question, and the notices given so far. -/
structure Memory where
  /-- The number of the first entry that accepts a type. -/
  closest : Cache TypeKey (Option Nat) := {}
  /-- The number of the entry that prints values of a type. -/
  printing : Cache TypeKey (Option Nat) := {}
  /-- The chain of converters between two types. -/
  chains : Cache (TypeKey × TypeKey) (Option (List Nat)) := {}
  getters : Cache GetterRequest Resolution := {}
  notices : List Notice := []

abbrev Query := StateM Memory

namespace Memory

def closestSlot : Cache.Slot Memory TypeKey (Option Nat) :=
  ⟨closest, fun cache memory => { memory with closest := cache }⟩

def printingSlot : Cache.Slot Memory TypeKey (Option Nat) :=
  ⟨printing, fun cache memory => { memory with printing := cache }⟩

def chainsSlot : Cache.Slot Memory (TypeKey × TypeKey) (Option (List Nat)) :=
  ⟨chains, fun cache memory => { memory with chains := cache }⟩

def gettersSlot : Cache.Slot Memory GetterRequest Resolution :=
  ⟨getters, fun cache memory => { memory with getters := cache }⟩

end Memory

def notify (notice : Notice) : Query Unit :=
  modify fun memory => { memory with notices := memory.notices ++ [notice] }

end HostTypes
