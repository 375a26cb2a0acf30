/-!
The powers on which binary and decimal numerals rest.
-/

namespace HostTypes

/-- `2 ^ n`. -/
abbrev twoTo (n : Nat) : Nat :=
  Nat.pow 2 n

/-- `10 ^ n`. -/
abbrev tenTo (n : Nat) : Nat :=
  Nat.pow 10 n

end HostTypes
