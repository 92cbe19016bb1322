/-!
The limits of the numbers that records hold and the host accepts. Each is one more than the largest
such number.
-/

namespace ImageFs.Limit

/-- The limit of 32-bit fields, and of handles. -/
abbrev word32 : Nat := 0x100000000

/-- The limit of 64-bit fields. -/
abbrev word64 : Nat := 0x10000000000000000

/-- The limit of the host's offsets, which are signed. -/
abbrev hostOffset : Nat := 0x8000000000000000

/-- The limit of the lengths of buffers. -/
abbrev buffer : Nat := 0x8000000000000000

/-- A number that a 64-bit field holds. -/
def word64? (n : Nat) : Option Nat :=
  if n < word64 then some n else none

end ImageFs.Limit
