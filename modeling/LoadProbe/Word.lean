/-!
# Machine words

The limits of numbers that are kept in words of fixed size.
-/

namespace LoadProbe.Word

/-- Unsigned numbers of 64 bits stay below 2⁶⁴. -/
abbrev limit64 : Nat := 0x10000000000000000

/-- The greatest unsigned number of 64 bits. -/
abbrev max64 : Nat := 0xffffffffffffffff

/-- Signed numbers of 64 bits stay below 2⁶³, and none is below its opposite. -/
abbrev signedLimit64 : Nat := 0x8000000000000000

/-- Unsigned numbers of 32 bits stay below 2³². -/
abbrev limit32 : Nat := 0x100000000

/-- The greatest unsigned number of 32 bits. -/
abbrev max32 : Nat := 0xffffffff

end LoadProbe.Word
