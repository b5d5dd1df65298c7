/-!
# Ranges of code points

A property of characters is given by the code points that have it, as a list of ranges. The
tables of this folder list a property for the characters beyond ASCII where ASCII has a shorter
rule of its own.
-/

namespace NativeStyle

/-- The code points from `first` to `last`, both included. -/
structure CodeRange where
  first : Nat
  last : Nat
deriving Repr, DecidableEq

namespace CodeRange

/-- Whether the code point lies in the range. -/
def covers (r : CodeRange) (code : Nat) : Bool :=
  r.first ≤ code && code ≤ r.last

/-- Whether one of the ranges covers the character. -/
def holds (table : List CodeRange) (c : Char) : Bool :=
  table.any (·.covers c.toNat)

theorem covers_iff {r : CodeRange} {code : Nat} :
    r.covers code = true ↔ r.first ≤ code ∧ code ≤ r.last := by
  simp [covers]

theorem holds_iff {table : List CodeRange} {c : Char} :
    holds table c = true ↔ ∃ r ∈ table, r.first ≤ c.toNat ∧ c.toNat ≤ r.last := by
  simp [holds, covers_iff]

end CodeRange

end NativeStyle
