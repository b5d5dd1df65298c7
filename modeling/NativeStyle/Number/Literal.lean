import NativeStyle.Number.Binary64
import NativeStyle.Text.Blank
import NativeStyle.Text.Lowercase

/-!
# Literals of floating-point numbers

A literal is a sign, digits with at most one point, and an exponent, or one of the names of an
infinity or of no number at all. Underscores may group the digits, and blanks may stand around it.
It stands for the nearest floating-point number, however long it is.
-/

namespace NativeStyle.Binary64

/-- An integer with an optional sign. -/
def signed? : Text → Option Int
  | '-' :: digits => (unsigned? digits).map fun n => -n
  | '+' :: digits => unsigned? digits
  | digits => unsigned? digits
where
  /-- An integer without a sign. -/
  unsigned? (digits : Text) : Option Int :=
    if digits ≠ [] ∧ digits.all Text.isDigit then some (Decimal.digitsValue digits) else none

/-- The exponent drawn in to where, with so many digits on whichever side of the point, the number
is zero or infinite all the same. -/
def clampExponent (digits : Nat) (exponent : Int) : Int :=
  max (-(digits + 1100 : Int)) (min exponent (digits + 1100))

/-- The number that a literal without a sign stands for, in lower case. -/
def ofMagnitude? (negative : Bool) (s : Text) : Option Binary64 :=
  if s = "inf".toList ∨ s = "infinity".toList then some (.infinite negative)
  else if s = "nan".toList then some .nan
  else do
    let (numeral, exponent) ← match Text.cut? 'e' s with
      | none => some (s, 0)
      | some (numeral, power) => (signed? power).map (numeral, ·)
    let d ← Decimal.ofUnsigned? negative numeral
    some (ofDecimal { d with exponent := clampExponent numeral.length exponent + d.exponent })

/-- The number that a literal stands for. -/
def ofLiteral? (s : Text) : Option Binary64 :=
  match (Text.lower (Text.trim s)).filter (· ≠ '_') with
  | '-' :: magnitude => ofMagnitude? true magnitude
  | '+' :: magnitude => ofMagnitude? false magnitude
  | magnitude => ofMagnitude? false magnitude

end NativeStyle.Binary64
