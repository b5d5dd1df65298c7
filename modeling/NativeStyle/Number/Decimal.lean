import NativeStyle.Text.Digit

/-!
# Decimal numbers and their numerals

A decimal is a whole coefficient times a power of ten, with a sign of its own so that minus zero
differs from zero. A numeral spells a decimal with digits, at most one point among or beside
them, and possibly a leading minus.

Main statement: `digitsValue_concat` (digits are read from left to right).
-/

namespace NativeStyle

/-- The number `± coefficient · 10 ^ exponent`. -/
structure Decimal where
  negative : Bool
  coefficient : Nat
  exponent : Int
deriving DecidableEq, Repr

namespace Decimal

/-! ## Reading -/

/-- The number that decimal digits spell. -/
def digitsValue (digits : Text) : Nat :=
  digits.foldl (fun n c => 10 * n + (Text.digitValue? c).getD 0) 0

/-- The value of the last digit is added to ten times the value of the others. -/
theorem digitsValue_concat (digits : Text) (c : Char) :
    digitsValue (digits ++ [c]) = 10 * digitsValue digits + (Text.digitValue? c).getD 0 := by
  simp [digitsValue]

/-- The decimal with these digits before and after the point. -/
def ofDigits (negative : Bool) (whole places : Text) : Decimal :=
  ⟨negative, digitsValue (whole ++ places), -places.length⟩

/-- The decimal of a numeral without a sign. -/
def ofUnsigned? (negative : Bool) (numeral : Text) : Option Decimal :=
  let (whole, places) := (Text.cut? '.' numeral).getD (numeral, [])
  if whole ++ places ≠ [] ∧ (whole ++ places).all Text.isDigit then
    some (ofDigits negative whole places)
  else none

/-- The decimal that a numeral spells. -/
def ofNumeral? : Text → Option Decimal
  | '-' :: numeral => ofUnsigned? true numeral
  | numeral => ofUnsigned? false numeral

/-! ## Writing -/

/-- The decisions that fix how a decimal is laid out. -/
structure Layout where
  /-- From this exponent of the leading digit on, decimals are written positionally. -/
  plainFrom : Int
  /-- From this exponent of the leading digit on, they are not. -/
  plainBelow : Int
  /-- The least number of digits of a written exponent. -/
  exponentDigits : Nat

/-- Digits with a point behind the first `whole` of them, filled up with zeros on either side. -/
def positional (digits : Text) (whole : Int) : Text :=
  if whole ≤ 0 then '0' :: '.' :: List.replicate (-whole).toNat '0' ++ digits
  else
    let places := digits.drop whole.toNat
    digits.take whole.toNat ++ List.replicate (whole.toNat - digits.length) '0' ++
      '.' :: if places = [] then ['0'] else places

/-- One digit, the others behind a point, and the power of ten. -/
def scientific (l : Layout) (digits : Text) (exponent : Int) : Text :=
  let power := Text.ofNat exponent.natAbs
  let places := digits.drop 1
  digits.take 1 ++ (if places = [] then [] else '.' :: places) ++
    'e' :: (if exponent < 0 then '-' else '+') ::
      List.replicate (l.exponentDigits - power.length) '0' ++ power

/-- The text of a decimal, with a point or a power of ten in every case. -/
def render (l : Layout) (d : Decimal) : Text :=
  let digits := Text.ofNat d.coefficient
  let leading : Int := if d.coefficient = 0 then 0 else d.exponent + digits.length - 1
  (if d.negative then ['-'] else []) ++
    if l.plainFrom ≤ leading ∧ leading < l.plainBelow then positional digits (leading + 1)
    else scientific l digits leading

end Decimal

end NativeStyle
