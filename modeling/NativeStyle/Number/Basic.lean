import NativeStyle.Number.Shortest

/-!
# Numbers

A number of a stylesheet is an integer or a binary floating-point number. It has two texts: the
full text, which shows by a point or an exponent that a number is no integer, and the compact
text of a length in device pixels, which writes a whole number without a point.

Main statement: `toNumber_eq_int_iff` (exactly the whole floating-point numbers become integers).
-/

namespace NativeStyle

/-- An integer or a binary floating-point number. -/
inductive Number where
  | int (n : Int)
  | real (x : Binary64)
deriving DecidableEq

namespace Binary64

/-- Numbers are written positionally from `10 ^ -4` to below `10 ^ 16`, otherwise with an
exponent of at least two digits. -/
def layout : Decimal.Layout := ⟨-4, 16, 2⟩

/-- The full text of a floating-point number. -/
def text : Binary64 → Text
  | .nan => "nan".toList
  | .infinite false => "inf".toList
  | .infinite true => "-inf".toList
  | .finite negative m => (shortest negative m).render layout

/-- The compact text of a floating-point number: a whole number has neither point nor exponent. -/
def compact (x : Binary64) : Text :=
  match x.toInt? with
  | some n => Text.ofInt n
  | none => x.text

/-- A whole floating-point number becomes an integer. -/
def toNumber (x : Binary64) : Number :=
  match x.toInt? with
  | some n => .int n
  | none => .real x

/-- Exactly the whole floating-point numbers become integers. -/
theorem toNumber_eq_int_iff {x : Binary64} {n : Int} : x.toNumber = .int n ↔ x.toInt? = some n := by
  unfold toNumber
  cases x.toInt? <;> simp

end Binary64

namespace Number

/-- The full text of a number. -/
def text : Number → Text
  | .int n => Text.ofInt n
  | .real x => x.text

/-- The compact text of a number. An integer must have a finite nearest floating-point number. -/
def compact? : Number → Option Text
  | .int n => if Binary64.hasFinite n then some (Text.ofInt n) else none
  | .real x => some x.compact

/-- What is said of an integer that no finite floating-point number is near to. -/
def tooLarge : Text := "int too large to convert to float".toList

end Number

end NativeStyle
