import NativeStyle.Number.Decimal
import NativeStyle.Number.Rounding

/-!
# Binary floating-point numbers of 64 bits

A finite number is a whole count of the least unit, `2 ^ -1074`, that has at most 53 significant
bits: its count is a multiple of the spacing of numbers of its size. Every operation computes the
exact result as a quotient of naturals and rounds it once, to the nearest number and in a tie to
the one with an even significand.

Main statements: `spacing_dvd_nearest` (rounding yields a number of the format),
`nearest_eq_of_dvd` (a quotient that is a number of the format stays).
-/

namespace NativeStyle

-- Powers of naturals are core's own in every module, whatever else is in scope.
attribute [local instance (2000)] instPowNat

namespace Binary64

/-! ## The grid -/

/-- The number of significant bits. -/
def precision : Nat := 53

/-- The binary places behind the point of the least number. -/
def leastPlaces : Nat := 1074

/-- The binary exponent at which numbers are no longer finite. -/
def exponentLimit : Nat := 1024

/-- The number of least units in one. -/
def unitsPerOne : Nat := 2 ^ leastPlaces

/-- The count of least units at which numbers are no longer finite. -/
def unitsLimit : Nat := 2 ^ (leastPlaces + exponentLimit)

/-- The binary exponent of the spacing of numbers of that many units. -/
def spacing (units : Nat) : Nat :=
  units.log2 + 1 - precision

/-- The count of units of the number nearest to `n / d`. -/
def nearest (n d : Nat) : Nat :=
  let bits := spacing (n * unitsPerOne / d)
  roundQuotient (n * unitsPerOne) (d * 2 ^ bits) * 2 ^ bits

private theorem lt_two_pow_spacing (f : Nat) : f < 2 ^ (precision + spacing f) := by
  have h : f < 2 ^ (f.log2 + 1) := Nat.lt_log2_self
  exact Nat.lt_of_lt_of_le h (Nat.pow_le_pow_right (by decide) (by unfold spacing; omega))

private theorem significand_le (n d : Nat) :
    roundQuotient n (d * 2 ^ spacing (n / d)) ≤ 2 ^ precision := by
  rcases Nat.eq_zero_or_pos d with rfl | hd
  · -- Nothing is divided: the quotient counts as none or one.
    have : roundQuotient n 0 ≤ 1 := by
      simp only [roundQuotient, Nat.div_zero, Nat.mod_zero]
      split
      · omega
      · split <;> omega
    simpa using Nat.le_trans this Nat.one_le_two_pow
  · have hpow : 0 < 2 ^ spacing (n / d) := Nat.two_pow_pos _
    refine roundQuotient_le (Nat.mul_pos hd hpow) ?_
    have hlt : n / d < 2 ^ (precision + spacing (n / d)) := lt_two_pow_spacing _
    have hn : n < d * (n / d + 1) := Nat.lt_mul_div_succ n hd
    have hle : d * (n / d + 1) ≤ d * 2 ^ (precision + spacing (n / d)) := Nat.mul_le_mul_left d hlt
    rw [Nat.pow_add] at hle
    calc n ≤ d * (2 ^ precision * 2 ^ spacing (n / d)) := by omega
      _ = 2 ^ precision * (d * 2 ^ spacing (n / d)) := by rw [Nat.mul_left_comm]

theorem spacing_dvd_of_le {k q : Nat} (hk : k ≤ 2 ^ precision) :
    2 ^ spacing (k * 2 ^ q) ∣ k * 2 ^ q := by
  rcases Nat.eq_zero_or_pos k with rfl | hpos
  · simp
  rcases Nat.lt_or_eq_of_le hk with hlt | rfl
  · -- The significand still fits, so the spacing is at most the one that was used.
    have hne : k * 2 ^ q ≠ 0 := Nat.ne_of_gt (Nat.mul_pos hpos (Nat.two_pow_pos q))
    have hbound : k * 2 ^ q < 2 ^ (precision + q) := by
      rw [Nat.pow_add]
      exact Nat.mul_lt_mul_of_pos_right hlt (Nat.two_pow_pos q)
    have hlog : (k * 2 ^ q).log2 < precision + q := (Nat.log2_lt hne).2 hbound
    exact Nat.dvd_trans (Nat.pow_dvd_pow 2 (by unfold spacing; omega)) (Nat.dvd_mul_left ..)
  · -- Rounding has carried to the next power of two.
    rw [← Nat.pow_add]
    exact Nat.pow_dvd_pow 2 (by rw [spacing, Nat.log2_two_pow, precision]; omega)

/-- Rounding yields a number of the format. -/
theorem spacing_dvd_nearest (n d : Nat) : 2 ^ spacing (nearest n d) ∣ nearest n d :=
  spacing_dvd_of_le (significand_le (n * unitsPerOne) d)

/-- A quotient that is a number of the format stays. -/
theorem nearest_eq_of_dvd {n d units : Nat} (hd : 0 < d) (h : n * unitsPerOne = units * d)
    (hgrid : 2 ^ spacing units ∣ units) : nearest n d = units := by
  obtain ⟨k, hk⟩ := hgrid
  have hdiv : n * unitsPerOne / d = units := by rw [h, Nat.mul_div_cancel _ hd]
  have hround : n * unitsPerOne = k * (d * 2 ^ spacing units) := by
    rw [h, Nat.mul_left_comm, Nat.mul_comm k, ← hk, Nat.mul_comm]
  simp only [nearest, hdiv]
  rw [hround, roundQuotient_mul_self (Nat.mul_pos hd (Nat.two_pow_pos _)), Nat.mul_comm]
  exact hk.symm

/-- The finite numbers, apart from their sign. -/
structure Magnitude where
  units : Nat
  onGrid : 2 ^ spacing units ∣ units
  lt_limit : units < unitsLimit
deriving DecidableEq

end Binary64

/-- A binary floating-point number of 64 bits. -/
inductive Binary64 where
  | nan
  | infinite (negative : Bool)
  | finite (negative : Bool) (magnitude : Binary64.Magnitude)
deriving DecidableEq

namespace Binary64

/-! ## Operations -/

/-- The number nearest to `± n / d`. -/
def ofRatio (negative : Bool) (n d : Nat) : Binary64 :=
  if h : nearest n d < unitsLimit then .finite negative ⟨nearest n d, spacing_dvd_nearest n d, h⟩
  else .infinite negative

/-- The number nearest to a decimal. -/
def ofDecimal (d : Decimal) : Binary64 :=
  ofRatio d.negative (d.coefficient * 10 ^ d.exponent.toNat) (10 ^ (-d.exponent).toNat)

/-- The number nearest to the quotient of an integer by a natural number. -/
def ofQuotient (n : Int) (d : Nat) : Binary64 :=
  ofRatio (n < 0) n.natAbs d

/-- The product with a natural number. -/
def times (k : Nat) : Binary64 → Binary64
  | .nan => .nan
  | .infinite negative => if k = 0 then .nan else .infinite negative
  | .finite negative m => ofRatio negative (m.units * k) unitsPerOne

/-- The number rounded to so many decimal places, in a tie to an even last digit. -/
def roundPlaces (places : Nat) : Binary64 → Binary64
  | .finite negative m =>
    ofRatio negative (roundQuotient (m.units * 10 ^ places) unitsPerOne) (10 ^ places)
  | x => x

/-- The integer that the number is, if it is one. -/
def toInt? : Binary64 → Option Int
  | .finite negative m =>
    if unitsPerOne ∣ m.units then
      let n : Int := ↑(m.units / unitsPerOne)
      some (if negative then -n else n)
    else none
  | _ => none

/-- Whether the integer has a finite nearest number. -/
def hasFinite (n : Int) : Bool :=
  nearest n.natAbs 1 < unitsLimit

end Binary64

end NativeStyle
