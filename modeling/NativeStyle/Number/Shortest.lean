import NativeStyle.Number.Binary64

/-!
# The shortest decimal of a binary number

A finite binary number is written as the decimal with the fewest digits among those that round to
it, and of these as the nearest. The decimals that round to a number form an interval around it,
whose ends lie halfway to its neighbours and belong to it if its significand is even.

Main statement: `readsBack_of_neighbour?` (what the search picks on a grid rounds to the number).
-/

namespace NativeStyle.Binary64

-- Powers of naturals are core's own in every module, whatever else is in scope.
attribute [local instance (2000)] instPowNat

/-! ## The interval of a number -/

/-- The distance to the next greater number, in least units. -/
def gapAbove (units : Nat) : Nat :=
  2 ^ spacing units

/-- The distance to the next smaller number: half the usual one below a power of two. -/
def gapBelow (units : Nat) : Nat :=
  if units = 2 ^ units.log2 then 2 ^ (spacing units - 1) else 2 ^ spacing units

/-- Whether the number has an even significand. -/
def isEven (units : Nat) : Bool :=
  units / 2 ^ spacing units % 2 = 0

/-- Whether `coefficient / scale` least units round to the number. -/
def readsBack (units coefficient scale : Nat) : Bool :=
  let low := (2 * units - gapBelow units) * scale
  let high := (2 * units + gapAbove units) * scale
  if isEven units then low ≤ 2 * coefficient && 2 * coefficient ≤ high
  else low < 2 * coefficient && 2 * coefficient < high

/-! ## The search -/

/-- The multiple of `step / scale` least units that is next to the number on either side, rounds
to it and is the nearer one, given as its factor; of two equally near ones the even one. -/
def neighbour? (units step scale : Nat) : Option Nat :=
  let floor := units * scale / step
  let below := readsBack units (floor * step) scale
  let above := readsBack units ((floor + 1) * step) scale
  if below && above then some (roundQuotient (units * scale) step)
  else if below then some floor
  else if above then some (floor + 1)
  else none

/-- What the search picks on a grid rounds to the number. -/
theorem readsBack_of_neighbour? {units step scale k : Nat}
    (h : neighbour? units step scale = some k) : readsBack units (k * step) scale = true := by
  simp only [neighbour?] at h
  split at h
  · next hboth =>
    -- The rounded quotient is one of the two neighbours.
    simp only [Bool.and_eq_true] at hboth
    simp only [Option.some.injEq, roundQuotient] at h
    split at h
    · exact h ▸ hboth.1
    · split at h
      · exact h ▸ hboth.2
      · rcases Nat.mod_two_eq_zero_or_one (units * scale / step) with hm | hm <;>
          rw [hm] at h
        · exact h ▸ hboth.1
        · exact h ▸ hboth.2
  · split at h
    · next hbelow => cases h; exact hbelow
    · split at h
      · next habove => cases h; exact habove
      · cases h

/-- Shift that makes the least number exceed one: its leading digit stands at the 324th place. -/
def placesOfLeast : Nat := 324

/-- The decimal exponent of the leading digit of a positive count of units. -/
def leadingExponent (units : Nat) : Int :=
  (Text.ofNat (units * 10 ^ placesOfLeast / unitsPerOne)).length - 1 - placesOfLeast

/-- The decimal on the grid of `10 ^ exponent` that stands for the number, if one does. -/
def onGrid? (units : Nat) (exponent : Int) : Option (Nat × Int) :=
  (neighbour? units (10 ^ exponent.toNat * unitsPerOne) (10 ^ (-exponent).toNat)).map (·, exponent)

/-- The coefficient without its trailing zeros, which go into the exponent. At most `steps`
zeros are taken. -/
def stripZeros : (steps coefficient : Nat) → Int → Nat × Int
  | 0, coefficient, exponent => (coefficient, exponent)
  | steps + 1, coefficient, exponent =>
    if coefficient ≠ 0 ∧ coefficient % 10 = 0 then
      stripZeros steps (coefficient / 10) (exponent + 1)
    else (coefficient, exponent)

/-- The coefficient and exponent of the shortest decimal of a magnitude. Seventeen digits suffice
for every number; the exact decimal stands behind them. -/
def shortestParts (units : Nat) : Nat × Int :=
  if units = 0 then (0, 0)
  else
    let leading := leadingExponent units
    match (List.range 17).findSome? fun (extra : Nat) => onGrid? units (leading - extra) with
    | some (coefficient, exponent) => stripZeros 17 coefficient exponent
    | none => (units * 5 ^ leastPlaces, -leastPlaces)

/-- The shortest decimal of a finite number. -/
def shortest (negative : Bool) (m : Magnitude) : Decimal :=
  let (coefficient, exponent) := shortestParts m.units
  ⟨negative, coefficient, exponent⟩

end NativeStyle.Binary64
