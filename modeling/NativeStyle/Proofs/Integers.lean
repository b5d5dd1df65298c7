import NativeStyle.Proofs.Longhands
import Mathlib.Tactic.ByContra

/-!
# Integers among the numbers

A floating-point number that is whole becomes an integer, however large it is. Such an integer is
not too large to become a floating-point number again, and neither is a thousandth of it, which is
what a time of so many milliseconds counts in seconds. Every number in the fields of an animation
is one of these, so it can be written.

Main results:
- `Binary64.writable_toNumber` (an integer that comes from a number can be written),
- `Animation.writable_of_parse` (so can every number of an animation).
-/

namespace NativeStyle

-- Powers of naturals are core's own here, as where the numbers are defined.
attribute [local instance (2000)] instPowNat

namespace Binary64

variable {x : Binary64} {n : Int}

/-! ## Rounding down to a half -/

private theorem two_pow_spacing_le (units : Nat) : 2 ^ spacing units ≤ units + 1 := by
  unfold spacing precision
  rcases Nat.eq_zero_or_pos units with rfl | hpos
  · simp
  · calc 2 ^ (units.log2 + 1 - 53) ≤ 2 ^ units.log2 :=
          Nat.pow_le_pow_right (by decide) (by omega)
      _ ≤ units := Nat.log2_self_le (by omega)
      _ ≤ units + 1 := Nat.le_succ units

/-- A half of a number, or less, is not rounded to more than the number. -/
theorem nearest_le {n d : Nat} (hd : 2 ≤ d) : nearest n d ≤ n * unitsPerOne := by
  simp only [nearest]
  generalize n * unitsPerOne = units
  have hspacing := two_pow_spacing_le (units / d)
  have hpos : 0 < 2 ^ spacing (units / d) := Nat.two_pow_pos _
  generalize 2 ^ spacing (units / d) = step at hspacing hpos ⊢
  have hround := (two_mul_roundQuotient (n := units) (Nat.mul_pos (by omega) hpos : 0 < d * step)).1
  generalize roundQuotient units (d * step) = rounded at hround ⊢
  have hstep : d * step ≤ units + d := by
    calc d * step ≤ d * (units / d + 1) := Nat.mul_le_mul_left d hspacing
      _ = d * (units / d) + d := Nat.mul_succ d _
      _ ≤ units + d := Nat.add_le_add_right (Nat.mul_div_le units d) d
  have hcomm : rounded * (d * step) = d * (rounded * step) := Nat.mul_left_comm rounded d step
  rw [hcomm] at hround
  -- The error of rounding is half a step at most, and one unit more would be a greater one.
  by_contra hlarge
  have hmore : d * units + d ≤ d * (rounded * step) := by
    rw [← Nat.mul_succ]
    exact Nat.mul_le_mul_left d (by omega)
  have htwice : 2 * units ≤ d * units := Nat.mul_le_mul_right units hd
  omega

/-! ## Integers that are numbers -/

/-- A number that is an integer counts its units by ones. -/
private theorem units_of_toInt? (h : x.toInt? = some n) :
    ∃ m : Magnitude, n.natAbs * unitsPerOne = m.units := by
  unfold toInt? at h
  split at h
  · next negative m =>
    split at h
    · next hdvd =>
      have habs : n.natAbs = m.units / unitsPerOne := by
        cases negative <;> cases h
        · exact Int.natAbs_natCast _
        · exact (Int.natAbs_neg _).trans (Int.natAbs_natCast _)
      exact ⟨m, by rw [habs, Nat.div_mul_cancel hdvd]⟩
    · cases h
  · cases h

/-- An integer that is a number is near to that number, which is finite. -/
theorem hasFinite_of_toInt? (h : x.toInt? = some n) : hasFinite n = true := by
  obtain ⟨m, hunits⟩ := units_of_toInt? h
  have hnearest : nearest n.natAbs 1 = m.units :=
    nearest_eq_of_dvd Nat.one_pos (by rw [hunits, Nat.mul_one]) m.onGrid
  rw [hasFinite, hnearest]
  exact decide_eq_true m.lt_limit

private theorem exists_ofRatio {negative : Bool} {n d : Nat} (h : nearest n d < unitsLimit) :
    ∃ m, ofRatio negative n d = .finite negative m := by
  unfold ofRatio
  exact ⟨_, dif_pos h⟩

/-- A thousandth of an integer that is a number is finite. -/
theorem ofQuotient_of_toInt? (h : x.toInt? = some n) :
    ∃ negative m, ofQuotient n 1000 = .finite negative m := by
  obtain ⟨m, hunits⟩ := units_of_toInt? h
  have hle : nearest n.natAbs 1000 ≤ m.units := hunits ▸ nearest_le (by decide)
  have hlt : nearest n.natAbs 1000 < unitsLimit := Nat.lt_of_le_of_lt hle m.lt_limit
  exact ⟨_, exists_ofRatio hlt⟩

/-- An integer that comes from a number has a compact text, that of the number. -/
theorem compact?_toNumber (x : Binary64) : x.toNumber.compact? = some x.compact := by
  cases h : x.toInt? with
  | none => simp [toNumber, compact, Number.compact?, h]
  | some n => simp [toNumber, compact, Number.compact?, h, hasFinite_of_toInt? h]

end Binary64

/-- Whether the number has a compact text, and as a whole number of milliseconds is a finite
number of seconds. -/
def Number.Writable (n : Number) : Prop :=
  n.compact?.isSome = true ∧
    ∀ k, n = .int k → ∃ negative m, Binary64.ofQuotient k 1000 = .finite negative m

theorem Binary64.writable_toNumber (x : Binary64) : x.toNumber.Writable := by
  refine ⟨by rw [compact?_toNumber, Option.isSome_some], ?_⟩
  intro k hk
  exact ofQuotient_of_toInt? (toNumber_eq_int_iff.1 hk)

/-! ## Animations -/

namespace Animation

/-- Every number of a component comes from a floating-point number. -/
theorem Component.writable_of_ofTerm? {t : Term} {c : Component} {n : Number}
    (h : ofTerm? t = some c) (hn : c.value = .number n) : n.Writable := by
  cases t with
  | time t =>
    obtain ⟨millis, -, rfl⟩ := Option.map_eq_some_iff.1 h
    rw [← Value.number.inj hn]
    exact millis.writable_toNumber
  | number t =>
    obtain ⟨d, -, rfl⟩ := Option.map_eq_some_iff.1 h
    rw [← Value.number.inj hn]
    exact (Binary64.ofDecimal d).writable_toNumber
  | keyword t => cases h; cases hn
  | string t => cases h; cases hn
  | call name arguments => cases h; cases hn

/-- Every number of an animation that can be read can be written. -/
theorem writable_of_parse {value : Text} {fields : Fields} {slot : Slot} {n : Number}
    (h : parse value = .ok fields) (hn : fields slot = some (.number n)) : n.Writable := by
  obtain ⟨read, components, -, hcomponents, hfill⟩ := exists_of_parse h
  rcases Fields.eq_value_of_fillAll hfill hn with hempty | ⟨c, hc, hvalue⟩
  · cases hempty
  · obtain ⟨t, -, hcomponent⟩ := exists_of_mem_mapM hcomponents hc
    split at hcomponent <;> cases hcomponent
    next hterm => exact Component.writable_of_ofTerm? hterm hvalue.symm

end Animation

end NativeStyle
