import NativeStyle.Proofs.Conversions
import NativeStyle.Proofs.Numerals
import Mathlib.Tactic.FieldSimp
import Mathlib.Tactic.Ring

/-!
# Whole pixels

However long it is, a numeral stands for a rational number, and it is read as the nearest number of
the format. Where sixteen times the rational number is an integer below `2 ^ 53`, nothing is rounded
on the way: a sixteenth of such an integer is a number of the format, and so is the integer itself.

Main results:
- `Decimal.digitsValue_append` (digits in front of others),
- `Text.isPlain_ofNat` (how an integer is written),
- `Binary64.times_ofDecimal` (a decimal times a power of two, where the product is an integer),
- `RelativeLength.convert_exact` (a length of whole pixels becomes the integer).
-/

namespace NativeStyle

-- Powers of naturals are core's own here, as where the numbers are defined.
attribute [local instance (2000)] instPowNat

/-! ## Plain integers -/

/-- Digits in front of others count by the power of ten that these stand for. -/
theorem Decimal.digitsValue_append (s t : Text) :
    digitsValue (s ++ t) = digitsValue s * 10 ^ t.length + digitsValue t := by
  induction t using List.reverseRecOn with
  | nil => simp [digitsValue]
  | append_singleton t c ih =>
    rw [← List.append_assoc, digitsValue_concat, ih, digitsValue_concat, List.length_append,
      List.length_singleton, Nat.pow_succ]
    ring

/-- The text of a natural number without point, exponent or sign: ASCII digits that spell it, and
no zero in front of others. -/
structure Text.IsPlain (t : Text) (n : Nat) : Prop where
  digits : ∀ c ∈ t, c.isDigit = true
  ne_nil : t ≠ []
  noLeadingZero : t.head? = some '0' → t = ['0']
  value : Decimal.digitsValue t = n

/-- Natural numbers are written plainly. -/
theorem Text.isPlain_ofNat (n : Nat) : IsPlain (ofNat n) n where
  digits _ hc := Nat.isDigit_of_mem_toDigits (by decide) (by decide) hc
  ne_nil := Nat.toDigits_ne_nil
  noLeadingZero := by
    induction n using Nat.strongRecOn with
    | ind n ih =>
      intro hhead
      rcases Nat.lt_or_ge n 10 with hn | hn
      · rw [ofNat_of_lt hn] at hhead ⊢
        exact congrArg (fun c => [c]) (Option.some.inj hhead)
      · -- The first digit is that of the tenth part, which is not zero.
        have hne : ofNat (n / 10) ≠ [] := Nat.toDigits_ne_nil
        rw [ofNat_eq_concat hn, List.head?_append_of_ne_nil _ hne] at hhead
        have hzero := (Decimal.digitsValue_ofNat (n / 10)).2
        rw [ih (n / 10) (by omega) hhead] at hzero
        have : Decimal.digitsValue ['0'] = 0 := by decide
        omega
  value := (Decimal.digitsValue_ofNat n).2

/-! ## Products that are integers -/

namespace Binary64

/-- An integer among the numbers is written plainly. -/
theorem compact_exactly {n : Nat} (h : IsExact n) : (exactly n h).compact = Text.ofNat n := by
  rw [compact, toNumber_eq_int_iff.1 (toNumber_exactly h)]
  rfl

/-- A decimal whose product with a power of two is an integer is a number of the format, and so is
the product. -/
theorem times_ofDecimal {coefficient places bits n : Nat} (hbits : bits ≤ leastPlaces)
    (hn : IsExact n) (hproduct : 2 ^ bits * coefficient = n * 10 ^ places) :
    (ofDecimal ⟨false, coefficient, -places⟩).times (2 ^ bits) = exactly n hn := by
  have hle : n ≤ 2 ^ precision := hn
  have hsplit : unitsPerOne = 2 ^ bits * 2 ^ (leastPlaces - bits) := by
    rw [← Nat.pow_add, Nat.add_sub_cancel' hbits, unitsPerOne]
  have hnearest : nearest coefficient (10 ^ places) = n * 2 ^ (leastPlaces - bits) := by
    apply nearest_eq_of_dvd (Nat.pow_pos (by decide))
    · calc coefficient * unitsPerOne
          = 2 ^ bits * coefficient * 2 ^ (leastPlaces - bits) := by rw [hsplit]; ring
        _ = n * 2 ^ (leastPlaces - bits) * 10 ^ places := by rw [hproduct]; ring
    · exact spacing_dvd_of_le hle
  have hlimit : nearest coefficient (10 ^ places) < unitsLimit := by
    have hexponent : precision + leastPlaces < leastPlaces + exponentLimit := by decide
    rw [hnearest]
    calc n * 2 ^ (leastPlaces - bits)
        ≤ 2 ^ precision * 2 ^ leastPlaces :=
          Nat.mul_le_mul hle (Nat.pow_le_pow_right (by decide) (Nat.sub_le _ _))
      _ = 2 ^ (precision + leastPlaces) := (Nat.pow_add ..).symm
      _ < unitsLimit := Nat.pow_lt_pow_right (by decide) hexponent
  have hread : ofDecimal ⟨false, coefficient, -places⟩ =
      ofRatio false coefficient (10 ^ places) := by
    simp [ofDecimal]
  have hunits : n * 2 ^ (leastPlaces - bits) * 2 ^ bits = n * unitsPerOne := by
    rw [hsplit]
    ring
  rw [hread, ofRatio, dif_pos hlimit, times]
  simp only [hnearest, hunits]
  exact ofRatio_exactly hn (Nat.two_pow_pos _)

end Binary64

/-! ## Lengths of whole pixels -/

namespace RelativeLength

variable {l : RelativeLength}

/-- The rational number that the digits in front of the point and behind it stand for. -/
def exactValue (l : RelativeLength) : ℚ :=
  Decimal.digitsValue l.whole + Decimal.digitsValue l.places / 10 ^ l.places.length

/-- Sixteen times the number is an integer if the digits, read without the point, are. -/
private theorem sixteen_mul_digitsValue {n : Nat} (h : 16 * l.exactValue = n) :
    16 * Decimal.digitsValue (l.whole ++ l.places) = n * 10 ^ l.places.length := by
  rw [exactValue] at h
  rw [Decimal.digitsValue_append]
  have hcast : (16 : ℚ) * (Decimal.digitsValue l.whole * 10 ^ l.places.length +
      Decimal.digitsValue l.places) = n * 10 ^ l.places.length := by
    rw [← h]
    field_simp
  exact_mod_cast hcast

/-- **A length of whole pixels becomes the integer.** If sixteen times the number in front of a unit
is an integer below `2 ^ 53`, the whole text is converted to this integer, written plainly, whatever
zeros the number has and whatever blanks stand in front of the unit. -/
theorem convert_exact (options : Options) (h : l.WellFormed) {n : Nat} (hn : n < 2 ^ 53)
    (hvalue : 16 * l.exactValue = n) :
    (Step.convert options (l.numeral ++ (l.gap ++ l.unit.text))).result = .ok (Text.ofNat n) ∧
      (Text.ofNat n).IsPlain n := by
  have hexact : Binary64.IsExact n := Nat.le_of_lt hn
  have hpixels : l.pixels = Text.ofNat n := by
    have hbits : 4 ≤ Binary64.leastPlaces := by decide
    have htimes := Binary64.times_ofDecimal hbits hexact (sixteen_mul_digitsValue hvalue)
    rw [← Binary64.compact_exactly hexact, ← htimes]
    rfl
  have hconvert : convert l.spelling = l.pixels ++ convert [] := by
    have hread := h.read?_spelling_append []
    rw [List.append_nil] at hread
    exact pattern.substitute_of_read? pixels hread
  refine ⟨?_, Text.isPlain_ofNat n⟩
  rw [step_convert_eq, ← spelling_eq, hconvert, hpixels]
  simp [convert, Pattern.substitute, pattern.cut_nil]

/-- A number with digits of two scripts, and zeros at both ends. -/
def paddedLength : RelativeLength := ⟨"0٣".toList, "06250".toList, " \t".toList, .rem⟩

/-- It stands for 49 sixteenths. -/
theorem convert_exact_padded :
    paddedLength.WellFormed ∧ 49 < 2 ^ 53 ∧ 16 * paddedLength.exactValue = (49 : Nat) ∧
      (Step.convert {} "0٣.06250 \trem".toList).result = .ok "49".toList := by
  have hwell : paddedLength.WellFormed :=
    ⟨by decide, by decide, by decide, Or.inl (by decide)⟩
  have hvalue : 16 * paddedLength.exactValue = (49 : Nat) := by
    have hwhole : Decimal.digitsValue "0٣".toList = 3 := by decide
    have hplaces : Decimal.digitsValue "06250".toList = 6250 := by decide
    have hlength : "06250".toList.length = 5 := rfl
    simp only [exactValue, paddedLength, hwhole, hplaces, hlength]
    norm_num
  exact ⟨hwell, by decide, hvalue, (convert_exact {} hwell (by decide) hvalue).1⟩

end RelativeLength

end NativeStyle
