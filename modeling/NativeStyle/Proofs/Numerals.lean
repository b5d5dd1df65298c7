import NativeStyle.Proofs.Spellings
import NativeStyle.Proofs.Times

/-!
# Integers written and read back

An integer is written with ASCII digits, and these read back as the integer. If its magnitude is at
most `2 ^ 53` there is a floating-point number that is exactly the integer, and rounding it to
decimal places leaves it. So an integer of that size is written as a numeral whose value is the
integer, whether it counts something or is a time in milliseconds.

Main results:
- `Decimal.digitsValue_ofNat` (digits read back),
- `Binary64.ofRatio_exactly`, `Binary64.roundPlaces_exactly` (integers of this size are numbers),
- `Animation.ofTerm?_number_ofInt`, `Animation.ofTerm?_time_ofInt` (what is written has the integer
  as its value).
-/

namespace NativeStyle

-- Powers of naturals are core's own here, as where the numbers are defined.
attribute [local instance (2000)] instPowNat

/-! ## Digits -/

/-- The last digit is the remainder, and the others are those of the tenth part. -/
theorem Text.ofNat_eq_concat {n : Nat} (h : 10 ≤ n) :
    ofNat n = ofNat (n / 10) ++ [Nat.digitChar (n % 10)] := by
  have hmod : n % 10 < 10 := Nat.mod_lt n (by decide)
  unfold ofNat
  rw [← Nat.toDigits_of_lt_base hmod,
    Nat.toDigits_append_toDigits (by decide) (Nat.div_pos h (by decide)) hmod, Nat.div_add_mod]

theorem Text.ofNat_of_lt {n : Nat} (h : n < 10) : ofNat n = [Nat.digitChar n] :=
  Nat.toDigits_of_lt_base h

/-- The digits that a natural number is written with are digits and spell it. -/
theorem Decimal.digitsValue_ofNat (n : Nat) :
    (∀ c ∈ Text.ofNat n, Text.isDigit c = true) ∧ digitsValue (Text.ofNat n) = n := by
  have hdigit {d : Nat} (hd : d < 10) : Text.isDigit (Nat.digitChar d) = true := by
    rw [Text.isDigit, Text.digitValue?_digitChar hd]
    rfl
  induction n using Nat.strongRecOn with
  | ind n ih =>
    rcases Nat.lt_or_ge n 10 with hn | hn
    · rw [Text.ofNat_of_lt hn, List.forall_mem_singleton]
      exact ⟨hdigit hn, by simp [digitsValue, Text.digitValue?_digitChar hn]⟩
    · have hmod : n % 10 < 10 := Nat.mod_lt n (by decide)
      obtain ⟨hall, hvalue⟩ := ih (n / 10) (by omega)
      rw [Text.ofNat_eq_concat hn, List.forall_mem_append, List.forall_mem_singleton,
        digitsValue_concat, hvalue, Text.digitValue?_digitChar hmod, Option.getD_some,
        Nat.div_add_mod]
      exact ⟨⟨hall, hdigit hmod⟩, rfl⟩

/-! ## Integers as floating-point numbers -/

namespace Binary64

/-- Whether the integer is a floating-point number, as all are up to this magnitude. -/
def IsExact (n : Int) : Prop :=
  n.natAbs ≤ 2 ^ precision

instance (n : Int) : Decidable (IsExact n) :=
  inferInstanceAs (Decidable (_ ≤ _))

/-- The magnitude of an integer. -/
def exactMagnitude (k : Nat) (h : k ≤ 2 ^ precision) : Magnitude where
  units := k * unitsPerOne
  onGrid := spacing_dvd_of_le h
  lt_limit := by
    have hexponent : precision + leastPlaces < leastPlaces + exponentLimit := by decide
    have hle : k * unitsPerOne ≤ 2 ^ precision * unitsPerOne := Nat.mul_le_mul_right unitsPerOne h
    rw [unitsPerOne, ← Nat.pow_add] at hle
    exact Nat.lt_of_le_of_lt hle (Nat.pow_lt_pow_right (by decide) hexponent)

/-- The floating-point number that is exactly the integer. -/
def exactly (n : Int) (h : IsExact n) : Binary64 :=
  .finite (n < 0) (exactMagnitude n.natAbs h)

variable {n : Int} (h : IsExact n)

/-- A fraction that is the integer is nearest to it. -/
theorem ofRatio_exactly {d : Nat} (hd : 0 < d) :
    ofRatio (n < 0) (n.natAbs * d) d = exactly n h := by
  have hnearest : nearest (n.natAbs * d) d = n.natAbs * unitsPerOne := by
    apply nearest_eq_of_dvd hd (Nat.mul_right_comm ..)
    exact (exactMagnitude n.natAbs h).onGrid
  have hlimit : nearest (n.natAbs * d) d < unitsLimit := by
    rw [hnearest]
    exact (exactMagnitude n.natAbs h).lt_limit
  rw [ofRatio, dif_pos hlimit, exactly, finite.injEq, Magnitude.mk.injEq]
  exact ⟨rfl, hnearest⟩

/-- Rounding to decimal places leaves an integer. -/
theorem roundPlaces_exactly (places : Nat) : (exactly n h).roundPlaces places = exactly n h := by
  have hpos : 0 < unitsPerOne := Nat.two_pow_pos _
  have hround : roundQuotient (n.natAbs * unitsPerOne * 10 ^ places) unitsPerOne =
      n.natAbs * 10 ^ places := by
    rw [Nat.mul_right_comm, roundQuotient_mul_self hpos]
  rw [exactly, roundPlaces]
  simp only [exactMagnitude]
  rw [hround, ofRatio_exactly h (Nat.pow_pos (by decide))]
  rfl

theorem toNumber_exactly : (exactly n h).toNumber = .int n := by
  have hpos : 0 < unitsPerOne := Nat.two_pow_pos _
  rw [toNumber_eq_int_iff, exactly, toInt?]
  have hsign : (if n < 0 then -(n.natAbs : Int) else n.natAbs) = n := by
    split <;> omega
  simp only [exactMagnitude, Nat.dvd_mul_left, if_true, Nat.mul_div_cancel _ hpos,
    decide_eq_true_eq, hsign]

end Binary64

/-! ## Numerals of integers -/

namespace Animation

/-- The numeral that an integer is written as. -/
def Numeral.ofInt (n : Int) : Numeral :=
  ⟨n < 0, Text.ofNat n.natAbs, none⟩

theorem Numeral.spelling_ofInt (n : Int) : (Numeral.ofInt n).spelling = Text.ofInt n := by
  cases n with
  | ofNat n => simp [ofInt, spelling, start, Text.ofInt]
  | negSucc n => simp [ofInt, spelling, start, Text.ofInt, Int.negSucc_lt_zero]

theorem Numeral.wellFormed_ofInt (n : Int) : (Numeral.ofInt n).WellFormed := by
  simp only [WellFormed, ofInt, Option.getD_none, List.append_nil]
  exact ⟨(Decimal.digitsValue_ofNat _).1, Nat.toDigits_ne_nil⟩

private theorem ofUnsigned?_ofNat (negative : Bool) (n : Nat) :
    Decimal.ofUnsigned? negative (Text.ofNat n) = some ⟨negative, n, 0⟩ := by
  obtain ⟨hdigits, hvalue⟩ := Decimal.digitsValue_ofNat n
  have hcut : Text.cut? '.' (Text.ofNat n) = none := by
    rw [← Option.not_isSome_iff_eq_none, Option.isSome_iff_exists]
    rintro ⟨⟨before, behind⟩, hcut⟩
    have hpoint := hdigits '.' (by rw [(Text.cut?_eq_some_iff.1 hcut).1]; simp)
    exact absurd hpoint (by decide)
  have hne : Text.ofNat n ≠ [] := Nat.toDigits_ne_nil
  simp only [Decimal.ofUnsigned?, hcut, Option.getD_none, List.append_nil, Decimal.ofDigits, hvalue]
  rw [if_pos ⟨hne, List.all_eq_true.2 hdigits⟩]
  rfl

/-- The numeral of an integer has the integer as its value. -/
theorem ofNumeral?_ofInt (n : Int) :
    Decimal.ofNumeral? (Text.ofInt n) = some ⟨n < 0, n.natAbs, 0⟩ := by
  cases n with
  | negSucc n =>
    rw [decide_eq_true (Int.negSucc_lt_zero n)]
    exact ofUnsigned?_ofNat true (n + 1)
  | ofNat n =>
    have hnumeral := ofUnsigned?_ofNat false n
    unfold Decimal.ofNumeral?
    split
    · next t ht =>
      -- A minus is no digit.
      have hminus := (Decimal.digitsValue_ofNat n).1 '-' (by
        change Text.ofNat n = _ at ht
        simp [ht])
      exact absurd hminus (by decide)
    · exact hnumeral

variable {n : Int}

theorem ofDecimal_ofInt (h : Binary64.IsExact n) :
    Binary64.ofDecimal ⟨n < 0, n.natAbs, 0⟩ = Binary64.exactly n h := by
  have hratio := Binary64.ofRatio_exactly h Nat.one_pos
  simpa [Binary64.ofDecimal] using hratio

/-- A written integer is a number with the integer as its value. -/
theorem ofTerm?_number_ofInt (h : Binary64.IsExact n) :
    Component.ofTerm? (.number (Text.ofInt n)) = some (.number (.int n)) := by
  rw [Component.ofTerm?, ofNumeral?_ofInt, Option.map_some, ofDecimal_ofInt h,
    Binary64.toNumber_exactly]

/-- A written integer with the unit of milliseconds is a time of so many milliseconds. -/
theorem ofTerm?_time_ofInt (h : Binary64.IsExact n) :
    Component.ofTerm? (.time (Text.ofInt n ++ ['m', 's'])) = some (.time (.int n)) := by
  have hread := Numeral.read?_spelling (Numeral.wellFormed_ofInt n)
  have hlower : Text.lower (Text.ofInt n ++ ['m', 's']) = Text.ofInt n ++ ['m', 's'] := by
    rw [← Numeral.spelling_ofInt, Numeral.lower_append hread (by decide)]
    rfl
  have hends : Text.endsWith ['m', 's'] (Text.ofInt n ++ ['m', 's']) = true := by
    simp [Text.endsWith]
  have hnumeral : (Text.ofInt n ++ ['m', 's']).dropLast.dropLast = Text.ofInt n := by
    simp
  have hmillis : millis? (Text.ofInt n ++ ['m', 's']) = some (Binary64.exactly n h) := by
    simp only [millis?, hlower, hends, if_true, hnumeral, ofNumeral?_ofInt, Option.map_some,
      ofDecimal_ofInt h, Binary64.roundPlaces_exactly]
  rw [Component.ofTerm?, hmillis, Option.map_some, Binary64.toNumber_exactly]

end Animation

end NativeStyle
