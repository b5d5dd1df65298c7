import NativeStyle.Length
import NativeStyle.Proofs.Substitution

/-!
# Pixels in place of relative lengths

The pixels of a relative length are written with few characters: ASCII digits, a point, a sign, an
exponent, or the letters of `inf` and `nan`. None of them is an `m`, and every relative length has
one in its unit; so a value that stays when it is converted holds no relative length at all.

Main results:
- `Binary64.isNumeral_of_mem_compact` (the characters of a written number),
- `RelativeLength.count_convert_le` (a conversion adds no other character),
- `RelativeLength.infix_of_infix_convert` (which texts it cannot bring about),
- `RelativeLength.convert_eq_self_iff` (only values without relative lengths stay).
-/

namespace NativeStyle

/-! ## The characters of a number -/

/-- Whether the character may stand in the text of a number. -/
def isNumeral (c : Char) : Bool :=
  c.isDigit || ['.', 'e', '+', '-', 'i', 'n', 'f', 'a'].contains c

theorem isBlank_of_isNumeral {c : Char} (h : isNumeral c = true) : Text.isBlank c = false := by
  rw [isNumeral, Bool.or_eq_true] at h
  -- Digits are known not to be blanks; the other characters are looked at one by one.
  rcases h with hdigit | hmark
  · exact Text.isBlank_of_isAlphanum (by simp [Char.isAlphanum, hdigit])
  · simp only [List.contains_iff_mem, List.mem_cons, List.not_mem_nil, or_false] at hmark
    rcases hmark with rfl | rfl | rfl | rfl | rfl | rfl | rfl | rfl <;> decide

theorem isNumeral_of_mem_ofNat {n : Nat} {c : Char} (h : c ∈ Text.ofNat n) :
    isNumeral c = true := by
  have hdigit : c.isDigit = true :=
    Nat.isDigit_of_mem_toDigits (by decide) (by decide) h
  simp [isNumeral, hdigit]

theorem ofNat_ne_nil (n : Nat) : Text.ofNat n ≠ [] :=
  Nat.toDigits_ne_nil

theorem isNumeral_of_mem_ofInt {n : Int} {c : Char} (h : c ∈ Text.ofInt n) :
    isNumeral c = true := by
  cases n with
  | ofNat n => exact isNumeral_of_mem_ofNat h
  | negSucc n =>
    rcases List.mem_cons.1 h with rfl | hdigits
    · decide
    · exact isNumeral_of_mem_ofNat hdigits

theorem ofInt_ne_nil (n : Int) : Text.ofInt n ≠ [] := by
  cases n with
  | ofNat n => exact ofNat_ne_nil n
  | negSucc n => exact List.cons_ne_nil _ _

namespace Decimal

private theorem isNumeral_of_mem_positional {digits : Text} {whole : Int} {c : Char}
    (hdigits : ∀ d ∈ digits, isNumeral d = true) (h : c ∈ positional digits whole) :
    isNumeral c = true := by
  have hzero : isNumeral '0' = true := by decide
  have hpoint : isNumeral '.' = true := by decide
  unfold positional at h
  -- Below one: a zero, the point, zeros and the digits.
  split at h
  · simp only [List.cons_append, List.mem_cons, List.mem_append, List.mem_replicate] at h
    rcases h with rfl | rfl | ⟨-, rfl⟩ | hmem
    · exact hzero
    · exact hpoint
    · exact hzero
    · exact hdigits c hmem
  · -- From one on: digits and zeros, the point, and the places or a single zero.
    simp only [List.mem_append, List.mem_cons, List.mem_replicate] at h
    rcases h with (hmem | ⟨-, rfl⟩) | rfl | hplaces
    · exact hdigits c (List.mem_of_mem_take hmem)
    · exact hzero
    · exact hpoint
    · split at hplaces
      · rw [List.mem_singleton.1 hplaces]
        exact hzero
      · exact hdigits c (List.mem_of_mem_drop hplaces)

private theorem isNumeral_of_mem_scientific {l : Layout} {digits : Text} {exponent : Int} {c : Char}
    (hdigits : ∀ d ∈ digits, isNumeral d = true) (h : c ∈ scientific l digits exponent) :
    isNumeral c = true := by
  simp only [scientific, List.mem_append, List.mem_cons, List.mem_replicate] at h
  -- The first digit, its places, the letter, the sign, a padding zero and the power.
  rcases h with ((hmem | hplaces) | rfl | rfl | ⟨-, rfl⟩) | hpower
  · exact hdigits c (List.mem_of_mem_take hmem)
  · split at hplaces
    · cases hplaces
    · rcases List.mem_cons.1 hplaces with rfl | hmem
      · decide
      · exact hdigits c (List.mem_of_mem_drop hmem)
  · decide
  · split <;> decide
  · decide
  · exact isNumeral_of_mem_ofNat hpower

/-- A decimal is written in one of two ways. -/
private theorem render_cases (l : Layout) (d : Decimal) :
    ∃ (sign : Text) (leading : Int), (sign = [] ∨ sign = ['-']) ∧
      (d.render l = sign ++ positional (Text.ofNat d.coefficient) leading ∨
        d.render l = sign ++ scientific l (Text.ofNat d.coefficient) leading) := by
  have hsign : (if d.negative then ['-'] else []) = ([] : Text) ∨
      (if d.negative then ['-'] else []) = ['-'] := by
    cases d.negative <;> simp
  simp only [render]
  -- Only the two forms matter, not where the point stands.
  generalize (if d.coefficient = 0 then (0 : Int)
    else d.exponent + (Text.ofNat d.coefficient).length - 1) = leading
  by_cases hplain : l.plainFrom ≤ leading ∧ leading < l.plainBelow
  · rw [if_pos hplain]
    exact ⟨_, _, hsign, Or.inl rfl⟩
  · rw [if_neg hplain]
    exact ⟨_, _, hsign, Or.inr rfl⟩

theorem isNumeral_of_mem_render {l : Layout} {d : Decimal} {c : Char} (h : c ∈ d.render l) :
    isNumeral c = true := by
  have hdigits : ∀ b ∈ Text.ofNat d.coefficient, isNumeral b = true :=
    fun _ => isNumeral_of_mem_ofNat
  have hminus {sign : Text} (hsign : sign = [] ∨ sign = ['-']) (hc : c ∈ sign) :
      isNumeral c = true := by
    rcases hsign with rfl | rfl
    · cases hc
    · rw [List.mem_singleton.1 hc]
      decide
  obtain ⟨sign, leading, hsign, hform | hform⟩ := render_cases l d
  · rw [hform] at h
    rcases List.mem_append.1 h with hc | hc
    · exact hminus hsign hc
    · exact isNumeral_of_mem_positional hdigits hc
  · rw [hform] at h
    rcases List.mem_append.1 h with hc | hc
    · exact hminus hsign hc
    · exact isNumeral_of_mem_scientific hdigits hc

theorem render_ne_nil (l : Layout) (d : Decimal) : d.render l ≠ [] := by
  intro h
  obtain ⟨sign, leading, -, hform | hform⟩ := render_cases l d
  · rw [h] at hform
    have hbody := (List.append_eq_nil_iff.1 hform.symm).2
    unfold positional at hbody
    split at hbody <;> simp at hbody
  · rw [h] at hform
    have hbody := (List.append_eq_nil_iff.1 hform.symm).2
    simp [scientific] at hbody

end Decimal

namespace Binary64

/-- The text of a number is made of digits and a few marks and letters. -/
theorem isNumeral_of_mem_compact {x : Binary64} {c : Char} (h : c ∈ x.compact) :
    isNumeral c = true := by
  unfold compact at h
  -- A whole number is written as an integer, and everything else as a decimal.
  split at h
  · exact isNumeral_of_mem_ofInt h
  · cases x with
    | nan => revert c; decide
    | infinite negative => cases negative <;> revert c <;> decide
    | finite negative m => exact Decimal.isNumeral_of_mem_render h

theorem compact_ne_nil (x : Binary64) : x.compact ≠ [] := by
  unfold compact
  split
  · exact ofInt_ne_nil _
  · cases x with
    | nan => decide
    | infinite negative => cases negative <;> decide
    | finite negative m => exact Decimal.render_ne_nil _ _

end Binary64

/-! ## The digits of a number -/

/-- Whether the character is a digit, or a letter that stands for all digits in `inf` or `nan`. -/
def isDigitLike (c : Char) : Bool :=
  c.isDigit || c = 'f' || c = 'a'

private def HasDigitLike (s : Text) : Prop :=
  ∃ c ∈ s, isDigitLike c = true

private theorem HasDigitLike.mono {s t : Text} (h : HasDigitLike s) (hsub : s ⊆ t) :
    HasDigitLike t := by
  obtain ⟨c, hc, hlike⟩ := h
  exact ⟨c, hsub hc, hlike⟩

private theorem hasDigitLike_take_ofNat (n : Nat) {k : Nat} (hk : 0 < k) :
    HasDigitLike ((Text.ofNat n).take k) := by
  obtain ⟨c, rest, hdigits⟩ := List.exists_cons_of_ne_nil (ofNat_ne_nil n)
  have hmem : c ∈ Nat.toDigits 10 n := by
    show c ∈ Text.ofNat n
    rw [hdigits]
    exact List.mem_cons_self
  have hdigit : c.isDigit = true := Nat.isDigit_of_mem_toDigits (by decide) (by decide) hmem
  rw [hdigits, ← Nat.succ_pred_eq_of_pos hk, List.take_succ_cons]
  exact ⟨c, List.mem_cons_self, by simp [isDigitLike, hdigit]⟩

/-- In both of its forms a decimal has a digit in front of its point or power. -/
private theorem hasDigitLike_render (l : Decimal.Layout) (d : Decimal) :
    HasDigitLike (d.render l) := by
  obtain ⟨sign, leading, -, hform | hform⟩ := d.render_cases l
  · have hpositional : HasDigitLike (Decimal.positional (Text.ofNat d.coefficient) leading) := by
      unfold Decimal.positional
      split
      · exact ⟨'0', List.mem_cons_self, by decide⟩
      · next hwhole =>
        have htake := hasDigitLike_take_ofNat d.coefficient (k := leading.toNat) (by omega)
        exact htake.mono fun c hc => by simp [hc]
    rw [hform]
    exact hpositional.mono (List.subset_append_right _ _)
  · have htake := hasDigitLike_take_ofNat d.coefficient Nat.one_pos
    rw [hform]
    exact htake.mono fun c hc => by simp [Decimal.scientific, hc]

/-- No number is written without anything like a digit. -/
theorem Binary64.exists_digitLike_mem_compact (x : Binary64) :
    ∃ c ∈ x.compact, isDigitLike c = true := by
  have hnat (n : Nat) : HasDigitLike (Text.ofNat n) :=
    (hasDigitLike_take_ofNat n Nat.one_pos).mono (List.take_subset 1 _)
  unfold compact
  split
  · next n _ =>
    cases n with
    | ofNat n => exact hnat n
    | negSucc n => exact (hnat (n + 1)).mono (List.subset_cons_self '-' _)
  · cases x with
    | nan => exact ⟨'a', by decide, by decide⟩
    | infinite negative => cases negative <;> exact ⟨'f', by decide, by decide⟩
    | finite negative m => exact hasDigitLike_render _ _

/-! ## Conversion -/

namespace RelativeLength

theorem isNumeral_of_mem_pixels {l : RelativeLength} {c : Char} (h : c ∈ l.pixels) :
    isNumeral c = true :=
  Binary64.isNumeral_of_mem_compact h

theorem pixels_ne_nil (l : RelativeLength) : l.pixels ≠ [] :=
  Binary64.compact_ne_nil _

private theorem count_pixels {c : Char} (hc : isNumeral c = false) (l : RelativeLength) :
    l.pixels.count c = 0 := by
  apply List.count_eq_zero.2
  intro hmem
  rw [isNumeral_of_mem_pixels hmem] at hc
  cases hc

/-- A conversion adds only characters of numbers. -/
theorem count_convert_le {c : Char} (hc : isNumeral c = false) (value : Text) :
    (convert value).count c ≤ value.count c := by
  apply Pattern.count_substitute_le
  intro l _
  rw [count_pixels hc]
  exact Nat.zero_le _

/-- Every unit has an `m`, and no number has one: a conversion that loses none has nothing to
convert. -/
theorem found_eq_nil_of_count_convert {value : Text}
    (h : value.count 'm' ≤ (convert value).count 'm') : found value = [] := by
  have hlost : ∀ l ∈ pattern.found value, l.pixels.count 'm' < (pattern.spelling l).count 'm' := by
    intro l _
    have hunit : 0 < l.unit.text.count 'm' := by
      cases l.unit <;> decide
    rw [count_pixels (by decide)]
    show 0 < l.spelling.count 'm'
    rw [spelling, List.count_append]
    omega
  exact Pattern.found_eq_nil_of_count hlost h

/-- Only values without relative lengths stay. -/
theorem convert_eq_self_iff {value : Text} : convert value = value ↔ found value = [] := by
  constructor
  · intro h
    exact found_eq_nil_of_count_convert (Nat.le_of_eq (congrArg (List.count 'm') h.symm))
  · intro h
    exact pattern.substitute_of_found_eq_nil h pixels

/-- A trimmed value stays trimmed when it is converted. -/
theorem trim_convert {value : Text} (h : Text.trim value = value) :
    Text.trim (convert value) = convert value := by
  apply pattern.trim_substitute h
  intro l _
  exact ⟨pixels_ne_nil l, fun c hc => isBlank_of_isNumeral (isNumeral_of_mem_pixels hc)⟩

theorem convert_ne_nil {value : Text} (h : value ≠ []) : convert value ≠ [] :=
  pattern.substitute_ne_nil h fun l _ => pixels_ne_nil l

/-- A text that is foreign to numbers: it neither starts nor ends with a character of theirs, and
has nothing like a digit in it. -/
structure Foreign (t : Text) : Prop where
  head : ∀ c ∈ t.head?, isNumeral c = false
  last : ∀ c ∈ t.getLast?, isNumeral c = false
  inside : ∀ c ∈ t, isDigitLike c = false

/-- The ends are looked at as they are, and not among all characters. -/
instance (t : Text) : Decidable (Foreign t) :=
  decidable_of_iff
    (t.head?.all (!isNumeral ·) = true ∧ t.getLast?.all (!isNumeral ·) = true ∧
      t.all (!isDigitLike ·) = true) <| by
    simp only [Option.all_eq_true, List.all_eq_true, Bool.not_eq_true']
    exact ⟨fun ⟨head, last, inside⟩ => ⟨head, last, inside⟩,
      fun h => ⟨h.head, h.last, h.inside⟩⟩

/-- A conversion cannot bring about a text that is foreign to numbers. -/
theorem infix_of_infix_convert {t value : Text} (hforeign : Foreign t) (h : t <:+: convert value) :
    t <:+: value := by
  have hnot {c : Char} (hc : isNumeral c = false) (l : RelativeLength) : c ∉ l.pixels := by
    intro hmem
    rw [isNumeral_of_mem_pixels hmem] at hc
    cases hc
  apply Pattern.infix_of_infix_substitute _ _ _ h
  · exact fun l _ c hc => hnot (hforeign.head c hc) l
  · exact fun l _ c hc => hnot (hforeign.last c hc) l
  · intro l _
    obtain ⟨c, hc, hdigit⟩ := Binary64.exists_digitLike_mem_compact
      ((Binary64.ofDecimal (.ofDigits false l.whole l.places)).times pixelsPerEm)
    refine ⟨c, hc, fun hmem => ?_⟩
    rw [hforeign.inside c hmem] at hdigit
    cases hdigit

end RelativeLength

end NativeStyle
