import NativeStyle.Proofs.Lengths
import NativeStyle.Proofs.Verdicts

/-!
# Needles

A policy looks for *needles*, texts for which a value is dropped, before relative lengths are
converted. A conversion puts numbers in their place, so it might bring a needle about that was not
there. It does not: the ends of the needles are no characters of numbers, and every number has a
digit, an `f` or an `a`, none of which is in a needle. In whatever letter case a needle is written,
it is a stretch of the value with other letters (`Text.infix_lower_iff`), so the same holds of it.

Main results:
- `Text.infix_lower_iff` (what stands in the lower-case form of a text),
- `RelativeLength.infix_of_infix_convert` (what a conversion cannot bring about),
- `Policy.Passes.convert` (what is not dropped for its needles has none afterwards).
-/

namespace NativeStyle

/-! ## Letter case -/

namespace Text

/-- The small letters of the two capitals that are not lowered letter by letter, with the capital
that has no letter of its own. -/
def exceptional : List Char :=
  ['σ', 'ς', 'i', '\u0307', 'İ']

variable {needle : Text}

/-- A letter is lowered by itself, or it is one of the exceptions. -/
private theorem lowerAfter_cons (before : Text) (c : Char) (rest : Text) :
    lowerAfter before (c :: rest) = smallLetter c :: lowerAfter (c :: before) rest ∨
      smallLetter c ∈ exceptional ∧ ∃ d ds, (∀ e ∈ d :: ds, e ∈ exceptional) ∧
        lowerAfter before (c :: rest) = d :: ds ++ lowerAfter (c :: before) rest := by
  by_cases hsigma : c = 'Σ'
  · subst hsigma
    refine Or.inr ⟨by decide, ?_⟩
    cases hword : endsWord before rest
    · exact ⟨'σ', [], by decide, by simp [lowerAfter, hword]⟩
    · exact ⟨'ς', [], by decide, by simp [lowerAfter, hword]⟩
  · by_cases hdotted : c = 'İ'
    · subst hdotted
      exact Or.inr ⟨by decide, 'i', ['\u0307'], by decide, rfl⟩
    · exact Or.inl (by simp [lowerAfter, hsigma, hdotted])

/-- The lower-case form starts with a needle exactly if the text starts with its letters. -/
private theorem prefix_lowerAfter_iff (h : ∀ c ∈ needle, c ∉ exceptional) (before s : Text) :
    needle <+: lowerAfter before s ↔ ∃ w, w <+: s ∧ w.map smallLetter = needle := by
  induction s generalizing needle before with
  | nil => simp [lowerAfter, List.prefix_nil, eq_comm]
  | cons c rest ih =>
    cases needle with
    | nil => simp
    | cons n needle =>
      obtain ⟨hn, hneedle⟩ := List.forall_mem_cons.1 h
      -- Written out, the text starts with the first letter of the needle and goes on with the rest.
      have hletters : (∃ w, w <+: c :: rest ∧ w.map smallLetter = n :: needle) ↔
          n = smallLetter c ∧ ∃ w, w <+: rest ∧ w.map smallLetter = needle := by
        constructor
        · rintro ⟨w, hw, hmap⟩
          rcases List.prefix_cons_iff.1 hw with rfl | ⟨t, rfl, ht⟩
          · cases hmap
          · cases hmap
            exact ⟨rfl, t, ht, rfl⟩
        · rintro ⟨rfl, w, hw, rfl⟩
          exact ⟨c :: w, List.cons_prefix_cons.2 ⟨rfl, hw⟩, rfl⟩
      rw [hletters]
      rcases lowerAfter_cons before c rest with hplain | ⟨hsmall, d, ds, hds, hexception⟩
      · rw [hplain, List.cons_prefix_cons, ih hneedle]
      · rw [hexception, List.cons_append, List.cons_prefix_cons]
        constructor
        · rintro ⟨rfl, -⟩
          exact absurd (hds n List.mem_cons_self) hn
        · rintro ⟨rfl, -⟩
          exact absurd hsmall hn

private theorem infix_lowerAfter_iff (h : ∀ c ∈ needle, c ∉ exceptional) (hne : needle ≠ [])
    (before s : Text) :
    needle <:+: lowerAfter before s ↔ ∃ w, w <:+: s ∧ w.map smallLetter = needle := by
  -- No text of exceptions has a part of the needle in it.
  have hskip {front t : Text} (hfront : ∀ e ∈ front, e ∈ exceptional) :
      needle <:+: front ++ t ↔ needle <:+: t := by
    induction front with
    | nil => rfl
    | cons d front ihf =>
      obtain ⟨hd, hfront⟩ := List.forall_mem_cons.1 hfront
      rw [List.cons_append, List.infix_cons_iff, ihf hfront, or_iff_right]
      intro hprefix
      rcases List.prefix_cons_iff.1 hprefix with rfl | ⟨t, rfl, -⟩
      · exact hne rfl
      · exact h d List.mem_cons_self hd
  induction s generalizing before with
  | nil => simp [lowerAfter, eq_comm]
  | cons c rest ih =>
    have hsplit : (∃ w, w <:+: c :: rest ∧ w.map smallLetter = needle) ↔
        (∃ w, w <+: c :: rest ∧ w.map smallLetter = needle) ∨
          ∃ w, w <:+: rest ∧ w.map smallLetter = needle := by
      simp only [List.infix_cons_iff, or_and_right, exists_or]
    -- The needle stands at the front of what is left to lower, or further behind.
    refine Iff.trans ?_ (Iff.trans (or_congr (prefix_lowerAfter_iff h before _) (ih (c :: before)))
      hsplit.symm)
    rcases lowerAfter_cons before c rest with hplain | ⟨-, d, ds, hds, hexception⟩
    · rw [hplain, List.infix_cons_iff]
    · rw [hexception, hskip hds, iff_or_self]
      intro hprefix
      exact (hskip hds).1 hprefix.isInfix

/-- A needle stands in the lower-case form of a text exactly if it stands in the text, in some
letter case. -/
theorem infix_lower_iff (h : ∀ c ∈ needle, c ∉ exceptional) (hne : needle ≠ []) {s : Text} :
    needle <:+: lower s ↔ ∃ w, w <:+: s ∧ w.map smallLetter = needle :=
  infix_lowerAfter_iff h hne [] s

end Text

/-! ## Needles in a conversion -/

private theorem smallLetter_of_isNumeral {c : Char} (h : isNumeral c = true) :
    Text.smallLetter c = c := by
  rw [isNumeral, Bool.or_eq_true] at h
  -- Only capitals change, and they have greater codes than the digits.
  rcases h with hdigit | hmark
  · obtain ⟨-, hcode⟩ := Text.toNat_of_isDigit hdigit
    rw [Text.smallLetter, if_pos (by omega)]
    unfold Char.toLower
    rw [dif_neg]
    rintro ⟨hcapital, -⟩
    have hlarge : 65 ≤ c.toNat := by simpa [UInt32.le_iff_toNat_le] using hcapital
    omega
  · simp only [List.contains_iff_mem, List.mem_cons, List.not_mem_nil, or_false] at hmark
    rcases hmark with rfl | rfl | rfl | rfl | rfl | rfl | rfl | rfl <;> decide

private theorem isNumeral_of_isDigitLike {c : Char} (h : isDigitLike c = true) :
    isNumeral c = true := by
  simp only [isDigitLike, Bool.or_eq_true, decide_eq_true_eq] at h
  rcases h with (hdigit | rfl) | rfl
  · simp [isNumeral, hdigit]
  · decide
  · decide

namespace RelativeLength

/-- In whatever letter case, a text that is foreign to numbers is brought about by no conversion. -/
theorem infix_lower_of_convert {needle value : Text} (hforeign : Foreign needle)
    (hplain : ∀ c ∈ needle, c ∉ Text.exceptional) (hne : needle ≠ [])
    (h : needle <:+: Text.lower (convert value)) : needle <:+: Text.lower value := by
  rw [Text.infix_lower_iff hplain hne] at h ⊢
  obtain ⟨w, hw, rfl⟩ := h
  -- Characters of numbers are their own small letters, so no other case makes one of the needle.
  have hnumeral {c : Char} (hsmall : isNumeral (Text.smallLetter c) = false) :
      isNumeral c = false := by
    cases hc : isNumeral c with
    | false => rfl
    | true => rw [smallLetter_of_isNumeral hc, hc] at hsmall; cases hsmall
  have hw' : Foreign w := {
    head := by
      intro c hc
      apply hnumeral (hforeign.head _ _)
      rw [List.head?_map, Option.mem_def.1 hc]
      rfl
    last := by
      intro c hc
      apply hnumeral (hforeign.last _ _)
      rw [List.getLast?_map, Option.mem_def.1 hc]
      rfl
    inside := by
      intro c hc
      have hsmall := hforeign.inside _ (List.mem_map_of_mem hc)
      cases hlike : isDigitLike c with
      | false => rfl
      | true =>
        rw [smallLetter_of_isNumeral (isNumeral_of_isDigitLike hlike), hlike] at hsmall
        cases hsmall }
  exact ⟨w, infix_of_infix_convert hw' hw, rfl⟩

end RelativeLength

namespace Policy

open Stylesheet (Declaration)

/-- A declaration that passes does so when its relative lengths are converted. -/
theorem Passes.convert {d : Declaration} (h : Passes d) :
    Passes ⟨d.property, RelativeLength.convert d.value⟩ where
  notBookkeeping := h.notBookkeeping
  noColorMix := by
    rw [Bool.eq_false_iff, ne_eq, Text.contains_iff]
    intro hinfix
    have hvalue := RelativeLength.infix_of_infix_convert (by decide) hinfix
    rw [← Text.contains_iff, h.noColorMix] at hvalue
    cases hvalue
  noCurrentColor := by
    rw [Bool.eq_false_iff, ne_eq, Text.contains_iff]
    intro hinfix
    have hvalue := RelativeLength.infix_lower_of_convert (by decide) (by decide) (by decide)
      hinfix
    rw [← Text.contains_iff, h.noCurrentColor] at hvalue
    cases hvalue

end Policy

end NativeStyle
