import NativeStyle.Text.Blank
import Mathlib.Data.List.TakeWhile

/-!
# Trimmed texts

Trimming cuts a stretch out of the middle of a text, so a trimmed text has no character more than
the text it comes from, and trimming again changes nothing.

Main results:
- `trim_subtext` and `exists_blanks_trim` (what is cut off are blanks at either end),
- `trim_trim` (a trimmed text stays),
- `trim_append_left`, `trim_append_right` (blanks around a text do not count),
- `trim_append_cons` (what a character that stays keeps on either side of it).
-/

namespace NativeStyle.Text

/-! ## Letters and digits -/

/-- The two stretches of the ASCII table that letters fill. -/
theorem toNat_of_isAlpha {c : Char} (h : c.isAlpha = true) :
    (65 ≤ c.toNat ∧ c.toNat ≤ 90) ∨ (97 ≤ c.toNat ∧ c.toNat ≤ 122) := by
  have hletters : (decide (c.val ≥ 65 ∧ c.val ≤ 90) ||
      (decide (c.val ≥ 97) && decide (c.val ≤ 122))) = true := h
  simp only [Bool.or_eq_true, Bool.and_eq_true, decide_eq_true_eq, UInt32.le_iff_toNat_le,
    ge_iff_le] at hletters
  exact hletters

/-- The stretch of the ASCII table that digits fill. -/
theorem toNat_of_isDigit {c : Char} (h : c.isDigit = true) : 48 ≤ c.toNat ∧ c.toNat ≤ 57 := by
  have hdigits : (decide (c.val ≥ 48) && decide (c.val ≤ 57)) = true := h
  simp only [Bool.and_eq_true, decide_eq_true_eq, UInt32.le_iff_toNat_le, ge_iff_le] at hdigits
  exact hdigits

/-- No ASCII letter or digit is a blank: the blanks stand below, or far above. -/
theorem isBlank_of_isAlphanum {c : Char} (h : c.isAlphanum = true) : isBlank c = false := by
  have hrange : ((65 ≤ c.toNat ∧ c.toNat ≤ 90) ∨ (97 ≤ c.toNat ∧ c.toNat ≤ 122)) ∨
      (48 ≤ c.toNat ∧ c.toNat ≤ 57) :=
    ((Bool.or_eq_true ..).mp h).imp toNat_of_isAlpha toNat_of_isDigit
  -- Every range of blanks ends below them or begins above.
  rw [isBlank, ← Bool.not_eq_true, CodeRange.holds_iff]
  rintro ⟨r, hr, hfirst, hlast⟩
  simp only [blankTable, List.mem_cons, List.not_mem_nil, or_false] at hr
  rcases hr with rfl | rfl | rfl | rfl | rfl | rfl | rfl | rfl | rfl | rfl <;>
    simp only at hfirst hlast <;> omega

/-- A character that a text does not have cannot be in one that has it no more often. -/
theorem notMem_of_count_le {c : Char} {s t : Text} (h : t.count c ≤ s.count c) (hs : c ∉ s) :
    c ∉ t := by
  rw [← List.count_eq_zero] at hs ⊢
  omega

/-! ## Stretches that end at a known character -/

theorem takeWhile_append_cons {p : Char → Bool} {c : Char} (hc : p c = false) (s rest : Text) :
    (s ++ c :: rest).takeWhile p = s.takeWhile p := by
  induction s with
  | nil => simp [hc]
  | cons d s ih =>
    cases hd : p d with
    | true => simp [hd, ih]
    | false => simp [hd]

theorem dropWhile_append_cons {p : Char → Bool} {c : Char} (hc : p c = false) (s rest : Text) :
    (s ++ c :: rest).dropWhile p = s.dropWhile p ++ c :: rest := by
  induction s with
  | nil => simp [hc]
  | cons d s ih =>
    cases hd : p d with
    | true => simp [hd, ih]
    | false => simp [hd]

/-! ## Blanks around a text -/

theorem notMem_of_blanks {c : Char} {t : Text} (h : ∀ d ∈ t, isBlank d = true)
    (hc : isBlank c = false) : c ∉ t := by
  intro hmem
  rw [h c hmem] at hc
  cases hc

theorem trimLeft_append_of_blanks {before : Text} (h : ∀ c ∈ before, isBlank c = true) (s : Text) :
    trimLeft (before ++ s) = trimLeft s :=
  List.dropWhile_append_of_pos h

theorem trimRight_append_of_blanks {behind : Text} (h : ∀ c ∈ behind, isBlank c = true)
    (s : Text) : trimRight (s ++ behind) = trimRight s := by
  unfold trimRight
  rw [List.reverse_append, List.dropWhile_append_of_pos]
  intro c hc
  exact h c (List.mem_reverse.1 hc)

theorem trim_eq_nil_of_blanks {s : Text} (h : ∀ c ∈ s, isBlank c = true) : trim s = [] := by
  have hleft : trimLeft s = [] := List.dropWhile_eq_nil_iff.2 h
  rw [trim, hleft]
  rfl

/-- Blanks in front of a text do not count. -/
theorem trim_append_left {before : Text} (h : ∀ c ∈ before, isBlank c = true) (s : Text) :
    trim (before ++ s) = trim s := by
  rw [trim, trimLeft_append_of_blanks h]
  rfl

/-- Blanks behind a text do not count. -/
theorem trim_append_right {behind : Text} (h : ∀ c ∈ behind, isBlank c = true) (s : Text) :
    trim (s ++ behind) = trim s := by
  by_cases hs : ∀ c ∈ s, isBlank c = true
  · -- Nothing but blanks: neither side keeps anything.
    rw [trim_eq_nil_of_blanks hs, trim_eq_nil_of_blanks]
    intro c hc
    rcases List.mem_append.1 hc with hin | hin
    · exact hs c hin
    · exact h c hin
  · -- Something stays, so trimming on the left does not reach the blanks behind.
    have hstop : s.dropWhile isBlank ≠ [] := fun hnil => hs (List.dropWhile_eq_nil_iff.1 hnil)
    have hleft : trimLeft (s ++ behind) = trimLeft s ++ behind := by
      unfold trimLeft
      rw [List.dropWhile_append, if_neg]
      simpa using hstop
    rw [trim, hleft, trimRight_append_of_blanks h]
    rfl

theorem trim_surrounded {before behind : Text} (hbefore : ∀ c ∈ before, isBlank c = true)
    (hbehind : ∀ c ∈ behind, isBlank c = true) (s : Text) :
    trim (before ++ s ++ behind) = trim s := by
  rw [trim_append_right hbehind, trim_append_left hbefore]

theorem trimRight_isPrefix (s : Text) : trimRight s <+: s := by
  have hsuffix := List.dropWhile_suffix (l := s.reverse) isBlank
  rw [← List.reverse_prefix, List.reverse_reverse] at hsuffix
  exact hsuffix

/-! ## A character that stays -/

section Stays

variable {c : Char} (hc : isBlank c = false) (s t : Text)

include hc

theorem trimLeft_append_cons : trimLeft (s ++ c :: t) = trimLeft s ++ c :: t :=
  dropWhile_append_cons hc s t

theorem trimRight_append_cons : trimRight (s ++ c :: t) = s ++ c :: trimRight t := by
  unfold trimRight
  rw [List.reverse_append, List.reverse_cons, List.append_assoc, List.singleton_append,
    dropWhile_append_cons hc]
  simp

/-- A character that is no blank keeps trimming to its own side of it. -/
theorem trim_append_cons : trim (s ++ c :: t) = trimLeft s ++ c :: trimRight t := by
  rw [trim, trimLeft_append_cons hc, trimRight_append_cons hc]

end Stays

/-! ## What is cut off -/

/-- What trimming cuts off are blanks at either end. -/
theorem exists_blanks_trim (s : Text) :
    ∃ before behind : Text, s = before ++ trim s ++ behind ∧
      (∀ c ∈ before, isBlank c = true) ∧ ∀ c ∈ behind, isBlank c = true := by
  have hblanks (t : Text) : ∀ c ∈ t.takeWhile isBlank, isBlank c = true :=
    List.all_eq_true.1 List.all_takeWhile
  -- The two cuts one after the other: first the blanks in front, then those behind.
  have hleft : s = s.takeWhile isBlank ++ trimLeft s :=
    (List.takeWhile_append_dropWhile (p := isBlank)).symm
  have hright : trimLeft s = trim s ++ ((trimLeft s).reverse.takeWhile isBlank).reverse := by
    have hwhole := List.takeWhile_append_dropWhile (p := isBlank) (l := (trimLeft s).reverse)
    have := congrArg List.reverse hwhole
    rw [List.reverse_append, List.reverse_reverse] at this
    exact this.symm
  refine ⟨s.takeWhile isBlank, ((trimLeft s).reverse.takeWhile isBlank).reverse, ?_,
    hblanks s, ?_⟩
  · rw [List.append_assoc, ← hright]
    exact hleft
  · intro c hc
    exact hblanks _ c (List.mem_reverse.1 hc)

theorem trim_eq_nil_iff {s : Text} : trim s = [] ↔ ∀ c ∈ s, isBlank c = true := by
  refine ⟨fun hnil => ?_, trim_eq_nil_of_blanks⟩
  obtain ⟨before, behind, h, hbefore, hbehind⟩ := exists_blanks_trim s
  rw [h, hnil, List.append_nil]
  intro c hc
  exact (List.mem_append.1 hc).elim (hbefore c) (hbehind c)

/-- A trimmed text stands inside the text that it was trimmed from. -/
theorem trim_subtext (s : Text) : trim s <:+: s := by
  obtain ⟨before, behind, h, -, -⟩ := exists_blanks_trim s
  exact ⟨before, behind, h.symm⟩

theorem count_trim_le (c : Char) (s : Text) : (trim s).count c ≤ s.count c :=
  (trim_subtext s).sublist.count_le c

/-- Trimming counts all characters that are no blanks. -/
theorem count_trim {c : Char} (hc : isBlank c = false) (s : Text) :
    (trim s).count c = s.count c := by
  obtain ⟨before, behind, h, hbefore, hbehind⟩ := exists_blanks_trim s
  -- The blanks at either end do not hold the character.
  have hnot {t : Text} (ht : ∀ d ∈ t, isBlank d = true) : t.count c = 0 :=
    List.count_eq_zero.2 (notMem_of_blanks ht hc)
  conv => rhs; rw [h]
  rw [List.count_append, List.count_append, hnot hbefore, hnot hbehind]
  omega

/-- Trimming a trimmed text changes nothing. -/
theorem trim_trim (s : Text) : trim (trim s) = trim s := by
  obtain ⟨before, behind, h, hbefore, hbehind⟩ := exists_blanks_trim s
  have hwhole : trim s = trim (before ++ trim s ++ behind) := congrArg trim h
  rw [trim_surrounded hbefore hbehind] at hwhole
  exact hwhole.symm

end NativeStyle.Text
