import NativeStyle.Proofs.Lengths
import NativeStyle.Proofs.Lexemes
import NativeStyle.Proofs.Scan

/-!
# Outlines

The *outline* of a text is what its braces alone spell. Whether a text is balanced shows in its
outline (`balanced_congr`), and most of what the passes do to a text leaves the outline as it is:
they trim blanks, convert lengths, and put in or take out characters that are no braces.

Main results:
- `balanced_outline_iff` and `balanced_congr` (only the outline counts),
- `outline_trim`, `outline_convert` (what leaves the outline as it is),
- `Balanced.flatMap` (balanced texts put together).
-/

namespace NativeStyle

namespace Text

/-- Whether the character is a brace. -/
def isBrace (c : Char) : Bool :=
  c = '{' || c = '}'

/-- The braces of a text in their order. -/
def outline (s : Text) : Text :=
  s.filter isBrace

@[simp] theorem outline_nil : outline [] = [] := rfl

@[simp] theorem outline_append (s t : Text) : outline (s ++ t) = outline s ++ outline t :=
  List.filter_append s t

theorem outline_cons_of_not {c : Char} (h : isBrace c = false) (s : Text) :
    outline (c :: s) = outline s :=
  List.filter_cons_of_neg (by simp [h])

@[simp] theorem outline_open (s : Text) : outline ('{' :: s) = '{' :: outline s := rfl

@[simp] theorem outline_close (s : Text) : outline ('}' :: s) = '}' :: outline s := rfl

theorem outline_flatMap {α : Type} (f : α → Text) (xs : List α) :
    outline (xs.flatMap f) = xs.flatMap fun x => outline (f x) := by
  induction xs with
  | nil => rfl
  | cons x xs ih => rw [List.flatMap_cons, List.flatMap_cons, outline_append, ih]

theorem outline_eq_nil_iff {s : Text} : outline s = [] ↔ ∀ c ∈ s, isBrace c = false := by
  simp [outline, List.filter_eq_nil_iff]

theorem outline_of_notMem {s : Text} (hopen : '{' ∉ s) (hclose : '}' ∉ s) : outline s = [] := by
  rw [outline_eq_nil_iff]
  intro c hc
  have hne : c ≠ '{' ∧ c ≠ '}' := ⟨fun h => hopen (h ▸ hc), fun h => hclose (h ▸ hc)⟩
  simp [isBrace, hne]

/-- Blanks are no braces. -/
theorem outline_of_blanks {s : Text} (h : ∀ c ∈ s, isBlank c = true) : outline s = [] := by
  apply outline_of_notMem
  · exact Text.notMem_of_blanks h (by decide)
  · exact Text.notMem_of_blanks h (by decide)

/-- Inert characters are no braces, and neither are spaces. -/
theorem outline_of_inert {s : Text} (h : ∀ c ∈ s, c = ' ' ∨ Animation.isInert c = true) :
    outline s = [] := by
  apply outline_of_notMem
  · exact fun hmem => absurd (h _ hmem) (by decide)
  · exact fun hmem => absurd (h _ hmem) (by decide)

theorem outline_flatten (texts : List Text) : outline texts.flatten = texts.flatMap outline := by
  rw [List.flatten_eq_flatMap, outline_flatMap]
  rfl

/-- What stands between the texts does not show if it has no brace. -/
theorem outline_join {separator : Text} (h : outline separator = []) (texts : List Text) :
    outline (join separator texts) = texts.flatMap outline := by
  induction texts with
  | nil => rfl
  | cons t texts ih =>
    by_cases hrest : texts = []
    · simp [hrest, join]
    · rw [join_cons_of_ne_nil separator t hrest]
      simp [h, ih]

/-- Trimming leaves the outline as it is. -/
@[simp] theorem outline_trim (s : Text) : outline (trim s) = outline s := by
  obtain ⟨before, behind, hs, hbefore, hbehind⟩ := exists_blanks_trim s
  conv => rhs; rw [hs]
  simp [outline_of_blanks hbefore, outline_of_blanks hbehind]

end Text

open Text (outline outline_append outline_of_notMem)

/-! ## Conversion -/

namespace RelativeLength

/-- A relative length has no brace in it. -/
private theorem outline_spelling {s rest : Text} {l : RelativeLength}
    (h : read? s = some (l, rest)) : outline l.spelling = [] := by
  have hdigits (t : Text) : outline (t.takeWhile Text.isDigit) = [] := by
    apply Text.outline_of_inert
    intro c hc
    exact Or.inr (Animation.isInert_of_isDigit (List.all_eq_true.1 List.all_takeWhile c hc))
  have hgap (t : Text) : outline (t.takeWhile Text.isBlank) = [] :=
    Text.outline_of_blanks (List.all_eq_true.1 List.all_takeWhile)
  have hplaces (t : Text) : outline (readPlaces t).1 = [] := by
    unfold readPlaces
    split
    · split
      · rfl
      · exact hdigits _
    · rfl
  have hunit (unit : RelativeUnit) : outline unit.text = [] := by
    cases unit <;> decide
  simp only [read?] at h
  split at h
  · cases h
  · simp only [Option.map_eq_some_iff, Prod.exists, Prod.mk.injEq] at h
    obtain ⟨unit, tail, -, rfl, -⟩ := h
    have hpoint (t : Text) :
        outline (if (readPlaces t).1 = [] then [] else '.' :: (readPlaces t).1) = [] := by
      split
      · rfl
      · rw [Text.outline_cons_of_not (by decide), hplaces]
    simp only [spelling, outline_append, hdigits, hpoint, hgap, hunit, List.append_nil]

theorem outline_convert (value : Text) : outline (convert value) = outline value := by
  apply Pattern.filter_substitute
  intro l hl
  obtain ⟨s, rest, -, hread⟩ := pattern.exists_read?_of_mem_found hl
  -- Neither the length nor its pixels have a brace.
  have hpixels : outline l.pixels = [] := by
    rw [Text.outline_eq_nil_iff]
    intro c hc
    have hnumeral := isNumeral_of_mem_pixels hc
    cases hbrace : Text.isBrace c with
    | false => rfl
    | true =>
      have hmem : c = '{' ∨ c = '}' := by simpa [Text.isBrace] using hbrace
      rcases hmem with rfl | rfl <;> revert hnumeral <;> decide
  exact hpixels.trans (outline_spelling hread).symm

end RelativeLength

/-! ## Balance -/

namespace Stylesheet

/-- The walk over a text stops only at its braces. -/
theorem depthBehind?_outline (depth : Nat) (s : Text) :
    depthBehind? depth (outline s) = depthBehind? depth s := by
  induction s generalizing depth with
  | nil => rfl
  | cons c s ih =>
    cases hbrace : Text.isBrace c with
    | true =>
      have hcons : outline (c :: s) = c :: outline s := List.filter_cons_of_pos hbrace
      rw [hcons, depthBehind?, depthBehind?]
      split
      · rfl
      · exact ih _
    | false =>
      have hne : c ≠ '{' ∧ c ≠ '}' := by simpa [Text.isBrace] using hbrace
      rw [Text.outline_cons_of_not hbrace, ih, depthBehind?, if_neg (by simp [hne.2])]
      simp [Block.depthAfter, hne]

/-- Whether a text is balanced shows in its outline. -/
theorem balanced_outline_iff {s : Text} : Balanced (outline s) ↔ Balanced s := by
  rw [balanced_iff, balanced_iff, depthBehind?_outline]

theorem balanced_congr {s t : Text} (h : outline s = outline t) : Balanced s ↔ Balanced t := by
  rw [← balanced_outline_iff, h, balanced_outline_iff]

theorem Balanced.flatMap {α : Type} {f : α → Text} {xs : List α}
    (h : ∀ x ∈ xs, Balanced (f x)) : Balanced (xs.flatMap f) := by
  induction xs with
  | nil => exact balanced_iff.2 rfl
  | cons x xs ih =>
    rw [List.forall_mem_cons] at h
    rw [List.flatMap_cons]
    exact h.1.append (ih h.2)

end Stylesheet

end NativeStyle
