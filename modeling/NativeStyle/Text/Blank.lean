import NativeStyle.Text.Basic
import NativeStyle.Text.CodeRange

/-!
# Blanks

The blank characters of a stylesheet: Unicode's white space together with the four information
separators U+001C to U+001F. A zero-width space, a byte-order mark and NUL are no blanks.

Main statements: `trim_eq_self_iff` (a trimmed text is one without a blank at either end),
`isBlank_of_isWhitespace` (every blank of core's narrower class is one here).
-/

namespace NativeStyle.Text

/-- The blank code points. -/
def blankTable : List CodeRange := [
    ⟨0x9, 0xD⟩, ⟨0x1C, 0x20⟩, ⟨0x85, 0x85⟩, ⟨0xA0, 0xA0⟩, ⟨0x1680, 0x1680⟩, ⟨0x2000, 0x200A⟩,
    ⟨0x2028, 0x2029⟩, ⟨0x202F, 0x202F⟩, ⟨0x205F, 0x205F⟩, ⟨0x3000, 0x3000⟩]

/-- Whether the character is blank. -/
def isBlank (c : Char) : Bool :=
  CodeRange.holds blankTable c

/-- The text without its leading blanks. -/
def trimLeft (s : Text) : Text :=
  s.dropWhile isBlank

/-- The text without its trailing blanks. -/
def trimRight (s : Text) : Text :=
  (s.reverse.dropWhile isBlank).reverse

/-- The text without its outer blanks. -/
def trim (s : Text) : Text :=
  trimRight (trimLeft s)

private theorem dropWhile_eq_self_iff {p : Char → Bool} {s : Text} :
    s.dropWhile p = s ↔ ∀ c ∈ s.head?, p c = false := by
  cases s with
  | nil => simp
  | cons c rest =>
    cases h : p c with
    | false => simp [h]
    | true =>
      have hlen : (rest.dropWhile p).length ≤ rest.length := (List.dropWhile_sublist p).length_le
      have hne : rest.dropWhile p ≠ c :: rest := fun heq => by
        have := congrArg List.length heq
        simp at this
        omega
      simp [h, hne]

/-- A trimmed text is one without a blank at either end. -/
theorem trim_eq_self_iff {s : Text} :
    trim s = s ↔ (∀ c ∈ s.head?, isBlank c = false) ∧ (∀ c ∈ s.getLast?, isBlank c = false) := by
  have hright (t : Text) : trimRight t = t ↔ ∀ c ∈ t.getLast?, isBlank c = false := by
    rw [trimRight, List.reverse_eq_iff, dropWhile_eq_self_iff, List.head?_reverse]
  constructor
  · intro h
    -- No end can lose a character without the whole text getting shorter.
    have hleft : trimLeft s = s := by
      have hle : (trimLeft s).length ≤ s.length := (List.dropWhile_sublist _).length_le
      have hle' : (trim s).length ≤ (trimLeft s).length := by
        simpa [trim, trimRight] using
          (List.dropWhile_sublist (l := (trimLeft s).reverse) isBlank).length_le
      rw [h] at hle'
      exact (List.dropWhile_sublist _).eq_of_length (Nat.le_antisymm hle hle')
    rw [trim, hleft] at h
    exact ⟨dropWhile_eq_self_iff.1 hleft, (hright s).1 h⟩
  · rintro ⟨hhead, hlast⟩
    have hleft : trimLeft s = s := dropWhile_eq_self_iff.2 hhead
    rw [trim, hleft, (hright s).2 hlast]

/-- Every blank of core's narrower class is a blank here. -/
theorem isBlank_of_isWhitespace {c : Char} (h : c.isWhitespace = true) : isBlank c = true := by
  simp only [Char.isWhitespace, Bool.or_eq_true, decide_eq_true_eq] at h
  rcases h with ((rfl | rfl) | rfl) | rfl <;> decide

end NativeStyle.Text
