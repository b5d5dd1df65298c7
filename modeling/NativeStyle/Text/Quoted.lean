import NativeStyle.Text.Digit
import NativeStyle.Text.Printable

/-!
# Quoted text

In messages a text stands in quotes: single ones, unless it holds a single quote and no double
one. A backslash escapes itself, the quote, and the characters that would not show.

Main statement: `quoted_of_plain` (a text of ordinary characters stands as it is).
-/

namespace NativeStyle.Text

/-- The last `digits` hexadecimal digits of a number. -/
def hexadecimal : (digits n : Nat) → Text
  | 0, _ => []
  | digits + 1, n => hexadecimal digits (n / 16) ++ [Nat.digitChar (n % 16)]

/-- The number of a character behind a letter that tells how many digits follow. -/
def numbered (c : Char) : Text :=
  if c.toNat < 0x100 then 'x' :: hexadecimal 2 c.toNat
  else if c.toNat < 0x10000 then 'u' :: hexadecimal 4 c.toNat
  else 'U' :: hexadecimal 8 c.toNat

/-- A character as it stands between the quotes. -/
def escaped (quote c : Char) : Text :=
  if c = '\\' ∨ c = quote then ['\\', c]
  else if c = '\n' then "\\n".toList
  else if c = '\r' then "\\r".toList
  else if c = '\t' then "\\t".toList
  else if isPrintable c then [c]
  else '\\' :: numbered c

/-- The quote that needs the fewest escapes; single quotes come first. -/
def quoteFor (s : Text) : Char :=
  if '\'' ∈ s ∧ '"' ∉ s then '"' else '\''

/-- The text between quotes. -/
def quoted (s : Text) : Text :=
  let quote := quoteFor s
  quote :: s.flatMap (escaped quote) ++ [quote]

/-- A text of ordinary characters stands as it is. -/
theorem quoted_of_plain {s : Text}
    (h : ∀ c ∈ s, isPrintable c = true ∧ c ≠ '\\' ∧ c ≠ '\'') : quoted s = '\'' :: s ++ ['\''] := by
  have hquote : quoteFor s = '\'' := by
    have : '\'' ∉ s := fun hmem => (h _ hmem).2.2 rfl
    simp [quoteFor, this]
  have hflat : s.flatMap (escaped '\'') = s := by
    clear hquote
    induction s with
    | nil => rfl
    | cons c rest ih =>
      obtain ⟨hprint, hback, hsingle⟩ := h c (by simp)
      have hn : c ≠ '\n' := by rintro rfl; exact absurd hprint (by decide)
      have hr : c ≠ '\r' := by rintro rfl; exact absurd hprint (by decide)
      have ht : c ≠ '\t' := by rintro rfl; exact absurd hprint (by decide)
      rw [List.flatMap_cons, ih fun d hd => h d (by simp [hd])]
      simp [escaped, hback, hsingle, hn, hr, ht, hprint]
  simp [quoted, hquote, hflat]

end NativeStyle.Text
