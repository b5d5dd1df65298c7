import NativeStyle.Text.Basic

/-!
# Texts in files

Files hold texts in UTF-8. A file that is not valid UTF-8 holds no text. When a text is read, a
carriage return ends a line as a line feed does, and so do the two together; all become line feeds.
A byte-order mark is a character like any other.

Main statements: `ofUtf8?_toUtf8` (a text that was written reads back), `cr_not_mem_unifyNewlines`
(no carriage return is left).
-/

namespace NativeStyle.Text

/-- The bytes of a text. -/
def toUtf8 (s : Text) : ByteArray :=
  (String.ofList s).toUTF8

/-- The text of some bytes, if they are valid. -/
def ofUtf8? (bytes : ByteArray) : Option Text :=
  (String.fromUTF8? bytes).map String.toList

/-- A text that was written reads back. -/
theorem ofUtf8?_toUtf8 (s : Text) : ofUtf8? (toUtf8 s) = some s := by
  have h : String.fromUTF8? (String.ofList s).toUTF8 = some (String.ofList s) := by
    unfold String.fromUTF8?
    rw [String.toUTF8_eq_toByteArray, dif_pos (String.ofList s).isValidUTF8]
    rfl
  rw [ofUtf8?, toUtf8, h, Option.map_some, String.toList_ofList]

/-- The text with every end of a line as a line feed. -/
def unifyNewlines : Text → Text
  | '\r' :: '\n' :: s => '\n' :: unifyNewlines s
  | '\r' :: s => '\n' :: unifyNewlines s
  | c :: s => c :: unifyNewlines s
  | [] => []

/-- No carriage return is left. -/
theorem cr_not_mem_unifyNewlines (s : Text) : '\r' ∉ unifyNewlines s := by
  fun_induction unifyNewlines s with
  | case1 s ih => simp [ih]
  | case2 s _ ih => simp [ih]
  | case3 c s _ hc ih =>
    have : c ≠ '\r' := fun h => hc h
    simp [ih, Ne.symm this]
  | case4 => simp

end NativeStyle.Text
