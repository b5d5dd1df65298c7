import NativeStyle.Text.Basic

/-!
# Blocks

A block is the text between a brace and the brace that closes it. Inside, braces are counted and
nothing else is looked at. A block that is never closed runs to the end of the text.

Main statements: `text_read` (reading a block loses nothing), `rest_of_not_closed` (an open block
leaves nothing behind it).
-/

namespace NativeStyle.Stylesheet

/-- The text between two braces, and whether the closing one was there. -/
structure Block where
  inside : Text
  closed : Bool
deriving DecidableEq, Repr

namespace Block

/-- The block with one more character in front. -/
def push (c : Char) (b : Block) : Block :=
  ⟨c :: b.inside, b.closed⟩

/-- The number of open blocks after one more character. -/
def depthAfter (depth : Nat) (c : Char) : Nat :=
  if c = '{' then depth + 1 else if c = '}' then depth - 1 else depth

/-- The block that starts behind its opening brace, and what follows it. So far `depth` blocks
have been opened inside it and not closed. -/
def read (depth : Nat) : Text → Block × Text
  | [] => (⟨[], false⟩, [])
  | c :: s =>
    if c = '}' ∧ depth = 0 then (⟨[], true⟩, s)
    else
      let behind := read (depthAfter depth c) s
      (behind.1.push c, behind.2)

/-- The text of a block behind its opening brace. -/
def text (b : Block) : Text :=
  b.inside ++ if b.closed then ['}'] else []

/-- Reading a block loses nothing. -/
theorem text_read (depth : Nat) (s : Text) : (read depth s).1.text ++ (read depth s).2 = s := by
  induction s generalizing depth with
  | nil => rfl
  | cons c s ih =>
    unfold read
    split
    · next h => rw [h.1]; rfl
    · exact congrArg (c :: ·) (ih (depthAfter depth c))

/-- An open block leaves nothing behind it. -/
theorem rest_of_not_closed {depth : Nat} {s : Text} (h : (read depth s).1.closed = false) :
    (read depth s).2 = [] := by
  induction s generalizing depth with
  | nil => rfl
  | cons c s ih =>
    unfold read at h ⊢
    split
    · next hclose => rw [if_pos hclose] at h; cases h
    · next hopen => rw [if_neg hopen] at h; exact ih h

theorem length_inside_le (b : Block) : b.inside.length ≤ b.text.length := by
  simp [text]

end Block

end NativeStyle.Stylesheet
