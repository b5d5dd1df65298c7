import NativeStyle.Proofs.Concatenation

/-!
# Passes over a stylesheet

A stylesheet is scanned by a cursor that goes from its front to its end. In every pass the cursor
skips blanks, and where anything stands behind them, it moves over what is read there: an at-rule,
or where there is none, a rule or the stray end. Looking for an at-rule in vain moves nothing, but
whatever is read instead takes something, so no pass leaves the cursor where it was
(`lt_of_pass`).

Main results:
- `pass_cursor_le` (the cursor stays in the stylesheet),
- `scan?_eq_some` (a pass for every character and one to stop are enough, and they find the nodes of
  the stylesheet).
-/

namespace NativeStyle.Stylesheet

/-! ## The cursor -/

/-- The place behind the blanks. -/
def skipBlanks (css : Text) (i : Nat) : Nat :=
  i + ((css.drop i).takeWhile Text.isBlank).length

/-- The at-rule at a place and the place behind it, if there is one. -/
def atRuleAt? (css : Text) (i : Nat) : Option (Piece × Nat) :=
  (Piece.readAtRule? (css.drop i)).map fun (piece, _) => (piece, i + piece.text.length)

/-- The rule or the stray end at a place, and the place behind it. -/
def ruleAt (css : Text) (i : Nat) : Piece × Nat :=
  let piece := (Piece.readRule (css.drop i)).1
  (piece, i + piece.text.length)

/-- How a pass ends, and where the cursor is then. -/
inductive Pass where
  /-- The end of the stylesheet was reached. -/
  | stop (cursor : Nat)
  /-- Something was read, which may be no node. -/
  | next (found : Option Node) (cursor : Nat)
deriving DecidableEq, Repr

/-- Where the cursor is behind a pass. -/
def Pass.cursor : Pass → Nat
  | stop cursor | next _ cursor => cursor

/-- One pass from a place on. -/
def pass (css : Text) (i : Nat) : Pass :=
  let start := skipBlanks css i
  if css.length ≤ start then .stop start
  else
    let (piece, behind) := (atRuleAt? css start).getD (ruleAt css start)
    .next piece.node? behind

/-- The nodes that are found from a place on, unless so many passes do not come to the end. -/
def scan? (css : Text) : Nat → Nat → Option (List Node)
  | 0, _ => none
  | passes + 1, i =>
    match pass css i with
    | .stop _ => some []
    | .next found behind => (scan? css passes behind).map (found.toList ++ ·)

/-! ## One pass -/

/-- Skipping blanks leaves what stands behind them. -/
theorem drop_skipBlanks (css : Text) (i : Nat) :
    css.drop (skipBlanks css i) = (css.drop i).dropWhile Text.isBlank := by
  have hdrop : ((css.drop i).takeWhile Text.isBlank ++ (css.drop i).dropWhile Text.isBlank).drop
      ((css.drop i).takeWhile Text.isBlank).length = (css.drop i).dropWhile Text.isBlank :=
    List.drop_left
  rw [List.takeWhile_append_dropWhile, List.drop_drop] at hdrop
  exact hdrop

/-- Where something stands behind the blanks, the pass moves over the piece that is read there. -/
theorem pass_of_cons {css s : Text} {i : Nat} {c : Char}
    (h : css.drop (skipBlanks css i) = c :: s) :
    pass css i =
      .next (Piece.read c s).1.node? (skipBlanks css i + (Piece.read c s).1.text.length) := by
  have hlt : ¬css.length ≤ skipBlanks css i := by
    rw [← List.drop_eq_nil_iff, h]
    exact List.cons_ne_nil c s
  have hblank : ¬Text.isBlank c = true := by
    rw [drop_skipBlanks] at h
    have := List.head?_dropWhile_not Text.isBlank (css.drop i)
    rw [h] at this
    simpa using this
  rw [pass, if_neg hlt, Piece.read, if_neg hblank, atRuleAt?, ruleAt, h]
  cases Piece.readAtRule? (c :: s) <;> rfl

theorem pass_of_nil {css : Text} {i : Nat} (h : css.drop (skipBlanks css i) = []) :
    pass css i = .stop (skipBlanks css i) := by
  rw [pass, if_pos (List.drop_eq_nil_iff.1 h)]

section Step

variable {css s t rest : Text} {i : Nat}

/-- The place behind a stretch of the stylesheet is in the stylesheet, and the rest stands there. -/
private theorem behind_of_drop (h : t ++ rest = css.drop i) (hi : i ≤ css.length) :
    i + t.length ≤ css.length ∧ css.drop (i + t.length) = rest := by
  have hlength := congrArg List.length h
  rw [List.length_append, List.length_drop] at hlength
  rw [← List.drop_drop, ← h, List.drop_left]
  exact ⟨by omega, rfl⟩

theorem le_skipBlanks (css : Text) (i : Nat) : i ≤ skipBlanks css i :=
  Nat.le_add_right _ _

theorem skipBlanks_le (hi : i ≤ css.length) : skipBlanks css i ≤ css.length :=
  (behind_of_drop List.takeWhile_append_dropWhile hi).1

/-- The cursor stays in the stylesheet. -/
theorem pass_cursor_le (hi : i ≤ css.length) : (pass css i).cursor ≤ css.length := by
  have hstart := skipBlanks_le hi
  cases hdrop : css.drop (skipBlanks css i) with
  | nil =>
    rw [pass_of_nil hdrop]
    exact hstart
  | cons c s =>
    rw [pass_of_cons hdrop]
    exact (behind_of_drop ((Piece.text_read c s).trans hdrop.symm) hstart).1

/-- A pass that does not stop moves the cursor on. -/
theorem lt_of_pass {found : Option Node} {behind : Nat} (h : pass css i = .next found behind) :
    i < behind := by
  cases hdrop : css.drop (skipBlanks css i) with
  | nil =>
    rw [pass_of_nil hdrop] at h
    cases h
  | cons c s =>
    rw [pass_of_cons hdrop] at h
    cases h
    have hpos := List.length_pos_iff.2 (Piece.text_read_ne_nil c s)
    have := le_skipBlanks css i
    omega

-- An at sign that is no at-rule is looked at twice, and read as the selector of a rule.
example : pass " @ a\x7bb\x7d c".toList 0 =
    .next (some (.rule "@ a".toList "b".toList)) 7 := by
  decide

/-- The nodes from a place on are the one that a pass finds and those from behind it on. -/
theorem split_of_pass {found : Option Node} {behind : Nat} (hi : i ≤ css.length)
    (h : pass css i = .next found behind) :
    split (css.drop i) = found.toList ++ split (css.drop behind) := by
  have hblanks := split_dropWhile_isBlank (css.drop i)
  rw [← drop_skipBlanks] at hblanks
  cases hdrop : css.drop (skipBlanks css i) with
  | nil =>
    rw [pass_of_nil hdrop] at h
    cases h
  | cons c s =>
    rw [pass_of_cons hdrop] at h
    cases h
    have hrest := behind_of_drop ((Piece.text_read c s).trans hdrop.symm) (skipBlanks_le hi)
    rw [hrest.2, ← hblanks, hdrop, split_cons]

/-- Where a pass stops, there is no node. -/
theorem split_of_stop {cursor : Nat} (h : pass css i = .stop cursor) : split (css.drop i) = [] := by
  cases hdrop : css.drop (skipBlanks css i) with
  | nil => rw [← split_dropWhile_isBlank, ← drop_skipBlanks, hdrop, split_nil]
  | cons c s =>
    rw [pass_of_cons hdrop] at h
    cases h

end Step

/-! ## All passes -/

/-- One pass for every character that is left and one to stop are enough, and they find the nodes
that stand there. -/
theorem scan?_eq_some {css : Text} {passes i : Nat} (hi : i ≤ css.length)
    (h : css.length - i < passes) : scan? css passes i = some (split (css.drop i)) := by
  induction passes generalizing i with
  | zero => omega
  | succ passes ih =>
    rw [scan?]
    cases hpass : pass css i with
    | stop cursor => rw [split_of_stop hpass]
    | next found behind =>
      -- The pass takes at least one character, so one pass less is enough for the others.
      have hbehind : behind ≤ css.length := by
        have := pass_cursor_le hi
        rwa [hpass] at this
      have hlt := lt_of_pass hpass
      simp only [ih hbehind (by omega), Option.map_some, split_of_pass hi hpass]

end NativeStyle.Stylesheet
