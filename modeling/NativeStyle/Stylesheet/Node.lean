import NativeStyle.Stylesheet.Piece

/-!
# Nodes of a stylesheet

The constructs at the top level of a stylesheet, in source order: rules with selector and body,
and at-rules with name, parameters and perhaps a body. Bodies are raw text; what stands in an
inner block is read by whoever enters it. A rule without selector or without body is no node.

Main statement: `length_body_lt` (the body of a node is shorter than the stylesheet).
-/

namespace NativeStyle.Stylesheet

/-- A rule or an at-rule at the top level of a stylesheet. -/
inductive Node where
  | rule (selector body : Text)
  | atRule (name params : Text) (body : Option Text)
deriving DecidableEq, Repr

/-- The node that a piece stands for. Selectors, parameters and the bodies of rules are trimmed;
the body of an at-rule stays as it is. -/
def Piece.node? : Piece → Option Node
  | .statement head => some (.atRule head.name (Text.trim head.params) none)
  | .atBlock head block => some (.atRule head.name (Text.trim head.params) (some block.inside))
  | .rule selector block =>
    if Text.trim selector = [] ∨ Text.trim block.inside = [] then none
    else some (.rule (Text.trim selector) (Text.trim block.inside))
  | .blank _ | .stray _ => none

/-- The top-level nodes of a stylesheet in source order. -/
def split (css : Text) : List Node :=
  (pieces css).filterMap Piece.node?

/-- The raw text of a node's block. -/
def Node.body? : Node → Option Text
  | .rule _ body => some body
  | .atRule _ _ body => body

/-! ## Bodies are shorter than the stylesheet -/

private theorem length_trim_le (s : Text) : (Text.trim s).length ≤ s.length := by
  have h : (Text.trim s).length ≤ (Text.trimLeft s).length := by
    simpa [Text.trim, Text.trimRight] using
      (List.dropWhile_sublist (l := (Text.trimLeft s).reverse) Text.isBlank).length_le
  exact Nat.le_trans h (List.dropWhile_sublist _).length_le

private theorem length_body_lt_piece {p : Piece} {n : Node} {body : Text}
    (h : p.node? = some n) (hbody : n.body? = some body) : body.length < p.text.length := by
  cases p with
  | blank t => cases h
  | stray t => cases h
  | statement head => cases h; cases hbody
  | atBlock head block =>
    cases h; cases hbody
    have := block.length_inside_le
    simp [Piece.text, AtHead.text]
    omega
  | rule selector block =>
    simp only [Piece.node?] at h
    split at h
    · cases h
    · cases h; cases hbody
      have := block.length_inside_le
      have := length_trim_le block.inside
      simp [Piece.text]
      omega

private theorem length_piece_le {css : Text} {p : Piece} (h : p ∈ pieces css) :
    p.text.length ≤ css.length := by
  have := (List.sublist_flatten_of_mem (List.mem_map_of_mem (f := Piece.text) h)).length_le
  rwa [← List.flatMap_def, text_pieces] at this

/-- The body of a node is shorter than the stylesheet. -/
theorem length_body_lt {css : Text} {n : Node} {body : Text} (h : n ∈ split css)
    (hbody : n.body? = some body) : body.length < css.length := by
  obtain ⟨p, hp, hnode⟩ := List.mem_filterMap.1 h
  exact Nat.lt_of_lt_of_le (length_body_lt_piece hnode hbody) (length_piece_le hp)

end NativeStyle.Stylesheet
