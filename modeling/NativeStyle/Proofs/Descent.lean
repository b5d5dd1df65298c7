import NativeStyle.Proofs.Nesting
import NativeStyle.Proofs.Passes

/-!
# How deep layers lead

Adapting a stylesheet leads into the bodies of its layers, which are stylesheets again. A body is
cut out of its stylesheet together with a brace in front of it, so every level of nesting costs a
brace (`cons_body_sublist_of_mem_split`), and a layer is entered only above the deepest nesting that
is allowed. Whichever of the two runs out first ends the descent.

This is said of `adaptSheetUpTo`, which adapts a stylesheet in the same way but gives up where it
would have to go deeper than it is told. It need not: at that depth it has the whole result
(`adaptSheetUpTo_eq_some`). The bound cannot be lowered, for layers in layers lead down to it
(`adaptSheetUpTo_layers`).

Main result: `adapt_ends`.
-/

namespace NativeStyle

open Stylesheet (Balanced Node split)

/-! ## Bodies -/

namespace Stylesheet

private theorem Piece.Reads.cons_body_sublist {s rest : Text} {p : Piece} {node : Node}
    {body : Text} (h : Piece.Reads s p rest) (hnode : p.node? = some node)
    (hbody : node.body? = some body) : ('{' :: body).Sublist s := by
  have hinside (t : Text) : (Block.read 0 t).1.inside.Sublist t := by
    have htext := List.sublist_append_left (Block.read 0 t).1.text (Block.read 0 t).2
    rw [Block.text_read] at htext
    exact (List.sublist_append_left _ _).trans htext
  cases h with
  | blank => cases hnode
  | stray => cases hnode
  | statement => cases hnode; cases hbody
  | @atBlock head t _ hopens =>
    cases hnode
    cases hbody
    rw [AtHead.text_of_opensBlock hopens, List.append_assoc]
    exact ((hinside t).cons_cons _).trans (List.sublist_append_right _ _)
  | @rule selector t =>
    simp only [Piece.node?] at hnode
    split at hnode <;> cases hnode
    cases hbody
    have htrim := (Text.trim_subtext (Block.read 0 t).1.inside).sublist.trans (hinside t)
    exact (htrim.cons_cons _).trans (List.sublist_append_right _ _)

/-- The body of a node stands in the stylesheet behind a brace. -/
theorem cons_body_sublist_of_mem_split {css : Text} {node : Node} {body : Text}
    (h : node ∈ split css) (hbody : node.body? = some body) : ('{' :: body).Sublist css := by
  have hstep (s : Text) (p : Piece) (rest : Text) (hs : s.Sublist css)
      (hreads : Piece.Reads s p rest) : rest.Sublist css := by
    rw [← hreads.text_append] at hs
    exact (List.sublist_append_right _ _).trans hs
  obtain ⟨s, p, rest, hs, hreads, hnode⟩ :=
    exists_reads_of_mem_split hstep (List.Sublist.refl css) h
  exact (hreads.cons_body_sublist hnode hbody).trans hs

/-- A body has a brace less than its stylesheet. -/
theorem count_body_lt_of_mem_split {css : Text} {node : Node} {body : Text}
    (h : node ∈ split css) (hbody : node.body? = some body) :
    body.count '{' < css.count '{' := by
  have hcount := (cons_body_sublist_of_mem_split h hbody).count_le '{'
  rwa [List.count_cons_self] at hcount

end Stylesheet

/-! ## Adapting down to a depth -/

/-- The adapted at-rule, unless nothing of it is left, where `inside` is how the body of a layer is
adapted. -/
def adaptAtRuleWith (inside : Text → Option (Logged Text)) (options : Options) (depth : Int)
    (name params : Text) (body : Option Text) : Option (Logged (Option Text)) :=
  match AtRuleKind.ofName name, body with
  | .layer, some body =>
    if options.maxDepth ≤ depth then some do
      Logged.log [.tooDeep params options.maxDepth]
      return none
    else (inside body).map fun adapted => do
      let inner ← adapted
      return if inner = [] then none else some inner
  | .keyframes, some body => some (return some (renderKeyframes params body))
  | .layer, none | .keyframes, none => some (return none)
  | .unsupported, _ => some do
    if options.debug then Logged.log [.skipping name]
    return none
  | .unknown, _ => some do
    Logged.log [.unknown name]
    return none

/-- The adapted node, unless nothing of it is left. -/
def adaptNodeWith (inside : Text → Option (Logged Text)) (options : Options) (depth : Int) :
    Node → Option (Logged (Option Text))
  | .rule selector body => some (adaptRule options selector body)
  | .atRule name params body => adaptAtRuleWith inside options depth name params body

/-- The adapted stylesheet, which stands `depth` layers deep, unless a stylesheet has to be adapted
for it that stands more than `deepest` layers deep. -/
def adaptSheetUpTo (deepest : Int) (options : Options) (depth : Int) (css : Text) :
    Option (Logged Text) :=
  if deepest < depth then none
  else do
    let fragments ← (split css).mapM
      (adaptNodeWith (adaptSheetUpTo deepest options (depth + 1)) options depth)
    return joinFragments fragments
termination_by (deepest + 1 - depth).toNat
decreasing_by omega

/-! ## Deep enough -/

section Deep

variable {options : Options} {depth deepest : Int}

/-- An at-rule is adapted as it is if the body of the layer that it may be is. -/
private theorem adaptAtRuleWith_eq_some {inside : Text → Option (Logged Text)}
    {name params : Text} {body : Option Text}
    (h : ∀ text, body = some text → depth < options.maxDepth →
      inside text = some (adaptSheet options (depth + 1) text)) :
    adaptAtRuleWith inside options depth name params body =
      some (adaptAtRule options depth name params body) := by
  unfold adaptAtRuleWith adaptAtRule
  -- By the kind of the at-rule; only a layer with a body looks inside.
  cases hkind : AtRuleKind.ofName name with
  | layer =>
    cases body with
    | none => rfl
    | some text =>
      by_cases hdepth : options.maxDepth ≤ depth
      · simp only [if_pos hdepth]
      · simp only [if_neg hdepth, h text rfl (Int.not_le.1 hdepth), Option.map_some]
  | keyframes => cases body <;> rfl
  | unsupported => rfl
  | unknown => rfl

private theorem mapM_eq_some {α β : Type} {f : α → Option β} {g : α → β} {xs : List α}
    (h : ∀ x ∈ xs, f x = some (g x)) : xs.mapM f = some (xs.map g) := by
  induction xs with
  | nil => rfl
  | cons x xs ih =>
    rw [List.forall_mem_cons] at h
    rw [List.mapM_cons, h.1, ih h.2]
    rfl

/-- A stylesheet that stands `depth` layers deep leads no deeper than the layers that are left to
enter, nor deeper than it has braces. -/
theorem adaptSheetUpTo_eq_some {css : Text}
    (h : depth + min (max 0 (options.maxDepth - depth)) (css.count '{') ≤ deepest) :
    adaptSheetUpTo deepest options depth css = some (adaptSheet options depth css) := by
  induction hn : css.length using Nat.strongRecOn generalizing css depth with
  | ind n ih =>
    have hnodes : ∀ node ∈ split css,
        adaptNodeWith (adaptSheetUpTo deepest options (depth + 1)) options depth node =
          some (adaptNode options depth node) := by
      intro node hnode
      cases node with
      | rule selector body => rfl
      | atRule name params body =>
        apply adaptAtRuleWith_eq_some
        rintro text rfl hdepth
        -- The body of a layer is shorter, and one level deeper it has a brace less.
        have hlength := Stylesheet.length_body_lt hnode rfl
        have hbraces := Stylesheet.count_body_lt_of_mem_split hnode rfl
        exact ih text.length (hn ▸ hlength) (by omega) rfl
    rw [adaptSheetUpTo, if_neg (by omega), mapM_eq_some hnodes, adaptSheet_eq]
    rfl

/-- Layers in layers that are all entered lead down to the innermost of them. -/
theorem adaptSheetUpTo_layers {css params : Text} (hcss : Balanced css) (hopen : '{' ∉ params)
    (hsemi : ';' ∉ params) {k : Nat} (hclose : '}' ∈ params → k ≤ 1)
    (hfits : depth + k ≤ options.maxDepth) (h : deepest < depth + k) :
    adaptSheetUpTo deepest options depth ((inLayer params)^[k] css) = none := by
  induction k generalizing depth with
  | zero => rw [adaptSheetUpTo, if_pos (by simpa using h)]
  | succ k ih =>
    -- The induction peels off the outermost layer, so what it holds must be balanced.
    have hinner : Balanced ((inLayer params)^[k] css) := by
      apply balanced_layers hcss hopen
      intro hmem
      have := hclose hmem
      omega
    have hnone : adaptSheetUpTo deepest options (depth + 1) ((inLayer params)^[k] css) = none :=
      ih (fun hmem => by have := hclose hmem; omega) (by omega) (by omega)
    have hlayer : AtRuleKind.ofName "layer".toList = .layer := by decide
    rw [Function.iterate_succ_apply', adaptSheetUpTo, split_inLayer hinner hopen hsemi]
    split
    · rfl
    · simp only [List.mapM_cons, adaptNodeWith, adaptAtRuleWith, hlayer, hnone,
        if_neg (show ¬options.maxDepth ≤ depth by omega), Option.map_none]
      rfl

end Deep

/-! ## The whole run -/

/-- **Progress.** Every stylesheet is read to its end: the cursor never leaves it, every pass that
does not stop moves the cursor on, and so a pass for every character and one to stop find all nodes.
Every body of a node is shorter than the stylesheet. So adapting it ends as well, whatever nesting
is allowed, and leads no deeper than that allows, nor deeper than there are opening braces. -/
theorem adapt_ends (options : Options) (css : Text) :
    (∀ i ≤ css.length, (Stylesheet.pass css i).cursor ≤ css.length) ∧
      (∀ i found behind, Stylesheet.pass css i = .next found behind → i < behind) ∧
      Stylesheet.scan? css (css.length + 1) 0 = some (split css) ∧
      (∀ node ∈ split css, ∀ body, node.body? = some body → body.length < css.length) ∧
      adaptSheetUpTo (min (max 0 options.maxDepth) (css.count '{')) options 0 css =
        some (adapt options css) := by
  refine ⟨fun i hi => Stylesheet.pass_cursor_le hi, fun i found behind => Stylesheet.lt_of_pass,
    ?_, fun node hnode body hbody => Stylesheet.length_body_lt hnode hbody, ?_⟩
  · exact Stylesheet.scan?_eq_some (Nat.zero_le _) (by omega)
  · apply adaptSheetUpTo_eq_some
    omega

end NativeStyle
