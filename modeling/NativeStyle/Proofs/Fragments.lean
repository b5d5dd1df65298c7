import NativeStyle.Proofs.Flattening
import NativeStyle.Proofs.Rules
import NativeStyle.Proofs.Scan

/-!
# What is left of the leaves

An adapted stylesheet is a list of fragments, joined by blank lines. Each fragment is a rule with
its declarations or keyframes with their body, and comes from one leaf. All that the passes
promise about them is collected here: rules have a trimmed selector and declarations in normal
form, keyframes have trimmed parameters and a body that closes nothing it did not open, and only
the last keyframes can be left open.

Main results:
- `result_eq_fragment?` (what is left of a leaf),
- `adapt_eq_join_fragments` (an adapted stylesheet as its fragments),
- `emitted_of_mem_fragments` and `pairwise_fragments` (what every fragment promises).
-/

namespace NativeStyle

open Stylesheet (Balanced Declaration Node depthBehind? split)

/-! ## Where leaves come from -/

private theorem mem_nodeLeaves {maxDepth depth : Int} {node leaf : Node}
    (h : leaf ∈ nodeLeaves maxDepth depth node) :
    leaf = node ∨ ∃ body, node.body? = some body ∧ leaf ∈ leaves maxDepth (depth + 1) body := by
  -- By the kind of the node, as its leaves are defined.
  match node, h with
  | .rule selector body, h => exact Or.inl (List.mem_singleton.1 h)
  | .atRule name params none, h => cases h
  | .atRule name params (some body), h =>
    simp only [nodeLeaves] at h
    split at h
    · exact Or.inl (List.mem_singleton.1 h)
    · split at h
      · exact Or.inr ⟨body, rfl, h⟩
      · cases h

/-- Every leaf is a node of the stylesheet or of some block in it. What holds of a stylesheet, and
with a text of all the blocks in it, holds of the text that the leaf is split from. -/
theorem exists_split_of_mem_leaves {P : Text → Prop}
    (block : ∀ css node body, P css → node ∈ split css → node.body? = some body → P body)
    {maxDepth depth : Int} {css : Text} (hcss : P css) {leaf : Node}
    (h : leaf ∈ leaves maxDepth depth css) : ∃ inner, P inner ∧ leaf ∈ split inner := by
  induction hn : css.length using Nat.strongRecOn generalizing css depth with
  | ind n ih =>
    rw [leaves_eq] at h
    obtain ⟨node, hnode, hleaf⟩ := List.mem_flatMap.1 h
    -- A leaf is a node of this text or a leaf of a shorter one.
    rcases mem_nodeLeaves hleaf with rfl | ⟨body, hbody, hleaf⟩
    · exact ⟨css, hcss, hnode⟩
    · exact ih body.length (hn ▸ Stylesheet.length_body_lt hnode hbody)
        (block css node body hcss hnode hbody) hleaf rfl

theorem wellRead_of_mem_leaves {maxDepth depth : Int} {css : Text} {leaf : Node}
    (h : leaf ∈ leaves maxDepth depth css) : leaf.WellRead := by
  obtain ⟨inner, -, hleaf⟩ :=
    exists_split_of_mem_leaves (P := fun _ => True) (fun _ _ _ _ _ _ => trivial) trivial h
  exact Stylesheet.wellRead_of_mem_split leaf hleaf

/-- The leaves of a balanced stylesheet hold balanced blocks. -/
theorem holdsBalanced_of_mem_leaves {maxDepth depth : Int} {css : Text} (hcss : Balanced css)
    {leaf : Node} (h : leaf ∈ leaves maxDepth depth css) : leaf.HoldsBalanced := by
  have hblock : ∀ css node body, Balanced css → node ∈ split css → node.body? = some body →
      Balanced body :=
    fun css node body hcss hnode hbody => hcss.node node hnode body hbody
  obtain ⟨inner, hinner, hleaf⟩ := exists_split_of_mem_leaves hblock hcss h
  exact hinner.node leaf hleaf

/-- Only the last leaf can hold an open block, however deep it stands. -/
theorem pairwise_leaves (maxDepth depth : Int) (css : Text) :
    (leaves maxDepth depth css).Pairwise fun leaf _ => leaf.HoldsBalanced := by
  induction hn : css.length using Nat.strongRecOn generalizing css depth with
  | ind n ih =>
    rw [leaves_eq, List.pairwise_flatMap]
    -- Among the leaves of one node, and between those of two nodes.
    constructor
    · intro node hnode
      match node, hnode with
      | .rule selector body, _ => exact List.pairwise_singleton _ _
      | .atRule name params none, _ => exact List.Pairwise.nil
      | .atRule name params (some body), hnode =>
        simp only [nodeLeaves]
        split
        · exact List.pairwise_singleton _ _
        · split
          · have hbody := Stylesheet.length_body_lt hnode rfl
            exact ih body.length (hn ▸ hbody) (depth + 1) body rfl
          · exact List.Pairwise.nil
    · -- If another node follows, all blocks inside the first one are balanced.
      apply (Stylesheet.split_pairwise_balanced css).imp
      intro node other hnode leaf hleaf _ _
      rcases mem_nodeLeaves hleaf with rfl | ⟨body, hbody, hleaf⟩
      · exact hnode
      · exact holdsBalanced_of_mem_leaves (hnode body hbody) hleaf

/-! ## Fragments -/

/-- What is left of a leaf. -/
inductive Fragment where
  | rule (selector : Text) (declarations : List Declaration)
  | keyframes (params body : Text)
deriving DecidableEq, Repr

namespace Fragment

/-- The fragment as it is written. -/
def text : Fragment → Text
  | .rule selector declarations => renderRule selector (declarations.map Declaration.text)
  | .keyframes params body => renderKeyframes params body

/-- What is written between the braces. -/
def inside : Fragment → Text
  | .rule _ declarations => ruleInside (declarations.map Declaration.text)
  | .keyframes _ body => '\n' :: body ++ ['\n']

/-- What the passes promise about a fragment. -/
inductive Emitted : Fragment → Prop where
  | rule {selector : Text} {declarations : List Declaration} :
      selector ≠ [] → Text.trim selector = selector → '{' ∉ selector → declarations ≠ [] →
      (∀ d ∈ declarations, d.Emitted) → Emitted (.rule selector declarations)
  | keyframes {params body : Text} :
      Text.trim params = params → '{' ∉ params → ';' ∉ params → Text.trim body = body →
      (depthBehind? 0 body).isSome = true → Emitted (.keyframes params body)

end Fragment

/-- What is left of a leaf, in parts. -/
def fragment? (options : Options) : Node → Option Fragment
  | .rule selector body =>
    match (adaptRule options selector body).result,
        (ruleLines options (ruleDeclarations selector body)).result with
    | .ok (some _), .ok lines =>
      some (.rule (Selector.adapt selector) (lines.filterMap Declaration.ofSegment?))
    | _, _ => none
  | .atRule _ params body => body.map fun body => .keyframes params (Text.trim body)

/-- The fragments of an adapted stylesheet in source order. -/
def fragments (options : Options) (css : Text) : List Fragment :=
  (leaves options.maxDepth 0 css).filterMap (fragment? options)

/-! ## Leaf by leaf -/

section Leaf

variable {options : Options} {selector body : Text} {leaf : Node} {f : Fragment}

/-- The lines of a rule are the texts of the declarations that are read in them. -/
theorem ruleLines_eq_map_text {lines : List Text}
    (h : (ruleLines options (ruleDeclarations selector body)).result = .ok lines) :
    lines = (lines.filterMap Declaration.ofSegment?).map Declaration.text ∧
      ∀ d ∈ lines.filterMap Declaration.ofSegment?, d.Emitted := by
  obtain ⟨ds, rfl, hds⟩ := emitted_of_ruleLines normal_of_mem_ruleDeclarations h
  -- Declarations in normal form are read back from their lines.
  have hread : (ds.map Declaration.text).filterMap Declaration.ofSegment? = ds := by
    rw [List.filterMap_map]
    conv => rhs; rw [← List.filterMap_some (l := ds)]
    apply List.filterMap_congr
    intro d hd
    have hnothing : ∀ c ∈ ([] : Text), Text.isBlank c = true := by simp
    exact (hds d hd).normal.ofSegment?_text hnothing
  rw [hread]
  exact ⟨rfl, hds⟩

private theorem renderKeyframes_trim (params body : Text) :
    renderKeyframes params (Text.trim body) = renderKeyframes params body := by
  unfold renderKeyframes
  rw [Text.trim_trim]

/-- What is left of a leaf is the text of its fragment. -/
theorem result_eq_fragment? {depth : Int} {css : Text}
    (hleaf : leaf ∈ leaves options.maxDepth depth css) {left : Option Text}
    (h : (adaptNode options 0 leaf).result = .ok left) :
    left = (fragment? options leaf).map Fragment.text := by
  rcases mem_leaves hleaf with ⟨selector, body, rfl⟩ | ⟨params, body, rfl⟩
  · change (adaptRule options selector body).result = .ok left at h
    -- The fragment of a rule asks the rule itself whether something is left of it.
    cases left with
    | none =>
      simp only [fragment?, h]
      rfl
    | some text =>
      obtain ⟨-, -, lines, hlines, -, rfl⟩ := adaptRule_eq_some_iff.1 h
      simp only [fragment?, h, hlines, Option.map_some, Fragment.text]
      rw [← (ruleLines_eq_map_text hlines).1]
  · rw [adaptNode, adaptAtRule_keyframes, Logged.result_pure, Except.ok.injEq] at h
    have hsame := renderKeyframes_trim params body
    exact h.symm.trans (congrArg some hsame.symm)

theorem emitted_of_fragment? (hleaf : leaf.WellRead) (h : fragment? options leaf = some f) :
    f.Emitted := by
  match leaf, hleaf, h with
  | .rule selector body, hselector, h =>
    simp only [fragment?] at h
    split at h
    · next hrule hlines =>
      cases h
      obtain ⟨-, hne, lines, hsame, hlinesNe, -⟩ := adaptRule_eq_some_iff.1 hrule
      rw [hlines] at hsame
      cases hsame
      obtain ⟨htext, hemitted⟩ := ruleLines_eq_map_text hlines
      -- Adapting a selector trims it and adds no brace.
      refine .rule hne (Selector.trim_adapt selector) ?_ ?_ hemitted
      · exact Selector.notMem_adapt (by decide) (by decide) hselector
      · intro hnil
        rw [hnil] at htext
        exact hlinesNe htext
    · cases h
  | .atRule name params none, _, h => cases h
  | .atRule name params (some body), ⟨htrim, hopen, hsemi, hbody⟩, h =>
    cases h
    refine .keyframes htrim hopen hsemi (Text.trim_trim body) ?_
    rw [Stylesheet.depthBehind?_trim]
    exact hbody body rfl

end Leaf

/-! ## Whole stylesheets -/

variable (options : Options) (css : Text)

theorem emitted_of_mem_fragments : ∀ f ∈ fragments options css, f.Emitted := by
  intro f hf
  obtain ⟨leaf, hleaf, hfragment⟩ := List.mem_filterMap.1 hf
  exact emitted_of_fragment? (wellRead_of_mem_leaves hleaf) hfragment

/-- Only the last keyframes can be left open. -/
theorem pairwise_fragments : (fragments options css).Pairwise fun f _ =>
    ∀ params body, f = .keyframes params body → Balanced body := by
  apply (pairwise_leaves options.maxDepth 0 css).filterMap
  intro leaf _ hleaf f hf _ _ params body hkeyframes
  subst hkeyframes
  -- Only keyframes give keyframes, and their body is trimmed.
  match leaf, hleaf, hf with
  | .rule selector inside, _, hf =>
    simp only [fragment?] at hf
    split at hf <;> cases hf
  | .atRule name params none, _, hf => cases hf
  | .atRule name params (some inside), hleaf, hf =>
    cases hf
    exact (hleaf inside rfl).trim

/-- An adapted stylesheet is the join of its fragments. -/
theorem adapt_eq_join_fragments {out : Text} (h : (adapt options css).result = .ok out) :
    out = Text.join fragmentSeparator ((fragments options css).map Fragment.text) := by
  rw [adapt_result_eq, leafTexts] at h
  -- Leaf by leaf: what is left of it is the text of its fragment, or nothing on both sides.
  have hleft {list : List Node} {kept : List (Option Text)}
      (hlist : ∀ leaf ∈ list, leaf ∈ leaves options.maxDepth 0 css)
      (hkept : List.Forall₂ (fun leaf left => (adaptNode options 0 leaf).result = .ok left)
        list kept) :
      kept.filterMap id = (list.filterMap (fragment? options)).map Fragment.text := by
    induction hkept with
    | nil => rfl
    | @cons leaf left list kept hresult _ ih =>
      have hrest := ih fun other hother => hlist other (List.mem_cons_of_mem _ hother)
      rw [result_eq_fragment? (hlist leaf List.mem_cons_self) hresult]
      cases hfragment : fragment? options leaf with
      | none => simpa [hfragment] using hrest
      | some f => simpa [hfragment] using hrest
  cases hkept : (leaves options.maxDepth 0 css).mapM fun leaf =>
      (adaptNode options 0 leaf).result with
  | error e =>
    rw [hkept] at h
    cases h
  | ok kept =>
    rw [hkept] at h
    cases h
    rw [fragments, ← hleft (fun leaf hleaf => hleaf) (mapM_eq_ok_iff.1 hkept)]

end NativeStyle
