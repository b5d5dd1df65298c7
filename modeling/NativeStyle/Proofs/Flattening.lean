import NativeStyle.Proofs.Runs

/-!
# Flattened layers

The *leaves* of a stylesheet are the rules and keyframes that are met when every layer is entered
that is not too deep. Adapting a stylesheet joins texts at every level of nesting; here it is
shown to be the same as one walk over the leaves with a single join at the end.

Main results:
- `leaves_eq` (the leaves node by node),
- `adaptSheet_result_eq` (a stylesheet at any depth is adapted leaf by leaf),
- `adapt_eq_join_leaves` (the same for a whole stylesheet).
-/

namespace NativeStyle

open Stylesheet (Node split)

/-! ## Leaves -/

/-- The rules and keyframes of a stylesheet that stands `depth` layers deep, in source order. A
layer that is not too deep gives the leaves of its body in its place; every other node gives
none. -/
def leaves (maxDepth depth : Int) (css : Text) : List Node :=
  (split css).attach.flatMap fun
    | ⟨.rule selector body, _⟩ => [.rule selector body]
    | ⟨.atRule name params (some body), _⟩ =>
      if name = "keyframes".toList then [.atRule name params (some body)]
      else if name = "layer".toList ∧ depth < maxDepth then leaves maxDepth (depth + 1) body
      else []
    | ⟨.atRule _ _ none, _⟩ => []
termination_by css.length
decreasing_by exact Stylesheet.length_body_lt ‹_› rfl

/-- The leaves that a node stands for. -/
def nodeLeaves (maxDepth depth : Int) : Node → List Node
  | .rule selector body => [.rule selector body]
  | .atRule name params (some body) =>
    if name = "keyframes".toList then [.atRule name params (some body)]
    else if name = "layer".toList ∧ depth < maxDepth then leaves maxDepth (depth + 1) body
    else []
  | .atRule _ _ none => []

theorem leaves_eq (maxDepth depth : Int) (css : Text) :
    leaves maxDepth depth css = (split css).flatMap (nodeLeaves maxDepth depth) := by
  rw [leaves, List.flatMap_def, List.flatMap_def]
  -- The definition remembers that each node is one of the stylesheet; forget it.
  conv => rhs; rw [← List.attach_map_subtype_val (split css), List.map_map]
  congr 1
  refine List.map_congr_left fun node _ => ?_
  obtain ⟨node, h⟩ := node
  rcases node with ⟨selector, body⟩ | ⟨name, params, _ | body⟩ <;> rfl

theorem leaves_shift (maxDepth depth shift : Int) (css : Text) :
    leaves (maxDepth + shift) (depth + shift) css = leaves maxDepth depth css := by
  induction hn : css.length using Nat.strongRecOn generalizing css depth with
  | ind n ih =>
    rw [leaves_eq, leaves_eq, List.flatMap_def, List.flatMap_def]
    congr 1
    refine List.map_congr_left fun node hnode => ?_
    -- Only layers look at the depth, and both sides compare the same difference.
    match node, hnode with
    | .rule selector body, _ => rfl
    | .atRule name params none, _ => rfl
    | .atRule name params (some body), hnode =>
      have hbody := Stylesheet.length_body_lt hnode rfl
      have hinner := ih body.length (hn ▸ hbody) (depth + 1) body rfl
      have hdepth : depth + shift < maxDepth + shift ↔ depth < maxDepth := by omega
      have hnext : depth + shift + 1 = depth + 1 + shift := by omega
      simp only [nodeLeaves, hdepth, hnext, hinner]

/-- A leaf is a rule or keyframes with a block. -/
theorem mem_leaves {maxDepth depth : Int} {css : Text} {leaf : Node}
    (h : leaf ∈ leaves maxDepth depth css) :
    (∃ selector body, leaf = .rule selector body) ∨
      ∃ params body, leaf = .atRule "keyframes".toList params (some body) := by
  induction hn : css.length using Nat.strongRecOn generalizing css depth with
  | ind n ih =>
    rw [leaves_eq] at h
    obtain ⟨node, hnode, hleaf⟩ := List.mem_flatMap.1 h
    -- By the kind of the node; a layer hands the question on to its body.
    match node, hnode, hleaf with
    | .rule selector body, _, hleaf =>
      exact Or.inl ⟨selector, body, List.mem_singleton.1 hleaf⟩
    | .atRule name params none, _, hleaf => cases hleaf
    | .atRule name params (some body), hnode, hleaf =>
      simp only [nodeLeaves] at hleaf
      split at hleaf
      · next hname =>
        subst hname
        exact Or.inr ⟨params, body, List.mem_singleton.1 hleaf⟩
      · split at hleaf
        · have hbody := Stylesheet.length_body_lt hnode rfl
          exact ih body.length (hn ▸ hbody) hleaf rfl
        · cases hleaf

/-! ## At-rules by name -/

theorem adaptAtRule_keyframes (options : Options) (depth : Int) (params body : Text) :
    adaptAtRule options depth "keyframes".toList params (some body) =
      pure (some (renderKeyframes params body)) := by
  have hkind : AtRuleKind.ofName "keyframes".toList = .keyframes := by decide
  unfold adaptAtRule
  simp only [hkind]

/-- A layer that is too deep is dropped with a warning. -/
theorem adaptAtRule_layer_of_le {options : Options} {depth : Int} (params body : Text)
    (h : options.maxDepth ≤ depth) :
    adaptAtRule options depth "layer".toList params (some body) =
      ⟨[.tooDeep params options.maxDepth], .ok none⟩ := by
  rw [adaptAtRule]
  · rw [if_pos h]
    rfl
  · decide

theorem AtRuleKind.ofName_eq_layer_iff {name : Text} :
    ofName name = layer ↔ name = "layer".toList := by
  unfold ofName
  split
  · next h => simp [h]
  · next h =>
    simp only [h, iff_false]
    split
    · simp
    · split <;> simp

theorem AtRuleKind.ofName_eq_keyframes_iff {name : Text} :
    ofName name = keyframes ↔ name = "keyframes".toList := by
  unfold ofName
  split
  · next h =>
    subst h
    decide
  · split
    · next h => simp [h]
    · next h =>
      simp only [h, iff_false]
      split <;> simp

/-- An at-rule without a block leaves nothing, and neither does one that is neither a layer nor
keyframes. -/
theorem adaptAtRule_result_of_dropped {options : Options} {depth : Int} {name params : Text}
    {body : Option Text}
    (h : body = none ∨ (name ≠ "layer".toList ∧ name ≠ "keyframes".toList)) :
    (adaptAtRule options depth name params body).result = .ok none := by
  unfold adaptAtRule
  split
  · next hkind =>
    have hname := AtRuleKind.ofName_eq_layer_iff.1 hkind
    rcases h with h | h
    · cases h
    · exact absurd hname h.1
  · next hkind =>
    have hname := AtRuleKind.ofName_eq_keyframes_iff.1 hkind
    rcases h with h | h
    · cases h
    · exact absurd hname h.2
  · rfl
  · rfl
  · cases options.debug <;> rfl
  · rfl

/-- What is left of an at-rule are its keyframes, or the text of its layer. -/
theorem adaptAtRule_eq_some {options : Options} {depth : Int} {name params text : Text}
    {body : Option Text}
    (h : (adaptAtRule options depth name params body).result = .ok (some text)) :
    ∃ inside, body = some inside ∧
      ((name = "keyframes".toList ∧ text = renderKeyframes params inside) ∨
        (name = "layer".toList ∧ (adaptSheet options (depth + 1) inside).result = .ok text)) := by
  cases body with
  | none =>
    rw [adaptAtRule_result_of_dropped (Or.inl rfl)] at h
    cases h
  | some inside =>
    refine ⟨inside, rfl, ?_⟩
    -- Keyframes, layers and all others, in the order of the kinds.
    by_cases hkeyframes : name = "keyframes".toList
    · subst hkeyframes
      rw [adaptAtRule_keyframes] at h
      cases h
      exact Or.inl ⟨rfl, rfl⟩
    · by_cases hlayer : name = "layer".toList
      · subst hlayer
        refine Or.inr ⟨rfl, ?_⟩
        -- A layer that is too deep leaves nothing.
        by_cases hdepth : depth < options.maxDepth
        · rw [adaptAtRule_layer hdepth, Logged.result_bind] at h
          cases hinner : (adaptSheet options (depth + 1) inside).result with
          | error e =>
            rw [hinner] at h
            cases h
          | ok inner =>
            rw [hinner] at h
            change Except.ok _ = _ at h
            split at h <;> cases h
            rfl
        · rw [adaptAtRule_layer_of_le params inside (Int.not_lt.1 hdepth)] at h
          cases h
      · rw [adaptAtRule_result_of_dropped (Or.inr ⟨hlayer, hkeyframes⟩)] at h
        cases h

/-! ## One node -/

/-- A layer that is not too deep gives the text of its body. -/
theorem joinFragments_layer {options : Options} {depth : Int} {params body : Text}
    (h : depth < options.maxDepth) :
    joinFragments [adaptAtRule options depth "layer".toList params (some body)] =
      adaptSheet options (depth + 1) body := by
  rw [joinFragments_singleton, adaptAtRule_layer h]
  simp only [bind_assoc, pure_bind]
  conv => rhs; rw [← bind_pure (adaptSheet options (depth + 1) body)]
  -- Both ways an empty text is left out.
  refine Logged.bind_congr_of_result fun inner _ => ?_
  by_cases hinner : inner = [] <;> simp [hinner]

theorem result_joinFragments_of_none {x : Logged (Option Text)} (h : x.result = .ok none) :
    (joinFragments [x]).result = .ok [] := by
  rw [joinFragments_singleton, Logged.result_bind, h]
  rfl

/-- Nodes can be replaced one by one by others that give the same text. -/
theorem result_joinFragments_flatMap {options : Options} {depth : Int} {nodes : List Node}
    {expand : Node → List Node}
    (h : ∀ node ∈ nodes, (joinFragments [adaptNode options depth node]).result =
      (joinFragments ((expand node).map (adaptNode options 0))).result) :
    (joinFragments (nodes.map (adaptNode options depth))).result =
      (joinFragments ((nodes.flatMap expand).map (adaptNode options 0))).result := by
  have hsolid (d : Int) (list : List Node) :
      ∀ x ∈ list.map (adaptNode options d), NoEmptyText x := by
    intro x hx
    obtain ⟨node, -, rfl⟩ := List.mem_map.1 hx
    exact adaptNode_noEmptyText options d node
  -- Node by node: the fragments of the first are joined to those of the others.
  induction nodes with
  | nil => rfl
  | cons node nodes ih =>
    have hnode := h node List.mem_cons_self
    have hrest := ih fun other hother => h other (List.mem_cons_of_mem _ hother)
    rw [← List.singleton_append, List.map_append, List.singleton_append, List.flatMap_cons,
      List.map_append, joinFragments_append (hsolid depth [node]) (hsolid depth nodes),
      joinFragments_append (hsolid 0 _) (hsolid 0 _), List.map_cons, List.map_nil]
    simp only [Logged.result_bind, hnode, hrest]

/-! ## All leaves -/

/-- A stylesheet that stands `depth` layers deep is adapted leaf by leaf. -/
theorem adaptSheet_result_eq (options : Options) (depth : Int) (css : Text) :
    (adaptSheet options depth css).result =
      (joinFragments ((leaves options.maxDepth depth css).map (adaptNode options 0))).result := by
  induction hn : css.length using Nat.strongRecOn generalizing css depth with
  | ind n ih =>
    rw [adaptSheet_eq, leaves_eq]
    -- It is enough that every node gives the same text as its own leaves.
    apply result_joinFragments_flatMap
    intro node hnode
    match node, hnode with
    | .rule selector body, _ => rfl
    | .atRule name params none, _ =>
      exact result_joinFragments_of_none (adaptAtRule_result_of_dropped (Or.inl rfl))
    | .atRule name params (some body), hnode =>
      -- Keyframes are their own leaf; layers go one level deeper; the others give none.
      by_cases hkeyframes : name = "keyframes".toList
      · subst hkeyframes
        simp only [nodeLeaves, adaptNode, adaptAtRule_keyframes, if_true, List.map_cons,
          List.map_nil]
      · by_cases hlayer : name = "layer".toList
        · subst hlayer
          by_cases hdepth : depth < options.maxDepth
          · -- The body is shorter, so its leaves are known one level deeper.
            have hbody := Stylesheet.length_body_lt hnode rfl
            simp only [nodeLeaves, if_neg hkeyframes, hdepth, and_self, if_true, adaptNode]
            rw [joinFragments_layer hdepth]
            exact ih body.length (hn ▸ hbody) (depth + 1) body rfl
          · simp only [nodeLeaves, if_neg hkeyframes, hdepth, and_false, if_false, adaptNode]
            rw [adaptAtRule_layer_of_le params body (Int.not_lt.1 hdepth)]
            rfl
        · simp only [nodeLeaves, if_neg hkeyframes, hlayer, false_and, if_false]
          exact result_joinFragments_of_none
            (adaptAtRule_result_of_dropped (Or.inr ⟨hlayer, hkeyframes⟩))

/-- The texts that the leaves of a stylesheet leave when each is adapted on its own, in source
order. There are none where one of them fails. -/
def leafTexts (options : Options) (css : Text) : Except Failure (List Text) :=
  ((leaves options.maxDepth 0 css).mapM fun leaf => (adaptNode options 0 leaf).result).map
    (·.filterMap id)

/-- An adapted stylesheet is the join of the texts of its leaves. -/
theorem adapt_result_eq (options : Options) (css : Text) :
    (adapt options css).result =
      (leafTexts options css).map (Text.join fragmentSeparator) := by
  rw [adapt, adaptSheet_result_eq, result_joinFragments, List.mapM_map, leafTexts]
  change ((leaves options.maxDepth 0 css).mapM fun leaf => (adaptNode options 0 leaf).result) >>=
    (fun kept => .ok (Text.join fragmentSeparator (kept.filterMap id))) = _
  cases (leaves options.maxDepth 0 css).mapM fun leaf => (adaptNode options 0 leaf).result <;> rfl

/-- **Flattening.** The adapted stylesheet is the join, by blank lines and in source order, of
what its leaves leave when each is adapted on its own; it fails where one of them does. -/
theorem adapt_eq_join_leaves (options : Options) (css : Text) :
    (adapt options css).result = (do
      let fragments ← (leaves options.maxDepth 0 css).mapM fun leaf =>
        (adaptNode options 0 leaf).result
      .ok (Text.join fragmentSeparator (fragments.filterMap id))) := by
  rw [adapt, adaptSheet_result_eq, result_joinFragments, List.mapM_map]
  rfl

end NativeStyle
