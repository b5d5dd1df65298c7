import NativeStyle.Proofs.Fragments
import NativeStyle.Proofs.Integers
import NativeStyle.Proofs.Times

/-!
# When a stylesheet cannot be adapted

Of all steps of a run only the spreading of an animation can fail, and that only at a time without
a value. Such a time stands in the stylesheet as it was written, inside the value of a declaration,
inside the body of a rule, inside the blocks around that rule. A stylesheet without the two
characters that make such a time is therefore always adapted, however malformed it is.

Main results:
- `body_infix_of_mem_leaves` (where the body of a leaf stands),
- `failsAt_of_adaptRule` (why a rule fails),
- `adapt_fails_only_at_long_unit` (why a stylesheet fails).
-/

namespace NativeStyle

open Stylesheet (Declaration Node Piece declarations pieces split)
open Animation (longUnits)

/-! ## Texts inside a stylesheet -/

namespace Stylesheet

private theorem Piece.body_infix {p : Piece} {node : Node} {body : Text}
    (hnode : p.node? = some node) (hbody : node.body? = some body) : body <:+: p.text := by
  have hblock (b : Block) : b.inside <:+: b.text := (List.prefix_append _ _).isInfix
  cases p with
  | blank t => cases hnode
  | stray t => cases hnode
  | statement head => cases hnode; cases hbody
  | atBlock head block =>
    cases hnode
    cases hbody
    exact (hblock block).trans (List.suffix_append _ _).isInfix
  | rule selector block =>
    simp only [Piece.node?] at hnode
    split at hnode
    · cases hnode
    · cases hnode
      cases hbody
      have hbehind : block.text <:+: selector ++ '{' :: block.text :=
        ⟨selector ++ ['{'], [], by simp⟩
      exact ((Text.trim_subtext _).trans (hblock block)).trans hbehind

/-- The body of a node stands in the stylesheet as it is. -/
theorem body_infix_of_mem_split {css : Text} {node : Node} {body : Text} (h : node ∈ split css)
    (hbody : node.body? = some body) : body <:+: css := by
  obtain ⟨p, hp, hnode⟩ := List.mem_filterMap.1 h
  have hpiece := List.infix_of_mem_flatten (List.mem_map_of_mem (f := Piece.text) hp)
  rw [← List.flatMap_def, text_pieces] at hpiece
  exact (Piece.body_infix hnode hbody).trans hpiece

/-- The value of a declaration stands in the body as it is. -/
theorem value_infix_of_mem_declarations {body : Text} :
    ∀ d ∈ declarations body, d.value <:+: body := by
  have hsegment {segment : Text} {d : Declaration}
      (h : Declaration.ofSegment? segment = some d) : d.value <:+: segment := by
    obtain ⟨property, value, rfl, -, rfl, -, -⟩ := Declaration.ofSegment?_eq_some h
    have hbehind : value <:+: property ++ ':' :: value := ⟨property ++ [':'], [], by simp⟩
    exact (Text.trim_subtext value).trans hbehind
  induction body using segments_induction with
  | last segment hsemi =>
    intro d hd
    rw [declarations_of_notMem hsemi, Option.mem_toList] at hd
    exact hsegment hd
  | next segment rest hsemi ih =>
    intro d hd
    rw [declarations_append, declarations_of_notMem hsemi] at hd
    rcases List.mem_append.1 hd with hd | hd
    · exact (hsegment (Option.mem_toList.1 hd)).trans (List.prefix_append _ _).isInfix
    · exact (ih d hd).trans ⟨segment ++ [';'], [], by simp⟩

end Stylesheet

/-- The body of a leaf stands in the stylesheet as it is, however deep. -/
theorem body_infix_of_mem_leaves {maxDepth depth : Int} {css body : Text} {leaf : Node}
    (h : leaf ∈ leaves maxDepth depth css) (hbody : leaf.body? = some body) : body <:+: css := by
  have hblock : ∀ inner node body, inner <:+: css → node ∈ split inner → node.body? = some body →
      body <:+: css :=
    fun _ _ _ hinner hnode hbody =>
      (Stylesheet.body_infix_of_mem_split hnode hbody).trans hinner
  obtain ⟨inner, hinner, hleaf⟩ := exists_split_of_mem_leaves hblock (List.infix_refl css) h
  exact (Stylesheet.body_infix_of_mem_split hleaf hbody).trans hinner

/-! ## Declarations -/

/-- The failures that a text can cause: a time that stands in it, with a unit that is none. -/
def FailsAt (text : Text) (e : Failure) : Prop :=
  ∃ time, e = .unreadableTime (.time time) ∧ time <:+: text ∧
    ∃ unit ∈ longUnits, unit <:+ time

theorem FailsAt.mono {text text' : Text} {e : Failure} (h : FailsAt text e)
    (hsub : text <:+: text') : FailsAt text' e := by
  obtain ⟨time, he, htime, hunit⟩ := h
  exact ⟨time, he, htime.trans hsub, hunit⟩

/-- Only the step that spreads animations can fail. -/
theorem Step.failsAt_of_verdict {options : Options} {step : Step} {d : Declaration} {e : Failure}
    (h : (step.verdict options d).result = .error e) : FailsAt d.value e := by
  have hconvert := Policy.result_convert options d.value
  cases step with
  | dropBookkeeping => cases h
  | dropContaining => cases h
  | replaceValue => cases h
  | spreadAnimation =>
    simp only [Step.verdict, Logged.ofResult] at h
    cases hspread : Animation.spread d.value with
    | ok lines =>
      rw [hspread] at h
      cases h
    | error t =>
      rw [hspread] at h
      cases h
      obtain ⟨time, rfl, htime⟩ := Animation.exists_time_of_spread_eq_error hspread
      exact ⟨time, rfl, htime⟩
  | keepCustom =>
    rw [Step.verdict, Logged.result_bind, hconvert] at h
    cases h
  | keepSupported =>
    rw [Step.verdict, Logged.result_bind, hconvert] at h
    cases h

theorem Policy.failsAt_of_verdict {options : Options} {policy : Policy} {d : Declaration}
    {e : Failure} (h : (Policy.verdict options policy d).result = .error e) :
    FailsAt d.value e := by
  induction policy with
  | nil => cases h
  | cons step steps ih =>
    cases happlies : step.applies d with
    | true =>
      rw [verdict_of_applies happlies] at h
      exact Step.failsAt_of_verdict h
    | false =>
      rw [verdict_of_not_applies happlies] at h
      exact ih h

/-! ## Rules -/

/-- Renaming a property leaves the value where it stands. -/
theorem value_infix_of_mem_ruleDeclarations {selector body : Text} :
    ∀ d ∈ ruleDeclarations selector body, d.value <:+: body := by
  intro d hd
  unfold ruleDeclarations at hd
  split at hd
  · obtain ⟨e, he, rfl⟩ := List.mem_map.1 hd
    have hvalue : (toPlaceholder e).value = e.value := by
      unfold toPlaceholder
      split <;> rfl
    rw [hvalue]
    exact Stylesheet.value_infix_of_mem_declarations e he
  · exact Stylesheet.value_infix_of_mem_declarations d hd

/-- A rule fails only at a time in its body. -/
theorem failsAt_of_adaptRule {options : Options} {selector body : Text} {e : Failure}
    (h : (adaptRule options selector body).result = .error e) : FailsAt body e := by
  unfold adaptRule at h
  split at h
  · cases h
  · rw [Logged.result_bind] at h
    cases hlines : (ruleLines options (ruleDeclarations selector body)).result with
    | ok lines =>
      rw [hlines] at h
      cases h
    | error e' =>
      rw [hlines] at h
      cases h
      rw [ruleLines, Logged.result_bind, Logged.result_mapM] at hlines
      cases hverdicts : (ruleDeclarations selector body).mapM fun d =>
          (Policy.verdict options .standard d).result with
      | ok verdicts =>
        rw [hverdicts] at hlines
        cases hlines
      | error e' =>
        rw [hverdicts] at hlines
        cases hlines
        -- One of the declarations fails, and its value stands in the body.
        obtain ⟨d, hd, hfails⟩ := exists_of_mapM_eq_error hverdicts
        exact (Policy.failsAt_of_verdict hfails).mono (value_infix_of_mem_ruleDeclarations d hd)

/-! ## Stylesheets -/

/-- A leaf fails only at a time in the stylesheet that it comes from. -/
theorem failsAt_of_mem_leaves {options : Options} {css : Text} {leaf : Node} {e : Failure}
    (hleaf : leaf ∈ leaves options.maxDepth 0 css)
    (h : (adaptNode options 0 leaf).result = .error e) : FailsAt css e := by
  rcases mem_leaves hleaf with ⟨selector, body, rfl⟩ | ⟨params, body, rfl⟩
  · exact (failsAt_of_adaptRule h).mono (body_infix_of_mem_leaves hleaf rfl)
  · -- Keyframes are kept as they are.
    rw [adaptNode, adaptAtRule_keyframes] at h
    cases h

theorem failsAt_of_adapt {options : Options} {css : Text} {e : Failure}
    (h : (adapt options css).result = .error e) : FailsAt css e := by
  rw [adapt_result_eq, leafTexts] at h
  cases hleaves : (leaves options.maxDepth 0 css).mapM fun leaf =>
      (adaptNode options 0 leaf).result with
  | ok kept =>
    rw [hleaves] at h
    cases h
  | error e' =>
    rw [hleaves] at h
    cases h
    obtain ⟨leaf, hleaf, hfails⟩ := exists_of_mapM_eq_error hleaves
    exact failsAt_of_mem_leaves hleaf hfails

/-- **Failures.** A stylesheet that is not adapted fails at a time of an animation that stands in
it and ends in an m and a long s, so it holds these two characters; and every stylesheet that does
not hold them is adapted, whatever else is in it. That no number is too large to be written is part
of this: the numbers of an animation all have a text. -/
theorem adapt_fails_only_at_long_unit (options : Options) (css : Text) :
    (∀ e, (adapt options css).result = .error e →
      ∃ time, ∃ unit ∈ longUnits, e = .unreadableTime (.time time) ∧ time <:+: css ∧
        unit <:+ time ∧ unit <:+: css) ∧
    ((∀ unit ∈ longUnits, ¬unit <:+: css) → ∃ out, (adapt options css).result = .ok out) ∧
    ∀ value fields slot n, Animation.parse value = .ok fields →
      fields slot = some (.number n) → n.Writable := by
  have hfails : ∀ e, (adapt options css).result = .error e →
      ∃ time, ∃ unit ∈ longUnits, e = .unreadableTime (.time time) ∧ time <:+: css ∧
        unit <:+ time ∧ unit <:+: css := by
    intro e h
    obtain ⟨time, he, htime, unit, hunit, hsuffix⟩ := failsAt_of_adapt h
    exact ⟨time, unit, hunit, he, htime, hsuffix, hsuffix.isInfix.trans htime⟩
  refine ⟨hfails, ?_, fun _ _ _ _ h hn => Animation.writable_of_parse h hn⟩
  intro hnone
  cases hresult : (adapt options css).result with
  | ok out => exact ⟨out, rfl⟩
  | error e =>
    obtain ⟨-, unit, hunit, -, -, -, hinside⟩ := hfails e hresult
    exact absurd hinside (hnone unit hunit)

/-- A time that makes a stylesheet fail; and a stylesheet with a brace too many, a long s without an
m and blocks that are left open, which is adapted all the same. -/
theorem adapt_fails_only_at_long_unit_malformed :
    (∃ time, ∃ unit ∈ longUnits,
        Failure.unreadableTime (.time "1mſ".toList) = .unreadableTime (.time time) ∧
          time <:+: ".a\x7banimation:1mſ\x7d".toList ∧ unit <:+ time ∧
            unit <:+: ".a\x7banimation:1mſ\x7d".toList) ∧
      ∃ out, (adapt {} "\x7d.a\x7banimation:1ſ m;b:\x7b\x7b@x".toList).result = .ok out := by
  have hfails : (adapt {} ".a\x7banimation:1mſ\x7d".toList).result =
      .error (.unreadableTime (.time "1mſ".toList)) := by
    decide +kernel
  have hlongs : ∀ unit ∈ longUnits,
      Text.contains unit "\x7d.a\x7banimation:1ſ m;b:\x7b\x7b@x".toList = false := by
    decide
  refine ⟨(adapt_fails_only_at_long_unit {} _).1 _ hfails,
    (adapt_fails_only_at_long_unit {} _).2.1 ?_⟩
  intro unit hunit
  rw [← Text.contains_iff, hlongs unit hunit]
  exact Bool.false_ne_true

end NativeStyle
