import NativeStyle.Proofs.Flattening
import NativeStyle.Proofs.Rules
import NativeStyle.Proofs.Scan

/-!
# Marks that adapting cannot add

Every opening brace that is written stands for a block that was read, and every at sign for
keyframes that were read or for a character that was kept. So adapting a stylesheet adds neither
of them, and a stylesheet that loses none has lost no block.

Closing braces are different, since an open block is closed. But in front of the first opening
brace none is added either, as long as no block is lost.

Main results:
- `count_adaptSheet_le` (opening braces and at signs),
- `count_beforeBlock_le` (closing braces in front of the first block).
-/

namespace NativeStyle

open Stylesheet (Node Piece Block split split_cases)

/-! ## Texts of fragments -/

theorem count_renderRule {c : Char} (hc : c ∈ ['{', '@']) (selector : Text) {lines : List Text}
    (hne : lines ≠ []) :
    (renderRule selector lines).count c =
      selector.count c + ['{'].count c + lines.flatten.count c := by
  -- The frame of a rule has one opening brace, and neither mark stands in the indents.
  have hmark : c ∈ ['{', '}', '@'] := by
    revert c
    decide
  have hframe : [' ', '{'].count c = ['{'].count c ∧ ['}'].count c = 0 := by
    revert c
    decide
  have htext : renderRule selector lines =
      selector ++ ([' ', '{'] ++ (ruleInside lines ++ ['}'])) := renderRule_eq hne selector
  rw [htext, List.count_append, List.count_append, List.count_append, hframe.1, hframe.2,
    count_ruleInside hmark]
  omega

private theorem frame_eq {start name middle stop : Text} (hstart : start = '@' :: (name ++ [' ']))
    (hmiddle : middle = [' ', '{', '\n']) (hstop : stop = ['\n', '}']) (params body : Text) :
    start ++ params ++ middle ++ body ++ stop = '@' :: (name ++ ' ' ::
      (params ++ ' ' :: '{' :: (('\n' :: body ++ ['\n']) ++ ['}']))) := by
  subst hstart hmiddle hstop
  simp only [List.append_assoc, List.cons_append, List.nil_append]

/-- Keyframes are a head and a block with the trimmed body on lines of its own. -/
theorem renderKeyframes_eq (params body : Text) :
    renderKeyframes params body = '@' :: ("keyframes".toList ++ ' ' ::
      (params ++ ' ' :: '{' :: (('\n' :: Text.trim body ++ ['\n']) ++ ['}']))) :=
  frame_eq (by decide) (by decide) (by decide) params (Text.trim body)

theorem count_renderKeyframes_le {c : Char} (hc : c ∈ ['{', '@']) (params body : Text) :
    (renderKeyframes params body).count c ≤
      ['@'].count c + params.count c + ['{'].count c + body.count c := by
  have hframe : ('@' :: ("keyframes".toList ++ [' '])).count c = ['@'].count c ∧
      [' ', '{', '\n'].count c = ['{'].count c ∧ ['\n', '}'].count c = 0 := by
    revert c
    decide
  have htext : renderKeyframes params body = '@' :: ("keyframes".toList ++ [' ']) ++
      (params ++ ([' ', '{', '\n'] ++ (Text.trim body ++ ['\n', '}']))) := by
    rw [renderKeyframes_eq]
    generalize "keyframes".toList = name
    simp only [List.append_assoc, List.cons_append, List.nil_append]
  have hbody := Text.count_trim_le c body
  rw [htext, List.count_append, List.count_append, List.count_append, List.count_append,
    hframe.1, hframe.2.1, hframe.2.2]
  omega

private theorem count_atBlock {head : Stylesheet.AtHead} (h : head.opensBlock = true) (c : Char)
    (block : Block) : (Piece.atBlock head block).text.count c =
      ['@'].count c + head.name.count c + head.params.count c + ['{'].count c +
        block.text.count c := by
  have htext : (Piece.atBlock head block).text =
      ['@'] ++ head.name ++ head.params ++ ['{'] ++ block.text := by
    simp [Piece.text, Stylesheet.AtHead.text, h]
  rw [htext, List.count_append, List.count_append, List.count_append, List.count_append]

private theorem count_rule (selector : Text) (block : Block) (c : Char) :
    (Piece.rule selector block).text.count c =
      selector.count c + ['{'].count c + block.text.count c := by
  have htext : (Piece.rule selector block).text = selector ++ (['{'] ++ block.text) := rfl
  rw [htext, List.count_append, List.count_append]
  omega

private theorem count_inside_le (c : Char) (block : Block) :
    block.inside.count c ≤ block.text.count c := by
  rw [Block.text, List.count_append]
  exact Nat.le_add_right _ _

/-! ## One node -/

section Node

variable {options : Options} {depth : Int} {s rest text : Text} {p : Piece} {node : Node}

/-- What is known of shorter stylesheets carries over to a node: its text has no more opening
braces and at signs than the piece it was read from. -/
private theorem count_node_le {c : Char} (hc : c ∈ ['{', '@'])
    (ih : ∀ (css : Text) (d : Int) (out : Text), css.length < s.length →
      (adaptSheet options d css).result = .ok out → out.count c ≤ css.count c)
    (hmem : node ∈ split s) (hreads : Piece.Reads s p rest) (hnode : p.node? = some node)
    (h : (adaptNode options depth node).result = .ok (some text)) :
    text.count c ≤ p.text.count c := by
  have hknown : ∀ d ∈ ['{', '@'],
      d ∈ marks ∧ d ∉ Selector.rootClasses ∧ d ∉ Selector.siblings := by
    decide
  obtain ⟨hmarks, hroot, hsiblings⟩ := hknown c hc
  -- By the step that read the node; blanks, strays and statements leave no text.
  cases hreads with
  | blank => cases hnode
  | stray => cases hnode
  | statement =>
    cases hnode
    obtain ⟨inside, hinside, -⟩ := adaptAtRule_eq_some h
    cases hinside
  | @atBlock head t hread hopens =>
    cases hnode
    obtain ⟨inside, hinside, ⟨-, rfl⟩ | ⟨-, hlayer⟩⟩ := adaptAtRule_eq_some h
    · cases hinside
      have hframe := count_renderKeyframes_le hc (Text.trim head.params) (Block.read 0 t).1.inside
      have hparams := Text.count_trim_le c head.params
      have hblock := count_inside_le c (Block.read 0 t).1
      rw [count_atBlock hopens]
      omega
    · -- The at sign and the brace of a layer are lost with it.
      cases hinside
      have hinner := ih _ _ _ (Stylesheet.length_body_lt hmem rfl) hlayer
      have hblock := count_inside_le c (Block.read 0 t).1
      rw [count_atBlock hopens]
      omega
  | @rule selector t hselector =>
    simp only [Piece.node?] at hnode
    split at hnode <;> cases hnode
    -- Selector and lines each have no mark more than what they come from.
    obtain ⟨-, -, lines, hlines, hne, rfl⟩ := adaptRule_eq_some_iff.1 h
    have hadapted := Selector.count_adapt_le hroot hsiblings (Text.trim selector)
    have htrimmed := Text.count_trim_le c selector
    have hread := count_ruleLines_le hmarks hlines
    have hbody := count_ruleDeclarations_le hmarks (Text.trim selector)
      (Text.trim (Block.read 0 t).1.inside)
    have hinside := Text.count_trim_le c (Block.read 0 t).1.inside
    have hblock := count_inside_le c (Block.read 0 t).1
    rw [count_renderRule hc _ hne, count_rule]
    omega

end Node

/-! ## Whole stylesheets -/

/-- Adapting a stylesheet adds no opening brace and no at sign. -/
theorem count_adaptSheet_le {c : Char} (hc : c ∈ ['{', '@']) {options : Options} {depth : Int}
    {css out : Text} (h : (adaptSheet options depth css).result = .ok out) :
    out.count c ≤ css.count c := by
  have hbreak : c ≠ '\n' := by
    rintro rfl
    exact absurd hc (by decide)
  induction hn : css.length using Nat.strongRecOn generalizing css depth out with
  | ind n ih =>
    rcases split_cases css with rfl | ⟨p, rest, hreads, hsplit, hlt⟩
    · rw [adaptSheet_eq, Stylesheet.split_nil] at h
      cases h
      exact Nat.le_refl _
    · have htext := hreads.text_append
      have hsum : p.text.count c + rest.count c = css.count c := by
        rw [← htext, List.count_append]
      -- A piece without a node is lost, and a node gives no mark more than its piece had.
      cases hnode : p.node? with
      | none =>
        rw [hnode, Option.toList_none, List.nil_append] at hsplit
        rw [adaptSheet_congr hsplit] at h
        have := ih rest.length (hn ▸ hlt) h rfl
        omega
      | some node =>
        rw [hnode, Option.toList_some, List.singleton_append] at hsplit
        obtain ⟨fragment, b, hfragment, hb, rfl⟩ := (adaptSheet_cons_eq_ok_iff hsplit).1 h
        have hrest := ih rest.length (hn ▸ hlt) hb rfl
        cases fragment with
        | none =>
          rw [Option.elim_none]
          omega
        | some text =>
          have hmem : node ∈ split css := hsplit ▸ List.mem_cons_self
          have hfirst := count_node_le hc
            (fun shorter d o hshorter ho => ih shorter.length (hn ▸ hshorter) ho rfl)
            hmem hreads hnode hfragment
          rw [Option.elim_some, List.count_append, count_behind hbreak]
          omega

/-- An at-rule loses its at sign: its block and the text behind it hold at least one less. -/
theorem count_body_lt {s rest name params : Text} {body : Option Text} {p : Piece}
    (h : Piece.Reads s p rest) (hnode : p.node? = some (.atRule name params body)) :
    (body.elim 0 fun inside => inside.count '@') + rest.count '@' < s.count '@' := by
  have hone : ['@'].count '@' = 1 := by decide
  rw [← h.text_append, List.count_append]
  cases h with
  | blank => cases hnode
  | stray => cases hnode
  | @statement head =>
    cases hnode
    have hmem : '@' ∈ head.text := List.mem_append_left _ List.mem_cons_self
    have hpos := List.count_pos_iff.2 hmem
    rw [Piece.text, Option.elim_none]
    omega
  | @atBlock head s hread hopens =>
    cases hnode
    have hle := count_inside_le '@' (Block.read 0 s).1
    rw [count_atBlock hopens, hone, Option.elim_some]
    omega
  | rule =>
    simp only [Piece.node?] at hnode
    split at hnode <;> cases hnode

/-! ## In front of the first block -/

/-- The text in front of the first opening brace. -/
def beforeBlock (s : Text) : Text :=
  s.takeWhile (· ≠ '{')

theorem beforeBlock_append {s : Text} (h : '{' ∉ s) (t : Text) :
    beforeBlock (s ++ t) = s ++ beforeBlock t := by
  apply List.takeWhile_append_of_pos
  intro c hc
  have hne : c ≠ '{' := fun heq => h (heq ▸ hc)
  simpa using hne

theorem beforeBlock_of_block {s : Text} (h : '{' ∉ s) (t : Text) :
    beforeBlock (s ++ '{' :: t) = s := by
  rw [beforeBlock_append h]
  simp [beforeBlock]

private theorem count_beforeBlock_rule_le {selector body text : Text} {options : Options}
    (hselector : '{' ∉ selector)
    (h : (adaptRule options selector body).result = .ok (some text)) (t : Text) :
    (beforeBlock (text ++ t)).count '}' ≤ selector.count '}' := by
  obtain ⟨-, -, lines, -, hne, rfl⟩ := adaptRule_eq_some_iff.1 h
  have hopen : '{' ∉ Selector.adapt selector ++ [' '] := by
    simpa using Selector.notMem_adapt (by decide) (by decide) hselector
  have htext : renderRule (Selector.adapt selector) lines ++ t =
      (Selector.adapt selector ++ [' ']) ++ '{' :: (ruleInside lines ++ '}' :: t) := by
    rw [renderRule_eq hne]
    simp only [List.append_assoc, List.cons_append, List.nil_append]
  have hclose := Selector.count_adapt_le (c := '}') (by decide) (by decide) selector
  have hspace : [' '].count '}' = 0 := by decide
  rw [htext, beforeBlock_of_block hopen, List.count_append, hspace]
  exact hclose

private theorem count_beforeBlock_keyframes {params : Text} (h : '{' ∉ params) (body t : Text) :
    (beforeBlock (renderKeyframes params body ++ t)).count '}' = params.count '}' := by
  have hname : '{' ∉ '@' :: ("keyframes".toList ++ [' ']) ∧
      ('@' :: ("keyframes".toList ++ [' '])).count '}' = 0 ∧ [' '].count '}' = 0 := by
    decide
  obtain ⟨hopen, hstart, hspace⟩ := hname
  rw [renderKeyframes_eq]
  generalize "keyframes".toList = name at hopen hstart ⊢
  have htext : '@' :: (name ++ ' ' :: (params ++ ' ' :: '{' ::
      (('\n' :: Text.trim body ++ ['\n']) ++ ['}']))) ++ t =
      (('@' :: (name ++ [' '])) ++ (params ++ [' '])) ++
        '{' :: (('\n' :: Text.trim body ++ ['\n']) ++ ['}'] ++ t) := by
    simp only [List.append_assoc, List.cons_append, List.nil_append]
  have hfront : '{' ∉ ('@' :: (name ++ [' '])) ++ (params ++ [' ']) := by
    rw [List.mem_append, not_or]
    exact ⟨hopen, by simpa using h⟩
  rw [htext, beforeBlock_of_block hfront, List.count_append, List.count_append, hstart, hspace]
  omega

/-- In front of the first brace of a node's text stand no more closing braces than in front of the
brace that the node was read with, if that brace is kept. -/
private theorem count_beforeBlock_node_le {options : Options} {depth : Int} {s rest text : Text}
    {p : Piece} {node : Node} (hreads : Piece.Reads s p rest) (hnode : p.node? = some node)
    (h : (adaptNode options depth node).result = .ok (some text))
    (hkept : p.text.count '{' ≤ text.count '{') (t : Text) :
    (beforeBlock (text ++ t)).count '}' ≤ (beforeBlock s).count '}' := by
  cases hreads with
  | blank => cases hnode
  | stray => cases hnode
  | statement =>
    cases hnode
    obtain ⟨inside, hinside, -⟩ := adaptAtRule_eq_some h
    cases hinside
  | @atBlock head u hread hopens =>
    cases hnode
    obtain ⟨inside, hinside, ⟨-, rfl⟩ | ⟨-, hlayer⟩⟩ := adaptAtRule_eq_some h
    · -- Keyframes: in front of their brace stand only their parameters.
      have hparams : '{' ∉ Text.trim head.params :=
        fun hmem => hread.open_notMem_params ((Text.trim_subtext _).subset hmem)
      have htrimmed := Text.count_trim_le '}' head.params
      rw [count_beforeBlock_keyframes hparams, Stylesheet.AtHead.text_of_opensBlock hopens,
        List.append_assoc, List.singleton_append, beforeBlock_of_block hread.open_notMem_front,
        List.count_append]
      omega
    · -- A layer has lost its brace.
      cases hinside
      have hinner := count_adaptSheet_le (c := '{') (by decide) hlayer
      have hblock := count_inside_le '{' (Block.read 0 u).1
      have hone : ['{'].count '{' = 1 := by decide
      rw [count_atBlock hopens, hone] at hkept
      omega
  | @rule selector u hselector =>
    simp only [Piece.node?] at hnode
    split at hnode <;> cases hnode
    -- A rule: in front of its brace stands only its selector.
    have htrimmed : '{' ∉ Text.trim selector :=
      fun hmem => hselector ((Text.trim_subtext _).subset hmem)
    have hfirst := count_beforeBlock_rule_le htrimmed h t
    have hle := Text.count_trim_le '}' selector
    rw [beforeBlock_of_block hselector]
    omega

/-- As long as no block is lost, adapting adds no closing brace in front of the first block. -/
theorem count_beforeBlock_le {options : Options} {depth : Int} {css out : Text}
    (h : (adaptSheet options depth css).result = .ok out)
    (hkept : css.count '{' ≤ out.count '{') (hopen : '{' ∈ out) :
    (beforeBlock out).count '}' ≤ (beforeBlock css).count '}' := by
  induction hn : css.length using Nat.strongRecOn generalizing css out with
  | ind n ih =>
    rcases split_cases css with rfl | ⟨p, rest, hreads, hsplit, hlt⟩
    · rw [adaptSheet_eq, Stylesheet.split_nil] at h
      cases h
      cases hopen
    · have htext := hreads.text_append
      rw [← htext, List.count_append] at hkept
      -- A piece of which nothing is left opened no block, so it is passed over.
      have hpassed (hrest : (adaptSheet options depth rest).result = .ok out) :
          (beforeBlock out).count '}' ≤ (beforeBlock css).count '}' := by
        have hle := count_adaptSheet_le (c := '{') (by decide) hrest
        have hnone : '{' ∉ p.text := by
          rw [← List.count_eq_zero]
          omega
        have hbehind := ih rest.length (hn ▸ hlt) hrest (by omega) hopen rfl
        rw [← htext, beforeBlock_append hnone, List.count_append]
        omega
      cases hnode : p.node? with
      | none =>
        rw [hnode, Option.toList_none, List.nil_append] at hsplit
        rw [adaptSheet_congr hsplit] at h
        exact hpassed h
      | some node =>
        rw [hnode, Option.toList_some, List.singleton_append] at hsplit
        obtain ⟨fragment, b, hfragment, hb, rfl⟩ := (adaptSheet_cons_eq_ok_iff hsplit).1 h
        cases fragment with
        | none => exact hpassed hb
        | some text =>
          have hle := count_adaptSheet_le (c := '{') (by decide) hb
          rw [Option.elim_some, List.count_append, count_behind (by decide)] at hkept
          exact count_beforeBlock_node_le hreads hnode hfragment (by omega) (behind b)

end NativeStyle
