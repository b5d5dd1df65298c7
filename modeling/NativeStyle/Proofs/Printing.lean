import NativeStyle.Proofs.Fronts

/-!
# Printed nodes

The other direction of `split`. A node is *well-formed* when each of its parts can stand where the
printer puts it: names and selectors in front of a block, parameters between a name and its end,
balanced bodies between braces. Well-formed nodes that are printed one after the other, with
blanks between them at will, are split into the same nodes again.

The nodes of a stylesheet are well-formed themselves as soon as all its blocks are closed, so
splitting, printing and splitting once more is splitting.

Main results:
- `split_of_printed` (printed nodes are read back),
- `wellFormed_of_mem_split` (what is split off is well-formed),
- `split_print_split` (both together).
-/

namespace NativeStyle.Stylesheet

/-! ## Names -/

namespace AtHead

/-- Whether a name begins at the front of the text: perhaps a hyphen, then a word character. -/
def startsName : Text → Bool
  | '-' :: c :: _ => Text.isWord c
  | c :: _ => Text.isWord c
  | [] => false

/-- A whole name. -/
structure IsName (name : Text) : Prop where
  starts : startsName name = true
  nameChars : ∀ c ∈ name, Text.isNameChar c = true

theorem isSome_readName? (s : Text) : (readName? s).isSome = startsName s := by
  unfold readName? startsName
  split
  · split <;> simp_all
  · split <;> simp_all
  · rfl

/-- What has begun with a name does so whatever follows. -/
theorem startsName_append {s : Text} (h : startsName s = true) (t : Text) :
    startsName (s ++ t) = true := by
  have hhyphen : ¬Text.isWord '-' = true := by decide
  unfold startsName at h
  split at h
  · exact h
  · next c u hc =>
    -- The first character is a word character, and so no hyphen.
    have hne : c ≠ '-' := by rintro rfl; exact hhyphen h
    simpa [startsName, hne] using h
  · cases h

theorem isNameChar_head_of_readName? {s name rest : Text} {c : Char}
    (h : readName? s = some (name, c :: rest)) : Text.isNameChar c = false := by
  have hstop {t : Text} (ht : t.dropWhile Text.isNameChar = c :: rest) :
      Text.isNameChar c = false := by
    simpa [ht] using List.head?_dropWhile_not Text.isNameChar t
  unfold readName? at h
  split at h
  · split at h
    · exact hstop (congrArg Prod.snd (Option.some.inj h))
    · cases h
  · split at h
    · exact hstop (congrArg Prod.snd (Option.some.inj h))
    · cases h
  · cases h

/-- A whole name is read to its end. -/
theorem IsName.readName? {name : Text} (h : IsName name) : readName? name = some (name, []) := by
  obtain ⟨⟨found, rest⟩, hread⟩ :=
    Option.isSome_iff_exists.1 ((isSome_readName? name).trans h.starts)
  have hname := readName?_eq_some hread
  -- What is left behind a name starts with a character that no name goes on with.
  have hrest : rest = [] := by
    cases rest with
    | nil => rfl
    | cons c rest =>
      have hc := isNameChar_head_of_readName? hread
      have hmem : c ∈ name := by rw [← hname]; simp
      rw [h.nameChars c hmem] at hc
      cases hc
  subst hrest
  rw [List.append_nil] at hname
  rw [hread, hname]

theorem isName_of_readName? {s name rest : Text} (h : readName? s = some (name, rest)) :
    IsName name := by
  refine ⟨?_, isNameChar_of_readName? h⟩
  unfold readName? at h
  split at h
  · split at h <;> cases h
    next hword => exact hword
  · next c u hc =>
    split at h <;> cases h
    next hword =>
      have hne : c ≠ '-' := by rintro rfl; exact absurd hword (by decide)
      simpa [startsName, hne] using hword
  · cases h

theorem isName_of_read? {s rest : Text} {head : AtHead} (h : read? s = some (head, rest)) :
    IsName head.name := by
  simp only [read?, Option.bind_eq_some_iff, Prod.exists] at h
  obtain ⟨name, tail, hname, h⟩ := h
  split at h <;> cases h
  exact isName_of_readName? hname

end AtHead

/-! ## Well-formed nodes -/

/-- What can stand in front of a block and is read as a selector. -/
structure IsSelector (selector : Text) : Prop where
  trimmed : Text.trim selector = selector
  ne_nil : selector ≠ []
  open_notMem : '{' ∉ selector
  noAtRule : selector.head? = some '@' → AtHead.startsName selector.tail = false

/-- What can stand between the braces of a rule. -/
structure IsRuleBody (body : Text) : Prop where
  trimmed : Text.trim body = body
  ne_nil : body ≠ []
  balanced : Balanced body

/-- What can stand between the name of an at-rule and its end. -/
structure IsParams (params : Text) : Prop where
  trimmed : Text.trim params = params
  open_notMem : '{' ∉ params
  semicolon_notMem : ';' ∉ params

namespace Node

/-- A node whose parts can all be written down. -/
inductive WellFormed : Node → Prop where
  | rule {selector body : Text} :
      IsSelector selector → IsRuleBody body → WellFormed (.rule selector body)
  | atRule {name params : Text} {body : Option Text} :
      AtHead.IsName name → IsParams params → (∀ inside ∈ body, Balanced inside) →
      WellFormed (.atRule name params body)

/-- The node as it is written in a stylesheet. -/
def text : Node → Text
  | .rule selector body => selector ++ '{' :: (body ++ ['}'])
  | .atRule name params none => '@' :: (name ++ ' ' :: (params ++ [';']))
  | .atRule name params (some body) =>
    '@' :: (name ++ ' ' :: (params ++ '{' :: (body ++ ['}'])))

end Node

/-- The nodes written one after the other, with any blanks around them. -/
inductive Printed : List Node → Text → Prop where
  | nil {gap : Text} : (∀ c ∈ gap, Text.isBlank c = true) → Printed [] gap
  | cons {gap s : Text} {node : Node} {nodes : List Node} :
      (∀ c ∈ gap, Text.isBlank c = true) → Printed nodes s →
      Printed (node :: nodes) (gap ++ (node.text ++ s))

/-! ## Reading printed nodes -/

private theorem startsAtRule_eq_false {selector : Text} (h : IsSelector selector) :
    startsAtRule selector = false := by
  unfold startsAtRule
  split
  · next tail => rw [AtHead.isSome_readName?]; exact h.noAtRule rfl
  · rfl

/-- A well-formed node at the front of a stylesheet is the first of its nodes. -/
theorem split_text_append {node : Node} (h : node.WellFormed) (s : Text) :
    split (node.text ++ s) = node :: split s := by
  cases h with
  | @rule selector body hselector hbody =>
    have hhead := (Text.trim_eq_self_iff.1 hselector.trimmed).1
    have hne : Text.trim selector ≠ [] := by
      rw [hselector.trimmed]
      exact hselector.ne_nil
    have hfront : Front selector :=
      ⟨hhead, hselector.open_notMem, startsAtRule_eq_false hselector⟩
    have hrule := split_selector hfront hne (body ++ '}' :: s)
    simpa [Node.text, Block.read_balanced hbody.balanced, hselector.trimmed, hbody.trimmed,
      hbody.ne_nil] using hrule
  | @atRule name params body hname hparams hbody =>
    cases body with
    | none =>
      have hrule := split_statement hname.readName? hparams.open_notMem
        hparams.semicolon_notMem s
      simpa [Node.text, hparams.trimmed] using hrule
    | some body =>
      have hrule := split_atRule hname.readName? hparams.open_notMem
        hparams.semicolon_notMem (body ++ '}' :: s)
      simpa [Node.text, hparams.trimmed, Block.read_balanced (hbody body rfl)] using hrule

/-- Printed nodes are read back, whatever blanks stand around them. -/
theorem split_of_printed {nodes : List Node} {s : Text} (hwell : ∀ node ∈ nodes, node.WellFormed)
    (h : Printed nodes s) : split s = nodes := by
  induction h with
  | @nil gap hgap =>
    have hnone := split_blanks_append hgap []
    rwa [List.append_nil, split_nil] at hnone
  | @cons gap s node nodes hgap _ ih =>
    rw [List.forall_mem_cons] at hwell
    rw [split_blanks_append hgap, split_text_append hwell.1, ih hwell.2]

/-! ## Nodes that are split off -/

/-- Whether the block of the piece is closed, if it has one. -/
def Piece.blockClosed : Piece → Bool
  | .atBlock _ block | .rule _ block => block.closed
  | .blank _ | .statement _ | .stray _ => true

/-- Whether every block that opens between the constructs of a stylesheet is closed. -/
def blocksClosed (css : Text) : Bool :=
  (pieces css).all Piece.blockClosed

theorem isParams_trim {params : Text} (hopen : '{' ∉ params) (hsemi : ';' ∉ params) :
    IsParams (Text.trim params) where
  trimmed := Text.trim_trim _
  open_notMem hmem := hopen ((Text.trim_subtext _).subset hmem)
  semicolon_notMem hmem := hsemi ((Text.trim_subtext _).subset hmem)

private theorem wellFormed_of_readAtRule? {s rest : Text} {p : Piece} {node : Node}
    (h : Piece.readAtRule? s = some (p, rest)) (hclosed : p.blockClosed = true)
    (hnode : p.node? = some node) : node.WellFormed := by
  unfold Piece.readAtRule? at h
  split at h
  · next tail =>
    simp only [Option.map_eq_some_iff, Prod.exists] at h
    obtain ⟨head, behind, hhead, h⟩ := h
    have hread := AtHead.read_of_read? hhead
    have hparams := isParams_trim hread.open_notMem_params hread.semicolon_notMem_params
    have hname := AtHead.isName_of_read? hhead
    split at h <;> cases h <;> cases hnode
    · refine .atRule hname hparams ?_
      rintro inside ⟨⟩
      exact Block.balanced_inside hclosed
    · refine .atRule hname hparams ?_
      rintro inside ⟨⟩
  · cases h

/-- What is read as the selector of a rule could stand in front of its brace. -/
theorem front_of_readAtRule? {c : Char} {front s : Text} (hblank : Text.isBlank c = false)
    (hat : Piece.readAtRule? (c :: (front ++ '{' :: s)) = none) (hopen : '{' ∉ c :: front) :
    Front (c :: front) where
  head := by
    rintro d ⟨⟩
    exact hblank
  open_notMem := hopen
  noAtRule := by
    by_cases hc : c = '@'
    · subst hc
      have hread : AtHead.read? (front ++ '{' :: s) = none := by
        simpa [Piece.readAtRule?] using hat
      -- The brace ends the name at the latest, so the name alone was missing.
      have hname := AtHead.readName?_eq_none_of_read? hread (by simp)
      rw [AtHead.readName?_append_stop (by decide), Option.map_eq_none_iff] at hname
      rw [startsAtRule, hname]
      rfl
    · simp [startsAtRule, hc]

theorem Front.isSelector {front : Text} (h : Front front) (hne : Text.trim front ≠ []) :
    IsSelector (Text.trim front) where
  trimmed := Text.trim_trim _
  ne_nil := hne
  open_notMem hmem := h.open_notMem ((Text.trim_subtext _).subset hmem)
  noAtRule hhead := by
    obtain ⟨before, behind, hwhole, hbefore, -⟩ := Text.exists_blanks_trim front
    -- Nothing is cut off in front, since the first character is no blank.
    have hnil : before = [] := by
      cases before with
      | nil => rfl
      | cons d before =>
        have hblank := h.head d (by rw [hwhole]; rfl)
        exact absurd (hbefore d List.mem_cons_self) (by simp [hblank])
    obtain ⟨d, selector, hselector⟩ := List.exists_cons_of_ne_nil hne
    rw [hselector, List.head?_cons, Option.some.injEq] at hhead
    subst hhead
    have hat := h.noAtRule
    rw [hwhole, hnil, hselector, List.nil_append, List.cons_append, startsAtRule,
      AtHead.isSome_readName?] at hat
    rw [hselector, List.tail_cons]
    -- A name at the front of the selector would have been read as one.
    cases hname : AtHead.startsName selector with
    | false => rfl
    | true =>
      rw [AtHead.startsName_append hname] at hat
      cases hat

private theorem wellFormed_of_readRule {c : Char} {s : Text} {node : Node}
    (hblank : Text.isBlank c = false) (hat : Piece.readAtRule? (c :: s) = none)
    (hclosed : (Piece.readRule (c :: s)).1.blockClosed = true)
    (hnode : (Piece.readRule (c :: s)).1.node? = some node) : node.WellFormed := by
  unfold Piece.readRule at hclosed hnode
  split at hnode
  · next selector tail hcut =>
    rw [hcut] at hclosed
    obtain ⟨hs, hopen⟩ := Text.cut?_eq_some_iff.1 hcut
    simp only [Piece.node?] at hnode
    split at hnode
    · cases hnode
    · next hne =>
      obtain ⟨hselector, hbody⟩ := not_or.1 hne
      cases hnode
      cases selector with
      | nil => exact absurd rfl hselector
      | cons d front =>
        rw [List.cons_append, List.cons.injEq] at hs
        obtain ⟨rfl, rfl⟩ := hs
        refine .rule ((front_of_readAtRule? hblank hat hopen).isSelector hselector) ?_
        exact ⟨Text.trim_trim _, hbody, (Block.balanced_inside hclosed).trim⟩
  · cases hnode

private theorem wellFormed_of_read {c : Char} {s : Text} {node : Node}
    (hclosed : (Piece.read c s).1.blockClosed = true)
    (hnode : (Piece.read c s).1.node? = some node) : node.WellFormed := by
  unfold Piece.read at hclosed hnode
  split at hnode
  · cases hnode
  · next hblank =>
    rw [if_neg hblank] at hclosed
    cases hat : Piece.readAtRule? (c :: s) with
    | some r =>
      rw [hat] at hclosed hnode
      exact wellFormed_of_readAtRule? hat hclosed hnode
    | none =>
      rw [hat] at hclosed hnode
      exact wellFormed_of_readRule (Bool.eq_false_iff.2 hblank) hat hclosed hnode

/-- The nodes of a stylesheet whose blocks are all closed are well-formed. -/
theorem wellFormed_of_mem_split {css : Text} (h : blocksClosed css = true) :
    ∀ node ∈ split css, node.WellFormed := by
  unfold blocksClosed at h
  fun_induction pieces css with
  | case1 => simp
  | case2 c s first ih =>
    rw [List.all_cons, Bool.and_eq_true] at h
    rw [split_cons]
    intro node hmem
    rcases List.mem_append.1 hmem with hmem | hmem
    · exact wellFormed_of_read h.1 (Option.mem_toList.1 hmem)
    · exact ih h.2 node hmem

/-! ## Round trips -/

/-- The nodes written one directly after the other. -/
def print (nodes : List Node) : Text :=
  nodes.flatMap Node.text

theorem printed_print (nodes : List Node) : Printed nodes (print nodes) := by
  have hgap : ∀ c ∈ ([] : Text), Text.isBlank c = true := by simp
  induction nodes with
  | nil => exact .nil hgap
  | cons node nodes ih => exact .cons hgap ih

/-- **Round trip.** Well-formed nodes that are printed with blanks between them at will are split
into the same nodes; and the nodes of every stylesheet whose blocks are all closed are well-formed,
so splitting, printing and splitting again is splitting. -/
theorem split_print_split :
    (∀ (nodes : List Node) (s : Text), (∀ node ∈ nodes, node.WellFormed) → Printed nodes s →
      split s = nodes) ∧
    ∀ css : Text, blocksClosed css = true →
      (∀ node ∈ split css, node.WellFormed) ∧ split (print (split css)) = split css ∧
        ∀ s : Text, Printed (split css) s → split s = split css := by
  refine ⟨fun nodes s hwell h => split_of_printed hwell h, ?_⟩
  intro css hcss
  have hwell := wellFormed_of_mem_split hcss
  exact ⟨hwell, split_of_printed hwell (printed_print _), fun s h => split_of_printed hwell h⟩

/-- A layer with a vendor's name and a block inside, a selector with an at sign in it, and blanks
beyond ASCII between them; then a stylesheet that ends in stray text. -/
theorem split_print_split_vendor :
    split " @-x-y \x7b.a\x7bb\x7d\x7d\u3000@ .c\x7bd\x7d".toList =
        [.atRule "-x-y".toList [] (some ".a\x7bb\x7d".toList), .rule "@ .c".toList "d".toList] ∧
      split (print (split "@import  u ;.a \x7b b \x7d .c".toList)) =
        split "@import  u ;.a \x7b b \x7d .c".toList := by
  have hlayer : (Node.atRule "-x-y".toList [] (some ".a\x7bb\x7d".toList)).WellFormed := by
    refine .atRule ⟨by decide, by decide⟩ ⟨by decide, by decide, by decide⟩ ?_
    rintro inside ⟨⟩
    decide
  have hrule : (Node.rule "@ .c".toList "d".toList).WellFormed :=
    .rule ⟨by decide, by decide, by decide, by decide⟩ ⟨by decide, by decide, by decide⟩
  refine ⟨split_print_split.1 _ _ ?_ ?_, (split_print_split.2 _ (by decide +kernel)).2.1⟩
  · rw [List.forall_mem_cons, List.forall_mem_singleton]
    exact ⟨hlayer, hrule⟩
  · -- The blanks in front of either node, and none behind the last.
    have hend : Printed [] [] := .nil (by simp)
    have hsecond : Printed [.rule "@ .c".toList "d".toList]
        ("\u3000".toList ++ (Node.text (.rule "@ .c".toList "d".toList) ++ [])) :=
      .cons (by decide) hend
    exact .cons (by decide : ∀ c ∈ " ".toList, Text.isBlank c = true) hsecond

end NativeStyle.Stylesheet
