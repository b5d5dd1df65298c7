import NativeStyle.Proofs.Printing

/-!
# The slices of a stylesheet

Where the nodes of a stylesheet stand in it, whatever the text is. `Sliced` says it without the
reader: the text is cut into slices one behind the other, each of which is the text of a node or
something that is passed over (blanks, a rule without selector or body, and at the end a text in
which no block opens). A block ends in front of the first brace that closes more than the block
has opened; if there is none, it takes all that is left.

The slices of a text determine its nodes and every text has some, so `split` is the one function
that agrees with `Sliced`.

Main results:
- `sliced_split` and `Sliced.split_eq` (the nodes of a stylesheet are those of its slices),
- `Sliced.shaped` (what is known of every node),
- `Sliced.ends_of_open` (only the last node can hold an open block, and nothing stands behind it),
- `split_slices` (all of this for any text).
-/

namespace NativeStyle.Stylesheet

/-! ## Blocks in their places -/

/-- No beginning of the text closes more blocks than it opens. -/
def NeverBelow (s : Text) : Prop :=
  ∀ t, t <+: s → t.count '}' ≤ t.count '{'

theorem neverBelow_iff {s : Text} : NeverBelow s ↔ (depthBehind? 0 s).isSome = true := by
  constructor
  · intro h
    have htotal := h s (List.prefix_refl s)
    rw [Option.isSome_iff_exists]
    refine ⟨s.count '{' - s.count '}', depthBehind?_eq_some_iff.2 ⟨?_, by omega⟩⟩
    intro t ht
    have := h t ht
    omega
  · intro h t ht
    obtain ⟨d, hd⟩ := Option.isSome_iff_exists.1 h
    have := (depthBehind?_eq_some_iff.1 hd).1 t ht
    omega

theorem NeverBelow.trim {s : Text} (h : NeverBelow s) : NeverBelow (Text.trim s) := by
  rw [neverBelow_iff, depthBehind?_trim]
  exact neverBelow_iff.1 h

namespace Block

/-- The block ends where it has to, with this text behind it. -/
inductive Ends : Block → Text → Prop where
  /-- In front of the first closing brace at which nothing is open. -/
  | closed {inside rest : Text} : Balanced inside → Ends ⟨inside, true⟩ rest
  /-- With the text, if there is no such brace. -/
  | unclosed {inside : Text} : NeverBelow inside → Ends ⟨inside, false⟩ []

theorem ends_read (s : Text) : (read 0 s).1.Ends (read 0 s).2 := by
  have hblock : (read 0 s).1 = ⟨(read 0 s).1.inside, (read 0 s).1.closed⟩ := rfl
  cases h : (read 0 s).1.closed with
  | true =>
    rw [hblock, h]
    exact .closed (balanced_inside h)
  | false =>
    rw [hblock, h, rest_of_not_closed h]
    exact .unclosed (neverBelow_iff.2 (depthBehind?_inside_isSome s))

theorem Ends.read {block : Block} {rest : Text} (h : block.Ends rest) :
    Block.read 0 (block.text ++ rest) = (block, rest) := by
  cases h with
  | closed hinside =>
    rw [text, if_pos rfl, List.append_assoc]
    exact read_balanced hinside rest
  | @unclosed inside hinside =>
    obtain ⟨d, hd⟩ := Option.isSome_iff_exists.1 (neverBelow_iff.1 hinside)
    simpa [text] using read_of_depth hd

theorem Ends.neverBelow {block : Block} {rest : Text} (h : block.Ends rest) :
    NeverBelow block.inside := by
  cases h with
  | closed hinside => exact hinside.neverBelow
  | unclosed hinside => exact hinside

/-- Behind a block that does not close all it opens there is no text. -/
theorem Ends.rest_eq_nil {block : Block} {rest : Text} (h : block.Ends rest)
    (hopen : ¬Balanced block.inside) : rest = [] ∧ block.text = block.inside := by
  cases h with
  | closed hinside => exact absurd hinside hopen
  | unclosed => exact ⟨rfl, by simp [text]⟩

end Block

/-! ## Slices -/

/-- A head whose name goes on as long as it can, and whose parameters end with it. -/
structure AtHead.Whole (head : AtHead) : Prop where
  name : AtHead.IsName head.name
  params : ∀ c ∈ head.params.head?, Text.isNameChar c = false
  open_notMem : '{' ∉ head.params
  semicolon_notMem : ';' ∉ head.params

/-- The node of a slice, if it has one, the text of the slice, and the text behind it. -/
inductive Slice : Option Node → Text → Text → Prop where
  /-- Blanks are passed over. -/
  | blanks {t rest : Text} : (∀ c ∈ t, Text.isBlank c = true) → Slice none t rest
  /-- An at-rule up to its semicolon. -/
  | statement {head : AtHead} {rest : Text} : head.Whole → head.opensBlock = false →
      Slice (some (.atRule head.name (Text.trim head.params) none)) head.text rest
  /-- An at-rule with its block. -/
  | atBlock {head : AtHead} {block : Block} {rest : Text} : head.Whole → head.opensBlock = true →
      block.Ends rest →
      Slice (some (.atRule head.name (Text.trim head.params) (some block.inside)))
        (head.text ++ block.text) rest
  /-- A rule with its block. -/
  | rule {front : Text} {block : Block} {rest : Text} : Front front → block.Ends rest →
      Text.trim front ≠ [] → Text.trim block.inside ≠ [] →
      Slice (some (.rule (Text.trim front) (Text.trim block.inside)))
        (front ++ '{' :: block.text) rest
  /-- A rule without selector or body is passed over. -/
  | emptyRule {front : Text} {block : Block} {rest : Text} : Front front → block.Ends rest →
      Text.trim front = [] ∨ Text.trim block.inside = [] →
      Slice none (front ++ '{' :: block.text) rest
  /-- So is a text in which no block opens and which is no at-rule. -/
  | stray {t : Text} : Front t → Slice none t []
  /-- And one that starts like an at-rule, but has no end of its head. -/
  | headless {t : Text} : '{' ∉ t → ';' ∉ t → startsAtRule t = true → Slice none t []

/-- The nodes of the slices into which a stylesheet is cut, one behind the other. -/
inductive Sliced : List Node → Text → Prop where
  | nil : Sliced [] []
  | cons {node? : Option Node} {nodes : List Node} {slice rest : Text} :
      Slice node? slice rest → Sliced nodes rest → Sliced (node?.toList ++ nodes) (slice ++ rest)

/-! ## Every stylesheet has its slices -/

namespace AtHead

theorem whole_of_read? {s rest : Text} {head : AtHead} (h : read? s = some (head, rest)) :
    head.Whole := by
  have hread := read_of_read? h
  refine ⟨isName_of_read? h, ?_, hread.open_notMem_params, hread.semicolon_notMem_params⟩
  simp only [read?, Option.bind_eq_some_iff, Prod.exists] at h
  obtain ⟨name, tail, hname, h⟩ := h
  -- The parameters start where the name has stopped.
  cases tail with
  | nil => cases h
  | cons d tail =>
    have hd := isNameChar_head_of_readName? hname
    intro c hc
    split at h <;> cases h
    rw [List.takeWhile_cons] at hc
    split at hc
    · cases hc; exact hd
    · cases hc

/-- A whole head is read, whatever stands behind it. -/
theorem Whole.read? {head : AtHead} (h : head.Whole) (rest : Text) :
    ∃ s, head.text ++ rest = '@' :: s ∧ AtHead.read? s = some (head, rest) := by
  obtain ⟨name, params, opensBlock⟩ := head
  have hparams := isParam_of_notMem h.open_notMem h.semicolon_notMem
  cases opensBlock with
  | true =>
    have hread := read?_append_stop h.name.readName? h.params hparams
      (by decide : isParam '{' = false) rest
    exact ⟨_, by simp [text], hread⟩
  | false =>
    have hread := read?_append_stop h.name.readName? h.params hparams
      (by decide : isParam ';' = false) rest
    exact ⟨_, by simp [text], hread⟩

end AtHead

private theorem slice_of_readAtRule? {s rest : Text} {p : Piece}
    (h : Piece.readAtRule? s = some (p, rest)) : Slice p.node? p.text rest := by
  unfold Piece.readAtRule? at h
  split at h
  · simp only [Option.map_eq_some_iff, Prod.exists] at h
    obtain ⟨head, behind, hhead, h⟩ := h
    have hwhole := AtHead.whole_of_read? hhead
    split at h
    · next hopens =>
      cases h
      exact .atBlock hwhole hopens (Block.ends_read behind)
    · next hopens =>
      cases h
      exact .statement hwhole (Bool.eq_false_iff.2 hopens)
  · cases h

/-- Without a head, a text that starts like an at-rule has neither a brace nor a semicolon. -/
private theorem semicolon_notMem_of_headless {s : Text} (h : AtHead.read? s = none)
    (hname : (AtHead.readName? s).isSome = true) : ';' ∉ s := by
  obtain ⟨⟨name, tail⟩, hread⟩ := Option.isSome_iff_exists.1 hname
  have hnil : tail.dropWhile AtHead.isParam = [] := by
    cases hdrop : tail.dropWhile AtHead.isParam with
    | nil => rfl
    | cons d behind => simp [AtHead.read?, hread, hdrop] at h
  have hparams := List.dropWhile_eq_nil_iff.1 hnil
  rw [← AtHead.readName?_eq_some hread, List.mem_append]
  rintro (hmem | hmem)
  · exact absurd (AtHead.isNameChar_of_readName? hread _ hmem) (by decide)
  · exact absurd (hparams _ hmem) (by decide)

private theorem slice_of_readRule {c : Char} {s : Text} (hblank : Text.isBlank c = false)
    (hat : Piece.readAtRule? (c :: s) = none) :
    Slice (Piece.readRule (c :: s)).1.node? (Piece.readRule (c :: s)).1.text
      (Piece.readRule (c :: s)).2 := by
  have hhead : ∀ d ∈ (c :: s).head?, Text.isBlank d = false := by
    rintro d ⟨⟩
    exact hblank
  unfold Piece.readRule
  split
  · next front tail hcut =>
    obtain ⟨hs, hopen⟩ := Text.cut?_eq_some_iff.1 hcut
    have hfront : Front front := by
      cases front with
      | nil => exact ⟨by simp, by simp, rfl⟩
      | cons d front =>
        rw [List.cons_append, List.cons.injEq] at hs
        obtain ⟨rfl, rfl⟩ := hs
        exact front_of_readAtRule? hblank hat hopen
    by_cases hempty : Text.trim front = [] ∨ Text.trim (Block.read 0 tail).1.inside = []
    · simp only [Piece.node?, if_pos hempty]
      exact .emptyRule hfront (Block.ends_read tail) hempty
    · simp only [Piece.node?, if_neg hempty]
      obtain ⟨hselector, hbody⟩ := not_or.1 hempty
      exact .rule hfront (Block.ends_read tail) hselector hbody
  · next hcut =>
    have hopen := Text.cut?_eq_none_iff.1 hcut
    cases hstart : startsAtRule (c :: s) with
    | false => exact .stray ⟨hhead, hopen, hstart⟩
    | true =>
      refine .headless hopen ?_ hstart
      -- Only an at sign starts an at-rule.
      by_cases hc : c = '@'
      · subst hc
        have hread : AtHead.read? s = none := by
          simpa [Piece.readAtRule?] using hat
        have hsemi := semicolon_notMem_of_headless hread hstart
        simp [Piece.text, hsemi]
      · simp [startsAtRule, hc] at hstart

/-- The piece at the front of a text is a slice of it. -/
theorem slice_read (c : Char) (s : Text) :
    Slice (Piece.read c s).1.node? (Piece.read c s).1.text (Piece.read c s).2 := by
  unfold Piece.read
  split
  · next hc =>
    apply Slice.blanks
    intro d hd
    rcases List.mem_cons.1 hd with rfl | hd
    · exact hc
    · exact List.all_eq_true.1 List.all_takeWhile d hd
  · next hc =>
    cases hat : Piece.readAtRule? (c :: s) with
    | some r => exact slice_of_readAtRule? hat
    | none => exact slice_of_readRule (Bool.eq_false_iff.2 hc) hat

theorem sliced_split (css : Text) : Sliced (split css) css := by
  induction hn : css.length using Nat.strongRecOn generalizing css with
  | ind n ih =>
    cases css with
    | nil =>
      rw [split_nil]
      exact .nil
    | cons c s =>
      have hrest := ih _ (hn ▸ Piece.length_read_lt c s) (Piece.read c s).2 rfl
      rw [split_cons, ← Piece.text_read c s]
      exact .cons (slice_read c s) hrest

/-! ## The slices determine the nodes -/

/-- A text without a block is no node if it has no head of an at-rule. -/
private theorem split_stray {c : Char} {s : Text} (hblank : Text.isBlank c = false)
    (hopen : '{' ∉ c :: s) (hat : Piece.readAtRule? (c :: s) = none) : split (c :: s) = [] := by
  have hcut : Text.cut? '{' (c :: s) = none := Text.cut?_eq_none_iff.2 hopen
  rw [split_cons, Piece.read, if_neg (Bool.eq_false_iff.1 hblank), hat, Option.getD_none,
    Piece.readRule, hcut]
  simp [Piece.node?]

/-- A slice at the front of a stylesheet gives its node. -/
theorem Slice.split_append {node? : Option Node} {slice rest : Text} (h : Slice node? slice rest) :
    split (slice ++ rest) = node?.toList ++ split rest := by
  cases h with
  | blanks hblank => exact split_blanks_append hblank rest
  | statement hhead hopens =>
    obtain ⟨s, hs, hread⟩ := hhead.read? rest
    rw [hs, split_cons, Piece.read_of_read? hread, hopens]
    rfl
  | @atBlock head block rest hhead hopens hends =>
    obtain ⟨s, hs, hread⟩ := hhead.read? (block.text ++ rest)
    rw [List.append_assoc, hs, split_cons, Piece.read_of_read? hread, if_pos hopens, hends.read]
    rfl
  | @rule front block rest hfront hends hselector hbody =>
    rw [List.append_assoc, List.cons_append, split_front hfront, hends.read]
    simp [Piece.node?, hselector, hbody]
  | @emptyRule front block rest hfront hends hempty =>
    rw [List.append_assoc, List.cons_append, split_front hfront, hends.read]
    simp only [Piece.node?, if_pos hempty]
  | stray hfront =>
    rw [List.append_nil, split_nil]
    cases slice with
    | nil => exact split_nil
    | cons c s =>
      refine split_stray (hfront.head c rfl) hfront.open_notMem ?_
      by_cases hc : c = '@'
      · subst hc
        have hname : AtHead.readName? s = none := by
          simpa [startsAtRule] using hfront.noAtRule
        simp [Piece.readAtRule?, AtHead.read?, hname]
      · simp [Piece.readAtRule?, hc]
  | headless hopen hsemi hstart =>
    rw [List.append_nil, split_nil]
    unfold startsAtRule at hstart
    split at hstart
    · next s =>
      refine split_stray (by decide) hopen ?_
      obtain ⟨⟨name, tail⟩, hname⟩ := Option.isSome_iff_exists.1 hstart
      -- The parameters go on to the end of the text.
      have hnil : tail.dropWhile AtHead.isParam = [] := by
        rw [List.dropWhile_eq_nil_iff]
        have hwhole := AtHead.readName?_eq_some hname
        apply isParam_of_notMem
        · exact fun hmem => hopen (by rw [← hwhole]; simp [hmem])
        · exact fun hmem => hsemi (by rw [← hwhole]; simp [hmem])
      simp [Piece.readAtRule?, AtHead.read?, hname, hnil]
    · cases hstart

theorem Sliced.split_eq {nodes : List Node} {css : Text} (h : Sliced nodes css) :
    split css = nodes := by
  induction h with
  | nil => exact split_nil
  | cons hslice _ ih => rw [hslice.split_append, ih]

/-! ## What is known of a node -/

/-- A node as it can be read from any stylesheet: as a well-formed one, but its block need not
close all it opens. -/
inductive Node.Shaped : Node → Prop where
  | rule {selector body : Text} : IsSelector selector → Text.trim body = body → body ≠ [] →
      NeverBelow body → Shaped (.rule selector body)
  | atRule {name params : Text} {body : Option Text} : AtHead.IsName name → IsParams params →
      (∀ inside ∈ body, NeverBelow inside) → Shaped (.atRule name params body)

/-- The body of the node, if this is the raw text of its block: that of a rule is trimmed. -/
def Node.bodyOf : Node → Text → Text
  | .rule _ _, raw => Text.trim raw
  | .atRule .., raw => raw

theorem Slice.shaped {node : Node} {slice rest : Text} (h : Slice (some node) slice rest) :
    node.Shaped := by
  cases h with
  | statement hhead =>
    exact .atRule hhead.name (isParams_trim hhead.open_notMem hhead.semicolon_notMem) (by simp)
  | atBlock hhead _ hends =>
    refine .atRule hhead.name (isParams_trim hhead.open_notMem hhead.semicolon_notMem) ?_
    rintro inside ⟨⟩
    exact hends.neverBelow
  | rule hfront hends hselector hbody =>
    exact .rule (hfront.isSelector hselector) (Text.trim_trim _) hbody hends.neverBelow.trim

/-- A node that holds an open block has all the rest of the text in it. -/
theorem Slice.ends_of_open {node : Node} {slice rest : Text} (h : Slice (some node) slice rest)
    (hopen : ¬node.HoldsBalanced) :
    rest = [] ∧ ∃ front raw, slice = front ++ '{' :: raw ∧ node.body? = some (node.bodyOf raw) := by
  cases h with
  | statement =>
    refine absurd ?_ hopen
    rintro body ⟨⟩
  | @atBlock head block rest hhead hopens hends =>
    have hblock : ¬Balanced block.inside := by
      intro hbalanced
      apply hopen
      rintro body ⟨⟩
      exact hbalanced
    obtain ⟨hrest, htext⟩ := hends.rest_eq_nil hblock
    refine ⟨hrest, '@' :: head.name ++ head.params, block.inside, ?_, rfl⟩
    rw [htext, AtHead.text_of_opensBlock hopens, List.append_assoc]
    rfl
  | @rule front block rest _ hends =>
    have hblock : ¬Balanced block.inside := by
      intro hbalanced
      apply hopen
      rintro body ⟨⟩
      exact hbalanced.trim
    obtain ⟨hrest, htext⟩ := hends.rest_eq_nil hblock
    exact ⟨hrest, front, block.inside, by rw [htext], rfl⟩

theorem Sliced.shaped {nodes : List Node} {css : Text} (h : Sliced nodes css) :
    ∀ node ∈ nodes, node.Shaped := by
  induction h with
  | nil => simp
  | @cons node? nodes slice rest hslice _ ih =>
    intro node hmem
    rcases List.mem_append.1 hmem with hmem | hmem
    · rw [Option.mem_toList] at hmem
      cases hmem
      exact hslice.shaped
    · exact ih node hmem

/-- Behind a node that holds an open block there is neither a node nor any text. -/
theorem Sliced.ends_of_open {nodes : List Node} {css : Text} (h : Sliced nodes css) :
    ∀ before node behind, nodes = before ++ node :: behind → ¬node.HoldsBalanced →
      behind = [] ∧
        ∃ front raw, css = front ++ '{' :: raw ∧ node.body? = some (node.bodyOf raw) := by
  induction h with
  | nil => simp
  | @cons node? nodes slice rest hslice hrest ih =>
    intro before node behind hnodes hopen
    -- The node of this slice, or one of those behind it.
    have hlater : ∀ before', nodes = before' ++ node :: behind → behind = [] ∧
        ∃ front raw, slice ++ rest = front ++ '{' :: raw ∧
          node.body? = some (node.bodyOf raw) := by
      intro before' hbefore
      obtain ⟨hbehind, front, raw, rfl, hbody⟩ := ih before' node behind hbefore hopen
      exact ⟨hbehind, slice ++ front, raw, by rw [List.append_assoc], hbody⟩
    cases node? with
    | none => exact hlater before hnodes
    | some first =>
      cases before with
      | cons other before =>
        exact hlater before (List.cons.inj hnodes).2
      | nil =>
        obtain ⟨rfl, rfl⟩ := List.cons.inj hnodes
        obtain ⟨rfl, front, raw, hfront, hbody⟩ := hslice.ends_of_open hopen
        have hnodes : split [] = nodes := hrest.split_eq
        rw [split_nil] at hnodes
        exact ⟨hnodes.symm, front, raw, by rw [List.append_nil, hfront], hbody⟩

/-! ## Arbitrary texts -/

/-- **Slices.** The nodes of any text are those of the disjoint slices into which it is cut, in
their order. Each of them has the shape of a node, and only the last one can hold a block that does
not close what it opens; the raw text of that block runs to the end. -/
theorem split_slices (css : Text) :
    (∀ nodes, Sliced nodes css ↔ nodes = split css) ∧
      (∀ node ∈ split css, node.Shaped) ∧
        ∀ before node behind, split css = before ++ node :: behind → ¬node.HoldsBalanced →
          behind = [] ∧
            ∃ front raw, css = front ++ '{' :: raw ∧ node.body? = some (node.bodyOf raw) := by
  have hsliced := sliced_split css
  refine ⟨?_, hsliced.shaped, hsliced.ends_of_open⟩
  intro nodes
  constructor
  · exact fun h => h.split_eq.symm
  · rintro rfl
    exact hsliced

/-- A brace too many is a part of the selector, a rule without body is passed over, an at sign
without a name starts a selector, and the last block is never closed. -/
example : split "\x7d.a\x7b \x7d @ .b\x7bc\x7bd ".toList =
    [.rule "@ .b".toList "c\x7bd".toList] := by
  decide +kernel

end NativeStyle.Stylesheet
