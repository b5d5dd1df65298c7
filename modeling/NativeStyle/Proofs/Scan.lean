import NativeStyle.Proofs.Braces
import NativeStyle.Proofs.Concatenation
import NativeStyle.Proofs.Trimming

/-!
# One step of the scan

`Piece.Reads` tells of every kind of piece what the text must look like for it to be read, with
all that the reader has checked on the way. A stylesheet is a sequence of such steps
(`split_cases`), so facts about nodes are proved by looking at one step.

Main results:
- `Piece.reads_read` (every piece is read by one of the steps),
- `wellRead_of_mem_split` (what is known of every node of a stylesheet),
- `Balanced.of_reads` (a step leaves a balanced text balanced, and its block too),
- `split_pairwise_balanced` (only the last node of a stylesheet can hold an open block).
-/

namespace NativeStyle.Stylesheet

/-! ## Steps -/

/-- A head as it can be read: no brace or semicolon ends it too early. -/
structure AtHead.Read (head : AtHead) : Prop where
  open_notMem_name : '{' ∉ head.name
  open_notMem_params : '{' ∉ head.params
  semicolon_notMem_params : ';' ∉ head.params

namespace AtHead

variable {head : AtHead}

theorem Read.open_notMem_front (h : head.Read) : '{' ∉ '@' :: head.name ++ head.params := by
  simp [h.open_notMem_name, h.open_notMem_params]

/-- The brace of a block stands behind the parameters. -/
theorem text_of_opensBlock (h : head.opensBlock = true) :
    head.text = ('@' :: head.name ++ head.params) ++ ['{'] := by
  simp [text, h]

theorem Read.open_notMem_text (h : head.Read) (hopens : head.opensBlock = false) :
    '{' ∉ head.text := by
  simp [text, hopens, h.open_notMem_name, h.open_notMem_params]

end AtHead

/-- The text, the piece at its front and the text behind that. -/
inductive Piece.Reads : Text → Piece → Text → Prop where
  /-- Blanks. -/
  | blank {t rest : Text} : (∀ c ∈ t, Text.isBlank c = true) → Reads (t ++ rest) (.blank t) rest
  /-- An at-rule up to its semicolon. -/
  | statement {head : AtHead} {rest : Text} :
      head.Read → head.opensBlock = false → Reads (head.text ++ rest) (.statement head) rest
  /-- An at-rule with its block. -/
  | atBlock {head : AtHead} {s : Text} :
      head.Read → head.opensBlock = true →
      Reads (head.text ++ s) (.atBlock head (Block.read 0 s).1) (Block.read 0 s).2
  /-- A rule with its block. -/
  | rule {selector s : Text} :
      '{' ∉ selector →
      Reads (selector ++ '{' :: s) (.rule selector (Block.read 0 s).1) (Block.read 0 s).2
  /-- A text in which no block opens. -/
  | stray {t : Text} : '{' ∉ t → Reads t (.stray t) []

theorem AtHead.read_of_read? {s rest : Text} {head : AtHead}
    (h : AtHead.read? s = some (head, rest)) : head.Read := by
  simp only [AtHead.read?, Option.bind_eq_some_iff, Prod.exists] at h
  obtain ⟨name, tail, hname, h⟩ := h
  have hparams : ∀ c ∈ tail.takeWhile AtHead.isParam, AtHead.isParam c = true :=
    List.all_eq_true.1 List.all_takeWhile
  split at h
  · cases h
  · cases h
    -- The name has name characters only, and the parameters stop at a brace or semicolon.
    constructor
    · intro hmem
      exact absurd (AtHead.isNameChar_of_readName? hname _ hmem) (by decide)
    · intro hmem
      exact absurd (hparams _ hmem) (by decide)
    · intro hmem
      exact absurd (hparams _ hmem) (by decide)

namespace Piece

private theorem reads_of_readAtRule? {s rest : Text} {p : Piece}
    (h : readAtRule? s = some (p, rest)) : Reads s p rest := by
  unfold readAtRule? at h
  split at h
  · next tail =>
    simp only [Option.map_eq_some_iff, Prod.exists] at h
    obtain ⟨head, behind, hhead, h⟩ := h
    have hread := AtHead.read_of_read? hhead
    rw [← AtHead.text_of_read? hhead]
    split at h
    · next hopens =>
      cases h
      exact .atBlock hread hopens
    · next hopens =>
      cases h
      exact .statement hread (Bool.eq_false_iff.2 hopens)
  · cases h

private theorem reads_readRule (s : Text) : Reads s (readRule s).1 (readRule s).2 := by
  unfold readRule
  split
  · next selector tail hcut =>
    obtain ⟨rfl, hselector⟩ := Text.cut?_eq_some_iff.1 hcut
    exact .rule hselector
  · next hcut => exact .stray (Text.cut?_eq_none_iff.1 hcut)

/-- Every piece is read by one of the steps. -/
theorem reads_read (c : Char) (s : Text) : Reads (c :: s) (read c s).1 (read c s).2 := by
  unfold read
  split
  · next hc =>
    -- The blanks at the front are taken together.
    have htext : c :: s = (c :: s.takeWhile Text.isBlank) ++ s.dropWhile Text.isBlank :=
      congrArg (c :: ·) (List.takeWhile_append_dropWhile (p := Text.isBlank)).symm
    have hall : ∀ d ∈ c :: s.takeWhile Text.isBlank, Text.isBlank d = true := by
      intro d hd
      rcases List.mem_cons.1 hd with rfl | hd
      · exact hc
      · exact List.all_eq_true.1 List.all_takeWhile d hd
    have hstep : Reads ((c :: s.takeWhile Text.isBlank) ++ s.dropWhile Text.isBlank)
        (.blank (c :: s.takeWhile Text.isBlank)) (s.dropWhile Text.isBlank) := .blank hall
    rwa [← htext] at hstep
  · cases hat : readAtRule? (c :: s) with
    | none => exact reads_readRule (c :: s)
    | some r => exact reads_of_readAtRule? hat

theorem Reads.text_append {s rest : Text} {p : Piece} (h : Reads s p rest) :
    p.text ++ rest = s := by
  -- A block is put together from its inside, its brace and what stands behind.
  cases h with
  | blank => rfl
  | statement => rfl
  | atBlock => simp only [text, List.append_assoc, Block.text_read]
  | rule => simp only [text, List.append_assoc, List.cons_append, Block.text_read]
  | stray => exact List.append_nil _

end Piece

/-- A stylesheet is empty, or one step takes a piece off its front. -/
theorem split_cases (css : Text) :
    css = [] ∨ ∃ p rest, Piece.Reads css p rest ∧ split css = p.node?.toList ++ split rest ∧
      rest.length < css.length := by
  cases css with
  | nil => exact Or.inl rfl
  | cons c s =>
    right
    exact ⟨_, _, Piece.reads_read c s, split_cons c s, Piece.length_read_lt c s⟩

/-- Every node of a stylesheet is read by one step, from a text of which all is known that the
steps before it preserve. -/
theorem exists_reads_of_mem_split {P : Text → Prop}
    (step : ∀ s p rest, P s → Piece.Reads s p rest → P rest) {css : Text} (hcss : P css)
    {node : Node} (h : node ∈ split css) :
    ∃ s p rest, P s ∧ Piece.Reads s p rest ∧ p.node? = some node := by
  induction hn : css.length using Nat.strongRecOn generalizing css with
  | ind n ih =>
    rcases split_cases css with rfl | ⟨p, rest, hreads, hsplit, hlt⟩
    · simp at h
    · rw [hsplit] at h
      -- The node of the first piece, or one of those behind it.
      rcases List.mem_append.1 h with hmem | hmem
      · exact ⟨css, p, rest, hcss, hreads, Option.mem_toList.1 hmem⟩
      · exact ih rest.length (hn ▸ hlt) (step _ _ _ hcss hreads) hmem rfl

/-! ## Depths -/

theorem depthBehind?_succ {depth d : Nat} {s : Text} (h : depthBehind? depth s = some d) :
    depthBehind? (depth + 1) s = some (d + 1) := by
  rw [depthBehind?_eq_some_iff] at h ⊢
  constructor
  · intro t ht
    have := h.1 t ht
    omega
  · have := h.2
    omega

/-- A text that opens nothing cannot close anything either where nothing is open. -/
theorem depthBehind?_of_append {d : Nat} {s t : Text} (hopen : '{' ∉ s)
    (h : depthBehind? 0 (s ++ t) = some d) : '}' ∉ s ∧ depthBehind? 0 t = some d := by
  rw [depthBehind?_append, Option.bind_eq_some_iff] at h
  obtain ⟨e, hs, ht⟩ := h
  have htotal := (depthBehind?_eq_some_iff.1 hs).2
  rw [List.count_eq_zero.2 hopen] at htotal
  -- Nothing was opened, so the depth can only be zero still.
  have hzero : e = 0 := by omega
  have hclose : s.count '}' = 0 := by omega
  subst hzero
  exact ⟨List.count_eq_zero.1 hclose, ht⟩

/-- Where the rest of a text closes one block more than it opens, the block that is read there is
closed. -/
theorem closed_of_depth {s : Text} (h : depthBehind? 1 s = some 0) :
    (Block.read 0 s).1.closed = true ∧ Balanced (Block.read 0 s).2 := by
  have hclosed : (Block.read 0 s).1.closed = true := by
    -- A block that is left open would never go below its own depth.
    cases hread : (Block.read 0 s).1.closed with
    | true => rfl
    | false =>
      obtain ⟨d, hd⟩ := Option.isSome_iff_exists.1 (Block.depth_isSome_of_not_closed hread)
      rw [depthBehind?_succ hd] at h
      cases h
  have htext := Block.text_read 0 s
  have hinside : depthBehind? 1 (Block.read 0 s).1.inside = some 1 :=
    depthBehind?_succ (Block.depthBehind?_inside hclosed)
  rw [Block.text, hclosed, if_pos rfl] at htext
  rw [← htext, List.append_assoc, depthBehind?_append, hinside] at h
  exact ⟨hclosed, balanced_iff.2 h⟩

/-- Blanks around a text do not change its depth. -/
theorem depthBehind?_trim (depth : Nat) (s : Text) :
    depthBehind? depth (Text.trim s) = depthBehind? depth s := by
  obtain ⟨before, behind, hs, hbefore, hbehind⟩ := Text.exists_blanks_trim s
  have hblanks {t : Text} (ht : ∀ c ∈ t, Text.isBlank c = true) (d : Nat) :
      depthBehind? d t = some d := by
    apply Balanced.keepsDepth
    apply balanced_of_no_brace
    · exact Text.notMem_of_blanks ht (by decide)
    · exact Text.notMem_of_blanks ht (by decide)
  conv => rhs; rw [hs]
  rw [depthBehind?_append, depthBehind?_append, hblanks hbefore, Option.bind_some]
  cases depthBehind? depth (Text.trim s) with
  | none => rfl
  | some d => exact (hblanks hbehind d).symm

theorem Balanced.trim {s : Text} (h : Balanced s) : Balanced (Text.trim s) := by
  rw [balanced_iff, depthBehind?_trim]
  exact balanced_iff.1 h

/-- A text that closes nothing it did not open is balanced, or a closing brace behind it closes
one of its own blocks. -/
theorem exists_depth_of_not_balanced {s : Text} (h : (depthBehind? 0 s).isSome = true)
    (hnot : ¬Balanced s) : ∃ d, depthBehind? 0 (s ++ ['}']) = some d := by
  obtain ⟨d, hd⟩ := Option.isSome_iff_exists.1 h
  cases d with
  | zero => exact absurd (balanced_iff.2 hd) hnot
  | succ d =>
    refine ⟨d, ?_⟩
    rw [depthBehind?_append, hd]
    rfl

/-- Whatever is read as a block closes nothing that it did not open. -/
theorem depthBehind?_inside_isSome (s : Text) :
    (depthBehind? 0 (Block.read 0 s).1.inside).isSome = true := by
  cases hread : (Block.read 0 s).1.closed with
  | true => rw [Block.depthBehind?_inside hread, Option.isSome_some]
  | false =>
    rw [Block.inside_of_not_closed hread]
    exact Block.depth_isSome_of_not_closed hread

/-! ## What a node is read from -/

/-- What the reader has checked of a node. -/
def Node.WellRead : Node → Prop
  | .rule selector _ => '{' ∉ selector
  | .atRule _ params body => Text.trim params = params ∧ '{' ∉ params ∧ ';' ∉ params ∧
      ∀ inside, body = some inside → (depthBehind? 0 inside).isSome = true

private theorem AtHead.Read.params_trimmed {head : AtHead} (h : head.Read) :
    Text.trim (Text.trim head.params) = Text.trim head.params ∧
      '{' ∉ Text.trim head.params ∧ ';' ∉ Text.trim head.params := by
  have hsubset := (Text.trim_subtext head.params).subset
  exact ⟨Text.trim_trim _, fun hmem => h.open_notMem_params (hsubset hmem),
    fun hmem => h.semicolon_notMem_params (hsubset hmem)⟩

private theorem Piece.Reads.wellRead {s rest : Text} {p : Piece} {node : Node}
    (h : Piece.Reads s p rest) (hnode : p.node? = some node) : node.WellRead := by
  cases h with
  | blank => cases hnode
  | stray => cases hnode
  | statement hread =>
    cases hnode
    obtain ⟨htrim, hopen, hsemi⟩ := hread.params_trimmed
    refine ⟨htrim, hopen, hsemi, ?_⟩
    intro inside hinside
    cases hinside
  | atBlock hread =>
    cases hnode
    obtain ⟨htrim, hopen, hsemi⟩ := hread.params_trimmed
    refine ⟨htrim, hopen, hsemi, ?_⟩
    intro inside hinside
    cases hinside
    exact depthBehind?_inside_isSome _
  | @rule selector t hselector =>
    simp only [Piece.node?] at hnode
    split at hnode <;> cases hnode
    exact fun hmem => hselector ((Text.trim_subtext selector).subset hmem)

theorem wellRead_of_mem_split {css : Text} : ∀ node ∈ split css, node.WellRead := by
  intro node hmem
  obtain ⟨s, p, rest, -, hreads, hnode⟩ :=
    exists_reads_of_mem_split (P := fun _ => True) (fun _ _ _ _ _ => trivial) trivial hmem
  exact hreads.wellRead hnode

/-! ## Blocks of nodes -/

/-- Whether the node has no block or a balanced one. -/
def Node.HoldsBalanced (node : Node) : Prop :=
  ∀ body, node.body? = some body → Balanced body

private theorem Node.holdsBalanced_of_atBlock {head : AtHead} {block : Block} {node : Node}
    (h : Balanced block.inside) (hnode : Piece.node? (.atBlock head block) = some node) :
    node.HoldsBalanced := by
  intro body hbody
  cases hnode
  cases hbody
  exact h

private theorem Node.holdsBalanced_of_rule {selector : Text} {block : Block} {node : Node}
    (h : Balanced block.inside) (hnode : Piece.node? (.rule selector block) = some node) :
    node.HoldsBalanced := by
  intro body hbody
  simp only [Piece.node?] at hnode
  split at hnode <;> cases hnode
  cases hbody
  exact h.trim

/-- A step leaves a balanced text balanced, and the block that it reads is balanced too. -/
theorem Balanced.of_reads {s rest : Text} {p : Piece} (hs : Balanced s)
    (h : Piece.Reads s p rest) :
    (∀ node, p.node? = some node → node.HoldsBalanced) ∧ Balanced rest := by
  rw [balanced_iff] at hs
  cases h with
  | @blank t rest hblank =>
    have hopen : '{' ∉ t := Text.notMem_of_blanks hblank (by decide)
    refine ⟨?_, balanced_iff.2 (depthBehind?_of_append hopen hs).2⟩
    intro node hnode
    cases hnode
  | @statement head rest hread hopens =>
    have hopen := hread.open_notMem_text hopens
    refine ⟨?_, balanced_iff.2 (depthBehind?_of_append hopen hs).2⟩
    intro node hnode body hbody
    cases hnode
    cases hbody
  | @atBlock head t hread hopens =>
    -- The brace of the head is counted with the block.
    rw [AtHead.text_of_opensBlock hopens, List.append_assoc] at hs
    have hblock : depthBehind? 1 t = some 0 := (depthBehind?_of_append hread.open_notMem_front hs).2
    obtain ⟨hclosed, hrest⟩ := closed_of_depth hblock
    refine ⟨?_, hrest⟩
    intro node hnode
    exact Node.holdsBalanced_of_atBlock (Block.balanced_inside hclosed) hnode
  | @rule selector t hopen =>
    have hblock : depthBehind? 1 t = some 0 := (depthBehind?_of_append hopen hs).2
    obtain ⟨hclosed, hrest⟩ := closed_of_depth hblock
    refine ⟨?_, hrest⟩
    intro node hnode
    exact Node.holdsBalanced_of_rule (Block.balanced_inside hclosed) hnode
  | @stray t hopen =>
    refine ⟨?_, balanced_iff.2 rfl⟩
    intro node hnode
    cases hnode

/-- The blocks of a balanced stylesheet are balanced. -/
theorem Balanced.node {css : Text} (h : Balanced css) :
    ∀ node ∈ split css, node.HoldsBalanced := by
  intro node hmem
  obtain ⟨s, p, rest, hs, hreads, hnode⟩ :=
    exists_reads_of_mem_split (fun _ _ _ hs hreads => (hs.of_reads hreads).2) h hmem
  exact (hs.of_reads hreads).1 node hnode

/-- The text in front of a node's block: its selector, or its parameters. -/
def Node.head : Node → Text
  | .rule selector _ => selector
  | .atRule _ params _ => params

/-- In a balanced stylesheet no closing brace stands in front of a block. -/
theorem Balanced.close_notMem_head {css : Text} (h : Balanced css) :
    ∀ node ∈ split css, '}' ∉ node.head := by
  intro node hmem
  obtain ⟨s, p, rest, hs, hreads, hnode⟩ :=
    exists_reads_of_mem_split (fun _ _ _ hs hreads => (hs.of_reads hreads).2) h hmem
  rw [balanced_iff] at hs
  have htrim {t : Text} (ht : '}' ∉ t) : '}' ∉ Text.trim t :=
    fun hin => ht ((Text.trim_subtext t).subset hin)
  cases hreads with
  | blank => cases hnode
  | stray => cases hnode
  | @statement head rest hread hopens =>
    cases hnode
    have hclose := (depthBehind?_of_append (hread.open_notMem_text hopens) hs).1
    apply htrim
    exact fun hin => hclose (by simp [AtHead.text, hin])
  | @atBlock head t hread hopens =>
    cases hnode
    rw [AtHead.text_of_opensBlock hopens, List.append_assoc] at hs
    have hclose := (depthBehind?_of_append hread.open_notMem_front hs).1
    apply htrim
    exact fun hin => hclose (List.mem_append_right _ hin)
  | @rule selector t hopen =>
    simp only [Piece.node?] at hnode
    split at hnode <;> cases hnode
    exact htrim (depthBehind?_of_append hopen hs).1

/-- Only the last node of a stylesheet can hold an open block: an open block takes all the rest of
the text. -/
theorem split_pairwise_balanced (css : Text) :
    (split css).Pairwise fun node _ => node.HoldsBalanced := by
  induction hn : css.length using Nat.strongRecOn generalizing css with
  | ind n ih =>
    rcases split_cases css with rfl | ⟨p, rest, hreads, hsplit, hlt⟩
    · simp
    · rw [hsplit, List.pairwise_append]
      refine ⟨?_, ih rest.length (hn ▸ hlt) rest rfl, ?_⟩
      · cases p.node? <;> simp
      · intro node hnode other hother
        rw [Option.mem_toList] at hnode
        -- Behind an open block there is no text, and so there is no other node.
        have hclosed {s : Text} (hrest : rest = (Block.read 0 s).2) :
            Balanced (Block.read 0 s).1.inside := by
          apply Block.balanced_inside
          cases hread : (Block.read 0 s).1.closed with
          | true => rfl
          | false =>
            rw [hrest, Block.rest_of_not_closed hread, split_nil] at hother
            cases hother
        cases hreads with
        | blank => cases hnode
        | statement =>
          intro body hbody
          cases hnode
          cases hbody
        | atBlock => exact Node.holdsBalanced_of_atBlock (hclosed rfl) hnode
        | rule => exact Node.holdsBalanced_of_rule (hclosed rfl) hnode
        | stray => cases hnode

end NativeStyle.Stylesheet
