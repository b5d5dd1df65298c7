import NativeStyle.Proofs.Scan

/-!
# Stylesheets that end inside a block

Where a stylesheet ends before its last block is closed, the block runs to the end, and so does
whatever is appended: it goes on in that block (`exists_pieces_append`). In particular closing
braces close what is open, the innermost first. With as many of them as there are open braces the
stylesheet is closed, and all but the last of them stand in its last block.

Main results:
- `Block.read_append_closing` (closing braces close what is open),
- `exists_pieces_append` (what is appended goes on in the open block),
- `split_append_closing` (the nodes of a stylesheet, and of the same with its braces closed).
-/

namespace NativeStyle.Stylesheet

/-! ## Open blocks -/

/-- The raw text of the block, if it is never closed. -/
def Block.openInside? (block : Block) : Option Text :=
  if block.closed then none else some block.inside

/-- The raw text of the piece's block, if that is never closed. -/
def Piece.openInside? : Piece → Option Text
  | .atBlock _ block | .rule _ block => block.openInside?
  | .blank _ | .statement _ | .stray _ => none

/-- The raw text of the block in which the stylesheet ends, if it ends inside one. -/
def openInside? (css : Text) : Option Text :=
  (pieces css).getLast?.bind Piece.openInside?

/-- The piece with another block in the place of its own. -/
def Piece.withBlock (block : Block) : Piece → Piece
  | .atBlock head _ => .atBlock head block
  | .rule selector _ => .rule selector block
  | .blank t => .blank t
  | .statement head => .statement head
  | .stray t => .stray t

/-- The node with this raw text between its braces. -/
def Node.withBody (raw : Text) : Node → Node
  | .rule selector _ => .rule selector (Text.trim raw)
  | .atRule name params _ => .atRule name params (some raw)

/-- A number of closing braces. -/
def closing (n : Nat) : Text :=
  List.replicate n '}'

namespace Block

variable {block : Block} {s raw : Text}

theorem openInside?_eq_some_iff : block.openInside? = some raw ↔ block = ⟨raw, false⟩ := by
  obtain ⟨inside, closed⟩ := block
  cases closed <;> simp [openInside?]

/-- An open block is the whole text. -/
theorem eq_of_openInside? (h : (read 0 s).1.openInside? = some raw) : s = raw := by
  have hblock := openInside?_eq_some_iff.1 h
  have hinside : (read 0 s).1.inside = s := inside_of_not_closed (by rw [hblock])
  rw [← hinside, hblock]

/-! ## Closing braces -/

/-- Closing braces close what is open, the innermost block first. -/
theorem read_closing (depth : Nat) :
    read depth (closing (depth + 1)) = (⟨closing depth, true⟩, []) := by
  induction depth with
  | zero => rfl
  | succ depth ih =>
    have hgo : ¬('}' = '}' ∧ depth + 1 = 0) := by simp
    have hdepth : depthAfter (depth + 1) '}' = depth := rfl
    have hstep : closing (depth + 1 + 1) = '}' :: closing (depth + 1) := rfl
    rw [hstep, read, if_neg hgo, hdepth, ih]
    rfl

/-- With one closing brace more than there are blocks open in it, a text becomes a whole block. -/
theorem read_append_closing {depth : Nat} (h : depthBehind? 0 raw = some depth) :
    read 0 (raw ++ closing (depth + 1)) = (⟨raw ++ closing depth, true⟩, []) := by
  rw [read_append_of_depth h, read_closing]

end Block

/-! ## Appending to an open block -/

namespace Piece

variable {p : Piece} {s rest raw : Text} {c : Char}

theorem readAtRule?_append_of_open (h : readAtRule? s = some (p, rest))
    (hopen : p.openInside? = some raw) (t : Text) :
    readAtRule? (s ++ t) =
      some (p.withBlock (Block.read 0 (raw ++ t)).1, (Block.read 0 (raw ++ t)).2) := by
  unfold readAtRule? at h
  split at h
  · next s =>
    simp only [Option.map_eq_some_iff, Prod.exists] at h
    obtain ⟨head, tail, hhead, h⟩ := h
    simp only [List.cons_append, readAtRule?, AtHead.read?_append hhead t, Option.map_some]
    -- Only a head with a block can have an open one.
    split at h
    · next hopens =>
      cases h
      rw [if_pos hopens, Block.eq_of_openInside? hopen]
      rfl
    · cases h
      cases hopen
  · cases h

theorem readRule_append_of_open (h : (readRule s).1.openInside? = some raw) (t : Text) :
    '{' ∈ s ∧ readRule (s ++ t) =
      ((readRule s).1.withBlock (Block.read 0 (raw ++ t)).1, (Block.read 0 (raw ++ t)).2) := by
  unfold readRule at h ⊢
  cases hcut : Text.cut? '{' s with
  | none =>
    rw [hcut] at h
    cases h
  | some parts =>
    obtain ⟨selector, tail⟩ := parts
    rw [hcut] at h
    obtain rfl := Block.eq_of_openInside? h
    obtain ⟨rfl, hselector⟩ := Text.cut?_eq_some_iff.1 hcut
    -- The first brace is in the text itself.
    have hcut' : Text.cut? '{' (selector ++ '{' :: tail ++ t) = some (selector, tail ++ t) :=
      Text.cut?_eq_some_iff.2 ⟨by simp, hselector⟩
    rw [hcut']
    exact ⟨by simp, rfl⟩

/-- What is appended to an open piece goes on in its block. -/
theorem read_append_of_open (h : (read c s).1.openInside? = some raw) (t : Text) :
    read c (s ++ t) =
      ((read c s).1.withBlock (Block.read 0 (raw ++ t)).1, (Block.read 0 (raw ++ t)).2) := by
  unfold read at h ⊢
  split at h
  · cases h
  · next hc =>
    rw [if_neg hc, if_neg hc, ← List.cons_append]
    cases hat : readAtRule? (c :: s) with
    | some r =>
      rw [hat] at h
      rw [readAtRule?_append_of_open hat h t]
      rfl
    | none =>
      rw [hat] at h
      obtain ⟨hbrace, hrule⟩ := readRule_append_of_open h t
      rw [readAtRule?_append_eq_none hat hbrace t, Option.getD_none, hrule]
      rfl

/-- Only the last piece can be stray or have an open block. -/
theorem Reads.isClosed (h : Reads s p rest) (hrest : rest ≠ []) : p.isClosed = true := by
  have hblock {t : Text} (ht : (Block.read 0 t).2 ≠ []) : (Block.read 0 t).1.closed = true := by
    by_contra hopen
    exact ht (Block.rest_of_not_closed (Bool.eq_false_iff.2 hopen))
  cases h with
  | blank => rfl
  | statement => rfl
  | atBlock => exact hblock hrest
  | rule => exact hblock hrest
  | stray => exact absurd rfl hrest

/-- An open block closes no more than has been opened in it. -/
theorem Reads.depth_isSome (h : Reads s p rest) (hopen : p.openInside? = some raw) :
    (depthBehind? 0 raw).isSome = true := by
  have hblock {t : Text} (ht : (Block.read 0 t).1.openInside? = some raw) :
      (depthBehind? 0 raw).isSome = true := by
    have hinside := depthBehind?_inside_isSome t
    rwa [Block.openInside?_eq_some_iff.1 ht] at hinside
  cases h with
  | blank => cases hopen
  | statement => cases hopen
  | stray => cases hopen
  | atBlock => exact hblock hopen
  | rule => exact hblock hopen

/-- A piece with an open block is an at-rule or a rule. -/
theorem eq_of_openInside? (h : p.openInside? = some raw) :
    (∃ head, p = .atBlock head ⟨raw, false⟩) ∨ ∃ selector, p = .rule selector ⟨raw, false⟩ := by
  cases p with
  | blank => cases h
  | statement => cases h
  | stray => cases h
  | atBlock head block =>
    exact Or.inl ⟨head, congrArg (atBlock head) (Block.openInside?_eq_some_iff.1 h)⟩
  | rule selector block =>
    exact Or.inr ⟨selector, congrArg (rule selector) (Block.openInside?_eq_some_iff.1 h)⟩

theorem withBlock_self (h : p.openInside? = some raw) : p.withBlock ⟨raw, false⟩ = p := by
  rcases eq_of_openInside? h with ⟨head, rfl⟩ | ⟨selector, rfl⟩
  · rfl
  · rfl

theorem isClosed_withBlock (h : p.openInside? = some raw) (inside : Text) :
    (p.withBlock ⟨inside, true⟩).isClosed = true := by
  rcases eq_of_openInside? h with ⟨head, rfl⟩ | ⟨selector, rfl⟩
  · rfl
  · rfl

/-- Another block changes the node of a piece by its inside only. -/
theorem node?_withBlock (h : p.openInside? = some raw) (block : Block)
    (hblank : Text.trim block.inside = [] ↔ Text.trim raw = []) :
    (p.withBlock block).node? = p.node?.map (·.withBody block.inside) := by
  rcases eq_of_openInside? h with ⟨head, rfl⟩ | ⟨selector, rfl⟩
  · rfl
  · simp only [withBlock, node?, hblank]
    split <;> rfl

end Piece

/-- What is appended to a stylesheet that ends inside a block goes on in that block, and behind it
once it is closed. -/
theorem exists_pieces_append {css raw : Text} (h : openInside? css = some raw) :
    ∃ ps p, pieces css = ps ++ [p] ∧ (∀ q ∈ ps, q.isClosed = true) ∧
      p.openInside? = some raw ∧ (depthBehind? 0 raw).isSome = true ∧ ∀ t, pieces (css ++ t) =
        ps ++ p.withBlock (Block.read 0 (raw ++ t)).1 :: pieces (Block.read 0 (raw ++ t)).2 := by
  induction hn : css.length using Nat.strongRecOn generalizing css with
  | ind n ih =>
    cases css with
    | nil =>
      rw [openInside?, pieces] at h
      cases h
    | cons c s =>
      have hreads := Piece.reads_read c s
      rw [openInside?, pieces] at h
      by_cases hrest : (Piece.read c s).2 = []
      · -- The first piece is the last one, so its block is the open one.
        simp only [hrest, pieces] at h
        refine ⟨[], (Piece.read c s).1, ?_, List.forall_mem_nil _, h, hreads.depth_isSome h, ?_⟩
        · rw [pieces, hrest, pieces]
          rfl
        · intro t
          rw [List.cons_append, pieces, Piece.read_append_of_open h]
          rfl
      · -- The first piece is closed, and it is read in the same way whatever follows.
        have hclosed := hreads.isClosed hrest
        have hblank : Text.isBlank c = true → s.dropWhile Text.isBlank ≠ [] := by
          intro hc
          rwa [Piece.read, if_pos hc] at hrest
        have hlast : openInside? (Piece.read c s).2 = some raw := by
          obtain ⟨d, u, hcons⟩ := List.exists_cons_of_ne_nil hrest
          rw [openInside?, hcons, pieces]
          rwa [hcons, pieces, List.getLast?_cons_cons] at h
        obtain ⟨ps, p, hpieces, hall, hp, hdepth, happend⟩ :=
          ih _ (hn ▸ Piece.length_read_lt c s) hlast rfl
        refine ⟨(Piece.read c s).1 :: ps, p, ?_, List.forall_mem_cons.2 ⟨hclosed, hall⟩, hp,
          hdepth, ?_⟩
        · rw [pieces, hpieces]
          rfl
        · intro t
          rw [List.cons_append, pieces, Piece.read_append hclosed hblank, happend]
          rfl

/-! ## Closing what is open -/

/-- A block in which braces are open is not blank. -/
theorem trim_append_closing_eq_nil_iff {raw : Text} {depth : Nat}
    (h : depthBehind? 0 raw = some depth) :
    Text.trim (raw ++ closing depth) = [] ↔ Text.trim raw = [] := by
  rw [Text.trim_eq_nil_iff, Text.trim_eq_nil_iff]
  constructor
  · intro hblank c hc
    exact hblank c (List.mem_append_left _ hc)
  · intro hblank c hc
    rcases List.mem_append.1 hc with hc | hc
    · exact hblank c hc
    · have htotals := (depthBehind?_eq_some_iff.1 h).2
      have hpos : depth ≠ 0 := (List.mem_replicate.1 hc).1
      have hopen : '{' ∈ raw := by
        rw [← List.count_pos_iff]
        omega
      exact absurd hopen (Text.notMem_of_blanks hblank (by decide))

/-- **Open ends.** Let a stylesheet end inside a block that is never closed, with `k` braces open.
There is at least one, that of the block itself. With `k` closing braces behind it the stylesheet is
closed and has the same nodes, except that the raw text of the last block has the other `k - 1`
braces behind it. If there is only one, the nodes are the same altogether. -/
theorem split_append_closing {css raw : Text} (h : openInside? css = some raw) :
    ∃ k ps p, 1 ≤ k ∧ depthBehind? 1 raw = some k ∧
      pieces css = ps ++ [p] ∧ p.openInside? = some raw ∧
      split css = ps.filterMap Piece.node? ++ (p.node?.map (·.withBody raw)).toList ∧
      split (css ++ closing k) = ps.filterMap Piece.node? ++
        (p.node?.map (·.withBody (raw ++ closing (k - 1)))).toList ∧
      isClosed (css ++ closing k) = true ∧
      (k = 1 → split (css ++ closing k) = split css) := by
  obtain ⟨ps, p, hpieces, hall, hp, hdepth, happend⟩ := exists_pieces_append h
  obtain ⟨depth, hdepth⟩ := Option.isSome_iff_exists.1 hdepth
  have hsplit {q : Piece} {s : Text} (hs : pieces s = ps ++ [q]) :
      split s = ps.filterMap Piece.node? ++ q.node?.toList := by
    rw [split, hs, List.filterMap_append]
    cases hq : q.node? <;> simp [hq]
  have hclosing : pieces (css ++ closing (depth + 1)) =
      ps ++ [p.withBlock ⟨raw ++ closing depth, true⟩] := by
    rw [happend, Block.read_append_closing hdepth, pieces]
  have hbefore : split css =
      ps.filterMap Piece.node? ++ (p.node?.map (·.withBody raw)).toList := by
    have hown := Piece.node?_withBlock hp ⟨raw, false⟩ Iff.rfl
    rw [Piece.withBlock_self hp] at hown
    rw [hsplit hpieces, ← hown]
  have hafter : split (css ++ closing (depth + 1)) =
      ps.filterMap Piece.node? ++ (p.node?.map (·.withBody (raw ++ closing depth))).toList := by
    rw [hsplit hclosing, Piece.node?_withBlock hp _ (trim_append_closing_eq_nil_iff hdepth)]
  refine ⟨depth + 1, ps, p, Nat.le_add_left 1 depth, depthBehind?_succ hdepth, hpieces, hp,
    hbefore, hafter, ?_, ?_⟩
  · rw [isClosed, hclosing, List.all_eq_true]
    intro q hq
    rcases List.mem_append.1 hq with hq | hq
    · exact hall q hq
    · rw [List.mem_singleton.1 hq]
      exact Piece.isClosed_withBlock hp _
  · -- Nothing is open inside the block, so nothing is put into it.
    intro hone
    obtain rfl : depth = 0 := Nat.succ.inj hone
    have hnone : raw ++ closing 0 = raw := List.append_nil raw
    rw [hafter, hbefore, hnone]

/-- A rule inside a layer is cut off in the middle of a value. The first of the two braces that
close them stands in the layer. -/
theorem split_append_closing_layer :
    openInside? ".a\x7bc:d\x7d @layer x \x7b.b \x7b e:f".toList = some ".b \x7b e:f".toList ∧
      isClosed (".a\x7bc:d\x7d @layer x \x7b.b \x7b e:f".toList ++ closing 2) = true ∧
      split (".a\x7bc:d\x7d @layer x \x7b.b \x7b e:f".toList ++ closing 2) =
        [.rule ".a".toList "c:d".toList,
          .atRule "layer".toList "x".toList (some ".b \x7b e:f\x7d".toList)] := by
  have hopen : openInside? ".a\x7bc:d\x7d @layer x \x7b.b \x7b e:f".toList =
      some ".b \x7b e:f".toList := by
    decide +kernel
  obtain ⟨k, ps, p, -, hdepth, hpieces, -, -, hafter, hclosed, -⟩ := split_append_closing hopen
  have htwo : depthBehind? 1 ".b \x7b e:f".toList = some 2 := by decide
  obtain rfl : k = 2 := Option.some.inj (hdepth.symm.trans htwo)
  have hlast : pieces ".a\x7bc:d\x7d @layer x \x7b.b \x7b e:f".toList =
      [.rule ".a".toList ⟨"c:d".toList, true⟩, .blank " ".toList] ++
        [.atBlock ⟨"layer".toList, " x ".toList, true⟩ ⟨".b \x7b e:f".toList, false⟩] := by
    decide +kernel
  obtain ⟨rfl, hp⟩ := List.append_inj' (hpieces.symm.trans hlast) rfl
  cases hp
  refine ⟨hopen, hclosed, hafter.trans ?_⟩
  decide

end NativeStyle.Stylesheet
