import NativeStyle.Proofs.Scan

/-!
# The front of a stylesheet

What stands in front of a brace decides what the block behind it is: a name directly behind an at
sign makes an at-rule, everything else is the selector of a rule. A character that no name goes on
with ends the name, so the decision can be read off the head alone, whatever the block holds.

Main results:
- `AtHead.readName?_append_stop` (a character that no name goes on with ends it),
- `split_atRule`, `split_statement` (an at-rule at the front of a stylesheet),
- `exists_atRule` (a selector that starts like an at-rule is read as one),
- `split_front` (anything else in front of a brace is read with the block as a rule).
-/

namespace NativeStyle.Stylesheet

/-! ## Names -/

namespace AtHead

/-- A character that no name goes on with ends a name. -/
theorem readName?_append_stop {stop : Char} (hstop : Text.isNameChar stop = false)
    (s rest : Text) :
    readName? (s ++ stop :: rest) =
      (readName? s).map fun (name, behind) => (name, behind ++ stop :: rest) := by
  have hword : ¬Text.isWord stop = true ∧ stop ≠ '-' := by
    simpa [Text.isNameChar] using hstop
  -- As the reader does it: a hyphen first, or a word character.
  cases s with
  | nil => rw [List.nil_append, readName?_cons hword.2, if_neg hword.1]; rfl
  | cons c s =>
    by_cases hc : c = '-'
    · subst hc
      cases s with
      | nil =>
        rw [readName?_lone_hyphen, List.cons_append, List.nil_append, readName?_hyphen,
          if_neg hword.1]
        rfl
      | cons d s =>
        rw [List.cons_append, List.cons_append, readName?_hyphen, readName?_hyphen,
          Text.takeWhile_append_cons hstop, Text.dropWhile_append_cons hstop]
        split <;> rfl
    · rw [List.cons_append, readName?_cons hc, readName?_cons hc, Text.takeWhile_append_cons hstop,
        Text.dropWhile_append_cons hstop]
      split <;> rfl

/-- A head is its name, its parameters and the character that ends them. -/
theorem read?_append_stop {name params : Text} (hname : readName? name = some (name, []))
    (hnext : ∀ c ∈ params.head?, Text.isNameChar c = false)
    (hparams : ∀ c ∈ params, isParam c = true) {stop : Char} (hstop : isParam stop = false)
    (s : Text) :
    read? (name ++ (params ++ stop :: s)) = some (⟨name, params, stop = '{'⟩, s) := by
  have hend : Text.isNameChar stop = false := by
    have hcases : stop = '{' ∨ stop = ';' := by
      simpa [isParam, ← or_iff_not_imp_left] using hstop
    rcases hcases with rfl | rfl <;> decide
  -- The name ends where the parameters begin, or at the end of the head if there are none.
  have hread : readName? (name ++ (params ++ stop :: s)) = some (name, params ++ stop :: s) := by
    cases params with
    | nil => rw [List.nil_append, readName?_append_stop hend, hname]; rfl
    | cons c params => rw [List.cons_append, readName?_append_stop (hnext c rfl), hname]; rfl
  rw [read?, hread, Option.bind_some]
  simp only [List.takeWhile_append_of_pos hparams, List.dropWhile_append_of_pos hparams,
    List.takeWhile_cons_of_neg (Bool.eq_false_iff.1 hstop),
    List.dropWhile_cons_of_neg (Bool.eq_false_iff.1 hstop), List.append_nil]

end AtHead

/-- Whether the text starts with an at sign and a name. -/
def startsAtRule : Text → Bool
  | '@' :: s => (AtHead.readName? s).isSome
  | _ => false

/-! ## At-rules -/

theorem isParam_of_notMem {params : Text} (hopen : '{' ∉ params) (hsemi : ';' ∉ params) :
    ∀ c ∈ params, AtHead.isParam c = true := by
  intro c hc
  have h1 : c ≠ '{' := fun h => hopen (h ▸ hc)
  have h2 : c ≠ ';' := fun h => hsemi (h ▸ hc)
  simp [AtHead.isParam, h1, h2]

/-- The blank behind a name counts as the first of the parameters. -/
private theorem read?_append_space {name params : Text}
    (hname : AtHead.readName? name = some (name, [])) (hopen : '{' ∉ params) (hsemi : ';' ∉ params)
    {stop : Char} (hstop : AtHead.isParam stop = false) (s : Text) :
    AtHead.read? (name ++ ' ' :: (params ++ stop :: s)) =
      some (⟨name, ' ' :: params, stop = '{'⟩, s) := by
  have hnext : ∀ c ∈ (' ' :: params).head?, Text.isNameChar c = false := by
    rintro c ⟨⟩
    decide
  exact AtHead.read?_append_stop hname hnext
    (isParam_of_notMem (by simpa using hopen) (by simpa using hsemi)) hstop s

private theorem trim_params (params : Text) : Text.trim (' ' :: params) = Text.trim params := by
  have hspaces : ∀ c ∈ [' '], Text.isBlank c = true := by decide
  exact Text.trim_append_left hspaces params

/-- What is read at the front of a text that starts with an at sign and a head. -/
theorem Piece.read_of_read? {s rest : Text} {head : AtHead}
    (h : AtHead.read? s = some (head, rest)) :
    Piece.read '@' s =
      if head.opensBlock then (.atBlock head (Block.read 0 rest).1, (Block.read 0 rest).2)
      else (.statement head, rest) := by
  have hblank : Text.isBlank '@' = false := by decide
  simp only [Piece.read, hblank, Piece.readAtRule?, h, Option.map_some]
  rfl

/-- An at-rule with a block is one node; its body ends where the block does. -/
theorem split_atRule {name params : Text} (hname : AtHead.readName? name = some (name, []))
    (hopen : '{' ∉ params) (hsemi : ';' ∉ params) (s : Text) :
    split ('@' :: (name ++ ' ' :: (params ++ '{' :: s))) =
      .atRule name (Text.trim params) (some (Block.read 0 s).1.inside) ::
        split (Block.read 0 s).2 := by
  have hstop : AtHead.isParam '{' = false := by decide
  have hhead := read?_append_space hname hopen hsemi hstop s
  rw [split_cons, Piece.read_of_read? hhead]
  simp [Piece.node?, trim_params]

/-- An at-rule that ends with a semicolon is one node without a body. -/
theorem split_statement {name params : Text} (hname : AtHead.readName? name = some (name, []))
    (hopen : '{' ∉ params) (hsemi : ';' ∉ params) (s : Text) :
    split ('@' :: (name ++ ' ' :: (params ++ ';' :: s))) =
      .atRule name (Text.trim params) none :: split s := by
  have hstop : AtHead.isParam ';' = false := by decide
  have hhead := read?_append_space hname hopen hsemi hstop s
  rw [split_cons, Piece.read_of_read? hhead]
  simp [Piece.node?, trim_params]

/-- As `split_atRule`, with a blank in front of the brace. -/
theorem split_atBlock {name params : Text}
    (hname : AtHead.readName? name = some (name, [])) (hopen : '{' ∉ params)
    (hsemi : ';' ∉ params) (s : Text) :
    split ('@' :: (name ++ ' ' :: (params ++ ' ' :: '{' :: s))) =
      .atRule name (Text.trim params) (some (Block.read 0 s).1.inside) ::
        split (Block.read 0 s).2 := by
  have hspaces : ∀ c ∈ [' '], Text.isBlank c = true := by decide
  have hopen' : '{' ∉ params ++ [' '] := by simpa using hopen
  have hsemi' : ';' ∉ params ++ [' '] := by simpa using hsemi
  have hrule := split_atRule hname hopen' hsemi' s
  rw [Text.trim_append_right hspaces] at hrule
  simpa using hrule

/-- A selector that starts like an at-rule is read as one, or as the front of one. -/
theorem exists_atRule {selector : Text} (h : startsAtRule selector = true) (s : Text) :
    ∃ p rest name params body, Piece.Reads (selector ++ ' ' :: '{' :: s) p rest ∧
      p.node? = some (.atRule name params body) ∧
      split (selector ++ ' ' :: '{' :: s) = .atRule name params body :: split rest := by
  unfold startsAtRule at h
  split at h
  · next tail =>
    -- The brace behind the selector ends the parameters at the latest.
    cases hhead : AtHead.read? (tail ++ ' ' :: '{' :: s) with
    | none =>
      have hname := AtHead.readName?_eq_none_of_read? hhead (by simp)
      rw [AtHead.readName?_append_stop (by decide), Option.map_eq_none_iff] at hname
      rw [hname] at h
      cases h
    | some r =>
      obtain ⟨head, behind⟩ := r
      have hreads := Piece.reads_read '@' (tail ++ ' ' :: '{' :: s)
      have hsplit := split_cons '@' (tail ++ ' ' :: '{' :: s)
      rw [Piece.read_of_read? hhead] at hreads hsplit
      -- The head may end with a semicolon inside the selector, before any block opens.
      split at hreads
      · next hopens =>
        rw [if_pos hopens] at hsplit
        exact ⟨_, _, _, _, _, hreads, rfl, hsplit⟩
      · next hopens =>
        rw [if_neg hopens] at hsplit
        exact ⟨_, _, _, _, _, hreads, rfl, hsplit⟩
  · cases h

/-! ## Selectors -/

/-- What can stand in front of the brace of a rule. -/
structure Front (front : Text) : Prop where
  head : ∀ c ∈ front.head?, Text.isBlank c = false
  open_notMem : '{' ∉ front
  noAtRule : startsAtRule front = false

private theorem readAtRule?_of_front {front : Text} (h : startsAtRule front = false)
    (rest : Text) : Piece.readAtRule? (front ++ '{' :: rest) = none := by
  cases front with
  | nil => rfl
  | cons c front =>
    -- An at sign without a name behind it is a part of the selector.
    by_cases hc : c = '@'
    · subst hc
      have hname : AtHead.readName? front = none := by
        simpa [startsAtRule] using h
      have hread : AtHead.read? (front ++ '{' :: rest) = none := by
        rw [AtHead.read?, AtHead.readName?_append_stop (by decide), hname]
        rfl
      simp only [List.cons_append, Piece.readAtRule?, hread, Option.map_none]
    · simp [Piece.readAtRule?, hc]

/-- What stands in front of a brace and is no at-rule is read with the block as a rule. -/
theorem split_front {front : Text} (h : Front front) (s : Text) :
    split (front ++ '{' :: s) =
      (Piece.node? (.rule front (Block.read 0 s).1)).toList ++ split (Block.read 0 s).2 := by
  -- The first brace is the one behind the selector.
  have hcut : Text.cut? '{' (front ++ '{' :: s) = some (front, s) :=
    Text.cut?_eq_some_iff.2 ⟨rfl, h.open_notMem⟩
  have hrule := readAtRule?_of_front h.noAtRule s
  have hread : Piece.readRule (front ++ '{' :: s) =
      (.rule front (Block.read 0 s).1, (Block.read 0 s).2) := by
    simp only [Piece.readRule, hcut]
  have hhead : ∀ c ∈ (front ++ '{' :: s).head?, Text.isBlank c = false := by
    cases front with
    | nil => rintro c ⟨⟩; decide
    | cons c front => exact h.head
  cases hwhole : front ++ '{' :: s with
  | nil => simp at hwhole
  | cons c tail =>
    rw [hwhole] at hrule hread hhead
    rw [split_cons, Piece.read, if_neg (Bool.eq_false_iff.1 (hhead c rfl)), hrule,
      Option.getD_none, hread]

/-- What stands in front of a brace and is no at-rule is a selector. A rule is one node, unless
there is nothing in its block. -/
theorem split_selector {front : Text} (h : Front front) (hne : Text.trim front ≠ []) (s : Text) :
    split (front ++ '{' :: s) =
      (if Text.trim (Block.read 0 s).1.inside = [] then []
        else [.rule (Text.trim front) (Text.trim (Block.read 0 s).1.inside)]) ++
        split (Block.read 0 s).2 := by
  rw [split_front h]
  simp only [Piece.node?, hne, false_or]
  congr 1
  split <;> rfl

private theorem startsAtRule_append_space (selector : Text) :
    startsAtRule (selector ++ [' ']) = startsAtRule selector := by
  cases selector with
  | nil => rfl
  | cons c selector =>
    by_cases hc : c = '@'
    · subst hc
      simp [startsAtRule, AtHead.readName?_append_stop (by decide : Text.isNameChar ' ' = false)]
    · simp [startsAtRule, hc]

/-- As `split_selector`, for a trimmed selector with a blank in front of the brace. -/
theorem split_rule {selector : Text} (hne : selector ≠ []) (htrim : Text.trim selector = selector)
    (hopen : '{' ∉ selector) (hat : startsAtRule selector = false) (s : Text) :
    split (selector ++ ' ' :: '{' :: s) =
      (if Text.trim (Block.read 0 s).1.inside = [] then []
        else [.rule selector (Text.trim (Block.read 0 s).1.inside)]) ++
        split (Block.read 0 s).2 := by
  have hspaces : ∀ c ∈ [' '], Text.isBlank c = true := by decide
  have hselector : Text.trim (selector ++ [' ']) = selector :=
    (Text.trim_append_right hspaces _).trans htrim
  have hblank : ∀ c ∈ (selector ++ [' ']).head?, Text.isBlank c = false := by
    rw [List.head?_append_of_ne_nil _ hne]
    exact (Text.trim_eq_self_iff.1 htrim).1
  have hfront : Front (selector ++ [' ']) :=
    ⟨hblank, by simpa using hopen, by rw [startsAtRule_append_space]; exact hat⟩
  have hrule := split_selector hfront (by rw [hselector]; exact hne) s
  rw [hselector] at hrule
  simpa using hrule

end NativeStyle.Stylesheet
