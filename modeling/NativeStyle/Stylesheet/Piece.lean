import NativeStyle.Stylesheet.Block
import NativeStyle.Text.Blank
import NativeStyle.Text.Word

/-!
# Pieces of a stylesheet

A stylesheet is cut into pieces from left to right, each of which keeps its whole text: blanks
between constructs, at-rules that end with a semicolon or have a block, rules, and at the end
possibly stray text in which no block opens. Whatever looks like an at-rule but has no proper name,
or neither brace nor semicolon behind it, is the selector of a rule.

Main statements: `text_pieces` (the pieces are the whole stylesheet), `length_read_lt` (every piece
takes something).
-/

namespace NativeStyle.Stylesheet

/-! ## At-rule heads -/

/-- What stands between the at sign of an at-rule and the brace or semicolon that ends its head. -/
structure AtHead where
  name : Text
  params : Text
  opensBlock : Bool
deriving DecidableEq, Repr

namespace AtHead

/-- A name at the front of the text: perhaps a hyphen, a word character, and all the name
characters behind it. -/
def readName? : Text → Option (Text × Text)
  | '-' :: c :: s =>
    if Text.isWord c then
      some ('-' :: c :: s.takeWhile Text.isNameChar, s.dropWhile Text.isNameChar)
    else none
  | c :: s =>
    if Text.isWord c then some (c :: s.takeWhile Text.isNameChar, s.dropWhile Text.isNameChar)
    else none
  | [] => none

/-- Whether the character may stand in the parameters of an at-rule. -/
def isParam (c : Char) : Bool :=
  c ≠ '{' && c ≠ ';'

/-- The head of an at-rule behind its at sign, up to and with the brace or semicolon. -/
def read? (s : Text) : Option (AtHead × Text) :=
  (readName? s).bind fun (name, s) =>
    match s.dropWhile isParam with
    | [] => none
    | c :: rest => some (⟨name, s.takeWhile isParam, c = '{'⟩, rest)

/-- The text of a head with its at sign and its end. -/
def text (h : AtHead) : Text :=
  '@' :: h.name ++ h.params ++ [if h.opensBlock then '{' else ';']

theorem readName?_eq_some {s name rest : Text} (h : readName? s = some (name, rest)) :
    name ++ rest = s := by
  unfold readName? at h
  split at h
  · split at h <;> cases h
    simp [List.takeWhile_append_dropWhile]
  · split at h <;> cases h
    simp [List.takeWhile_append_dropWhile]
  · cases h

theorem text_of_read? {s rest : Text} {h : AtHead} (hs : read? s = some (h, rest)) :
    h.text ++ rest = '@' :: s := by
  simp only [read?, Option.bind_eq_some_iff, Prod.exists] at hs
  obtain ⟨name, tail, hname, hs⟩ := hs
  rw [← readName?_eq_some hname]
  split at hs
  · cases hs
  · next c behind hdrop =>
    simp only [Option.some.injEq, Prod.mk.injEq] at hs
    obtain ⟨rfl, rfl⟩ := hs
    have hend : (if decide (c = '{') = true then '{' else ';') = c := by
      have hnot : isParam c = false := by
        have := List.head?_dropWhile_not isParam tail
        rw [hdrop] at this
        simpa using this
      by_cases hc : c = '{'
      · simp [hc]
      · simp [isParam, hc] at hnot
        simp [hnot]
    simp only [text, hend]
    simp [← hdrop, List.takeWhile_append_dropWhile]

end AtHead

/-! ## Pieces -/

/-- A stretch of a stylesheet. -/
inductive Piece where
  /-- Blanks between constructs. -/
  | blank (text : Text)
  /-- An at-rule that ends with a semicolon. -/
  | statement (head : AtHead)
  /-- An at-rule with a block. -/
  | atBlock (head : AtHead) (block : Block)
  /-- A rule: the text before a brace, and the block behind it. -/
  | rule (selector : Text) (block : Block)
  /-- The end of a stylesheet in which no block opens. -/
  | stray (text : Text)
deriving DecidableEq, Repr

namespace Piece

/-- The text that a piece was cut from. -/
def text : Piece → Text
  | blank t => t
  | statement head => head.text
  | atBlock head block => head.text ++ block.text
  | rule selector block => selector ++ '{' :: block.text
  | stray t => t

/-- The at-rule at the front of the text, if there is one. -/
def readAtRule? : Text → Option (Piece × Text)
  | '@' :: s =>
    (AtHead.read? s).map fun (head, s) =>
      if head.opensBlock then
        let (block, rest) := Block.read 0 s
        (.atBlock head block, rest)
      else (.statement head, s)
  | _ => none

/-- The rule at the front of the text, or the whole text as stray where no block opens. -/
def readRule (s : Text) : Piece × Text :=
  match Text.cut? '{' s with
  | some (selector, s) =>
    let (block, rest) := Block.read 0 s
    (.rule selector block, rest)
  | none => (.stray s, [])

/-- The first piece of a text that is not empty. -/
def read (c : Char) (s : Text) : Piece × Text :=
  if Text.isBlank c then (.blank (c :: s.takeWhile Text.isBlank), s.dropWhile Text.isBlank)
  else (readAtRule? (c :: s)).getD (readRule (c :: s))

theorem text_readAtRule? {s rest : Text} {p : Piece} (h : readAtRule? s = some (p, rest)) :
    p.text ++ rest = s := by
  unfold readAtRule? at h
  split at h
  · simp only [Option.map_eq_some_iff, Prod.exists] at h
    obtain ⟨head, tail, hhead, h⟩ := h
    rw [← AtHead.text_of_read? hhead]
    split at h
    · cases h
      simp [text, List.append_assoc, Block.text_read]
    · cases h
      rfl
  · cases h

theorem text_readRule (s : Text) : (readRule s).1.text ++ (readRule s).2 = s := by
  unfold readRule
  split
  · next selector tail h =>
    rw [(Text.cut?_eq_some_iff.1 h).1]
    simp [text, Block.text_read]
  · simp [text]

/-- Reading a piece loses nothing. -/
theorem text_read (c : Char) (s : Text) : (read c s).1.text ++ (read c s).2 = c :: s := by
  unfold read
  split
  · simp [text, List.takeWhile_append_dropWhile]
  · cases h : readAtRule? (c :: s) with
    | none => exact text_readRule (c :: s)
    | some r => exact text_readAtRule? h

/-- No piece is empty. -/
theorem text_read_ne_nil (c : Char) (s : Text) : (read c s).1.text ≠ [] := by
  unfold read
  split
  · simp [text]
  · cases h : readAtRule? (c :: s) with
    | some r =>
      simp only [readAtRule?] at h
      split at h
      · simp only [Option.map_eq_some_iff, Prod.exists] at h
        obtain ⟨head, tail, -, h⟩ := h
        split at h <;> cases h <;> simp [text, AtHead.text]
      · cases h
    | none =>
      simp only [Option.getD_none]
      unfold readRule
      split <;> simp [text]

/-- Every piece takes something. -/
theorem length_read_lt (c : Char) (s : Text) : (read c s).2.length < (c :: s).length := by
  have h := congrArg List.length (text_read c s)
  have hpos := List.length_pos_iff.2 (text_read_ne_nil c s)
  rw [List.length_append] at h
  omega

end Piece

/-- The stylesheet cut into pieces. -/
def pieces : Text → List Piece
  | [] => []
  | c :: s =>
    let first := Piece.read c s
    first.1 :: pieces first.2
termination_by s => s.length
decreasing_by exact Piece.length_read_lt c s

/-- The pieces are the whole stylesheet. -/
theorem text_pieces (s : Text) : (pieces s).flatMap Piece.text = s := by
  fun_induction pieces s with
  | case1 => rfl
  | case2 c s first ih => rw [List.flatMap_cons, ih, Piece.text_read]

end NativeStyle.Stylesheet
