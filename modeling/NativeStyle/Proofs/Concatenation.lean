import NativeStyle.Proofs.Braces
import NativeStyle.Proofs.Runs
import Mathlib.Data.List.TakeWhile

/-!
# Stylesheets end to end

A stylesheet is *closed* when its cut into pieces comes to the end of the text with every block
closed and no stray text left. What stands in front of such an end is read in the same way
whatever follows: heads of at-rules and selectors end inside the text, and so do their blocks.
Only blanks at the end run together with what follows, and blanks are no node.

Main results:
- `split_append` (the nodes of a closed stylesheet and of any text behind it),
- `adapt_append_of_closed` (what becomes of the two, with records and failures).
-/

namespace NativeStyle.Stylesheet

/-! ## Closed stylesheets -/

/-- Whether the piece ends where its text ends. -/
def Piece.isClosed : Piece → Bool
  | .blank _ | .statement _ => true
  | .atBlock _ block | .rule _ block => block.closed
  | .stray _ => false

/-- Whether the stylesheet ends outside of blocks and selectors. -/
def isClosed (css : Text) : Bool :=
  (pieces css).all Piece.isClosed

/-! ## Stretches of a text that end inside it -/

private theorem takeWhile_append_of_stops {p : Char → Bool} {s : Text} (h : s.dropWhile p ≠ [])
    (t : Text) : (s ++ t).takeWhile p = s.takeWhile p := by
  -- The stretch is shorter than the text, since something is left behind it.
  rw [List.takeWhile_append, if_neg]
  intro hlength
  have hall := List.takeWhile_append_dropWhile (p := p) (l := s)
  have := congrArg List.length hall
  rw [List.length_append] at this
  exact h (List.length_eq_zero_iff.1 (by omega))

private theorem dropWhile_append_of_stops {p : Char → Bool} {s : Text} (h : s.dropWhile p ≠ [])
    (t : Text) : (s ++ t).dropWhile p = s.dropWhile p ++ t := by
  rw [List.dropWhile_append, if_neg]
  simpa using h

/-- A stretch stops at the latest before a character that does not belong to it. -/
theorem mem_dropWhile_of_mem {p : Char → Bool} {c : Char} {s : Text} (hc : p c = false)
    (hmem : c ∈ s) : c ∈ s.dropWhile p := by
  rw [← List.takeWhile_append_dropWhile (p := p) (l := s)] at hmem
  -- The character is in one of the two parts, and the first has only others.
  rcases List.mem_append.1 hmem with hin | hin
  · have := List.all_eq_true.1 List.all_takeWhile c hin
    rw [hc] at this
    cases this
  · exact hin

/-! ## Heads of at-rules -/

namespace AtHead

theorem readName?_hyphen (c : Char) (s : Text) :
    readName? ('-' :: c :: s) =
      if Text.isWord c then
        some ('-' :: c :: s.takeWhile Text.isNameChar, s.dropWhile Text.isNameChar)
      else none := rfl

theorem readName?_cons {c : Char} (hc : c ≠ '-') (s : Text) :
    readName? (c :: s) =
      if Text.isWord c then some (c :: s.takeWhile Text.isNameChar, s.dropWhile Text.isNameChar)
      else none := by
  simp [readName?, hc]

theorem readName?_lone_hyphen : readName? ['-'] = none := by
  decide

theorem readName?_append {s name rest : Text} (h : readName? s = some (name, rest))
    (hrest : rest ≠ []) (t : Text) : readName? (s ++ t) = some (name, rest ++ t) := by
  cases s with
  | nil => cases h
  | cons c s =>
    -- With a hyphen in front the name starts one character later.
    by_cases hc : c = '-'
    · subst hc
      cases s with
      | nil => rw [readName?_lone_hyphen] at h; cases h
      | cons d s =>
        rw [readName?_hyphen] at h
        split at h <;> cases h
        next hword =>
          rw [List.cons_append, List.cons_append, readName?_hyphen, if_pos hword,
            takeWhile_append_of_stops hrest, dropWhile_append_of_stops hrest]
    · rw [readName?_cons hc] at h
      split at h <;> cases h
      next hword =>
        rw [List.cons_append, readName?_cons hc, if_pos hword,
          takeWhile_append_of_stops hrest, dropWhile_append_of_stops hrest]

/-- A text with a brace has shown by then that it starts with no name. -/
theorem readName?_append_eq_none {s : Text} (h : readName? s = none) (hbrace : '{' ∈ s)
    (t : Text) : readName? (s ++ t) = none := by
  cases s with
  | nil => cases hbrace
  | cons c s =>
    by_cases hc : c = '-'
    · subst hc
      cases s with
      | nil => exact absurd hbrace (by decide)
      | cons d s =>
        rw [readName?_hyphen] at h
        rw [List.cons_append, List.cons_append, readName?_hyphen]
        split at h
        · cases h
        · next hword => rw [if_neg hword]
    · rw [readName?_cons hc] at h
      rw [List.cons_append, readName?_cons hc]
      split at h
      · cases h
      · next hword => rw [if_neg hword]

theorem read?_append {s rest : Text} {head : AtHead} (h : read? s = some (head, rest)) (t : Text) :
    read? (s ++ t) = some (head, rest ++ t) := by
  simp only [read?, Option.bind_eq_some_iff, Prod.exists] at h
  obtain ⟨name, tail, hname, h⟩ := h
  split at h
  · cases h
  · next c behind hdrop =>
    simp only [Option.some.injEq, Prod.mk.injEq] at h
    obtain ⟨rfl, rfl⟩ := h
    -- The parameters stop inside the text, so what is appended does not reach them.
    have hstop : tail.dropWhile isParam ≠ [] := by rw [hdrop]; simp
    have htail : tail ≠ [] := by rintro rfl; exact hstop rfl
    rw [read?, readName?_append hname htail]
    simp only [Option.bind_some, dropWhile_append_of_stops hstop,
      takeWhile_append_of_stops hstop, hdrop, List.cons_append]

theorem isNameChar_of_readName? {s name rest : Text} (h : readName? s = some (name, rest)) :
    ∀ c ∈ name, Text.isNameChar c = true := by
  have hstretch (t : Text) : ∀ c ∈ t.takeWhile Text.isNameChar, Text.isNameChar c = true :=
    List.all_eq_true.1 List.all_takeWhile
  unfold readName? at h
  -- The three ways to read a name: behind a hyphen, without one, and not at all.
  split at h
  · split at h <;> cases h
    next hword =>
      intro c hc
      rcases List.mem_cons.1 hc with rfl | hc
      · decide
      · rcases List.mem_cons.1 hc with rfl | hc
        · simp [Text.isNameChar, hword]
        · exact hstretch _ c hc
  · split at h <;> cases h
    next hword =>
      intro c hc
      rcases List.mem_cons.1 hc with rfl | hc
      · simp [Text.isNameChar, hword]
      · exact hstretch _ c hc
  · cases h

/-- Only the name decides whether a text with a brace starts with a head. -/
theorem readName?_eq_none_of_read? {s : Text} (h : read? s = none) (hbrace : '{' ∈ s) :
    readName? s = none := by
  cases hname : readName? s with
  | none => rfl
  | some r =>
    obtain ⟨name, tail⟩ := r
    -- The brace is no part of the name, so the parameters stop at it.
    have htail : '{' ∈ tail := by
      rw [← readName?_eq_some hname] at hbrace
      rcases List.mem_append.1 hbrace with hin | hin
      · exact absurd (isNameChar_of_readName? hname _ hin) (by decide)
      · exact hin
    have hstop : '{' ∈ tail.dropWhile isParam := mem_dropWhile_of_mem (by decide) htail
    rw [read?, hname] at h
    simp only [Option.bind_some] at h
    split at h
    · next hnil => rw [hnil] at hstop; cases hstop
    · cases h

theorem read?_append_eq_none {s : Text} (h : read? s = none) (hbrace : '{' ∈ s) (t : Text) :
    read? (s ++ t) = none := by
  rw [read?, readName?_append_eq_none (readName?_eq_none_of_read? h hbrace) hbrace]
  rfl

end AtHead

/-! ## Pieces -/

namespace Piece

theorem readAtRule?_append {s rest : Text} {p : Piece} (h : readAtRule? s = some (p, rest))
    (hp : p.isClosed = true) (t : Text) : readAtRule? (s ++ t) = some (p, rest ++ t) := by
  unfold readAtRule? at h
  split at h
  · next s =>
    simp only [Option.map_eq_some_iff, Prod.exists] at h
    obtain ⟨head, tail, hhead, h⟩ := h
    simp only [List.cons_append, readAtRule?, AtHead.read?_append hhead t, Option.map_some]
    -- A block that opens is closed by hypothesis; a statement ends with its semicolon.
    split at h
    · next hopens =>
      cases h
      rw [if_pos hopens, Block.read_append_of_closed hp]
    · next hopens =>
      cases h
      rw [if_neg hopens]
  · cases h

theorem readAtRule?_append_eq_none {s : Text} (h : readAtRule? s = none) (hbrace : '{' ∈ s)
    (t : Text) : readAtRule? (s ++ t) = none := by
  cases s with
  | nil => cases hbrace
  | cons c s =>
    by_cases hc : c = '@'
    · subst hc
      have hread : AtHead.read? s = none := by simpa [readAtRule?] using h
      have hin : '{' ∈ s := by simpa using hbrace
      simp only [List.cons_append, readAtRule?, AtHead.read?_append_eq_none hread hin t,
        Option.map_none]
    · simp [readAtRule?, hc]

theorem readRule_append {s : Text} (h : (readRule s).1.isClosed = true) (t : Text) :
    '{' ∈ s ∧ readRule (s ++ t) = ((readRule s).1, (readRule s).2 ++ t) := by
  cases hcut : Text.cut? '{' s with
  | none =>
    rw [readRule, hcut] at h
    cases h
  | some r =>
    obtain ⟨selector, tail⟩ := r
    obtain ⟨rfl, hselector⟩ := Text.cut?_eq_some_iff.1 hcut
    -- The first brace is in the text itself.
    have hcut' : Text.cut? '{' (selector ++ '{' :: tail ++ t) = some (selector, tail ++ t) :=
      Text.cut?_eq_some_iff.2 ⟨by simp, hselector⟩
    simp only [readRule, hcut] at h
    refine ⟨by simp, ?_⟩
    simp only [readRule, hcut, hcut', Block.read_append_of_closed h]

/-- A closed piece is read in the same way whatever follows; only a stretch of blanks must have
something behind it that is no blank. -/
theorem read_append {c : Char} {s : Text} (h : (read c s).1.isClosed = true)
    (hblank : Text.isBlank c = true → s.dropWhile Text.isBlank ≠ []) (t : Text) :
    read c (s ++ t) = ((read c s).1, (read c s).2 ++ t) := by
  unfold read at h ⊢
  split
  · next hc =>
    rw [takeWhile_append_of_stops (hblank hc), dropWhile_append_of_stops (hblank hc)]
  · next hc =>
    rw [if_neg hc] at h
    -- An at-rule stays one; what is none has a brace and stays none.
    cases hat : readAtRule? (c :: s) with
    | some r =>
      rw [hat] at h
      rw [← List.cons_append, readAtRule?_append hat h t]
      rfl
    | none =>
      rw [hat] at h
      obtain ⟨hbrace, hrule⟩ := readRule_append h t
      rw [← List.cons_append, readAtRule?_append_eq_none hat hbrace t, Option.getD_none, hrule]
      rfl

end Piece

/-! ## Nodes -/

@[simp] theorem split_nil : split [] = [] := by
  simp [split, pieces]

theorem split_cons (c : Char) (s : Text) :
    split (c :: s) = (Piece.read c s).1.node?.toList ++ split (Piece.read c s).2 := by
  rw [split, pieces]
  simp only [List.filterMap_cons]
  cases (Piece.read c s).1.node? <;> rfl

/-- Blanks at the front are no node. -/
theorem split_dropWhile_isBlank (s : Text) : split (s.dropWhile Text.isBlank) = split s := by
  cases s with
  | nil => simp
  | cons c s =>
    cases hc : Text.isBlank c with
    | false => rw [List.dropWhile_cons_of_neg (by simp [hc])]
    | true =>
      rw [List.dropWhile_cons_of_pos hc, split_cons, Piece.read, if_pos hc]
      rfl

theorem split_blanks_append {blanks : Text} (h : ∀ c ∈ blanks, Text.isBlank c = true) (s : Text) :
    split (blanks ++ s) = split s := by
  rw [← split_dropWhile_isBlank (blanks ++ s), List.dropWhile_append_of_pos h,
    split_dropWhile_isBlank]

/-- The nodes of a closed stylesheet with any text behind it are the nodes of the one and the
nodes of the other. -/
theorem split_append {a : Text} (h : isClosed a = true) (b : Text) :
    split (a ++ b) = split a ++ split b := by
  induction hn : a.length using Nat.strongRecOn generalizing a with
  | ind n ih =>
    cases a with
    | nil => simp
    | cons c s =>
      simp only [isClosed, pieces, List.all_cons, Bool.and_eq_true] at h
      by_cases hblank : Text.isBlank c = true ∧ s.dropWhile Text.isBlank = []
      · -- Nothing but blanks is left; they go together with those of `b`.
        obtain ⟨hc, hs⟩ := hblank
        have hall : ∀ d ∈ c :: s, Text.isBlank d = true := by
          intro d hd
          rcases List.mem_cons.1 hd with rfl | hd
          · exact hc
          · exact List.dropWhile_eq_nil_iff.1 hs d hd
        have hnone := split_blanks_append hall []
        rw [List.append_nil, split_nil] at hnone
        rw [split_blanks_append hall, hnone, List.nil_append]
      · -- One piece is read as before, and the induction goes on behind it.
        have hread := Piece.read_append h.1 (fun hc hs => hblank ⟨hc, hs⟩) b
        rw [List.cons_append, split_cons, hread, split_cons, List.append_assoc,
          ih _ (hn ▸ Piece.length_read_lt c s) h.2 rfl]

end NativeStyle.Stylesheet

namespace NativeStyle

open Stylesheet (split isClosed)

/-! ## Adapting two stylesheets -/

/-- What becomes of a closed stylesheet and a text behind it, in one run: the two runs one after
the other, with the texts that are not empty joined by a blank line. -/
theorem adaptSheet_append {a : Text} (h : isClosed a = true) (b : Text) (options : Options)
    (depth : Int) :
    adaptSheet options depth (a ++ b) = (do
      let first ← adaptSheet options depth a
      let second ← adaptSheet options depth b
      return Text.join fragmentSeparator ([first, second].filter (· ≠ []))) := by
  simp only [adaptSheet_eq, Stylesheet.split_append h, List.map_append]
  apply joinFragments_append
  · intro x hx
    obtain ⟨node, -, rfl⟩ := List.mem_map.1 hx
    exact adaptNode_noEmptyText options depth node
  · intro x hx
    obtain ⟨node, -, rfl⟩ := List.mem_map.1 hx
    exact adaptNode_noEmptyText options depth node

end NativeStyle
