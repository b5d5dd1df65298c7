import NativeStyle.Proofs.Lookahead
import Mathlib.Algebra.GroupWithZero.Nat

/-!
# Where a text is rejected

A rejection names a place by its line and its column, and the place is one of the text: counting
lines and characters leads back to the offset (`Position.offset_ofRest`). What stands in front of it
is the beginning of an animation. The lexemes there are read as they are if the text goes on in
another way, and every state that they lead to can be completed by what it waits for: the rest of a
call, or a first term (`State.readsAs_completion`).

Main results:
- `Position.denotes_ofRest` (a place and its offset),
- `State.Lexes.exists_continuation` (what is in front of a rejection can be continued),
- `rejected_behind_viable_front` (both kinds of rejections).
-/

namespace NativeStyle.Animation

/-! ## Places and offsets -/

/-- The offset of a place: all of the lines in front of it with their line feeds, and the characters
in front of it in its own line. -/
def Position.offset (s : Text) (place : Position) : Nat :=
  (((s.splitOn '\n').take (place.line - 1)).map (·.length + 1)).sum + (place.column - 1)

/-- The place and the offset are the same point of the text, whichever of them it is counted
from. -/
structure Position.Denotes (s : Text) (place : Position) (offset : Nat) : Prop where
  inside : offset ≤ s.length
  offset_eq : place.offset s = offset
  place_eq : place = .ofRest s (s.drop offset)

private theorem Position.ofRest_append (before rest : Text) :
    ofRest (before ++ rest) rest =
      ⟨before.count '\n' + 1, (before.reverse.takeWhile (· ≠ '\n')).length + 1⟩ := by
  have htake : (before ++ rest).take ((before ++ rest).length - rest.length) = before := by
    rw [List.length_append, Nat.add_sub_cancel, List.take_left]
  rw [ofRest, htake]

/-- Counting lines and characters up to a place leads to its offset. -/
theorem Position.offset_ofRest (before rest : Text) :
    (ofRest (before ++ rest) rest).offset (before ++ rest) = before.length := by
  induction hn : before.length using Nat.strongRecOn generalizing before with
  | ind n ih =>
    rw [ofRest_append]
    cases hcut : Text.cut? '\n' before with
    | none =>
      -- The place is in the first line.
      have hline := Text.cut?_eq_none_iff.1 hcut
      have hall : ∀ c ∈ before.reverse, c ≠ '\n' := by
        rintro c hc rfl
        exact hline (List.mem_reverse.1 hc)
      have htake : before.reverse.takeWhile (· ≠ '\n') = before.reverse :=
        List.takeWhile_eq_self_iff.2 (by simpa using hall)
      rw [htake, List.count_eq_zero.2 hline]
      simp [offset, hn]
    | some r =>
      -- The first line counts as a whole, and the place is counted from the next one on.
      obtain ⟨line, more⟩ := r
      obtain ⟨rfl, hline⟩ := Text.cut?_eq_some_iff.1 hcut
      have hmore := ih more.length (by simp [← hn]; omega) more rfl
      rw [ofRest_append] at hmore
      have hsplit : (line ++ '\n' :: more ++ rest).splitOn '\n' =
          line :: (more ++ rest).splitOn '\n' := by
        rw [List.append_assoc, List.cons_append, List.splitOn_append_cons_self,
          List.splitOn_eq_singleton hline, List.singleton_append]
      have hcolumn : (line ++ '\n' :: more).reverse.takeWhile (· ≠ '\n') =
          more.reverse.takeWhile (· ≠ '\n') := by
        rw [List.reverse_append, List.reverse_cons, List.append_assoc]
        exact Text.takeWhile_append_cons (by simp) _ _
      rw [hcolumn, List.count_append, List.count_cons_self, List.count_eq_zero.2 hline]
      simp only [offset, hsplit] at hmore ⊢
      simp [← hn] at hmore ⊢
      omega

theorem Position.denotes_ofRest (before rest : Text) :
    Denotes (before ++ rest) (ofRest (before ++ rest) rest) before.length where
  inside := by simp
  offset_eq := offset_ofRest before rest
  place_eq := by rw [List.drop_left]

/-! ## Completions -/

/-- The text is an animation for the grammar, whatever becomes of its terms. -/
def Accepted (s : Text) : Prop :=
  ∃ read, terms s = .ok read

/-- What a state waits for: a first term, or the rest of a call. -/
def State.completion : State → Text
  | .between [] => "a".toList
  | .between (_ :: _) => []
  | .named _ _ => "(a)".toList
  | .inCall _ _ _ [] => "a)".toList
  | .inCall _ _ _ (_ :: _) => ")".toList

private theorem readsAs_nil {found : List Term} (hne : found ≠ []) :
    (State.between found).ReadsAs [] found := by
  intro last
  obtain ⟨term, others, rfl⟩ := List.exists_cons_of_ne_nil hne
  rw [readFrom_eq]
  rfl

private theorem spells_a : Kind.ident.Spells ['a'] :=
  (Kind.spells_iff (by decide)).2 (by decide)

/-- A call whose last argument has begun is closed by its parenthesis. -/
private theorem readsAs_closing (found : List Term) (name : Text) (arguments : List (List Text))
    (t : Text) (current : List Text) :
    ∃ read, (State.inCall found name arguments (t :: current)).ReadsAs [')'] read := by
  have hclosed : (State.between (found ++ [.call name (arguments ++ [t :: current])])).ReadsAs []
      (found ++ [.call name (arguments ++ [t :: current])]) :=
    readsAs_nil (by simp)
  exact ⟨_, State.ReadsAs.lexeme_append (k := .closing) (t := [')']) hclosed
    (by simp [State.accepts]) .closing trivial⟩

private theorem readsAs_opened (found : List Term) (name : Text) (arguments : List (List Text)) :
    ∃ read, (State.inCall found name arguments []).ReadsAs ['a', ')'] read := by
  obtain ⟨read, hread⟩ := readsAs_closing found name arguments ['a'] []
  have hends : Kind.ident.EndsAt [')'] := by simp [Kind.EndsAt, Ends, endsLexeme]
  exact ⟨read, State.ReadsAs.lexeme_append (k := .ident) (t := ['a']) hread
    (by simp [State.accepts]) spells_a (hends.stopsAt _)⟩

/-- Every state reads the text that it waits for to the end. -/
theorem State.readsAs_completion (state : State) : ∃ read, state.ReadsAs state.completion read := by
  cases state with
  | between found =>
    cases found with
    | nil =>
      have hends : Kind.ident.EndsAt [] := ends_nil
      have hkeyword : (between [.keyword ['a']]).ReadsAs [] [.keyword ['a']] :=
        readsAs_nil (by simp)
      exact ⟨_, ReadsAs.lexeme_append (k := .ident) (t := ['a']) hkeyword (by simp [accepts])
        spells_a (hends.stopsAt _)⟩
    | cons term found => exact ⟨_, readsAs_nil (List.cons_ne_nil term found)⟩
  | named found name =>
    obtain ⟨read, hread⟩ := readsAs_opened found name []
    exact ⟨read, ReadsAs.lexeme_append (k := .opening) (t := ['(']) hread (by simp [accepts])
      .opening trivial⟩
  | inCall found name arguments current =>
    cases current with
    | nil => exact readsAs_opened found name arguments
    | cons t current => exact readsAs_closing found name arguments t current

/-- A lexeme stops at what the state behind it waits for, with gaps in front of that unless the
lexeme is the name of a function. -/
theorem State.stopsAt_completion {state : State} {l : Lexeme} {gap : Text}
    (hkind : l.kind ∈ state.accepts) (hgap : IsGaps gap)
    (hname : l.kind = .functionName → gap = []) :
    l.kind.StopsAt l.text (gap ++ (state.push l).completion) := by
  obtain ⟨kind, t⟩ := l
  have hclosing : Ends (gap ++ [')']) :=
    Ends.gap_append (by simp [Ends, endsLexeme]) hgap
  have hend : Ends (gap ++ []) := ends_nil.gap_append hgap
  cases state with
  | between found =>
    have hterm (term : Term) : (between (found ++ [term])).completion = [] := by
      cases found <;> rfl
    simp only [accepts, List.mem_cons, List.not_mem_nil, or_false] at hkind
    rcases hkind with rfl | rfl | rfl | rfl | rfl
    · rw [hname rfl]
      rfl
    · exact Kind.EndsAt.stopsAt (hterm (.time t) ▸ hend) t
    · exact Kind.EndsAt.stopsAt (hterm (.number t) ▸ hend) t
    · exact Kind.EndsAt.stopsAt (hterm (.keyword t) ▸ hend) t
    · trivial
  | named found name =>
    rw [List.mem_singleton.1 hkind]
    trivial
  | inCall found name arguments current =>
    have hargument : (inCall found name arguments (current ++ [t])).completion = [')'] := by
      cases current <;> rfl
    cases kind with
    | number => exact Kind.EndsAt.stopsAt (hargument ▸ hclosing) t
    | ident => exact Kind.EndsAt.stopsAt (hargument ▸ hclosing) t
    | percent => trivial
    | comma => trivial
    | closing => trivial
    | functionName => cases current <;> simp [accepts] at hkind
    | time => cases current <;> simp [accepts] at hkind
    | string => cases current <;> simp [accepts] at hkind
    | opening => cases current <;> simp [accepts] at hkind

/-- Lexemes with the gaps behind them are the beginning of an animation. -/
theorem State.Lexes.exists_continuation {front behind : Text} {lexemes : List Lexeme}
    {final : State} (h : Lexes behind (.between []) front lexemes final) :
    ∃ u, Accepted (front ++ behind.takeWhile isGap ++ u) := by
  have hgap : IsGaps (behind.takeWhile isGap) := List.all_eq_true.1 List.all_takeWhile
  obtain ⟨read, hread⟩ := final.readsAs_completion
  refine ⟨final.completion, read, ?_⟩
  rw [List.append_assoc]
  refine h.readsAs ?_ (hread.gap_append hgap) _
  intro l hl
  obtain ⟨before, previous, -, rfl, hlast⟩ := h.exists_last hl
  apply State.stopsAt_completion (State.accepts_of_read? hlast).1 hgap
  -- Behind the name of a function its parenthesis stands, and no gap.
  intro hname
  have hparen := (Kind.spells_of_read? (State.read?_eq_some hlast)).2
  rw [hname] at hparen
  obtain ⟨more, rfl⟩ := List.head?_eq_some_iff.1 hparen
  rfl

/-! ## Rejections -/

theorem parse_of_terms_eq_error {s : Text} {r : Rejection} (h : terms s = .error r) :
    parse s = .error (.rejected r) := by
  rw [parse, h]
  rfl

/-- **A rejection marks the end of a viable beginning.** Where something unexpected stands, the
place of the rejection is that of an offset inside the text, and what stands in front of it can be
continued to an animation. A text that ends too early can be continued as a whole; the place is the
start of its last lexeme, or the first one of all if the text has no lexeme. -/
theorem rejected_behind_viable_front {s : Text} {r : Rejection} (h : terms s = .error r) :
    parse s = .error (.rejected r) ∧
      (∀ rest, r = .unexpected rest → ∃ p < s.length, (r.position s).Denotes s p ∧
        ∃ u, Accepted (s.take p ++ u)) ∧
      ∀ start, r = .incomplete start → (∃ u, Accepted (s ++ u)) ∧
        (IsGaps s ∧ r.position s = ⟨1, 1⟩ ∨
          ∃ before last behind lexemes final, s = before ++ (last.text ++ behind) ∧
            State.Lexes behind (.between []) (before ++ last.text) (lexemes ++ [last]) final ∧
            IsGaps behind ∧ (r.position s).Denotes s before.length) := by
  refine ⟨parse_of_terms_eq_error h, ?_, ?_⟩
  · rintro rest rfl
    obtain ⟨front, behind, lexemes, final, rfl, hlexes, rfl, hne⟩ := exists_lexes_of_readFrom h
    have hsplit : front ++ behind =
        front ++ behind.takeWhile isGap ++ behind.dropWhile isGap := by
      rw [List.append_assoc, List.takeWhile_append_dropWhile]
    refine ⟨(front ++ behind.takeWhile isGap).length, ?_, ?_, ?_⟩
    · have hpos := List.length_pos_iff.2 hne
      have hlength := congrArg List.length hsplit
      have htotal : (front ++ behind.takeWhile isGap ++ behind.dropWhile isGap).length =
          (front ++ behind.takeWhile isGap).length + (behind.dropWhile isGap).length :=
        List.length_append
      omega
    · rw [hsplit]
      exact Position.denotes_ofRest _ _
    · rw [hsplit, List.take_left]
      exact hlexes.exists_continuation
  · rintro start rfl
    obtain ⟨front, behind, lexemes, final, rfl, hlexes, hgaps, rfl⟩ := exists_lexes_of_readFrom h
    refine ⟨?_, ?_⟩
    · have htake : behind.takeWhile isGap = behind := List.takeWhile_eq_self_iff.2 hgaps
      have hcontinued := hlexes.exists_continuation
      rwa [htake] at hcontinued
    · rcases List.eq_nil_or_concat lexemes with rfl | ⟨lexemes, last, rfl⟩
      · cases hlexes
        left
        exact ⟨hgaps, by simp [Rejection.position, Position.ofRest]⟩
      · rw [List.concat_eq_append] at hlexes ⊢
        obtain ⟨before, previous, rfl, -, -⟩ := hlexes.exists_last (l := last) (by simp)
        right
        refine ⟨before, last, behind, lexemes, final, by simp, hlexes, hgaps, ?_⟩
        have hdenotes := Position.denotes_ofRest before (last.text ++ behind)
        simpa [Rejection.position] using hdenotes

/-- A number that has fallen back to the digit in front of its point is still read where the text
ends behind it; and a call that ends behind a comma. -/
theorem rejected_behind_viable_front_fallback :
    terms "spin\n 1.5px".toList = .error (.unexpected ".5px".toList) ∧
      (Rejection.unexpected ".5px".toList).position "spin\n 1.5px".toList = ⟨2, 3⟩ ∧
      (∃ u, Accepted ("spin\n 1".toList ++ u)) ∧
      terms "a steps(2 ,\n".toList = .error (.incomplete ",\n".toList) ∧
      (Rejection.incomplete ",\n".toList).position "a steps(2 ,\n".toList = ⟨1, 11⟩ ∧
      ∃ u, Accepted ("a steps(2 ,\n".toList ++ u) := by
  have hterms : terms "spin\n 1.5px".toList = .error (.unexpected ".5px".toList) := by
    decide +kernel
  have hposition :
      (Rejection.unexpected ".5px".toList).position "spin\n 1.5px".toList = ⟨2, 3⟩ := by
    decide
  have hending : terms "a steps(2 ,\n".toList = .error (.incomplete ",\n".toList) := by
    decide +kernel
  obtain ⟨p, -, hdenotes, hcontinued⟩ :=
    (rejected_behind_viable_front hterms).2.1 ".5px".toList rfl
  have hp : p = 7 := by
    rw [← hdenotes.offset_eq, hposition]
    decide
  rw [hp] at hcontinued
  exact ⟨hterms, hposition, hcontinued, hending, by decide,
    ((rejected_behind_viable_front hending).2.2 ",\n".toList rfl).1⟩

end NativeStyle.Animation
