import NativeStyle.Text.Basic

/-!
# Patterns and substitution

A pattern reads what it looks for at the front of a text. Cutting a text by a pattern goes from
left to right: where the pattern reads, its match is cut out and the cut goes on behind it;
elsewhere one character passes. Matches therefore never overlap, and the leftmost wins.

Main statements: `text_cut` (a cut loses nothing), `cut_eq_plain_iff` (a text passes unchanged
exactly where the pattern reads at none of its suffixes).
-/

namespace NativeStyle

/-- A reader of matches, each of which spells a non-empty beginning of the text. -/
structure Pattern (α : Type) where
  read? : Text → Option (α × Text)
  spelling : α → Text
  read?_spelling : ∀ {s a rest}, read? s = some (a, rest) → s = spelling a ++ rest
  spelling_ne_nil : ∀ {s a rest}, read? s = some (a, rest) → spelling a ≠ []

/-- A stretch of a text that has been cut by a pattern. -/
inductive Stretch (α : Type) where
  | plain (c : Char)
  | found (a : α)
deriving DecidableEq, Repr

namespace Pattern

variable {α : Type}

/-- A match leaves less to read. -/
theorem length_rest_lt (p : Pattern α) {s : Text} {a : α} {rest : Text}
    (h : p.read? s = some (a, rest)) : rest.length < s.length := by
  have hs := p.read?_spelling h
  have hpos := List.length_pos_iff.2 (p.spelling_ne_nil h)
  rw [hs, List.length_append]
  omega

/-- The text cut into matches and single characters between them. -/
def cut (p : Pattern α) : Text → List (Stretch α)
  | [] => []
  | c :: rest =>
    match _h : p.read? (c :: rest) with
    | some (a, behind) => .found a :: p.cut behind
    | none => .plain c :: p.cut rest
termination_by s => s.length
decreasing_by
  · exact p.length_rest_lt ‹_›
  · exact Nat.lt_succ_self _

/-- The text of a stretch. -/
def stretchText (p : Pattern α) : Stretch α → Text
  | .plain c => [c]
  | .found a => p.spelling a

/-- The text with every match replaced. -/
def substitute (p : Pattern α) (replacement : α → Text) (s : Text) : Text :=
  (p.cut s).flatMap fun
    | .plain c => [c]
    | .found a => replacement a

/-- The matches from left to right. -/
def found (p : Pattern α) (s : Text) : List α :=
  (p.cut s).filterMap fun
    | .plain _ => none
    | .found a => some a

/-! ## Laws of cutting -/

theorem read?_nil (p : Pattern α) : p.read? [] = none := by
  cases h : p.read? [] with
  | none => rfl
  | some r => exact absurd (p.length_rest_lt h) (by simp)

theorem cut_nil (p : Pattern α) : p.cut [] = [] := by
  rw [cut]

theorem cut_of_read? (p : Pattern α) {s : Text} {a : α} {rest : Text}
    (h : p.read? s = some (a, rest)) : p.cut s = .found a :: p.cut rest := by
  cases s with
  | nil => rw [p.read?_nil] at h; cases h
  | cons c s =>
    rw [cut]
    split
    · next h' => rw [h] at h'; cases h'; rfl
    · next h' => rw [h] at h'; cases h'

theorem cut_cons_of_read?_eq_none (p : Pattern α) {c : Char} {rest : Text}
    (h : p.read? (c :: rest) = none) : p.cut (c :: rest) = .plain c :: p.cut rest := by
  rw [cut]
  split
  · next h' => rw [h] at h'; cases h'
  · rfl

/-- A cut loses nothing. -/
theorem text_cut (p : Pattern α) (s : Text) : (p.cut s).flatMap p.stretchText = s := by
  induction hn : s.length using Nat.strongRecOn generalizing s with
  | ind n ih =>
    cases h : p.read? s with
    | some r =>
      obtain ⟨a, rest⟩ := r
      rw [p.cut_of_read? h, List.flatMap_cons,
        ih rest.length (hn ▸ p.length_rest_lt h) rest rfl]
      exact (p.read?_spelling h).symm
    | none =>
      cases s with
      | nil => simp [p.cut_nil]
      | cons c rest =>
        rw [p.cut_cons_of_read?_eq_none h, List.flatMap_cons,
          ih rest.length (by simp [← hn]) rest rfl]
        rfl

/-- A text passes unchanged exactly where the pattern reads at none of its suffixes. -/
theorem cut_eq_plain_iff (p : Pattern α) {s : Text} :
    p.cut s = s.map .plain ↔ ∀ t, t <:+ s → p.read? t = none := by
  induction s with
  | nil => simp [p.cut_nil, p.read?_nil]
  | cons c rest ih =>
    cases h : p.read? (c :: rest) with
    | some r =>
      rw [p.cut_of_read? h]
      simp only [List.map_cons, List.cons.injEq, reduceCtorEq, false_and, false_iff]
      intro hall
      rw [hall (c :: rest) (List.suffix_refl _)] at h
      cases h
    | none =>
      rw [p.cut_cons_of_read?_eq_none h]
      simp [ih, List.suffix_cons_iff, h]

/-- Where the pattern reads at none of its suffixes, a text stays. -/
theorem substitute_eq_self (p : Pattern α) {replacement : α → Text} {s : Text}
    (h : ∀ t, t <:+ s → p.read? t = none) : p.substitute replacement s = s := by
  rw [substitute, p.cut_eq_plain_iff.2 h, List.flatMap_map]
  simp

/-! ## Literal patterns -/

/-- The pattern that looks for the first of some fixed texts that stands at the front. -/
def literals (needles : List Text) (hne : [] ∉ needles) : Pattern Text where
  read? s := needles.findSome? fun needle => (Text.after? needle s).map (needle, ·)
  spelling needle := needle
  read?_spelling h := by
    obtain ⟨needle, -, h⟩ := List.exists_of_findSome?_eq_some h
    simp only [Option.map_eq_some_iff, Prod.mk.injEq] at h
    obtain ⟨rest, hrest, rfl, rfl⟩ := h
    exact Text.after?_eq_some_iff.1 hrest
  spelling_ne_nil h := by
    obtain ⟨needle, hmem, h⟩ := List.exists_of_findSome?_eq_some h
    simp only [Option.map_eq_some_iff, Prod.mk.injEq] at h
    obtain ⟨rest, -, rfl, -⟩ := h
    exact fun hnil => hne (hnil ▸ hmem)

end Pattern

end NativeStyle
