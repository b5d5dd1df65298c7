import NativeStyle.Stylesheet.Block

/-!
# Balanced braces

Brace counting as a function of the text alone, and what it says about blocks.

A text is *balanced* when it opens as many braces as it closes and none of its beginnings closes
more than it has opened. `depthBehind?` computes the same by one walk over the text; every fact
about `Block.read` is derived from it:

- a block that is closed holds a balanced text (`balanced_inside`),
- a balanced text with a closing brace behind it is read as exactly that block
  (`read_balanced`), whatever follows,
- a closed block is not changed by text that follows (`read_append_of_closed`).
-/

namespace NativeStyle.Stylesheet

/-- As many closing as opening braces, and never more closed than opened on the way. -/
structure Balanced (s : Text) : Prop where
  neverBelow : ∀ t, t <+: s → t.count '}' ≤ t.count '{'
  sameTotals : s.count '}' = s.count '{'

/-! ## The depth behind a text -/

/-- The number of open blocks behind a text that starts inside `depth` of them. There is none
if the text closes more than that. -/
def depthBehind? (depth : Nat) : Text → Option Nat
  | [] => some depth
  | c :: s =>
    if c = '}' ∧ depth = 0 then none else depthBehind? (Block.depthAfter depth c) s

theorem depthBehind?_append (depth : Nat) (s t : Text) :
    depthBehind? depth (s ++ t) = (depthBehind? depth s).bind fun d => depthBehind? d t := by
  induction s generalizing depth with
  | nil => rfl
  | cons c s ih =>
    simp only [List.cons_append, depthBehind?]
    -- Once too much is closed, what follows does not matter.
    split
    · rfl
    · exact ih _

/-- One character moves the depth by the braces that it counts for. -/
private theorem depthAfter_add (depth : Nat) (c : Char) (h : ¬(c = '}' ∧ depth = 0)) :
    Block.depthAfter depth c + [c].count '}' = depth + [c].count '{' := by
  unfold Block.depthAfter
  by_cases hopen : c = '{'
  · subst hopen; simp
  · by_cases hclose : c = '}'
    · subst hclose
      have hpos : depth ≠ 0 := fun hzero => h ⟨rfl, hzero⟩
      simp
      omega
    · simp [hopen, hclose]

/-- The walk over a text agrees with counting the braces of its beginnings. -/
theorem depthBehind?_eq_some_iff {depth d : Nat} {s : Text} :
    depthBehind? depth s = some d ↔
      (∀ t, t <+: s → t.count '}' ≤ depth + t.count '{') ∧
        d + s.count '}' = depth + s.count '{' := by
  induction s generalizing depth with
  | nil =>
    simp only [depthBehind?, Option.some.injEq, List.prefix_nil, forall_eq, List.count_nil]
    omega
  | cons c s ih =>
    simp only [depthBehind?]
    split
    · next h =>
      -- The first character already closes too much.
      obtain ⟨rfl, rfl⟩ := h
      simp only [reduceCtorEq, false_iff, not_and]
      intro hall
      have := hall ['}'] ⟨s, rfl⟩
      simp at this
    · next h =>
      have hstep := depthAfter_add depth c h
      have hcount (b : Char) (t : Text) : (c :: t).count b = [c].count b + t.count b := by
        rw [← List.count_append]; rfl
      rw [ih, hcount '}' s, hcount '{' s]
      constructor
      · rintro ⟨hall, htotal⟩
        refine ⟨?_, by omega⟩
        intro t ht
        cases t with
        | nil => simp
        | cons a t =>
          obtain ⟨rfl, htail⟩ := List.cons_prefix_cons.1 ht
          have := hall t htail
          rw [hcount '}' t, hcount '{' t]
          omega
      · rintro ⟨hall, htotal⟩
        refine ⟨?_, by omega⟩
        intro t ht
        have := hall (c :: t) (List.cons_prefix_cons.2 ⟨rfl, ht⟩)
        rw [hcount '}' t, hcount '{' t] at this
        omega

theorem balanced_iff {s : Text} : Balanced s ↔ depthBehind? 0 s = some 0 := by
  rw [depthBehind?_eq_some_iff]
  simp only [Nat.zero_add]
  exact ⟨fun h => ⟨h.neverBelow, h.sameTotals⟩, fun h => ⟨h.1, h.2⟩⟩

instance (s : Text) : Decidable (Balanced s) :=
  decidable_of_iff _ balanced_iff.symm

/-! ## Putting balanced texts together -/

/-- A balanced text leaves any depth as it is. -/
theorem Balanced.keepsDepth {s : Text} (h : Balanced s) (depth : Nat) :
    depthBehind? depth s = some depth := by
  rw [depthBehind?_eq_some_iff]
  refine ⟨fun t ht => ?_, ?_⟩
  · have := h.neverBelow t ht
    omega
  · have := h.sameTotals
    omega

theorem Balanced.append {s t : Text} (hs : Balanced s) (ht : Balanced t) : Balanced (s ++ t) := by
  rw [balanced_iff, depthBehind?_append, hs.keepsDepth]
  exact ht.keepsDepth 0

theorem Balanced.inBraces {s : Text} (h : Balanced s) : Balanced ('{' :: (s ++ ['}'])) := by
  have hinside : depthBehind? 1 s = some 1 := h.keepsDepth 1
  rw [balanced_iff]
  show depthBehind? 1 (s ++ ['}']) = some 0
  rw [depthBehind?_append, hinside]
  rfl

theorem balanced_of_no_brace {s : Text} (hopen : '{' ∉ s) (hclose : '}' ∉ s) : Balanced s := by
  constructor
  · intro t ht
    rw [List.count_eq_zero.2 fun hmem => hclose (ht.subset hmem)]
    exact Nat.zero_le _
  · rw [List.count_eq_zero.2 hopen, List.count_eq_zero.2 hclose]

/-! ## Reading blocks -/

namespace Block

/-- Reading goes on behind a text that does not close the block. -/
theorem read_append_of_depth {depth d : Nat} {s : Text} (h : depthBehind? depth s = some d)
    (t : Text) :
    read depth (s ++ t) = (⟨s ++ (read d t).1.inside, (read d t).1.closed⟩, (read d t).2) := by
  induction s generalizing depth with
  | nil =>
    simp only [depthBehind?, Option.some.injEq] at h
    subst h
    rfl
  | cons c s ih =>
    simp only [depthBehind?] at h
    -- The walk did not stop here, so neither does the reader.
    split at h
    · cases h
    · next hgo =>
      simp only [List.cons_append, read, if_neg hgo]
      rw [ih h]
      rfl

/-- A text that does not close the block is all of it. -/
theorem read_of_depth {depth d : Nat} {s : Text} (h : depthBehind? depth s = some d) :
    read depth s = (⟨s, false⟩, []) := by
  have hread := read_append_of_depth h []
  simpa [read] using hread

/-- A balanced text with a closing brace behind it is a whole block. -/
theorem read_balanced {s : Text} (h : Balanced s) (rest : Text) :
    read 0 (s ++ '}' :: rest) = (⟨s, true⟩, rest) := by
  rw [read_append_of_depth (balanced_iff.1 h)]
  simp [read]

/-- A closed block ends at the depth at which nothing is open. -/
theorem depthBehind?_inside {depth : Nat} {s : Text} (h : (read depth s).1.closed = true) :
    depthBehind? depth (read depth s).1.inside = some 0 := by
  induction s generalizing depth with
  | nil => cases h
  | cons c s ih =>
    simp only [read] at h ⊢
    -- The brace that closes the block stands at depth zero.
    split at h
    · next hend => rw [if_pos hend]; rw [hend.2]; rfl
    · next hgo =>
      rw [if_neg hgo]
      simp only [push, depthBehind?, if_neg hgo]
      exact ih h

/-- A closed block holds a balanced text. -/
theorem balanced_inside {s : Text} (h : (read 0 s).1.closed = true) :
    Balanced (read 0 s).1.inside :=
  balanced_iff.2 (depthBehind?_inside h)

/-- An open block is the whole text. -/
theorem inside_of_not_closed {depth : Nat} {s : Text} (h : (read depth s).1.closed = false) :
    (read depth s).1.inside = s := by
  have htext := text_read depth s
  rw [rest_of_not_closed h] at htext
  simpa [text, h] using htext

/-- Whether a block is closed shows in the walk over the text. -/
theorem depth_isSome_of_not_closed {depth : Nat} {s : Text}
    (h : (read depth s).1.closed = false) : (depthBehind? depth s).isSome = true := by
  induction s generalizing depth with
  | nil => rfl
  | cons c s ih =>
    simp only [read] at h
    split at h
    · cases h
    · next hgo =>
      simp only [depthBehind?, if_neg hgo]
      exact ih h

/-- A closed block is not changed by what follows the text. -/
theorem read_append_of_closed {depth : Nat} {s : Text} (h : (read depth s).1.closed = true)
    (t : Text) : read depth (s ++ t) = ((read depth s).1, (read depth s).2 ++ t) := by
  have htext := text_read depth s
  have hinside := depthBehind?_inside h
  simp only [text, h, if_true, List.append_assoc] at htext
  -- The block and the text behind it are the whole text again.
  conv => lhs; rw [← htext, List.append_assoc, List.append_assoc, read_append_of_depth hinside]
  simp [read, ← h]

end Block

end NativeStyle.Stylesheet
