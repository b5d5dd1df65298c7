/-!
# Text

A text is the list of its characters, so that every reader and printer of the library is a
function on lists. This module holds the few operations that the others share: searching,
cutting at a separator, joining.

Main statements: `contains_iff` (a search finds exactly the infixes), `cut?_eq_some_iff`
(a cut takes the first separator and loses nothing).
-/

namespace NativeStyle

/-- A text is the list of its characters. -/
abbrev Text := List Char

-- What holds of all members of a list is decided member by member, whatever else is in scope.
attribute [scoped instance (2000)] List.decidableBAll

namespace Text

/-! ## Searching -/

/-- Whether `needle` stands somewhere in the text. -/
def contains (needle : Text) : Text → Bool
  | [] => needle.isEmpty
  | c :: rest => needle.isPrefixOf (c :: rest) || contains needle rest

/-- A search finds exactly the infixes. -/
theorem contains_iff {needle s : Text} : contains needle s = true ↔ needle <:+: s := by
  induction s with
  | nil => simp [contains]
  | cons c rest ih => simp [contains, ih, List.infix_cons_iff]

/-- Whether the text ends with `ending`. -/
def endsWith (ending s : Text) : Bool :=
  ending.isSuffixOf s

/-- What follows `start`, where the text begins with it. -/
def after? : (start s : Text) → Option Text
  | [], s => some s
  | _ :: _, [] => none
  | a :: start, c :: s => if a = c then after? start s else none

theorem after?_eq_some_iff {start s rest : Text} :
    after? start s = some rest ↔ s = start ++ rest := by
  induction start generalizing s with
  | nil => simp [after?, eq_comm]
  | cons a start ih =>
    cases s with
    | nil => simp [after?]
    | cons c s =>
      by_cases h : a = c
      · simp [after?, h, ih]
      · simp [after?, h, Ne.symm h]

/-! ## Cutting and joining -/

/-- The text before the first `separator` and the text after it. -/
def cut? (separator : Char) : Text → Option (Text × Text)
  | [] => none
  | c :: rest =>
    if c = separator then some ([], rest)
    else (cut? separator rest).map fun (before, behind) => (c :: before, behind)

/-- A cut takes the first separator and loses nothing. -/
theorem cut?_eq_some_iff {separator : Char} {s before behind : Text} :
    cut? separator s = some (before, behind) ↔
      s = before ++ separator :: behind ∧ separator ∉ before := by
  induction s generalizing before with
  | nil => simp [cut?]
  | cons c rest ih =>
    by_cases h : c = separator
    · subst h
      cases before <;> simp [cut?, eq_comm]
      intro h; simp [h]
    · cases before with
      | nil => simp [cut?, h]
      | cons b before =>
        simp only [cut?, h, if_false, Option.map_eq_some_iff, Prod.exists, Prod.mk.injEq,
          List.cons.injEq, List.cons_append, List.mem_cons, not_or]
        constructor
        · rintro ⟨x, y, hxy, ⟨rfl, rfl⟩, rfl⟩
          have := ih.1 hxy
          exact ⟨⟨rfl, this.1⟩, Ne.symm h, this.2⟩
        · rintro ⟨⟨rfl, hrest⟩, _, hnot⟩
          exact ⟨before, behind, ih.2 ⟨hrest, hnot⟩, ⟨rfl, rfl⟩, rfl⟩

theorem cut?_eq_none_iff {separator : Char} {s : Text} :
    cut? separator s = none ↔ separator ∉ s := by
  induction s with
  | nil => simp [cut?]
  | cons c rest ih =>
    by_cases h : c = separator
    · simp [cut?, h]
    · simp [cut?, h, ih, Ne.symm h]

/-- The first separator tells what stands before it and what behind. -/
theorem append_separator_inj {separator : Char} {s s' t t' : Text} (hs : separator ∉ s)
    (hs' : separator ∉ s') (h : s ++ separator :: t = s' ++ separator :: t') :
    s = s' ∧ t = t' := by
  have hcut : cut? separator (s ++ separator :: t) = some (s, t) := cut?_eq_some_iff.2 ⟨rfl, hs⟩
  have hcut' : cut? separator (s ++ separator :: t) = some (s', t') :=
    cut?_eq_some_iff.2 ⟨h, hs'⟩
  rw [hcut] at hcut'
  cases hcut'
  exact ⟨rfl, rfl⟩

/-- The texts with `separator` between neighbours. -/
def join (separator : Text) (texts : List Text) : Text :=
  List.intercalate separator texts

/-- The texts one to a line, each line ended. -/
def lines (texts : List Text) : Text :=
  texts.flatMap (· ++ ['\n'])

end Text

end NativeStyle
