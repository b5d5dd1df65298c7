import NativeStyle.Proofs.Braces
import NativeStyle.Proofs.Rules

/-!
# Blocks inside a rule

A body is cut at every semicolon, also at those of a block inside it. So the pieces of the block
are read as declarations of the rule itself: the first with what stands in front of the block, the
last with what stands behind it up to the next semicolon, and those between as they are.

A rule is therefore the same without the block exactly if these pieces leave the same lines as the
segment behind the block does alone.

Main results:
- `bodyLines_append`, `bodyLines_append_segments` (a body is adapted segment by segment),
- `adaptRule_innerBlock_iff` (when a block inside a rule does not count).
-/

namespace NativeStyle

open Stylesheet (Balanced Declaration declarations)

/-! ## Segments -/

namespace Stylesheet

/-- The text in front of the first semicolon. -/
def firstSegment (s : Text) : Text :=
  s.takeWhile (· ≠ ';')

/-- The first semicolon and the text behind it. -/
def laterSegments (s : Text) : Text :=
  s.dropWhile (· ≠ ';')

private theorem laterSegments_cases (s : Text) :
    laterSegments s = [] ∨ ∃ rest, laterSegments s = ';' :: rest := by
  cases h : laterSegments s with
  | nil => exact Or.inl rfl
  | cons c rest =>
    have hstop := List.head?_dropWhile_not (fun c : Char => decide (c ≠ ';')) s
    rw [show s.dropWhile (fun c => decide (c ≠ ';')) = c :: rest from h] at hstop
    have hc : c = ';' := by simpa using hstop
    exact Or.inr ⟨rest, by rw [hc]⟩

/-- What is put in front of a text goes to its first segment. -/
theorem declarations_append_segments (front s : Text) :
    declarations (front ++ s) =
      declarations (front ++ firstSegment s) ++ declarations (laterSegments s) := by
  have hwhole : firstSegment s ++ laterSegments s = s := List.takeWhile_append_dropWhile
  rcases laterSegments_cases s with hlater | ⟨rest, hlater⟩
  · rw [hlater, List.append_nil] at hwhole
    rw [hlater, hwhole]
    exact (List.append_nil _).symm
  · -- The semicolon itself is in front of the rest.
    have hrest : declarations (';' :: rest) = declarations rest := declarations_append [] rest
    rw [hlater] at hwhole ⊢
    conv => lhs; rw [← hwhole, ← List.append_assoc]
    rw [declarations_append, hrest]

end Stylesheet

open Stylesheet (firstSegment laterSegments)

/-! ## Lines, segment by segment -/

variable {options : Options} {selector : Text}

/-- The lines that the declarations of a body leave in a rule, if none of them fails. -/
def bodyLines (options : Options) (selector body : Text) : Option (List Text) :=
  (ruleLines options (ruleDeclarations selector body)).result.toOption

private theorem ruleLines_append (ds es : List Declaration) :
    (ruleLines options (ds ++ es)).result.toOption =
      (ruleLines options ds).result.toOption.bind fun lines =>
        (ruleLines options es).result.toOption.map (lines ++ ·) := by
  rw [result_ruleLines_append]
  cases (ruleLines options ds).result with
  | error e => rfl
  | ok lines => cases (ruleLines options es).result <;> rfl

private theorem ruleDeclarations_of_append {body front behind : Text}
    (h : declarations body = declarations front ++ declarations behind) :
    ruleDeclarations selector body =
      ruleDeclarations selector front ++ ruleDeclarations selector behind := by
  unfold ruleDeclarations
  rw [h]
  split
  · exact List.map_append
  · rfl

/-- A semicolon parts what stands before it from what stands behind. -/
theorem bodyLines_append (front behind : Text) :
    bodyLines options selector (front ++ ';' :: behind) =
      (bodyLines options selector front).bind fun lines =>
        (bodyLines options selector behind).map (lines ++ ·) := by
  unfold bodyLines
  rw [ruleDeclarations_of_append (Stylesheet.declarations_append front behind), ruleLines_append]

theorem bodyLines_append_segments (front s : Text) :
    bodyLines options selector (front ++ s) =
      (bodyLines options selector (front ++ firstSegment s)).bind fun lines =>
        (bodyLines options selector (laterSegments s)).map (lines ++ ·) := by
  unfold bodyLines
  rw [ruleDeclarations_of_append (Stylesheet.declarations_append_segments front s),
    ruleLines_append]

theorem adaptRule_eq_ruleText? (hsupported : Selector.isSupported selector = true)
    (hne : Selector.adapt selector ≠ []) (body : Text) :
    (adaptRule options selector body).result.toOption =
      (bodyLines options selector body).map (ruleText? (Selector.adapt selector)) := by
  rw [result_adaptRule hsupported hne, bodyLines]
  cases (ruleLines options (ruleDeclarations selector body)).result <;> rfl

theorem semicolon_notMem_of_bodyLines {body : Text} {lines : List Text}
    (h : bodyLines options selector body = some lines) : ∀ line ∈ lines, ';' ∉ line := by
  apply semicolon_notMem_of_ruleLines normal_of_mem_ruleDeclarations
  unfold bodyLines at h
  cases hresult : (ruleLines options (ruleDeclarations selector body)).result with
  | error e => rw [hresult] at h; cases h
  | ok found => rw [hresult] at h; cases h; rfl

/-- Between the same lines before and behind, different lines make a different rule. -/
private theorem ruleText?_append_inj {text : Text} {before behind lines lines' : List Text}
    (hbefore : ∀ line ∈ before, ';' ∉ line) (hbehind : ∀ line ∈ behind, ';' ∉ line)
    (hlines : ∀ line ∈ lines, ';' ∉ line) (hlines' : ∀ line ∈ lines', ';' ∉ line)
    (h : ruleText? text (before ++ (lines ++ behind)) =
      ruleText? text (before ++ (lines' ++ behind))) : lines = lines' := by
  have hall {ls : List Text} (hls : ∀ line ∈ ls, ';' ∉ line) :
      ∀ line ∈ before ++ (ls ++ behind), ';' ∉ line := by
    intro line hline
    simp only [List.mem_append] at hline
    rcases hline with hline | hline | hline
    · exact hbefore line hline
    · exact hls line hline
    · exact hbehind line hline
  have hsame := ruleText?_injective (hall hlines) (hall hlines') h
  exact List.append_cancel_right (List.append_cancel_left hsame)

/-! ## Inner blocks -/

/-- Whether two texts in front of a segment make the same rule shows in the lines of that segment,
unless the segments around it fail. -/
theorem adaptRule_front_iff (hsupported : Selector.isSupported selector = true)
    (hne : Selector.adapt selector ≠ []) (before front front' s : Text) :
    (adaptRule options selector (before ++ ';' :: (front ++ s))).result.toOption =
      (adaptRule options selector (before ++ ';' :: (front' ++ s))).result.toOption ↔
    bodyLines options selector before = none ∨ bodyLines options selector (laterSegments s) = none ∨
      bodyLines options selector (front ++ firstSegment s) =
        bodyLines options selector (front' ++ firstSegment s) := by
  rw [adaptRule_eq_ruleText? hsupported hne, adaptRule_eq_ruleText? hsupported hne,
    bodyLines_append, bodyLines_append, bodyLines_append_segments front,
    bodyLines_append_segments front']
  constructor
  · intro h
    cases hbefore : bodyLines options selector before with
    | none => exact Or.inl rfl
    | some ls =>
    cases hlater : bodyLines options selector (laterSegments s) with
    | none => exact Or.inr (Or.inl rfl)
    | some rs =>
    rw [hbefore, hlater] at h
    -- Both fail in the first segment, or neither does.
    cases hfront : bodyLines options selector (front ++ firstSegment s) with
    | none =>
      cases hfront' : bodyLines options selector (front' ++ firstSegment s) with
      | none => exact Or.inr (Or.inr rfl)
      | some fs' => rw [hfront, hfront'] at h; cases h
    | some fs =>
      cases hfront' : bodyLines options selector (front' ++ firstSegment s) with
      | none => rw [hfront, hfront'] at h; cases h
      | some fs' =>
        rw [hfront, hfront'] at h
        have hsame := ruleText?_append_inj (semicolon_notMem_of_bodyLines hbefore)
          (semicolon_notMem_of_bodyLines hlater) (semicolon_notMem_of_bodyLines hfront)
          (semicolon_notMem_of_bodyLines hfront') (Option.some.inj h)
        rw [hsame]
        exact Or.inr (Or.inr rfl)
  · rintro (hbefore | hlater | hfront)
    · rw [hbefore]
      rfl
    · rw [hlater]
      simp
    · rw [hfront]

/-- **Inner blocks.** A block inside a rule does not count exactly if there is no rule to write, or
what stands around the block fails by itself, or the pieces of the block leave together with the
segment behind it the lines that this segment leaves alone. -/
theorem adaptRule_innerBlock_iff (hsupported : Selector.isSupported selector = true)
    (before front inner behind : Text) :
    (adaptRule options selector
        (before ++ ';' :: (front ++ '{' :: (inner ++ '}' :: behind)))).result.toOption =
      (adaptRule options selector (before ++ ';' :: behind)).result.toOption ↔
    Selector.adapt selector = [] ∨ bodyLines options selector before = none ∨
      bodyLines options selector (laterSegments behind) = none ∨
        bodyLines options selector (front ++ '{' :: (inner ++ '}' :: firstSegment behind)) =
          bodyLines options selector (firstSegment behind) := by
  by_cases hne : Selector.adapt selector = []
  · refine iff_of_true ?_ (Or.inl hne)
    simp [adaptRule, hne]
  -- The block is put in front of the segment behind it.
  have hblock (s : Text) : front ++ '{' :: (inner ++ '}' :: s) =
      (front ++ '{' :: (inner ++ ['}'])) ++ s := by
    simp only [List.append_assoc, List.cons_append, List.nil_append]
  rw [or_iff_right hne, hblock behind, hblock (firstSegment behind)]
  exact adaptRule_front_iff hsupported hne before (front ++ '{' :: (inner ++ ['}'])) [] behind

/-- A nested state with one declaration is dropped as a whole: its first piece has no property that
the engine knows, and the last has no colon. -/
theorem adaptRule_innerBlock_hover :
    Selector.isSupported ".a".toList = true ∧
      (adaptRule {} ".a".toList ("color: red".toList ++ ';' ::
        ("\n  &:hover ".toList ++ '{' :: (" color: blue; ".toList ++ '}' ::
          "\n".toList)))).result.toOption =
      (adaptRule {} ".a".toList ("color: red".toList ++ ';' :: "\n".toList)).result.toOption := by
  have hsupported : Selector.isSupported ".a".toList = true := by decide
  refine ⟨hsupported, (adaptRule_innerBlock_iff hsupported _ _ _ _).2 ?_⟩
  exact Or.inr (Or.inr (Or.inr (by decide +kernel)))

/-- Of several declarations in a nested state, all but the first become declarations of the rule
itself. -/
theorem not_forall_adaptRule_innerBlock :
    ¬∀ (options : Options) (selector before front inner behind : Text),
      Selector.isSupported selector = true → ('{' ∉ before ∧ '}' ∉ before) →
      ('{' ∉ front ∧ '}' ∉ front ∧ ';' ∉ front) → Balanced inner →
      ('{' ∉ behind ∧ '}' ∉ behind) →
      (adaptRule options selector
          (before ++ ';' :: (front ++ '{' :: (inner ++ '}' :: behind)))).result =
        (adaptRule options selector (before ++ ';' :: behind)).result := by
  intro h
  have hleak := h {} ".a".toList "color:red".toList "&:hover".toList
    "opacity:1;color:blue;width:2px;".toList [] (by decide) (by decide) (by decide) (by decide)
    (by decide)
  revert hleak
  decide +kernel

end NativeStyle
