import NativeStyle.Proofs.Longhands
import NativeStyle.Proofs.Outlines
import NativeStyle.Proofs.Times

/-!
# The braces of an animation

Only a string in quotes can hold a brace, and a string can only be the name of an animation. So the
name that is read has all braces of the value: every lexeme adds its braces to the terms
(`State.outline_push`), and every component adds its own to the name (`Fields.outline_fill`).

Main result: `outline_spread` (spreading an animation leaves its outline as it is).
-/

namespace NativeStyle.Animation

open Text (outline outline_append)

/-! ## Terms -/

/-- The braces of a term. -/
def Term.outline : Term → Text
  | .keyword t | .string t => Text.outline t
  | .time _ | .number _ | .call _ _ => []

/-- Every lexeme adds its braces to those of the terms. -/
theorem State.outline_push {state : State} {s rest : Text} {l : Lexeme}
    (h : state.read? s = some (l, rest)) :
    (state.push l).terms.flatMap Term.outline =
      state.terms.flatMap Term.outline ++ outline l.text := by
  have haccepts := (State.accepts_of_read? h).1
  have hread := State.read?_eq_some h
  obtain ⟨kind, t⟩ := l
  by_cases hstring : kind = .string
  · -- A string stands between terms, and is a term itself.
    subst hstring
    cases state with
    | between terms => simp [State.push, State.terms, Term.outline]
    | named terms name => simp [State.accepts] at haccepts
    | inCall terms name arguments current => cases current <;> simp [State.accepts] at haccepts
  · have hnone : outline t = [] :=
      Text.outline_of_inert fun c hc => Or.inr (Kind.isInert_of_read? hstring hread c hc)
    rcases State.terms_push state ⟨kind, t⟩ with hsame | ⟨term, hmore, hterm⟩
    · simp [hsame, hnone]
    · have houtline : term.outline = [] := by
        cases term with
        | keyword u =>
          cases hterm _ rfl
          exact hnone
        | string u => exact absurd (congrArg Lexeme.kind (hterm _ rfl)).symm hstring
        | time u => rfl
        | number u => rfl
        | call name arguments => rfl
      simp [hmore, hnone, houtline]

/-- The terms of a value hold all its braces. -/
theorem outline_terms {value : Text} {read : List Term} (h : terms value = .ok read) :
    read.flatMap Term.outline = outline value := by
  have hgap (s : Text) : outline (s.dropWhile isGap) = outline s := by
    have hgaps : outline (s.takeWhile isGap) = [] := by
      rw [Text.outline_eq_nil_iff]
      intro c hc
      have hisGap := List.all_eq_true.1 List.all_takeWhile c hc
      simp only [isGap, Bool.or_eq_true, beq_iff_eq] at hisGap
      rcases hisGap with (((rfl | rfl) | rfl) | rfl) | rfl <;> decide
    have happend := outline_append (s.takeWhile isGap) (s.dropWhile isGap)
    rw [List.takeWhile_append_dropWhile, hgaps, List.nil_append] at happend
    exact happend.symm
  -- What has been read and what is left have the braces of the value together.
  have hpush : ∀ (state : State) s l rest,
      state.terms.flatMap Term.outline ++ outline s = outline value →
      state.read? (s.dropWhile isGap) = some (l, rest) →
      (state.push l).terms.flatMap Term.outline ++ outline rest = outline value := by
    intro state s l rest hstate hread
    have hfront : outline s = outline l.text ++ outline rest := by
      rw [← hgap s, (State.accepts_of_read? hread).2.1, outline_append]
    rw [State.outline_push hread, List.append_assoc, ← hfront, hstate]
  have hstart : (State.between []).terms.flatMap Term.outline ++ outline value = outline value :=
    rfl
  obtain ⟨rest, hread, hend⟩ := readFrom_induction hpush hstart h
  rwa [← hgap rest, hend, Text.outline_nil, List.append_nil] at hread

/-! ## Components -/

/-- The braces of a component. -/
def Component.outline : Component → Text
  | .keyword t | .string t => Text.outline t
  | .time _ | .number _ | .function _ => []

theorem Component.outline_of_ofTerm? {t : Term} {c : Component}
    (h : Component.ofTerm? t = some c) : c.outline = t.outline := by
  cases t with
  | time t =>
    obtain ⟨millis, -, rfl⟩ := Option.map_eq_some_iff.1 h
    rfl
  | number t =>
    obtain ⟨d, -, rfl⟩ := Option.map_eq_some_iff.1 h
    rfl
  | keyword t | string t | call name arguments => cases h; rfl

theorem outline_componentsOf {read : List Term} {components : List Component}
    (h : componentsOf read = .ok components) :
    components.flatMap Component.outline = read.flatMap Term.outline := by
  have hterms := componentsOf_eq_ok_iff.1 h
  clear h
  induction hterms with
  | nil => rfl
  | cons hterm _ ih => simp [ih, Component.outline_of_ofTerm? hterm]

/-! ## The name -/

namespace Fields

variable {fields fields' : Fields}

private theorem nameText_put {slot : Slot} (h : slot ≠ .name) (v : Value) :
    (fields.put slot v).nameText = fields.nameText := by
  rw [nameText, nameText, put_other h.symm]

/-- The keyword of a field has no braces, and that field is not the name. -/
private theorem outline_of_keywordSlot? {t : Text} {slot : Slot}
    (h : fields.keywordSlot? t = some slot) : slot ≠ .name ∧ outline t = [] := by
  have hholds : slot.Holds [] (.text t) := holds_of_keywordSlot? h
  have hname : slot ≠ .name := by
    -- A name would have to stand in the value, which may be empty.
    rintro rfl
    exact hholds.2.1 (List.eq_nil_of_infix_nil hholds.1)
  refine ⟨hname, ?_⟩
  have htext : longhandText slot (.text t) = t := by cases slot <;> rfl
  apply Text.outline_of_inert
  intro c hc
  rw [← htext] at hc
  exact Or.inr ((hholds.isInertText hname).2 c hc)

/-- A value that is put where no name was is the name. -/
private theorem outline_put_name {t : Text} (h : fields .name = none) :
    outline (fields.put .name (.text t)).nameText = outline fields.nameText ++ outline t := by
  have hunset : outline unset = [] := by decide
  by_cases ht : t = unset
  · simp [nameText, put, h, ht, hunset]
  · simp [nameText, put, h, ht, longhandText]

/-- Every component adds its braces to those of the name. -/
theorem outline_fill {c : Component} (h : fields.fill c = .ok fields') :
    outline fields'.nameText = outline fields.nameText ++ c.outline := by
  obtain ⟨slot, htakes, rfl⟩ := exists_put_of_fill h
  -- All but keywords and strings go to other fields.
  cases c with
  | time n => rcases htakes with rfl | rfl <;> simp [nameText_put, Component.outline]
  | number n => cases htakes; simp [nameText_put, Component.outline]
  | keyword t =>
    rcases htakes with hslot | ⟨rfl, hnone⟩
    · obtain ⟨hname, hnone⟩ := outline_of_keywordSlot? hslot
      simp [nameText_put hname, Component.outline, hnone]
    · exact outline_put_name hnone
  | string t =>
    obtain ⟨rfl, hnone⟩ := htakes
    exact outline_put_name hnone
  | function f => cases htakes.1; simp [nameText_put, Component.outline]

theorem outline_fillAll {components : List Component}
    (h : fields.fillAll components = .ok fields') :
    outline fields'.nameText =
      outline fields.nameText ++ components.flatMap Component.outline := by
  induction components generalizing fields with
  | nil =>
    cases h
    simp
  | cons c components ih =>
    obtain ⟨next, hfill, hrest⟩ := fillAll_cons_eq_ok_iff.1 h
    rw [ih hrest, outline_fill hfill, List.flatMap_cons, List.append_assoc]

end Fields

/-! ## Animations -/

/-- The name of an animation has all braces of the value. -/
theorem outline_nameText {value : Text} {fields : Fields} (h : parse value = .ok fields) :
    outline fields.nameText = outline value := by
  obtain ⟨read, components, hterms, hcomponents, hfill⟩ := exists_of_parse h
  calc outline fields.nameText
      = outline Fields.empty.nameText ++ components.flatMap Component.outline :=
        Fields.outline_fillAll hfill
    _ = components.flatMap Component.outline := rfl
    _ = read.flatMap Term.outline := outline_componentsOf hcomponents
    _ = outline value := outline_terms hterms

theorem HoldOnly.outline_eq {core : Text} {lines : List Text} (h : HoldOnly core lines) :
    outline lines.flatten = outline core := by
  obtain ⟨before, behind, hflatten, hinert⟩ := h
  rw [List.forall_mem_append] at hinert
  simp [hflatten, Text.outline_of_inert hinert.1, Text.outline_of_inert hinert.2]

/-- Spreading an animation leaves its outline as it is. -/
theorem outline_spread {value : Text} {lines : List Text} (h : spread value = .ok lines) :
    outline lines.flatten = outline value := by
  rcases holdOnly_of_spread h with hvalue | ⟨fields, hparse, hname⟩
  · exact hvalue.outline_eq
  · rw [hname.outline_eq, outline_nameText hparse]

end NativeStyle.Animation
