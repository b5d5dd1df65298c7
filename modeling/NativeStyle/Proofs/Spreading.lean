import NativeStyle.Proofs.Placement

/-!
# Longhands that show all of their fields

A longhand stands for one field, and its text is cut at the first space. Nothing is ever cut off:
numbers and keywords have no space, a call with a space in an argument has found no place among the
fields, and of a name only a string in quotes can have one, which is not cut.

So the longhands of an animation are one for each field that is set, the state of play apart, in the
order of the shorthand, and each shows the whole value of its field (`shows_of_parse`).

Main result: `spread_complete`.
-/

namespace NativeStyle.Animation

/-! ## Calls -/

/-- Lexemes that are joined by spaces have no space between them only if they are few. -/
private theorem eq_singleton_of_join {texts : List Text} (hne : texts ≠ [])
    (hspace : ' ' ∉ Text.join [' '] texts) : texts = [Text.join [' '] texts] := by
  cases texts with
  | nil => exact absurd rfl hne
  | cons t texts =>
    cases texts with
    | nil => simp [Text.join]
    | cons u texts =>
      refine absurd ?_ hspace
      rw [Text.join_cons_of_ne_nil _ _ (List.cons_ne_nil u texts)]
      simp

/-- A call without spaces was read with a single lexeme in every argument. -/
theorem arguments_eq_of_spaceless {name : Text} {arguments : List (List Text)}
    (hspelled : (Term.call name arguments).Spelled)
    (hspaces : ∀ argument ∈ arguments.map (Text.join [' ']), ' ' ∉ argument) :
    arguments = (arguments.map (Text.join [' '])).map ([·]) := by
  rw [List.map_map]
  refine (List.map_id _).symm.trans (List.map_congr_left fun argument hargument => ?_)
  exact eq_singleton_of_join (hspelled.2.2 argument hargument).1
    (hspaces _ (List.mem_map_of_mem hargument))

/-! ## Texts of longhands -/

/-- The text of a longhand shows the whole value of its field, which was read among these terms. -/
structure Slot.Shows (read : List Term) (slot : Slot) (v : Value) (t : Text) : Prop where
  /-- There is a text. -/
  ne_nil : t ≠ []
  /-- Only a name in quotes has a space in its text. -/
  quoted : ' ' ∈ t → slot = .name ∧ Kind.string.Spells t
  /-- A name or a keyword is shown as it is. -/
  text : ∀ u, v = .text u → t = u
  /-- A call is shown with all its arguments, and each of them was a single lexeme. -/
  call : ∀ f, v = .function f →
    t = f.name ++ '(' :: (Text.join [','] f.arguments ++ [')']) ∧
      .call f.name (f.arguments.map ([·])) ∈ read

private theorem longhandText_text (slot : Slot) (t : Text) : longhandText slot (.text t) = t := by
  cases slot <;> rfl

/-- A call that stands in a field is shown whole, since the cut at the first space finds none. -/
private theorem longhandText_function {value : Text} {slot : Slot} {f : TimingFunction}
    (h : slot.Holds value (.function f)) : longhandText slot (.function f) = f.text := by
  cases slot with
  | timingFunction => exact takeWhile_of_inert (TimingFunction.Typed.isInertText h).2
  | name | duration | delay | iterationCount | direction | fillMode | playState => cases h

/-- A name with a space in it is a string, since an identifier has none. -/
private theorem quoted_of_space {term : Term} {c : Component} {t : Text} (hterm : term.Spelled)
    (hc : Component.ofTerm? term = some c) (hvalue : c.value = .text t) (hspace : ' ' ∈ t) :
    Kind.string.Spells t := by
  rcases hterm.of_value_text hc hvalue with ⟨-, hident⟩ | ⟨-, hstring⟩
  · exact absurd hspace (Fields.space_notMem_of_spells (by decide) hident)
  · exact hstring

/-- A call among the fields was read with these arguments. -/
private theorem call_mem_of_typed {read : List Term} {term : Term} {c : Component}
    {f : TimingFunction} (hmem : term ∈ read) (hterm : term.Spelled)
    (hc : Component.ofTerm? term = some c) (hvalue : c.value = .function f) (hf : f.Typed) :
    .call f.name (f.arguments.map ([·])) ∈ read := by
  obtain ⟨arguments, rfl, harguments⟩ := Component.eq_call_of_value hc hvalue
  have hspaces : ∀ argument ∈ f.arguments, ' ' ∉ argument := by
    intro argument hargument hspace
    exact absurd (hf.2 argument hargument ' ' hspace) (by decide)
  rw [harguments] at hspaces ⊢
  rwa [← arguments_eq_of_spaceless hterm hspaces]

/-- Every field of an animation is shown whole. -/
theorem shows_of_parse {value : Text} {fields : Fields} (h : parse value = .ok fields) :
    ∃ read, terms value = .ok read ∧
      ∀ slot v, fields slot = some v → slot.Shows read v (longhandText slot v) := by
  obtain ⟨read, found, hread, hfound, hfill⟩ := exists_of_parse h
  obtain ⟨read', hread', hmade⟩ :=
    exists_terms_of_components ((components_of_terms hread).trans hfound)
  rw [hread] at hread'
  cases hread'
  refine ⟨read, hread, fun slot v hv => ?_⟩
  have hholds := typed_of_parse h slot v hv
  -- The value is that of a component, which was made from a term.
  obtain ⟨c, hc, rfl⟩ : ∃ c ∈ found, v = c.value :=
    (Fields.eq_value_of_fillAll hfill hv).resolve_left (by simp [Fields.empty])
  obtain ⟨term, hmem, hterm, hcomponent⟩ := hmade c hc
  have htext : ∀ u, c.value = .text u → longhandText slot c.value = u := by
    intro u hu
    rw [hu, longhandText_text]
  have hcall : ∀ f, c.value = .function f →
      longhandText slot c.value = f.name ++ '(' :: (Text.join [','] f.arguments ++ [')']) ∧
        .call f.name (f.arguments.map ([·])) ∈ read := by
    intro f hf
    rw [hf] at hholds ⊢
    have htyped : f.Typed := by
      cases slot with
      | timingFunction => exact hholds
      | name | duration | delay | iterationCount | direction | fillMode | playState => cases hholds
    refine ⟨?_, call_mem_of_typed hmem hterm hcomponent hf htyped⟩
    rw [longhandText_function hholds, TimingFunction.text, List.append_assoc, List.cons_append]
  by_cases hname : slot = .name
  · -- A name is a text, and the only one that can have a space in it.
    subst hname
    cases hvalue : c.value with
    | text t =>
      rw [hvalue] at hholds
      exact {
        ne_nil := hholds.2.1
        quoted := fun hspace => ⟨rfl, quoted_of_space hterm hcomponent hvalue hspace⟩
        text := by rwa [hvalue] at htext
        call := by rwa [hvalue] at hcall }
    | number n => rw [hvalue] at hholds; cases hholds
    | function f => rw [hvalue] at hholds; cases hholds
  · obtain ⟨hne, hinert⟩ := hholds.isInertText hname
    exact {
      ne_nil := hne
      quoted := fun hspace => absurd (hinert ' ' hspace) (by decide)
      text := htext
      call := hcall }

/-! ## All longhands -/

private theorem forall₂_filterMap {α β : Type} (f : α → Option β) (xs : List α) :
    List.Forall₂ (fun x y => f x = some y) (xs.filter fun x => (f x).isSome)
      (xs.filterMap f) := by
  induction xs with
  | nil => exact .nil
  | cons x xs ih =>
    cases hx : f x with
    | none => simpa [hx] using ih
    | some y => simpa [hx] using ih

/-- The longhands are those of the fields that are set, the state of play apart, in order. -/
private theorem forall₂_longhandLines (fields : Fields) :
    List.Forall₂ (fun slot line => ∃ v, fields slot = some v ∧ line = longhandLine slot v)
      (fields.setSlots.filter (· ≠ .playState)) (longhandLines fields) := by
  have hslots : fields.setSlots.filter (· ≠ .playState) =
      longhandSlots.filter fun slot => ((fields slot).map (longhandLine slot)).isSome := by
    have hall : longhandSlots = Slot.all.filter (· ≠ .playState) := by decide
    simp only [Fields.setSlots, hall, List.filter_filter, Option.isSome_map, Bool.and_comm]
  rw [hslots]
  refine (forall₂_filterMap _ longhandSlots).imp fun slot line hline => ?_
  obtain ⟨v, hv, rfl⟩ := Option.map_eq_some_iff.1 hline
  exact ⟨v, hv, rfl⟩

private theorem longhandLines_eq_nil_iff {fields : Fields} :
    longhandLines fields = [] ↔ ∀ slot, slot ≠ .playState → fields slot = none := by
  have hmem (slot : Slot) : slot ∈ longhandSlots ↔ slot ≠ .playState := by
    cases slot <;> decide
  simp [longhandLines, List.filterMap_eq_nil_iff, hmem]

/-- **Spreading is complete.** A value that can be spread gives a line at least. If it is no
animation, or sets nothing but the state of play, this is the shorthand as it was. Otherwise there
is one line for each field that is set, the state of play apart, in the order of the shorthand, and
it shows the whole value of its field. -/
theorem spread_complete {value : Text} {lines : List Text} (h : spread value = .ok lines) :
    lines ≠ [] ∧
    (∀ fault, parse value = .error fault → lines = ["animation: ".toList ++ value]) ∧
    ∀ fields, parse value = .ok fields →
      ((∀ slot, slot ≠ .playState → fields slot = none) →
        lines = ["animation: ".toList ++ value]) ∧
      ((∃ slot, slot ≠ .playState ∧ fields slot ≠ none) →
        ∃ read, terms value = .ok read ∧
          List.Forall₂ (fun slot line => ∃ v, fields slot = some v ∧
              line = "animation-".toList ++ slot.property ++ ':' :: ' ' :: longhandText slot v ∧
              slot.Shows read v (longhandText slot v))
            (fields.setSlots.filter (· ≠ .playState)) lines) := by
  refine ⟨spread_ne_nil h, ?_, ?_⟩
  · intro fault hparse
    unfold spread at h
    rw [hparse] at h
    cases fault <;> cases h <;> rfl
  · intro fields hparse
    unfold spread at h
    rw [hparse] at h
    constructor
    · intro hnone
      simp only [longhandLines_eq_nil_iff.2 hnone, if_true] at h
      cases h
      rfl
    · rintro ⟨slot, hslot, hset⟩
      have hne : longhandLines fields ≠ [] := fun hnil =>
        hset (longhandLines_eq_nil_iff.1 hnil slot hslot)
      simp only [hne, if_false] at h
      cases h
      obtain ⟨read, hread, hshows⟩ := shows_of_parse hparse
      refine ⟨read, hread, (forall₂_longhandLines fields).imp ?_⟩
      rintro slot line ⟨v, hv, rfl⟩
      exact ⟨v, hv, rfl, hshows slot v hv⟩

/-- A name in quotes, and a call that is shown with all its arguments. -/
theorem spread_complete_quoted :
    let value := "'a b' 1.5s cubic-bezier(0.4, 0, .6, 1) paused".toList
    let lines := ["animation-name: 'a b'".toList, "animation-duration: 1.5s".toList,
      "animation-timing-function: cubic-bezier(0.4,0,.6,1)".toList]
    spread value = .ok lines ∧ ∃ fields read, parse value = .ok fields ∧ terms value = .ok read ∧
      List.Forall₂ (fun slot line => ∃ v, fields slot = some v ∧
          line = "animation-".toList ++ slot.property ++ ':' :: ' ' :: longhandText slot v ∧
          slot.Shows read v (longhandText slot v))
        [.name, .duration, .timingFunction] lines := by
  intro value lines
  have hspread : spread value = .ok lines := by decide +kernel
  have hset : (parse value).toOption.map Fields.setSlots =
      some [.name, .duration, .timingFunction, .playState] := by
    decide +kernel
  refine ⟨hspread, ?_⟩
  cases hparse : parse value with
  | error fault => rw [hparse] at hset; cases hset
  | ok fields =>
    rw [hparse] at hset
    have hslots : fields.setSlots = [.name, .duration, .timingFunction, .playState] :=
      Option.some.inj hset
    have hname : fields .name ≠ none := Fields.mem_setSlots.1 (by simp [hslots])
    obtain ⟨-, -, hlines⟩ := spread_complete hspread
    obtain ⟨read, hread, hshown⟩ := (hlines fields hparse).2 ⟨.name, by decide, hname⟩
    rw [hslots] at hshown
    exact ⟨fields, read, rfl, hread, hshown⟩

end NativeStyle.Animation
