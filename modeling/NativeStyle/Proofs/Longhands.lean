import NativeStyle.Animation.Shorthand
import NativeStyle.Proofs.Lengths
import NativeStyle.Proofs.Lexemes
import NativeStyle.Proofs.Runs

/-!
# What the fields of an animation hold

Every component finds its place in a field that is made for it: times are numbers, keywords are
among those of their field, and only the name is a text of the author's choosing. One component
keeps this true (`Fields.fill_typed`), so it holds of every animation that can be read
(`typed_of_parse`).

The longhand declarations of an animation therefore hold its name alone (`holdOnly_of_spread`) and
no more characters with a meaning to a stylesheet than the value itself (`count_spread_le`), and
each of them has a property and a value (`spread_lines`).
-/

namespace NativeStyle.Animation

/-! ## Components -/

/-- What is known of a component of a value. -/
def Component.WellRead (value : Text) : Component → Prop
  | .time _ | .number _ => True
  | .keyword t | .string t => t <:+: value ∧ t ≠ [] ∧ Text.trim t = t
  | .function f =>
    f.name ∈ functionNames ∧ ∀ argument ∈ f.arguments, ∀ c ∈ argument, c = ' ' ∨ isInert c = true

theorem Component.wellRead_of_ofTerm? {value : Text} {t : Term} {c : Component}
    (ht : t.WellRead value) (h : Component.ofTerm? t = some c) : c.WellRead value := by
  cases t with
  | time t =>
    obtain ⟨millis, -, rfl⟩ := Option.map_eq_some_iff.1 h
    trivial
  | number t =>
    obtain ⟨d, -, rfl⟩ := Option.map_eq_some_iff.1 h
    trivial
  | keyword t => cases h; exact ht
  | string t => cases h; exact ht
  | call name arguments =>
    cases h
    refine ⟨ht.1, ?_⟩
    intro argument hargument d hd
    -- An argument is its lexemes with single spaces between them.
    obtain ⟨lexemes, hlexemes, rfl⟩ := List.mem_map.1 hargument
    rcases Text.mem_join hd with hspace | ⟨t, htext, hd⟩
    · exact Or.inl (List.mem_singleton.1 hspace)
    · exact Or.inr (ht.2 lexemes hlexemes t htext d hd)

/-- The components are those of the terms, in their order. -/
theorem componentsOf_eq_ok_iff {terms : List Term} {components : List Component} :
    componentsOf terms = .ok components ↔
      List.Forall₂ (fun t c => Component.ofTerm? t = some c) terms components := by
  rw [componentsOf, mapM_eq_ok_iff]
  constructor
  · intro h
    refine h.imp fun t c hc => ?_
    split at hc <;> cases hc
    assumption
  · intro h
    refine h.imp fun t c hc => ?_
    rw [hc]

theorem wellRead_of_componentsOf {value : Text} {terms : List Term} {components : List Component}
    (hterms : ∀ t ∈ terms, t.WellRead value) (h : componentsOf terms = .ok components) :
    ∀ c ∈ components, c.WellRead value := by
  intro c hc
  obtain ⟨t, ht, hcomponent⟩ := exists_of_mem_mapM h hc
  split at hcomponent
  · next hread =>
    cases hcomponent
    exact Component.wellRead_of_ofTerm? (hterms t ht) hread
  · cases hcomponent

/-- The value that a component puts into its field. -/
def Component.value : Component → Value
  | .time n | .number n => .number n
  | .keyword t | .string t => .text t
  | .function f => .function f

/-! ## Fields -/

/-- Whether the call stands in a field: it is an easing function without spaces. -/
def TimingFunction.Typed (f : TimingFunction) : Prop :=
  f.name ∈ functionNames ∧ ∀ argument ∈ f.arguments, ∀ c ∈ argument, isInert c = true

/-- What a field can hold where a value is read. -/
def Slot.Holds (value : Text) : Slot → Value → Prop
  | .name, .text t => t <:+: value ∧ t ≠ [] ∧ Text.trim t = t
  | .duration, .number _ | .delay, .number _ | .iterationCount, .number _ => True
  | .timingFunction, .function f => f.Typed
  | .timingFunction, .text t => t ∈ timingKeywords
  | .iterationCount, .text t => t = infinite
  | .direction, .text t => t ∈ directionKeywords
  | .fillMode, .text t => t ∈ fillModeKeywords
  | .playState, .text t => t ∈ playStateKeywords
  | _, _ => False

namespace Fields

variable {value : Text} {fields fields' : Fields}

/-- The invariant of filling: every field that is set holds what it is made for. -/
def Typed (value : Text) (fields : Fields) : Prop :=
  ∀ slot v, fields slot = some v → slot.Holds value v

theorem typed_put {slot : Slot} {v : Value} (hfields : fields.Typed value)
    (hv : slot.Holds value v) : (fields.put slot v).Typed value := by
  intro other w hw
  unfold put at hw
  -- A field is emptied where a value is falsy, and set otherwise; all others stay.
  split at hw
  · next heq =>
    subst heq
    split at hw
    · cases hw
    · cases hw
      exact hv
  · exact hfields other w hw

/-- A keyword goes to a field that has it. -/
theorem holds_of_keywordSlot? {t : Text} {slot : Slot} (h : fields.keywordSlot? t = some slot) :
    slot.Holds value (.text t) := by
  unfold keywordSlot? at h
  -- The keyword of the iteration count is asked for first, then the four tables.
  split at h
  · next hinfinite =>
    cases h
    exact hinfinite.1
  · obtain ⟨⟨found, keywords⟩, hfind, rfl⟩ := Option.map_eq_some_iff.1 h
    have hmem := List.mem_of_find?_eq_some hfind
    have hkeyword := List.find?_some hfind
    simp only [Bool.and_eq_true, List.contains_iff_mem] at hkeyword
    simp only [keywordSlots, List.mem_cons, List.not_mem_nil, or_false, Prod.mk.injEq] at hmem
    rcases hmem with ⟨rfl, rfl⟩ | ⟨rfl, rfl⟩ | ⟨rfl, rfl⟩ | ⟨rfl, rfl⟩
    · exact hkeyword.1
    · exact hkeyword.1
    · exact hkeyword.1
    · exact hkeyword.1

/-- The fields that a component can go to. -/
def Takes (fields : Fields) : Component → Slot → Prop
  | .time _, slot => slot = .duration ∨ slot = .delay
  | .number _, slot => slot = .iterationCount
  | .keyword t, slot => fields.keywordSlot? t = some slot ∨ slot = .name ∧ fields .name = none
  | .string _, slot => slot = .name ∧ fields .name = none
  | .function f, slot => slot = .timingFunction ∧ ∀ argument ∈ f.arguments, ' ' ∉ argument

private theorem eq_put_of_fillName {t : Text} (h : fields.fillName t = .ok fields') :
    fields .name = none ∧ fields' = fields.put .name (.text t) := by
  unfold fillName at h
  split at h <;> cases h
  next hfree => exact ⟨by simpa [isFree] using hfree, rfl⟩

/-- A component puts its value into one of the fields that take it. -/
theorem exists_put_of_fill {c : Component} (h : fields.fill c = .ok fields') :
    ∃ slot, fields.Takes c slot ∧ fields' = fields.put slot c.value := by
  -- One case for each kind of component, as the fields are looked through.
  cases c with
  | time n =>
    simp only [fill] at h
    split at h
    · cases h
      exact ⟨.duration, Or.inl rfl, rfl⟩
    · split at h <;> cases h
      exact ⟨.delay, Or.inr rfl, rfl⟩
  | number n =>
    simp only [fill] at h
    split at h <;> cases h
    exact ⟨.iterationCount, rfl, rfl⟩
  | keyword t =>
    simp only [fill] at h
    split at h
    · next slot hslot =>
      cases h
      exact ⟨slot, Or.inl hslot, rfl⟩
    · obtain ⟨hnone, rfl⟩ := eq_put_of_fillName h
      exact ⟨.name, Or.inr ⟨rfl, hnone⟩, rfl⟩
  | string t =>
    obtain ⟨hnone, rfl⟩ := eq_put_of_fillName h
    exact ⟨.name, ⟨rfl, hnone⟩, rfl⟩
  | function f =>
    simp only [fill] at h
    split at h
    · cases h
    · split at h <;> cases h
      next hspaces => exact ⟨.timingFunction, ⟨rfl, by simpa using hspaces⟩, rfl⟩

/-- A component that is well read can stand in every field that takes it. -/
theorem Takes.holds {c : Component} {slot : Slot} (h : fields.Takes c slot)
    (hc : c.WellRead value) : slot.Holds value c.value := by
  cases c with
  | time n => rcases h with rfl | rfl <;> trivial
  | number n => cases h; trivial
  | keyword t =>
    rcases h with hslot | ⟨rfl, -⟩
    · exact holds_of_keywordSlot? hslot
    · exact hc
  | string t => cases h.1; exact hc
  | function f =>
    obtain ⟨rfl, hspaces⟩ := h
    refine ⟨hc.1, ?_⟩
    intro argument hargument d hd
    -- The lexemes of an argument are inert, and no space joins two of them.
    rcases hc.2 argument hargument d hd with rfl | hinert
    · exact absurd hd (hspaces argument hargument)
    · exact hinert

/-- One component keeps the fields typed. -/
theorem fill_typed {c : Component} (hfields : fields.Typed value) (hc : c.WellRead value)
    (h : fields.fill c = .ok fields') : fields'.Typed value := by
  obtain ⟨slot, htakes, rfl⟩ := exists_put_of_fill h
  exact typed_put hfields (htakes.holds hc)

theorem fillAll_cons_eq_ok_iff {c : Component} {components : List Component} :
    fields.fillAll (c :: components) = .ok fields' ↔
      ∃ next, fields.fill c = .ok next ∧ next.fillAll components = .ok fields' := by
  unfold fillAll
  rw [List.foldlM_cons]
  cases hfill : fields.fill c with
  | error e => simp [bind, Except.bind]
  | ok next => simp [bind, Except.bind]

/-- What one component keeps true of the fields is kept by all of them, one after the other. -/
theorem fillAll_induction {P : Fields → Prop} {components : List Component}
    (step : ∀ c ∈ components, ∀ fields next, P fields → fields.fill c = .ok next → P next)
    (hfields : P fields) (h : fields.fillAll components = .ok fields') : P fields' := by
  -- The fields change with every component, so the induction is over all of them.
  induction components generalizing fields with
  | nil =>
    cases h
    exact hfields
  | cons c components ih =>
    rw [List.forall_mem_cons] at step
    obtain ⟨next, hfill, hrest⟩ := fillAll_cons_eq_ok_iff.1 h
    exact ih step.2 (step.1 fields next hfields hfill) hrest

theorem fillAll_typed {components : List Component} (hfields : fields.Typed value)
    (hcomponents : ∀ c ∈ components, c.WellRead value)
    (h : fields.fillAll components = .ok fields') : fields'.Typed value := by
  apply fillAll_induction _ hfields h
  intro c hc fields next hnow hfill
  exact fill_typed hnow (hcomponents c hc) hfill

/-- Whatever is set was set before or is the value of a component. -/
theorem eq_value_of_fillAll {components : List Component}
    (h : fields.fillAll components = .ok fields') {slot : Slot} {v : Value}
    (hv : fields' slot = some v) : fields slot = some v ∨ ∃ c ∈ components, v = c.value := by
  induction components generalizing fields with
  | nil =>
    cases h
    exact Or.inl hv
  | cons c components ih =>
    obtain ⟨next, hfill, hrest⟩ := fillAll_cons_eq_ok_iff.1 h
    rcases ih hrest with hnext | ⟨d, hd, rfl⟩
    · obtain ⟨taken, -, rfl⟩ := exists_put_of_fill hfill
      by_cases hslot : slot = taken
      · subst hslot
        have hvalue : c.value = v := by
          simp only [put, if_true] at hnext
          split at hnext
          · cases hnext
          · exact Option.some.inj hnext
        exact Or.inr ⟨c, List.mem_cons_self, hvalue.symm⟩
      · rw [put_other hslot] at hnext
        exact Or.inl hnext
    · exact Or.inr ⟨d, List.mem_cons_of_mem _ hd, rfl⟩

end Fields

/-- A value is read term by term, and the components of the terms fill the fields. -/
theorem exists_of_parse {value : Text} {fields : Fields} (h : parse value = .ok fields) :
    ∃ read components, terms value = .ok read ∧ componentsOf read = .ok components ∧
      Fields.empty.fillAll components = .ok fields := by
  unfold parse at h
  cases hterms : terms value with
  | error r =>
    rw [hterms] at h
    cases h
  | ok read =>
    rw [hterms] at h
    cases hcomponents : componentsOf read with
    | error e =>
      simp only [Except.mapError, bind, Except.bind, hcomponents] at h
      cases h
    | ok components =>
      simp only [Except.mapError, bind, Except.bind, hcomponents] at h
      cases hfill : Fields.empty.fillAll components with
      | error e =>
        rw [hfill] at h
        cases h
      | ok filled =>
        rw [hfill] at h
        cases h
        exact ⟨read, components, rfl, hcomponents, hfill⟩

/-- The fields of every animation that can be read are typed. -/
theorem typed_of_parse {value : Text} {fields : Fields} (h : parse value = .ok fields) :
    fields.Typed value := by
  obtain ⟨read, components, hterms, hcomponents, hfill⟩ := exists_of_parse h
  have hread := wellRead_of_componentsOf (wellRead_of_terms hterms) hcomponents
  -- Filling starts from fields of which none is set.
  apply Fields.fillAll_typed _ hread hfill
  intro slot v hv
  cases hv

/-! ## Texts of fields -/

private theorem isInert_of_isNumeral {c : Char} (h : isNumeral c = true) : isInert c = true := by
  rw [isNumeral, Bool.or_eq_true] at h
  rcases h with hdigit | hmark
  · exact isInert_of_isAlphanum (by simp [Char.isAlphanum, hdigit])
  · simp only [List.contains_iff_mem, List.mem_cons, List.not_mem_nil, or_false] at hmark
    rcases hmark with rfl | rfl | rfl | rfl | rfl | rfl | rfl | rfl <;> decide

/-- A text of a field that cannot be told from part of a declaration. -/
def IsInertText (t : Text) : Prop :=
  t ≠ [] ∧ ∀ c ∈ t, isInert c = true

instance (t : Text) : Decidable (IsInertText t) :=
  inferInstanceAs (Decidable (_ ∧ _))

private theorem isInertText_append {s t : Text} (hs : IsInertText s)
    (ht : ∀ c ∈ t, isInert c = true) : IsInertText (s ++ t) := by
  constructor
  · simp [hs.1]
  · intro c hc
    rcases List.mem_append.1 hc with hc | hc
    · exact hs.2 c hc
    · exact ht c hc

private theorem isInertText_compact (x : Binary64) : IsInertText x.compact :=
  ⟨x.compact_ne_nil, fun _ hc => isInert_of_isNumeral (Binary64.isNumeral_of_mem_compact hc)⟩

private theorem isInertText_ofInt (n : Int) : IsInertText (Text.ofInt n) :=
  ⟨ofInt_ne_nil n, fun _ hc => isInert_of_isNumeral (isNumeral_of_mem_ofInt hc)⟩

private theorem isInertText_timeText (n : Number) : IsInertText (timeText n) := by
  cases n with
  | int n => exact isInertText_append (isInertText_compact _) (by decide)
  | real x => exact isInertText_append (isInertText_compact _) (by decide)

private theorem isInertText_of_mem_functionNames {name : Text} (h : name ∈ functionNames) :
    IsInertText name := by
  have hall : ∀ name ∈ functionNames, IsInertText name := by decide
  exact hall name h

/-- A call in a field has no space, so its longhand shows all of it. -/
theorem TimingFunction.Typed.isInertText {f : TimingFunction} (h : f.Typed) :
    IsInertText f.text := by
  apply isInertText_append (isInertText_append (isInertText_of_mem_functionNames h.1) _) (by decide)
  intro c hc
  rcases List.mem_cons.1 hc with rfl | hc
  · decide
  · rcases Text.mem_join hc with hcomma | ⟨argument, hargument, hc⟩
    · rw [List.mem_singleton.1 hcomma]
      decide
    · exact h.2 argument hargument c hc

theorem takeWhile_of_inert {t : Text} (h : ∀ c ∈ t, isInert c = true) :
    t.takeWhile (· ≠ ' ') = t := by
  rw [List.takeWhile_eq_self_iff]
  intro c hc
  have hinert := h c hc
  have hspace : c ≠ ' ' := by
    rintro rfl
    exact absurd hinert (by decide)
  simpa using hspace

/-- Only the name of an animation can hold a character that means something to a stylesheet. -/
theorem Slot.Holds.isInertText {value : Text} {slot : Slot} {v : Value} (h : slot.Holds value v)
    (hname : slot ≠ .name) : IsInertText (longhandText slot v) := by
  -- The keywords are finitely many, so they are looked at.
  have hkeywords : ∀ t ∈ timingKeywords ++ directionKeywords ++ fillModeKeywords ++
      playStateKeywords ++ [infinite], IsInertText t := by
    decide
  have hnumber (n : Number) : IsInertText (longhandText .iterationCount (.number n)) := by
    cases n with
    | int n => exact isInertText_ofInt n
    | real x => exact isInertText_compact x
  -- Field by field; a value that the field cannot hold contradicts the hypothesis.
  cases slot with
  | name => exact absurd rfl hname
  | duration =>
    cases v with
    | number n => exact isInertText_timeText n
    | text t => cases h
    | function f => cases h
  | delay =>
    cases v with
    | number n => exact isInertText_timeText n
    | text t => cases h
    | function f => cases h
  | timingFunction =>
    cases v with
    | number n => cases h
    | text t => exact hkeywords t (by simp [show t ∈ timingKeywords from h])
    | function f =>
      have htext := TimingFunction.Typed.isInertText h
      show IsInertText (f.text.takeWhile (· ≠ ' '))
      rw [takeWhile_of_inert htext.2]
      exact htext
  | iterationCount =>
    cases v with
    | number n => exact hnumber n
    | text t => exact hkeywords t (by simp [show t = infinite from h])
    | function f => cases h
  | direction =>
    cases v with
    | number n => cases h
    | text t => exact hkeywords t (by simp [show t ∈ directionKeywords from h])
    | function f => cases h
  | fillMode =>
    cases v with
    | number n => cases h
    | text t => exact hkeywords t (by simp [show t ∈ fillModeKeywords from h])
    | function f => cases h
  | playState =>
    cases v with
    | number n => cases h
    | text t => exact hkeywords t (by simp [show t ∈ playStateKeywords from h])
    | function f => cases h

/-! ## Longhands -/

/-- A value that can be spread stays a shorthand, or each of its longhands has a property and a
value that are not empty and not surrounded by blanks. -/
theorem spread_lines {value : Text} {lines : List Text} (h : spread value = .ok lines) :
    lines = [shorthandLine value] ∨
      ∀ line ∈ lines, ∃ slot ∈ longhandSlots, ∃ t : Text,
        line = "animation-".toList ++ slot.property ++ ':' :: ' ' :: t ∧ t ≠ [] ∧
          Text.trim t = t := by
  unfold spread at h
  split at h
  · next fields hparse =>
    have htyped := typed_of_parse hparse
    split at h <;> cases h
    · exact Or.inl rfl
    · right
      intro line hline
      obtain ⟨slot, hslot, hline⟩ := List.mem_filterMap.1 hline
      obtain ⟨v, hv, rfl⟩ := Option.map_eq_some_iff.1 hline
      have hholds := htyped slot v hv
      refine ⟨slot, hslot, longhandText slot v, rfl, ?_⟩
      -- The name is trimmed because it was read so, and all other texts because they are inert.
      by_cases hname : slot = .name
      · subst hname
        cases v with
        | text t => exact hholds.2
        | number n => cases hholds
        | function f => cases hholds
      · have htext := hholds.isInertText hname
        exact ⟨htext.1, trim_of_inert htext.2⟩
  · cases h
  · cases h
    exact Or.inl rfl
  · cases h
    exact Or.inl rfl

/-- The text of the name; none where the name is not set. -/
def Fields.nameText (fields : Fields) : Text :=
  (fields .name).elim [] (longhandText .name)

/-- The name stands in the value as it is. -/
theorem Fields.Typed.nameText_subtext {value : Text} {fields : Fields} (h : fields.Typed value) :
    fields.nameText <:+: value := by
  unfold Fields.nameText
  cases hname : fields .name with
  | none => exact List.nil_infix
  | some v =>
    have hv := h .name v hname
    cases v with
    | text t => exact hv.1
    | number n => cases hv
    | function f => cases hv

/-- What stands in front of the text of a longhand. -/
private def longhandStart (slot : Slot) : Text :=
  "animation-".toList ++ slot.property ++ [':', ' ']

private theorem longhandLine_eq (slot : Slot) (v : Value) :
    longhandLine slot v = longhandStart slot ++ longhandText slot v :=
  (List.append_assoc ("animation-".toList ++ slot.property) [':', ' '] _).symm

private theorem isInert_longhandStart (slot : Slot) :
    ∀ c ∈ longhandStart slot, c = ' ' ∨ isInert c = true := by
  have hall : ∀ slot ∈ Slot.all, ∀ c ∈ longhandStart slot, c = ' ' ∨ isInert c = true := by
    decide
  exact hall slot (by cases slot <;> simp [Slot.all])

/-- No longhand but that of the name has a character that means something to a stylesheet. -/
private theorem isInert_longhandLine {value : Text} {slot : Slot} {v : Value}
    (hv : slot.Holds value v) (hname : slot ≠ .name) :
    ∀ c ∈ longhandLine slot v, c = ' ' ∨ isInert c = true := by
  rw [longhandLine_eq, List.forall_mem_append]
  exact ⟨isInert_longhandStart slot, fun c hc => Or.inr ((hv.isInertText hname).2 c hc)⟩

/-- The lines hold the text, and around it nothing that means something to a stylesheet. -/
def HoldOnly (core : Text) (lines : List Text) : Prop :=
  ∃ before behind : Text, lines.flatten = before ++ core ++ behind ∧
    ∀ c ∈ before ++ behind, c = ' ' ∨ isInert c = true

private theorem holdOnly_shorthandLine (value : Text) : HoldOnly value [shorthandLine value] := by
  have hstart : ∀ c ∈ "animation: ".toList ++ [], c = ' ' ∨ isInert c = true := by decide
  exact ⟨"animation: ".toList, [], rfl, hstart⟩

/-- The longhands of an animation hold its name alone. -/
private theorem holdOnly_longhandLines {value : Text} {fields : Fields} (h : fields.Typed value) :
    HoldOnly fields.nameText (longhandLines fields) := by
  -- The name comes first, and behind it all other longhands.
  let others := longhandSlots.tail.filterMap fun slot => (fields slot).map (longhandLine slot)
  have hothers : ∀ c ∈ others.flatten, c = ' ' ∨ isInert c = true := by
    intro c hc
    obtain ⟨line, hline, hc⟩ := List.mem_flatten.1 hc
    obtain ⟨slot, hslot, hline⟩ := List.mem_filterMap.1 hline
    obtain ⟨v, hv, rfl⟩ := Option.map_eq_some_iff.1 hline
    apply isInert_longhandLine (h slot v hv) _ c hc
    rintro rfl
    simp [longhandSlots] at hslot
  have hlines : longhandLines fields =
      ((fields .name).map (longhandLine .name)).toList ++ others := by
    unfold longhandLines longhandSlots
    rw [List.filterMap_cons]
    cases fields .name <;> rfl
  rw [HoldOnly, hlines, List.flatten_append, Fields.nameText]
  cases fields .name with
  | none => exact ⟨[], others.flatten, by simp, hothers⟩
  | some v =>
    refine ⟨longhandStart .name, others.flatten, by simp [longhandLine_eq], ?_⟩
    rw [List.forall_mem_append]
    exact ⟨isInert_longhandStart .name, hothers⟩

/-- The lines of an animation hold its value as it is, or else the name that was read in it. -/
theorem holdOnly_of_spread {value : Text} {lines : List Text} (h : spread value = .ok lines) :
    HoldOnly value lines ∨
      ∃ fields, parse value = .ok fields ∧ HoldOnly fields.nameText lines := by
  unfold spread at h
  split at h
  · next fields hparse =>
    split at h <;> cases h
    · exact Or.inl (holdOnly_shorthandLine value)
    · exact Or.inr ⟨fields, hparse, holdOnly_longhandLines (typed_of_parse hparse)⟩
  · cases h
  · cases h
    exact Or.inl (holdOnly_shorthandLine value)
  · cases h
    exact Or.inl (holdOnly_shorthandLine value)

/-- A character that means something to a stylesheet stands in the text that is held. -/
theorem HoldOnly.count_eq {core : Text} {lines : List Text} (h : HoldOnly core lines) {c : Char}
    (hc : isInert c = false) (hblank : c ≠ ' ') : lines.flatten.count c = core.count c := by
  obtain ⟨before, behind, hflatten, hinert⟩ := h
  have hnot : c ∉ before ++ behind := by
    intro hmem
    rcases hinert c hmem with heq | htrue
    · exact hblank heq
    · rw [hc] at htrue
      cases htrue
  rw [List.mem_append, not_or] at hnot
  simp [hflatten, List.count_eq_zero.2 hnot.1, List.count_eq_zero.2 hnot.2]

/-- Spreading an animation adds no character that means something to a stylesheet. -/
theorem count_spread_le {c : Char} (hc : isInert c = false) (hblank : c ≠ ' ') {value : Text}
    {lines : List Text} (h : spread value = .ok lines) :
    lines.flatten.count c ≤ value.count c := by
  rcases holdOnly_of_spread h with hvalue | ⟨fields, hparse, hname⟩
  · rw [hvalue.count_eq hc hblank]
  · rw [hname.count_eq hc hblank]
    exact (typed_of_parse hparse).nameText_subtext.sublist.count_le c

end NativeStyle.Animation
