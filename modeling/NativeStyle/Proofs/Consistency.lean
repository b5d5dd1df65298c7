import NativeStyle.Proofs.Spreading

/-!
# Fields that belong together

The fields of an animation are written out without another look at them, so what they hold has to
fit. Every field holds values of its own kind only, a delay stands beside a duration, and a keyword
is a name only where its own field holds something else. One component keeps all of this true,
whatever is set before it (`Fields.Consistent.fill`), so it is true of all animations.

Nothing more is true of them: whatever fields fit like that and hold values that a text can spell
are the fields of some value. To write them, each field has its term, and the name comes last, when
the fields of all keywords have been filled (`exists_written_behind`).

Main result: `exists_parse_iff_consistent`.
-/

namespace NativeStyle.Animation

/-! ## Values that fit -/

/-- The values that a field can hold, by what they look like. -/
inductive Slot.Admits : Slot → Value → Prop where
  | duration (n : Number) : Admits .duration (.number n)
  | delay (n : Number) : Admits .delay (.number n)
  | count (n : Number) : Admits .iterationCount (.number n)
  /-- A call of an easing function, whose arguments can be told apart and need no space. -/
  | call {f : TimingFunction} : f.name ∈ functionNames → f.arguments ≠ [] →
      (∀ argument ∈ f.arguments, argument ≠ [] ∧ ' ' ∉ argument) →
      Admits .timingFunction (.function f)
  | keyword {slot : Slot} {t : Text} : t ∈ slot.keywords → Admits slot (.text t)
  /-- A name in quotes. -/
  | string {t : Text} : Kind.string.Spells t → Admits .name (.text t)
  | ident {t : Text} : Kind.ident.Spells t → Admits .name (.text t)

/-- Whether some text spells the value in this field: a number is that of a literal, every argument
of a call is a single lexeme, and the keyword that clears a field is no name. -/
def Slot.IsSpelled : Slot → Value → Prop
  | .duration, .number n | .delay, .number n =>
    ∃ t, Kind.time.Spells t ∧ Component.ofTerm? (.time t) = some (.time n)
  | .iterationCount, .number n =>
    ∃ t, Kind.number.Spells t ∧ Component.ofTerm? (.number t) = some (.number n)
  | .timingFunction, .function f => ∀ argument ∈ f.arguments, ∃ k ∈ argumentKinds, k.Spells argument
  | .name, .text t => t ≠ unset
  | _, _ => True

/-- Fields that fit together. -/
structure Fields.Consistent (fields : Fields) : Prop where
  admits : ∀ slot v, fields slot = some v → slot.Admits v
  spelled : ∀ slot v, fields slot = some v → slot.IsSpelled v
  /-- The first time is the duration. -/
  delayed : fields .delay ≠ none → fields .duration ≠ none
  /-- A keyword names the animation only if its own field is set. -/
  named : ∀ t, fields .name = some (.text t) → ∀ slot : Slot, t ∈ slot.keywords →
    fields slot ≠ none

/-! ## What components bring -/

/-- Whether the component was made from a term as the grammar has it. -/
def Component.Made (c : Component) : Prop :=
  ∃ term : Term, term.Spelled ∧ ofTerm? term = some c

/-- A call without spaces fits into the easing. -/
private theorem admits_call {name : Text} {arguments : List (List Text)}
    (hterm : (Term.call name arguments).Spelled)
    (hspaces : ∀ argument ∈ arguments.map (Text.join [' ']), ' ' ∉ argument) :
    Slot.timingFunction.Admits (.function ⟨name, arguments.map (Text.join [' '])⟩) ∧
      Slot.timingFunction.IsSpelled (.function ⟨name, arguments.map (Text.join [' '])⟩) := by
  obtain ⟨hname, hne, hspelled⟩ := id hterm
  -- The text of every argument is its only lexeme.
  have hlexeme : ∀ argument ∈ arguments.map (Text.join [' ']),
      ∃ k ∈ argumentKinds, k.Spells argument := by
    intro argument hargument
    have hmem : [argument] ∈ arguments := by
      rw [arguments_eq_of_spaceless hterm hspaces]
      exact List.mem_map_of_mem hargument
    exact (hspelled _ hmem).2 argument (List.mem_singleton_self argument)
  refine ⟨.call hname (by simpa using hne) fun argument hargument => ⟨?_, ?_⟩, hlexeme⟩
  · obtain ⟨k, -, hspells⟩ := hlexeme argument hargument
    obtain ⟨c, rest, rfl, -⟩ := hspells.head
    exact List.cons_ne_nil c rest
  · exact hspaces argument hargument

/-- A component fits into all of its places. -/
private theorem Component.Made.admits {c : Component} {slot : Slot} (hc : c.Made)
    (hslot : slot ∈ c.places) :
    slot.Admits c.value ∧ (c.value ≠ .text unset → slot.IsSpelled c.value) := by
  obtain ⟨term, hterm, hmade⟩ := hc
  cases term with
  | time t =>
    obtain ⟨millis, -, rfl⟩ := Option.map_eq_some_iff.1 hmade
    rcases List.mem_pair.1 hslot with rfl | rfl
    · exact ⟨.duration _, fun _ => ⟨t, hterm, hmade⟩⟩
    · exact ⟨.delay _, fun _ => ⟨t, hterm, hmade⟩⟩
  | number t =>
    obtain ⟨d, -, rfl⟩ := Option.map_eq_some_iff.1 hmade
    cases List.mem_singleton.1 hslot
    exact ⟨.count _, fun _ => ⟨t, hterm, hmade⟩⟩
  | keyword t =>
    cases hmade
    rcases List.mem_append.1 hslot with hown | hname
    · have ht := Category.mem_keywords_of_mem_slots hown
      refine ⟨.keyword ht, fun _ => ?_⟩
      cases slot with
      | name => cases ht
      | duration | timingFunction | delay | iterationCount | direction | fillMode | playState =>
        trivial
    · cases List.mem_singleton.1 hname
      exact ⟨.ident hterm, fun hne heq => hne (congrArg Value.text heq)⟩
  | string t =>
    cases hmade
    cases List.mem_singleton.1 hslot
    exact ⟨.string hterm, fun hne heq => hne (congrArg Value.text heq)⟩
  | call name arguments =>
    cases hmade
    -- A call with a space in an argument has no place.
    rw [places] at hslot
    split at hslot
    · cases hslot
    · next hspaces =>
      cases List.mem_singleton.1 hslot
      obtain ⟨hadmits, hspelled⟩ := admits_call hterm (by simpa using hspaces)
      exact ⟨hadmits, fun _ => hspelled⟩

/-- A string is no keyword, since it stands in quotes. -/
private theorem notMem_keywords_of_string {t : Text} (ht : Kind.string.Spells t) (slot : Slot) :
    t ∉ slot.keywords := by
  have hunquoted : ∀ slot ∈ Slot.all, ∀ t ∈ slot.keywords, readString? t = none := by decide
  intro hmem
  have hread := (Kind.spells_iff (by decide)).1 ht
  rw [Kind.read?, hunquoted slot slot.mem_all t hmem] at hread
  cases hread

/-! ## One component -/

/-- The places that a component would rather have than this one. -/
def Component.preferred (c : Component) (slot : Slot) : List Slot :=
  c.places.takeWhile (· ≠ slot)

/-- Only a time comes to the delay, and would rather be the duration. -/
private theorem Component.duration_mem_preferred {c : Component} (h : .delay ∈ c.places) :
    .duration ∈ c.preferred .delay := by
  cases c with
  | time n => exact List.mem_singleton_self _
  | number n => cases List.mem_singleton.1 h
  | keyword t =>
    rcases List.mem_append.1 h with hown | hname
    · cases Category.mem_keywords_of_mem_slots hown
    · cases List.mem_singleton.1 hname
  | string t => cases List.mem_singleton.1 h
  | function f =>
    rw [places] at h
    split at h
    · cases h
    · cases List.mem_singleton.1 h

private theorem Component.places_function {f : TimingFunction}
    (h : ∀ argument ∈ f.arguments, ' ' ∉ argument) :
    (Component.function f).places = [.timingFunction] := by
  rw [places, if_neg (by simpa using h)]
  rfl

private theorem Component.places_keyword {t : Text} {slot : Slot} (ht : t ∈ slot.keywords) :
    (Component.keyword t).places = [slot, .name] := by
  rw [places, category, Category.slots_ofKeyword_of_mem ht]
  rfl

/-- A keyword would rather have its own field than be the name. -/
private theorem Component.preferred_keyword (t : Text) :
    (Component.keyword t).preferred .name = (Category.ofKeyword t).slots := by
  have hother : ∀ slot ∈ (Category.ofKeyword t).slots, decide (slot ≠ .name) = true := by
    intro slot hslot
    have ht := Category.mem_keywords_of_mem_slots hslot
    rw [decide_eq_true_eq]
    rintro rfl
    cases ht
  rw [preferred, places, category, List.takeWhile_append_of_pos hother]
  simp

/-- What is found first in a list passes the test, and nothing in front of it does. -/
private theorem find?_eq_some_iff_takeWhile {α : Type} [DecidableEq α] {p : α → Bool}
    {xs : List α} {x : α} :
    xs.find? p = some x ↔ x ∈ xs ∧ p x = true ∧ ∀ y ∈ xs.takeWhile (· ≠ x), p y = false := by
  induction xs with
  | nil => simp
  | cons y xs ih =>
    by_cases hx : y = x
    · subst hx
      cases hp : p y <;> simp [hp, ih]
    · cases hp : p y
      · simp [hp, ih, hx, Ne.symm hx]
      · simp [hp, hx]

namespace Fields

variable {fields fields' : Fields} {c : Component} {slot : Slot}

/-- A component goes to a place that is free if none is free that it would rather have. -/
private theorem place?_eq_some_iff :
    fields.place? c = some slot ↔
      slot ∈ c.places ∧ fields slot = none ∧ ∀ other ∈ c.preferred slot, fields other ≠ none := by
  rw [place?, find?_eq_some_iff_takeWhile]
  simp only [isFree, Option.isNone_iff_eq_none, Option.isNone_eq_false_iff,
    Option.isSome_iff_ne_none, Component.preferred]

private theorem kept_of_fill (h : fields.fill c = .ok fields') (hset : fields slot ≠ none) :
    fields' slot = fields slot := by
  obtain ⟨taken, hplace, rfl⟩ := fill_eq_ok_iff.1 h
  refine put_other ?_
  rintro rfl
  exact hset (isFree_of_place? hplace)

/-- Whatever a component sets is its own value. -/
private theorem eq_value_of_fill (h : fields.fill c = .ok fields') (hfree : fields slot = none)
    {v : Value} (hv : fields' slot = some v) :
    fields.place? c = some slot ∧ v = c.value ∧ v ≠ .text unset := by
  obtain ⟨taken, hplace, rfl⟩ := fill_eq_ok_iff.1 h
  have heq : slot = taken := by
    by_contra hne
    rw [put_other hne, hfree] at hv
    cases hv
  subst heq
  by_cases hunset : c.value = .text unset
  · rw [hunset, put_unset hfree, hfree] at hv
    cases hv
  · rw [put_same hunset] at hv
    cases hv
    exact ⟨hplace, rfl, hunset⟩

/-- One component keeps every field fitting and spelled. -/
private theorem admits_of_fill (hc : c.Made) (h : fields.fill c = .ok fields')
    (hfields : ∀ slot v, fields slot = some v → slot.Admits v ∧ slot.IsSpelled v) :
    ∀ slot v, fields' slot = some v → slot.Admits v ∧ slot.IsSpelled v := by
  intro slot v hv
  cases hold : fields slot with
  | some w =>
    rw [kept_of_fill h (by simp [hold])] at hv
    exact hfields slot v hv
  | none =>
    obtain ⟨hplace, rfl, hunset⟩ := eq_value_of_fill h hold hv
    obtain ⟨hadmits, hspelled⟩ := hc.admits (place?_eq_some_iff.1 hplace).1
    exact ⟨hadmits, hspelled hunset⟩

/-- One component keeps the delay beside a duration. -/
private theorem delayed_of_fill (h : fields.fill c = .ok fields')
    (hfields : fields .delay ≠ none → fields .duration ≠ none) :
    fields' .delay ≠ none → fields' .duration ≠ none := by
  intro hdelay
  have hduration : fields .duration ≠ none := by
    cases hold : fields .delay with
    | some v => exact hfields (by simp [hold])
    | none =>
      -- The component came to the delay because the duration was set.
      obtain ⟨v, hv⟩ := Option.ne_none_iff_exists'.1 hdelay
      obtain ⟨hplace, -, -⟩ := eq_value_of_fill h hold hv
      obtain ⟨hmem, -, hpreferred⟩ := place?_eq_some_iff.1 hplace
      exact hpreferred .duration (Component.duration_mem_preferred hmem)
  rwa [kept_of_fill h hduration]

/-- One component keeps keywords from being names while their own fields are free. -/
private theorem named_of_fill (hc : c.Made) (h : fields.fill c = .ok fields')
    (hfields : ∀ t, fields .name = some (.text t) → ∀ slot : Slot, t ∈ slot.keywords →
      fields slot ≠ none) :
    ∀ t, fields' .name = some (.text t) → ∀ slot : Slot, t ∈ slot.keywords →
      fields' slot ≠ none := by
  intro t hname slot ht
  have hset : fields slot ≠ none := by
    cases hold : fields .name with
    | some v =>
      rw [kept_of_fill h (by simp [hold])] at hname
      exact hfields t hname slot ht
    | none =>
      obtain ⟨hplace, hvalue, -⟩ := eq_value_of_fill h hold hname
      obtain ⟨-, -, hpreferred⟩ := place?_eq_some_iff.1 hplace
      obtain ⟨term, hterm, hmade⟩ := hc
      rcases hterm.of_value_text hmade hvalue.symm with ⟨rfl, -⟩ | ⟨-, hstring⟩
      · -- The keyword would rather have gone to its own field.
        apply hpreferred slot
        rw [Component.preferred_keyword, Category.slots_ofKeyword_of_mem ht]
        exact List.mem_singleton_self slot
      · exact absurd ht (notMem_keywords_of_string hstring slot)
  rwa [kept_of_fill h hset]

/-- One component keeps the fields consistent. -/
theorem Consistent.fill (hfields : fields.Consistent) (hc : c.Made)
    (h : fields.fill c = .ok fields') : fields'.Consistent := by
  have hheld := admits_of_fill hc h fun slot v hv =>
    ⟨hfields.admits slot v hv, hfields.spelled slot v hv⟩
  constructor
  case admits => exact fun slot v hv => (hheld slot v hv).1
  case spelled => exact fun slot v hv => (hheld slot v hv).2
  case delayed => exact delayed_of_fill h hfields.delayed
  case named => exact named_of_fill hc h hfields.named

private theorem consistent_empty : empty.Consistent where
  admits _ _ hv := nomatch hv
  spelled _ _ hv := nomatch hv
  delayed hset := absurd rfl hset
  named _ hv := nomatch hv

end Fields

/-- The fields of every animation are consistent. -/
theorem consistent_of_parse {value : Text} {fields : Fields} (h : parse value = .ok fields) :
    fields.Consistent := by
  obtain ⟨read, found, hread, hfound, hfill⟩ := exists_of_parse h
  obtain ⟨_, -, hmade⟩ := exists_terms_of_components ((components_of_terms hread).trans hfound)
  apply Fields.fillAll_induction _ Fields.consistent_empty hfill
  intro c hc fields next hnow hstep
  obtain ⟨term, -, hterm⟩ := hmade c hc
  exact hnow.fill ⟨term, hterm⟩ hstep

/-! ## Consistent fields are written -/

/-- The order in which fields can be written whatever they hold: the delay comes behind the
duration, and the name behind all fields that have keywords. -/
def writingOrder : List Slot :=
  [.duration, .delay, .timingFunction, .iterationCount, .direction, .fillMode, .playState, .name]

/-- The fields that a value would rather have gone to than to this one: a time is the duration
first, and a name that is a keyword belongs to the field of that keyword. -/
def Slot.Rather : Slot → Value → Slot → Prop
  | .delay, _, other => other = .duration
  | .name, .text t, other => t ∈ other.keywords
  | _, _, _ => False

/-- A value that fits and is spelled is written as a term whose component comes to its field, or to
one that it would rather have. -/
private theorem exists_written {slot : Slot} {v : Value} (hadmits : slot.Admits v)
    (hspelled : slot.IsSpelled v) :
    ∃ (term : Term) (t : Text) (c : Component), term.Written t ∧ Component.ofTerm? term = some c ∧
      c.value = v ∧ slot ∈ c.places ∧ ∀ other ∈ c.preferred slot, slot.Rather v other := by
  have hfirst {c : Component} (h : c.preferred slot = []) :
      ∀ other ∈ c.preferred slot, slot.Rather v other := by
    rw [h]
    exact List.forall_mem_nil _
  cases hadmits with
  | duration n =>
    obtain ⟨t, ht, hmade⟩ := hspelled
    exact ⟨.time t, t, .time n, .time ht, hmade, rfl, List.mem_cons_self, hfirst rfl⟩
  | delay n =>
    obtain ⟨t, ht, hmade⟩ := hspelled
    exact ⟨.time t, t, .time n, .time ht, hmade, rfl, List.mem_cons_of_mem _ List.mem_cons_self,
      fun other hother => List.mem_singleton.1 hother⟩
  | count n =>
    obtain ⟨t, ht, hmade⟩ := hspelled
    exact ⟨.number t, t, .number n, .number ht, hmade, rfl, List.mem_cons_self, hfirst rfl⟩
  | @call f hname hne harguments =>
    obtain ⟨hwritten, hmade⟩ := written_component (.call ⟨hname, hne, hspelled⟩)
    have hplaces := Component.places_function fun argument hargument =>
      (harguments argument hargument).2
    refine ⟨_, _, .function f, hwritten, hmade, rfl, by simp [hplaces], hfirst ?_⟩
    rw [Component.preferred, hplaces]
    rfl
  | @keyword _ t ht =>
    have hplaces := Component.places_keyword ht
    refine ⟨.keyword t, t, .keyword t, .keyword (spells_of_mem_keywords ht), rfl, rfl,
      by simp [hplaces], hfirst ?_⟩
    rw [Component.preferred, hplaces]
    simp
  | @string t ht =>
    exact ⟨.string t, t, .string t, .string ht, rfl, rfl, List.mem_cons_self, hfirst rfl⟩
  | @ident t ht =>
    refine ⟨.keyword t, t, .keyword t, .keyword ht, rfl, rfl,
      List.mem_append_right _ (List.mem_singleton_self _), ?_⟩
    rw [Component.preferred_keyword]
    exact fun other hother => Category.mem_keywords_of_mem_slots hother

/-- The field that a value would rather have gone to is set, and it is written before. -/
private theorem Fields.Consistent.rather {fields : Fields} (h : fields.Consistent)
    {slot other : Slot} {v : Value} (hv : fields slot = some v) (hother : slot.Rather v other) :
    fields other ≠ none ∧ other ∈ writingOrder.takeWhile (· ≠ slot) := by
  cases slot with
  | delay =>
    cases hother
    exact ⟨h.delayed (by simp [hv]), by decide⟩
  | name =>
    cases v with
    | text t =>
      refine ⟨h.named t hv other hother, ?_⟩
      cases other with
      | name => cases hother
      | duration | timingFunction | delay | iterationCount | direction | fillMode | playState =>
        decide
    | number n => cases hother
    | function f => cases hother
  | duration | timingFunction | iterationCount | direction | fillMode | playState => cases hother

/-- No field holds the keyword that clears it. -/
private theorem Fields.Consistent.ne_unset {fields : Fields} (h : fields.Consistent) {slot : Slot}
    {v : Value} (hv : fields slot = some v) : v ≠ .text unset := by
  rintro rfl
  have hspelled := h.spelled slot _ hv
  cases h.admits slot _ hv with
  | keyword ht => exact unset_notMem_keywords slot ht
  | string ht => exact hspelled rfl
  | ident ht => exact hspelled rfl

/-- What is written before a field are the fields in front of it. -/
private theorem front_of_writingOrder {slot : Slot} {done todo : List Slot}
    (hall : done ++ slot :: todo = writingOrder) :
    slot ∉ done ∧ writingOrder.takeWhile (· ≠ slot) = done := by
  have hnot : slot ∉ done := Fields.notMem_of_append_eq (by decide) hall
  refine ⟨hnot, ?_⟩
  rw [← hall, List.takeWhile_append_of_pos]
  · simp
  · intro other hother
    rw [decide_eq_true_eq]
    rintro rfl
    exact hnot hother

/-- The component of a field comes to it behind the fields that are written before. -/
private theorem Fields.Consistent.fill_only {fields : Fields} (h : fields.Consistent)
    {c : Component} {slot : Slot} {done todo : List Slot} (hv : fields slot = some c.value)
    (hplaces : slot ∈ c.places) (hpreferred : ∀ other ∈ c.preferred slot, slot.Rather c.value other)
    (hall : done ++ slot :: todo = writingOrder) :
    (fields.only done).fill c = .ok (fields.only (done ++ [slot])) := by
  obtain ⟨hnot, hfront⟩ := front_of_writingOrder hall
  rw [fill_eq_ok_iff]
  refine ⟨slot, place?_eq_some_iff.2 ⟨hplaces, if_neg hnot, ?_⟩,
    (put_only hv (h.ne_unset hv)).symm⟩
  intro other hother
  obtain ⟨hset, hbefore⟩ := h.rather hv (hpreferred other hother)
  rw [hfront] at hbefore
  rwa [only, if_pos hbefore]

/-- The fields that are left are written one after the other, behind those that are written. -/
private theorem exists_written_behind {fields : Fields} (h : fields.Consistent)
    {done todo : List Slot} (hall : done ++ todo = writingOrder) :
    ∃ (read : List Term) (texts : List Text) (found : List Component),
      List.Forall₂ Term.Written read texts ∧
        List.Forall₂ (fun term c => Component.ofTerm? term = some c) read found ∧
        (fields.only done).fillAll found = .ok fields := by
  induction todo generalizing done with
  | nil =>
    rw [List.append_nil] at hall
    have hmem : ∀ slot ∈ Slot.all, slot ∈ writingOrder := by decide
    have honly : fields.only done = fields := by
      funext slot
      rw [Fields.only, hall, if_pos (hmem slot slot.mem_all)]
    refine ⟨[], [], [], .nil, .nil, ?_⟩
    rw [honly]
    rfl
  | cons slot todo ih =>
    obtain ⟨read, texts, found, hwritten, hmade, hfill⟩ :=
      ih (show (done ++ [slot]) ++ todo = writingOrder by rw [← hall]; simp)
    cases hv : fields slot with
    | none =>
      rw [Fields.only_concat_of_none hv] at hfill
      exact ⟨read, texts, found, hwritten, hmade, hfill⟩
    | some v =>
      obtain ⟨term, t, c, hterm, hc, rfl, hplaces, hpreferred⟩ :=
        exists_written (h.admits slot v hv) (h.spelled slot v hv)
      refine ⟨term :: read, t :: texts, c :: found, .cons hterm hwritten, .cons hc hmade, ?_⟩
      rw [Fields.fillAll_cons_eq_ok_iff]
      exact ⟨_, h.fill_only hv hplaces hpreferred hall, hfill⟩

/-- The keyword that clears a field is read, but leaves all fields as they are. -/
private theorem parse_unset : parse unset = .ok .empty := by
  have hread : terms unset = .ok [.keyword unset] := by decide +kernel
  rw [parse_eq_bind, components_of_terms hread]
  change (Fields.empty.fillAll [.keyword unset]).mapError Fault.conflict = _
  have hfill : Fields.empty.fillAll [.keyword unset] = .ok .empty := by
    rw [Fields.fillAll_cons_eq_ok_iff]
    refine ⟨_, ?_, rfl⟩
    rw [Fields.fill_eq_ok_iff]
    exact ⟨.name, by decide, (Fields.put_unset rfl).symm⟩
  rw [hfill]
  rfl

/-- Consistent fields are those of some value. -/
private theorem exists_parse_of_consistent {fields : Fields} (h : fields.Consistent) :
    ∃ value, parse value = .ok fields := by
  obtain ⟨read, texts, found, hwritten, hmade, hfill⟩ :=
    exists_written_behind h (List.nil_append writingOrder)
  rw [Fields.only_nil] at hfill
  cases hwritten with
  | nil =>
    -- No field is set, and there is no empty animation.
    cases hmade
    cases hfill
    exact ⟨unset, parse_unset⟩
  | @cons term t read texts hterm hrest =>
    refine ⟨Text.join [' '] (t :: texts), ?_⟩
    have hterms := terms_of_gapped (.cons hterm hrest) (gapped_join (List.cons_ne_nil t texts))
    rw [parse_eq_bind, components_of_terms hterms, componentsOf_eq_ok_iff.2 hmade]
    change (Fields.empty.fillAll found).mapError Fault.conflict = _
    rw [hfill]
    rfl

/-- **Consistent fields.** The fields of an animation fit together, whatever its text is: times are
numbers and the first is the duration, an easing is a keyword or a call of an easing function with
arguments that are not empty and have no space, counts are numbers or without end, all other
keywords stand in their own fields, and the name is a string or an identifier, which is a keyword
only if the field of that keyword is set. And all fields that fit together and are spelled by a text
are the fields of some animation. -/
theorem exists_parse_iff_consistent {fields : Fields} :
    (∃ value, parse value = .ok fields) ↔ fields.Consistent := by
  constructor
  · rintro ⟨value, hvalue⟩
    exact consistent_of_parse hvalue
  · exact exists_parse_of_consistent

end NativeStyle.Animation
