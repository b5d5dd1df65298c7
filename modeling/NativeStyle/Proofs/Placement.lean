import NativeStyle.Proofs.RoundTrip

/-!
# Where components go

A component has its places: the fields of its category, and for a keyword or a string the name
behind them. It goes to the first of its places that is free, and has no place if none is
(`Fields.toOption_fill`). So no component takes the field of another, and every component is found
again in a field of its own, but for the keyword `unset`, which leaves the name as it was.

Main results:
- `spelled_of_terms` (the texts of a term are lexemes of its kinds, and a call has its arguments),
- `Fields.exists_slots_of_fillAll` (what a run of components sets, and where),
- `parse_places_iff` (nothing is lost exactly if no component is the keyword `unset`).
-/

namespace NativeStyle.Animation

/-! ## Components as they are read -/

/-- A term whose texts are lexemes of its kinds. -/
def Term.Spelled : Term → Prop
  | .time t => Kind.time.Spells t
  | .number t => Kind.number.Spells t
  | .keyword t => Kind.ident.Spells t
  | .string t => Kind.string.Spells t
  | .call name arguments =>
    name ∈ functionNames ∧ arguments ≠ [] ∧
      ∀ argument ∈ arguments, argument ≠ [] ∧ ∀ t ∈ argument, ∃ k ∈ argumentKinds, k.Spells t

private theorem spells_of_spaced {lexemes : List Lexeme} {value : Text}
    (h : Spaced lexemes value) : ∀ l ∈ lexemes, l.kind.Spells l.text := by
  induction h with
  | nil => simp
  | cons _ hspells _ _ ih => exact List.forall_mem_cons.2 ⟨hspells, ih⟩

/-- The lexemes of arguments stand among the lexemes of their call. -/
private theorem mem_intercalate (separator : List Lexeme) {arguments : List (List Lexeme)}
    {argument : List Lexeme} {l : Lexeme} (hargument : argument ∈ arguments) (hl : l ∈ argument) :
    l ∈ separator.intercalate arguments := by
  induction arguments with
  | nil => cases hargument
  | cons first others ih =>
    by_cases hothers : others = []
    · subst hothers
      rw [List.mem_singleton.1 hargument] at hl
      simpa using hl
    · rw [List.intercalate_cons_of_ne_nil hothers]
      rcases List.mem_cons.1 hargument with rfl | hrest
      · exact List.mem_append_left _ (List.mem_append_left _ hl)
      · exact List.mem_append_right _ (ih hrest)

/-- A term that derives spelled lexemes is spelled. -/
private theorem Term.Derives.spelled {term : Term} {lexemes : List Lexeme}
    (h : term.Derives lexemes) (hspells : ∀ l ∈ lexemes, l.kind.Spells l.text) :
    term.Spelled := by
  cases h with
  | time t => exact hspells ⟨.time, t⟩ List.mem_cons_self
  | number t => exact hspells ⟨.number, t⟩ List.mem_cons_self
  | keyword t => exact hspells ⟨.ident, t⟩ List.mem_cons_self
  | string t => exact hspells ⟨.string, t⟩ List.mem_cons_self
  | @call name arguments hne harguments =>
    have hname : Kind.functionName.Spells name := hspells ⟨.functionName, name⟩ List.mem_cons_self
    cases hname with
    | functionName hname =>
    refine ⟨hname, by simpa [argumentTexts] using hne, ?_⟩
    intro texts htexts
    obtain ⟨argument, hargument, rfl⟩ := List.mem_map.1 htexts
    obtain ⟨hfilled, hkinds⟩ := harguments argument hargument
    refine ⟨by simpa using hfilled, ?_⟩
    intro t ht
    obtain ⟨l, hl, rfl⟩ := List.mem_map.1 ht
    have hmem := mem_intercalate [⟨.comma, [',']⟩] hargument hl
    exact ⟨l.kind, hkinds l hl, hspells l (by simp [hmem])⟩

/-- Every term of a value is spelled as the grammar has it. -/
theorem spelled_of_terms {value : Text} {read : List Term} (h : terms value = .ok read) :
    ∀ term ∈ read, term.Spelled := by
  obtain ⟨lexemes, ⟨parts, hparts, rfl⟩, hspaced⟩ := exists_derivation_of_terms h
  have hspells := spells_of_spaced hspaced
  clear hspaced h
  induction hparts with
  | nil => simp
  | cons hterm _ ih =>
    rw [List.flatten_cons, List.forall_mem_append] at hspells
    exact List.forall_mem_cons.2 ⟨hterm.spelled hspells.1, ih hspells.2⟩

/-- Every component of a value was made from one of its terms. -/
theorem exists_terms_of_components {value : Text} {found : List Component}
    (h : components value = .ok found) :
    ∃ read, terms value = .ok read ∧
      ∀ c ∈ found, ∃ term ∈ read, term.Spelled ∧ Component.ofTerm? term = some c := by
  cases hread : terms value with
  | error r =>
    rw [components, hread] at h
    cases h
  | ok read =>
    rw [components_of_terms hread] at h
    refine ⟨read, rfl, fun c hc => ?_⟩
    obtain ⟨term, hterm, hcomponent⟩ := exists_of_mem_mapM h hc
    split at hcomponent <;> cases hcomponent
    next hmade => exact ⟨term, hterm, spelled_of_terms hread term hterm, hmade⟩

section Made

variable {term : Term} {c : Component}

/-- A component with a text was made from an identifier or a string. -/
theorem Term.Spelled.of_value_text (hterm : term.Spelled) (hc : Component.ofTerm? term = some c)
    {t : Text} (hvalue : c.value = .text t) :
    c = .keyword t ∧ Kind.ident.Spells t ∨ c = .string t ∧ Kind.string.Spells t := by
  cases term with
  | time text =>
    obtain ⟨millis, -, rfl⟩ := Option.map_eq_some_iff.1 hc
    cases hvalue
  | number text =>
    obtain ⟨d, -, rfl⟩ := Option.map_eq_some_iff.1 hc
    cases hvalue
  | keyword text => cases hc; cases hvalue; exact Or.inl ⟨rfl, hterm⟩
  | string text => cases hc; cases hvalue; exact Or.inr ⟨rfl, hterm⟩
  | call name arguments => cases hc; cases hvalue

/-- A component with a call was made from this call, its lexemes joined by spaces. -/
theorem Component.eq_call_of_value (hc : ofTerm? term = some c) {f : TimingFunction}
    (hvalue : c.value = .function f) :
    ∃ arguments, term = .call f.name arguments ∧
      f.arguments = arguments.map (Text.join [' ']) := by
  cases term with
  | time text =>
    obtain ⟨millis, -, rfl⟩ := Option.map_eq_some_iff.1 hc
    cases hvalue
  | number text =>
    obtain ⟨d, -, rfl⟩ := Option.map_eq_some_iff.1 hc
    cases hvalue
  | keyword text => cases hc; cases hvalue
  | string text => cases hc; cases hvalue
  | call name arguments => cases hc; cases hvalue; exact ⟨arguments, rfl, rfl⟩

/-- A string stands in quotes, so only a keyword can be the one that clears a field. -/
theorem Term.Spelled.value_eq_unset_iff (hterm : term.Spelled)
    (hc : Component.ofTerm? term = some c) : c.value = .text unset ↔ c = .keyword unset := by
  constructor
  · intro hvalue
    rcases hterm.of_value_text hc hvalue with ⟨hkeyword, -⟩ | ⟨-, hstring⟩
    · exact hkeyword
    · exact absurd ((Kind.spells_iff (by decide)).1 hstring) (by decide)
  · rintro rfl
    rfl

end Made

/-! ## Places -/

/-- The categories of components. -/
inductive Category where
  /-- Times. -/
  | time
  /-- Numbers and the count without end. -/
  | count
  /-- Functions and the keywords of easing. -/
  | easing
  /-- The keywords of the direction of play. -/
  | direction
  /-- The keywords for the time before and after the animation. -/
  | fillMode
  /-- The keywords of the state of play. -/
  | playState
  /-- Strings and all other identifiers. -/
  | name
deriving DecidableEq, Repr

/-- The fields of a category, in the order in which they are filled. -/
def Category.slots : Category → List Slot
  | .time => [.duration, .delay]
  | .count => [.iterationCount]
  | .easing => [.timingFunction]
  | .direction => [.direction]
  | .fillMode => [.fillMode]
  | .playState => [.playState]
  | .name => []

/-- The category of an identifier. -/
def Category.ofKeyword (t : Text) : Category :=
  if t = infinite then .count
  else if t ∈ timingKeywords then .easing
  else if t ∈ directionKeywords then .direction
  else if t ∈ fillModeKeywords then .fillMode
  else if t ∈ playStateKeywords then .playState
  else .name

/-- A keyword has the field in whose table it stands. -/
theorem Category.slots_ofKeyword_of_mem {t : Text} {slot : Slot} (ht : t ∈ slot.keywords) :
    (ofKeyword t).slots = [slot] := by
  have htables : ∀ slot ∈ Slot.all, ∀ t ∈ slot.keywords, (ofKeyword t).slots = [slot] := by decide
  exact htables slot slot.mem_all t ht

theorem Category.slots_ofKeyword_of_notMem {t : Text} (ht : ∀ slot : Slot, t ∉ slot.keywords) :
    (ofKeyword t).slots = [] := by
  have hcount : t ≠ infinite := fun heq => ht .iterationCount (List.mem_singleton.2 heq)
  have heasing : t ∉ timingKeywords := ht .timingFunction
  have hdirection : t ∉ directionKeywords := ht .direction
  have hfillMode : t ∉ fillModeKeywords := ht .fillMode
  have hplayState : t ∉ playStateKeywords := ht .playState
  simp [ofKeyword, slots, *]

/-- The field of an identifier has it among its keywords. -/
theorem Category.mem_keywords_of_mem_slots {t : Text} {slot : Slot}
    (h : slot ∈ (ofKeyword t).slots) : t ∈ slot.keywords := by
  by_cases hkeyword : ∃ own : Slot, t ∈ own.keywords
  · obtain ⟨own, ht⟩ := hkeyword
    rw [slots_ofKeyword_of_mem ht] at h
    rwa [List.mem_singleton.1 h]
  · rw [slots_ofKeyword_of_notMem (not_exists.1 hkeyword)] at h
    cases h

namespace Component

/-- The category of a component. -/
def category : Component → Category
  | .time _ => .time
  | .number _ => .count
  | .function _ => .easing
  | .keyword t => .ofKeyword t
  | .string _ => .name

/-- The fields that a component can go to, in the order in which they are tried. A call with a
space in an argument can go nowhere. -/
def places (c : Component) : List Slot :=
  match c with
  | .time _ | .number _ => c.category.slots
  | .function f => if f.arguments.any (' ' ∈ ·) then [] else c.category.slots
  | .keyword _ | .string _ => c.category.slots ++ [.name]

end Component

namespace Fields

variable {fields fields' : Fields}

/-- The first place of a component that is free. -/
def place? (fields : Fields) (c : Component) : Option Slot :=
  c.places.find? fields.isFree

/-- A keyword goes to the field of its category while that is free. -/
theorem keywordSlot?_eq_find? (t : Text) :
    fields.keywordSlot? t = (Category.ofKeyword t).slots.find? fields.isFree := by
  by_cases hkeyword : ∃ slot : Slot, t ∈ slot.keywords
  · obtain ⟨slot, ht⟩ := hkeyword
    rw [Category.slots_ofKeyword_of_mem ht, List.find?_singleton]
    cases hfree : fields.isFree slot with
    | true => rw [keywordSlot?_of_mem ht hfree]; rfl
    | false => rw [keywordSlot?_of_set ht hfree]; rfl
  · have hnone := not_exists.1 hkeyword
    rw [Category.slots_ofKeyword_of_notMem hnone, keywordSlot?_eq_none hnone]
    rfl

private theorem toOption_fillName (t : Text) :
    (fields.fillName t).toOption =
      ([Slot.name].find? fields.isFree).map (fields.put · (.text t)) := by
  unfold fillName
  cases hfree : fields.isFree .name <;> simp [hfree, Except.toOption]

/-- A component is put into the first of its places that is free; if none is, it has no place. -/
theorem toOption_fill (fields : Fields) (c : Component) :
    (fields.fill c).toOption = (fields.place? c).map (fields.put · c.value) := by
  cases c with
  | time n =>
    simp only [fill, place?, Component.places, Component.category, Category.slots]
    cases hduration : fields.isFree .duration <;> cases hdelay : fields.isFree .delay <;>
      simp [hduration, hdelay, Except.toOption, Component.value]
  | number n =>
    simp only [fill, place?, Component.places, Component.category, Category.slots]
    cases hcount : fields.isFree .iterationCount <;>
      simp [hcount, Except.toOption, Component.value]
  | function f =>
    simp only [fill, place?, Component.places, Component.category, Category.slots]
    cases heasing : fields.isFree .timingFunction <;> cases f.arguments.any (' ' ∈ ·) <;>
      simp [heasing, Except.toOption, Component.value]
  | keyword t =>
    simp only [fill, place?, Component.places, Component.category, List.find?_append,
      ← keywordSlot?_eq_find?]
    cases hslot : fields.keywordSlot? t with
    | some slot => rfl
    | none => exact toOption_fillName t
  | string t => exact toOption_fillName t

/-- Where a component fits, it is put into a field that was free. -/
theorem fill_eq_ok_iff {c : Component} :
    fields.fill c = .ok fields' ↔
      ∃ slot, fields.place? c = some slot ∧ fields' = fields.put slot c.value := by
  have hsame : fields.fill c = .ok fields' ↔ (fields.fill c).toOption = some fields' := by
    cases fields.fill c <;> simp [Except.toOption]
  rw [hsame, toOption_fill, Option.map_eq_some_iff]
  simp only [eq_comm]

theorem isFree_of_place? {c : Component} {slot : Slot} (h : fields.place? c = some slot) :
    fields slot = none := by
  have hfree := List.find?_some h
  rwa [isFree, Option.isNone_iff_eq_none] at hfree

/-- The keyword that clears a field leaves a free field as it is. -/
theorem put_unset {slot : Slot} (h : fields slot = none) :
    fields.put slot (.text unset) = fields := by
  funext other
  by_cases hother : other = slot
  · rw [hother, put, if_pos rfl, if_pos rfl, h]
  · exact put_other hother

/-! ## All components -/

/-- The components stand in fields of their own, each of which holds the value of its component, and
no other field is set. -/
def Places (fields : Fields) (found : List Component) : Prop :=
  ∃ slots : List Slot, slots.Nodup ∧ (∀ slot, slot ∈ slots ↔ fields slot ≠ none) ∧
    List.Forall₂ (fun c slot => fields slot = some c.value) found slots

/-- The fields that are set. -/
def setSlots (fields : Fields) : List Slot :=
  Slot.all.filter fun slot => (fields slot).isSome

theorem mem_setSlots {slot : Slot} : slot ∈ fields.setSlots ↔ fields slot ≠ none := by
  simp [setSlots, Option.isSome_iff_ne_none]

/-- As many fields are set as components have a field. -/
theorem Places.length_setSlots {found : List Component} (h : fields.Places found) :
    fields.setSlots.length = found.length := by
  obtain ⟨slots, hnodup, hset, hfound⟩ := h
  have hall : fields.setSlots.Nodup := List.Nodup.sublist List.filter_sublist (by decide)
  have hperm : fields.setSlots.Perm slots := by
    rw [List.perm_ext_iff_of_nodup hall hnodup]
    exact fun slot => mem_setSlots.trans (hset slot).symm
  rw [hperm.length_eq, hfound.length_eq]

/-- A run of components keeps what is set, and puts every component that clears no field into a
field of its own that was free before. -/
theorem exists_slots_of_fillAll {found : List Component} (h : fields.fillAll found = .ok fields') :
    (∀ slot, fields slot ≠ none → fields' slot = fields slot) ∧
      ∃ slots : List Slot, slots.Nodup ∧
        (∀ slot, slot ∈ slots ↔ fields slot = none ∧ fields' slot ≠ none) ∧
        List.Forall₂ (fun c slot => fields' slot = some c.value)
          (found.filter (·.value ≠ .text unset)) slots := by
  induction found generalizing fields with
  | nil =>
    cases h
    exact ⟨fun _ _ => rfl, [], List.nodup_nil, by simp, .nil⟩
  | cons c found ih =>
    obtain ⟨next, hfill, hrest⟩ := fillAll_cons_eq_ok_iff.1 h
    obtain ⟨slot, hplace, rfl⟩ := fill_eq_ok_iff.1 hfill
    have hfree := isFree_of_place? hplace
    obtain ⟨hkept, slots, hnodup, hslots, hfound⟩ := ih hrest
    by_cases hvalue : c.value = .text unset
    · -- The field stays free, and the component has none.
      rw [hvalue, put_unset hfree] at hkept hslots
      rw [List.filter_cons_of_neg (by simpa using hvalue)]
      exact ⟨hkept, slots, hnodup, hslots, hfound⟩
    · have hput : fields.put slot c.value slot = some c.value := put_same hvalue
      have hhere : fields' slot = some c.value := by
        rw [hkept slot (by simp [hput]), hput]
      have hother {other : Slot} (hne : other ≠ slot) :
          fields.put slot c.value other = fields other := put_other hne
      rw [List.filter_cons_of_pos (by simpa using hvalue)]
      refine ⟨?_, slot :: slots, ?_, ?_, .cons hhere hfound⟩
      · intro other hset
        have hne : other ≠ slot := fun heq => hset (heq ▸ hfree)
        rw [hkept other (by rwa [hother hne]), hother hne]
      · -- The slots of the others were free when this one was set already.
        refine List.nodup_cons.2 ⟨fun hmem => ?_, hnodup⟩
        rw [hslots, hput] at hmem
        cases hmem.1
      · intro other
        by_cases hne : other = slot
        · subst hne
          simp [hfree, hhere]
        · simp [hne, hslots, hother hne]

end Fields

/-- **Nothing is lost.** The components of a value that are not the keyword `unset` each have a
field of their own, which holds their value, and no other field is set. So all components are there,
and as many fields as components are set, exactly if none of them is that keyword. -/
theorem parse_places_iff {value : Text} {fields : Fields} (h : parse value = .ok fields) :
    ∃ found, components value = .ok found ∧
      (fields.Places found ↔ .keyword unset ∉ found) ∧
      (fields.setSlots.length = found.length ↔ .keyword unset ∉ found) ∧
      fields.Places (found.filter (· ≠ .keyword unset)) := by
  obtain ⟨read, found, hread, hfound, hfill⟩ := exists_of_parse h
  have hcomponents : components value = .ok found := (components_of_terms hread).trans hfound
  have hplaces : fields.Places (found.filter (· ≠ .keyword unset)) := by
    obtain ⟨-, slots, hnodup, hslots, hheld⟩ := Fields.exists_slots_of_fillAll hfill
    have hfilter : found.filter (·.value ≠ .text unset) = found.filter (· ≠ .keyword unset) := by
      obtain ⟨_, -, hmade⟩ := exists_terms_of_components hcomponents
      refine List.filter_congr fun c hc => ?_
      obtain ⟨term, -, hspelled, hc⟩ := hmade c hc
      simp [hspelled.value_eq_unset_iff hc]
    rw [hfilter] at hheld
    exact ⟨slots, hnodup, fun slot => by simp [hslots, Fields.empty], hheld⟩
  have hlength := hplaces.length_setSlots
  -- Counting shows whether a component was left out.
  have hcount : fields.setSlots.length = found.length ↔ .keyword unset ∉ found := by
    rw [hlength, List.length_filter_eq_length_iff]
    constructor
    · intro hall hmem
      exact absurd rfl (of_decide_eq_true (hall _ hmem))
    · intro hmem c hc
      exact decide_eq_true fun heq => hmem (heq ▸ hc)
  refine ⟨found, hcomponents, ⟨fun hall => hcount.1 hall.length_setSlots, ?_⟩, hcount, hplaces⟩
  intro hmem
  have hall := List.length_filter_eq_length_iff.1 (hlength.symm.trans (hcount.2 hmem))
  rwa [List.filter_eq_self.2 hall] at hplaces

/-- Keywords that find their fields set name the animation, and all components are there. -/
theorem parse_places_iff_overflowing :
    ∃ fields found, parse "ease 150ms infinite ease 2s".toList = .ok fields ∧
      components "ease 150ms infinite ease 2s".toList = .ok found ∧
      fields.setSlots.length = 5 ∧ fields.Places found := by
  have hok : (parse "ease 150ms infinite ease 2s".toList).isOk = true := by decide +kernel
  have hcomponents : components "ease 150ms infinite ease 2s".toList =
      .ok [.keyword "ease".toList, .time (.int 150), .keyword infinite, .keyword "ease".toList,
        .time (.int 2000)] := by
    decide +kernel
  cases hparse : parse "ease 150ms infinite ease 2s".toList with
  | error fault => rw [hparse] at hok; cases hok
  | ok fields =>
    obtain ⟨found, hfound, hplaces, hcount, -⟩ := parse_places_iff hparse
    rw [hcomponents] at hfound
    cases hfound
    exact ⟨fields, _, rfl, hcomponents, hcount.2 (by decide), hplaces.2 (by decide)⟩

/-- The keyword that clears a field is read as a name and is not there afterwards, nor does it keep
another name out. -/
theorem not_forall_parse_places :
    ¬∀ (value : Text) (fields : Fields) (found : List Component), parse value = .ok fields →
      components value = .ok found →
      fields.setSlots.length = found.length ∧ fields.Places found := by
  intro hall
  have hcomponents : components "unset spin".toList =
      .ok [.keyword unset, .keyword "spin".toList] := by
    decide +kernel
  have hset : (parse "unset spin".toList).toOption.map Fields.setSlots = some [.name] := by
    decide +kernel
  cases hparse : parse "unset spin".toList with
  | error fault => rw [hparse] at hset; cases hset
  | ok fields =>
    rw [hparse] at hset
    have hcount := (hall _ fields _ hparse hcomponents).1
    rw [show fields.setSlots = [.name] from Option.some.inj hset] at hcount
    cases hcount

end NativeStyle.Animation
