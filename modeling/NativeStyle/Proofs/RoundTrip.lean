import NativeStyle.Proofs.Derivations
import NativeStyle.Proofs.Numerals

/-!
# Shorthands written and read back

The fields of an animation are written in a fixed order, and each is written as one term. The terms
are read back as they were written, since a blank stands between any two of them, and the component
of each finds the field that it was written for: the fields in front of it are set by then, and none
of those behind it. A delay needs a duration in front of it, a name must be no keyword of another
field, and a number must be whole, as others need not read back.

The invariant of filling is that exactly the fields written so far are set, each with its value
(`Fields.fillAll_entries`); one field keeps it (`Fields.fill_component`).

Main result: `parse_serialize`.
-/

namespace NativeStyle.Animation

/-! ## Fields that can be written -/

@[simp] theorem Slot.mem_all (slot : Slot) : slot ∈ Slot.all := by
  cases slot <;> decide

/-- The keywords that a field can hold, the name apart. -/
def Slot.keywords : Slot → List Text
  | .timingFunction => timingKeywords
  | .iterationCount => [infinite]
  | .direction => directionKeywords
  | .fillMode => fillModeKeywords
  | .playState => playStateKeywords
  | .name | .duration | .delay => []

/-- Whether the text is a name: a string, or an identifier that is no keyword. -/
def IsName (t : Text) : Prop :=
  Kind.string.Spells t ∨
    Kind.ident.Spells t ∧ t ≠ unset ∧ ∀ slot : Slot, t ∉ slot.keywords

/-- Whether the call has arguments, each of which is a single lexeme. -/
def TimingFunction.IsPlain (f : TimingFunction) : Prop :=
  f.name ∈ functionNames ∧ f.arguments ≠ [] ∧
    ∀ argument ∈ f.arguments, ∃ k ∈ argumentKinds, k.Spells argument

/-- The values of a field that read back as they are written. -/
inductive Slot.Prints : Slot → Value → Prop where
  | name {t : Text} : IsName t → Prints .name (.text t)
  | duration {n : Int} : Binary64.IsExact n → Prints .duration (.number (.int n))
  | delay {n : Int} : Binary64.IsExact n → Prints .delay (.number (.int n))
  | count {n : Int} : Binary64.IsExact n → Prints .iterationCount (.number (.int n))
  | call {f : TimingFunction} : f.IsPlain → Prints .timingFunction (.function f)
  | keyword {slot : Slot} {t : Text} : t ∈ slot.keywords → Prints slot (.text t)

/-- Fields that can be written: some field is set, every field that is set holds what reads back,
and there is no delay without a duration. -/
structure Fields.Printable (fields : Fields) : Prop where
  exists_set : ∃ slot, fields slot ≠ none
  prints : ∀ slot v, fields slot = some v → slot.Prints v
  delayed : fields .duration = none → fields .delay = none

/-! ## One field -/

/-- The component that a field reads back as. -/
def Slot.component : Slot → Value → Component
  | .duration, .number n | .delay, .number n => .time n
  | _, .number n => .number n
  | .name, .text t => if t.head? = some '"' ∨ t.head? = some '\'' then .string t else .keyword t
  | _, .text t => .keyword t
  | _, .function f => .function f

/-- The term that a component is written as. -/
def Component.term : Component → Term
  | .time n => .time (n.text ++ ['m', 's'])
  | .number n => .number n.text
  | .keyword t => .keyword t
  | .string t => .string t
  | .function f => .call f.name (f.arguments.map ([·]))

/-- Every keyword is an identifier. -/
theorem spells_of_mem_keywords {slot : Slot} {t : Text} (h : t ∈ slot.keywords) :
    Kind.ident.Spells t := by
  have hall : ∀ slot ∈ Slot.all, ∀ t ∈ slot.keywords, readIdent? t = some (t, []) := by decide
  exact (Kind.spells_iff (by decide)).2 (hall slot slot.mem_all t h)

/-- A name is read back as it was written, as a string or as a keyword. -/
private theorem component_name {t : Text} (h : IsName t) :
    Kind.string.Spells t ∧ Slot.name.component (.text t) = .string t ∨
      (Kind.ident.Spells t ∧ ∀ slot : Slot, t ∉ slot.keywords) ∧
        Slot.name.component (.text t) = .keyword t := by
  rcases h with hstring | ⟨hident, -, hkeyword⟩
  · refine Or.inl ⟨hstring, ?_⟩
    cases hstring with
    | string hquote =>
      rw [Slot.component, if_pos]
      simpa using hquote
  · refine Or.inr ⟨⟨hident, hkeyword⟩, ?_⟩
    -- An identifier begins with a hyphen or a letter, not with a quote.
    cases hident with
    | @ident hyphen c t hhyphen hc =>
      rw [Slot.component, if_neg]
      rcases hhyphen with rfl | rfl
      · simp only [List.nil_append, List.head?_cons, Option.some.injEq]
        rintro (rfl | rfl) <;> exact absurd hc (by decide)
      · simp

/-- The arguments of a plain call are written as they are. -/
private theorem exists_arguments {texts : List Text}
    (h : ∀ argument ∈ texts, ∃ k ∈ argumentKinds, k.Spells argument) :
    ∃ arguments : List (List Lexeme), argumentTexts arguments = texts.map ([·]) ∧
      List.Forall₂ ArgumentWritten arguments texts := by
  induction texts with
  | nil => exact ⟨[], rfl, .nil⟩
  | cons t texts ih =>
    rw [List.forall_mem_cons] at h
    obtain ⟨⟨k, hk, ht⟩, hrest⟩ := h
    obtain ⟨arguments, htexts, hwritten⟩ := ih hrest
    refine ⟨[⟨k, t⟩] :: arguments, ?_, .cons ⟨?_, ?_⟩ hwritten⟩
    · rw [List.map_cons, ← htexts]
      rfl
    · rw [List.forall_mem_singleton]
      exact ⟨hk, ht⟩
    · exact Gapped.alone t

private theorem written_number {n : Int} : (Term.number (Text.ofInt n)).Written (Text.ofInt n) := by
  have hspells := Kind.Spells.number (Numeral.wellFormed_ofInt n)
  rw [Numeral.spelling_ofInt] at hspells
  exact .number hspells

private theorem written_time {n : Int} :
    (Term.time (Text.ofInt n ++ ['m', 's'])).Written (Text.ofInt n ++ ['m', 's']) := by
  have hspells := Kind.Spells.time (Numeral.wellFormed_ofInt n)
    (by decide : ['m'] ∈ unitFronts) (by decide : 's' ∈ secondLetters)
  rw [Numeral.spelling_ofInt] at hspells
  exact .time hspells

private theorem written_call {f : TimingFunction} (h : f.IsPlain) :
    (Component.function f).term.Written f.text := by
  obtain ⟨hname, hne, harguments⟩ := h
  obtain ⟨arguments, htexts, hwritten⟩ := exists_arguments harguments
  have hne' : arguments ≠ [] := by
    rintro rfl
    exact hne (List.forall₂_nil_left_iff.1 hwritten)
  have hcall := Term.Written.call hname hne' hwritten
  rw [htexts] at hcall
  simpa [Component.term, TimingFunction.text] using hcall

private theorem component_keyword {slot : Slot} {t : Text} (h : t ∈ slot.keywords) :
    slot.component (.text t) = .keyword t := by
  cases slot with
  | name => cases h
  | duration | timingFunction | delay | iterationCount | direction | fillMode | playState => rfl

/-- The text of a field is its term, and the value of that term is its component. -/
theorem written_component {slot : Slot} {v : Value} (h : slot.Prints v) :
    (slot.component v).term.Written (shorthandText slot v) ∧
      Component.ofTerm? (slot.component v).term = some (slot.component v) := by
  have htext (slot : Slot) (t : Text) : shorthandText slot (.text t) = t := by cases slot <;> rfl
  cases h with
  | @name t ht =>
    rw [htext]
    rcases component_name ht with ⟨hstring, heq⟩ | ⟨⟨hident, -⟩, heq⟩
    · rw [heq]
      exact ⟨.string hstring, rfl⟩
    · rw [heq]
      exact ⟨.keyword hident, rfl⟩
  | duration hn => exact ⟨written_time, ofTerm?_time_ofInt hn⟩
  | delay hn => exact ⟨written_time, ofTerm?_time_ofInt hn⟩
  | count hn => exact ⟨written_number, ofTerm?_number_ofInt hn⟩
  | call hf =>
    refine ⟨written_call hf, ?_⟩
    have hjoin : (Text.join [' '] ∘ fun t => [t]) = id := by
      funext t
      simp [Text.join]
    simp [Slot.component, Component.term, Component.ofTerm?, hjoin]
  | keyword ht =>
    rw [htext, component_keyword ht]
    exact ⟨.keyword (spells_of_mem_keywords ht), rfl⟩

/-! ## Filling one field -/

namespace Fields

variable {fields : Fields} {slot : Slot} {v : Value} {t : Text}

/-- A keyword stands in the table of its field and in no other; the count without end stands in
none. -/
theorem table_of_mem_keywords (ht : t ∈ slot.keywords) :
    t = infinite ∧ slot = .iterationCount ∨
      t ≠ infinite ∧ (slot, slot.keywords) ∈ keywordSlots ∧
        ∀ entry ∈ keywordSlots, t ∈ entry.2 → entry.1 = slot := by
  have htable : ∀ slot ∈ Slot.all, ∀ t ∈ slot.keywords,
      t = infinite ∧ slot = .iterationCount ∨
        t ≠ infinite ∧ (slot, slot.keywords) ∈ keywordSlots ∧
          ∀ entry ∈ keywordSlots, t ∈ entry.2 → entry.1 = slot := by
    decide
  exact htable slot slot.mem_all t ht

/-- A keyword goes to its field while that is free, and no other field takes it. -/
theorem keywordSlot?_of_mem (ht : t ∈ slot.keywords) (hfree : fields.isFree slot = true) :
    fields.keywordSlot? t = some slot := by
  rcases table_of_mem_keywords ht with ⟨rfl, rfl⟩ | ⟨hne, hentry, honly⟩
  · rw [keywordSlot?, if_pos ⟨rfl, hfree⟩]
  · rw [keywordSlot?, if_neg fun h => hne h.1]
    change (keywordSlots.find? fun entry => entry.2.contains t && fields.isFree entry.1).map _ = _
    have hsome : (keywordSlots.find? fun entry =>
        entry.2.contains t && fields.isFree entry.1).isSome = true := by
      rw [List.find?_isSome]
      exact ⟨_, hentry, by simp [ht, hfree]⟩
    obtain ⟨entry, hfound⟩ := Option.isSome_iff_exists.1 hsome
    have hmem := List.find?_some hfound
    simp only [Bool.and_eq_true, List.contains_iff_mem] at hmem
    rw [hfound, Option.map_some, honly entry (List.mem_of_find?_eq_some hfound) hmem.1]

/-- A keyword whose field is set goes to no field of its own. -/
theorem keywordSlot?_of_set (ht : t ∈ slot.keywords) (hset : fields.isFree slot = false) :
    fields.keywordSlot? t = none := by
  rcases table_of_mem_keywords ht with ⟨rfl, rfl⟩ | ⟨hne, hentry, honly⟩
  · -- The count without end is no keyword of another field.
    have hnone : ∀ entry ∈ keywordSlots, infinite ∉ entry.2 := by decide
    rw [keywordSlot?, if_neg (by simp [hset]), Option.map_eq_none_iff, List.find?_eq_none]
    intro entry hentry
    simp [hnone entry hentry]
  · rw [keywordSlot?, if_neg fun h => hne h.1, Option.map_eq_none_iff, List.find?_eq_none]
    intro entry hentry hmem
    simp only [Bool.and_eq_true, List.contains_iff_mem] at hmem
    rw [honly entry hentry hmem.1, hset] at hmem
    cases hmem.2

/-- A text that is no keyword goes to no field of its own. -/
theorem keywordSlot?_eq_none (ht : ∀ slot : Slot, t ∉ slot.keywords) :
    fields.keywordSlot? t = none := by
  have hinfinite : t ≠ infinite := by
    rintro rfl
    exact ht .iterationCount (by decide)
  have htable : ∀ entry ∈ keywordSlots, entry.2 = entry.1.keywords := by decide
  rw [keywordSlot?, if_neg fun h => hinfinite h.1, Option.map_eq_none_iff, List.find?_eq_none]
  intro entry hentry hmem
  simp only [Bool.and_eq_true, List.contains_iff_mem] at hmem
  exact ht entry.1 (htable entry hentry ▸ hmem.1)

/-- A lexeme of an argument has no space in it. -/
theorem space_notMem_of_spells {k : Kind} (hk : k ∈ argumentKinds) (ht : k.Spells t) :
    ' ' ∉ t := by
  have hkinds : ∀ k ∈ argumentKinds, k ≠ .functionName ∧ k ≠ .string := by decide
  obtain ⟨hname, hstring⟩ := hkinds k hk
  intro hspace
  have hinert := Kind.isInert_of_read? hstring ((Kind.spells_iff hname).1 ht) ' ' hspace
  exact absurd hinert (by decide)

/-- The component of a field goes to that field if it is free; the first time goes to the duration,
so a delay needs that to be set. -/
theorem fill_component (h : slot.Prints v) (hfree : fields.isFree slot = true)
    (hdelay : slot = .delay → fields.isFree .duration = false) :
    fields.fill (slot.component v) = .ok (fields.put slot v) := by
  cases h with
  | @name t ht =>
    rcases component_name ht with ⟨-, heq⟩ | ⟨⟨-, hnone⟩, heq⟩
    · rw [heq, fill, fillName, if_pos hfree]
    · rw [heq, fill, keywordSlot?_eq_none hnone]
      exact if_pos hfree
  | duration => exact if_pos hfree
  | delay => rw [Slot.component, fill, if_neg (by simp [hdelay rfl]), if_pos hfree]
  | count => exact if_pos hfree
  | @call f hf =>
    have hspaces : ¬(f.arguments.any fun argument => ' ' ∈ argument) = true := by
      rw [List.any_eq_true]
      rintro ⟨argument, hargument, hspace⟩
      obtain ⟨k, hk, hspells⟩ := hf.2.2 argument hargument
      exact space_notMem_of_spells hk hspells (of_decide_eq_true hspace)
    rw [Slot.component, fill, if_neg (by simp [hfree]), if_neg hspaces]
  | keyword ht => rw [component_keyword ht, fill, keywordSlot?_of_mem ht hfree]

end Fields

/-- The keyword that clears a field is no keyword of a field. -/
theorem unset_notMem_keywords (slot : Slot) : unset ∉ slot.keywords := by
  cases slot <;> decide

/-- No field is written as the keyword that clears it. -/
theorem Slot.Prints.ne_unset {slot : Slot} {v : Value} (h : slot.Prints v) : v ≠ .text unset := by
  rintro rfl
  cases h with
  | name ht =>
    rcases ht with hstring | ⟨-, hne, -⟩
    · exact absurd ((Kind.spells_iff (by decide)).1 hstring) (by decide)
    · exact hne rfl
  | keyword ht => exact unset_notMem_keywords slot ht

/-! ## All fields -/

namespace Fields

variable {fields : Fields}

/-- The fields of these slots that are set, with their values. -/
def entries (fields : Fields) (slots : List Slot) : List (Slot × Value) :=
  slots.filterMap fun slot => (fields slot).map (slot, ·)

/-- The fields of these slots, and none of the others. -/
def only (fields : Fields) (slots : List Slot) : Fields := fun slot =>
  if slot ∈ slots then fields slot else none

theorem serialize_eq (fields : Fields) :
    serialize fields =
      Text.join [' ']
        ((fields.entries Slot.all).map fun entry => shorthandText entry.1 entry.2) := by
  rw [serialize, entries, List.map_filterMap]
  simp only [Option.map_map]
  rfl

theorem mem_entries {slots : List Slot} {entry : Slot × Value} (h : entry ∈ fields.entries slots) :
    fields entry.1 = some entry.2 := by
  obtain ⟨slot, -, hslot⟩ := List.mem_filterMap.1 h
  obtain ⟨v, hv, rfl⟩ := Option.map_eq_some_iff.1 hslot
  exact hv

theorem only_nil (fields : Fields) : fields.only [] = empty :=
  rfl

theorem only_all (fields : Fields) : fields.only Slot.all = fields := by
  funext slot
  rw [only, if_pos slot.mem_all]

/-- One more slot is filled by its value, if it has one. -/
theorem put_only {slot : Slot} {done : List Slot} {v : Value} (hv : fields slot = some v)
    (hne : v ≠ .text unset) :
    (fields.only done).put slot v = fields.only (done ++ [slot]) := by
  funext other
  by_cases hother : other = slot
  · subst hother
    rw [put_same hne, only, if_pos (by simp), hv]
  · rw [put_other hother]
    simp [only, hother]

theorem only_concat_of_none {slot : Slot} {done : List Slot} (hv : fields slot = none) :
    fields.only (done ++ [slot]) = fields.only done := by
  funext other
  by_cases hother : other = slot
  · subst hother
    simp [only, hv]
  · simp [only, hother]

/-- In an order in which every field stands once, a field is not among those in front of it. -/
theorem notMem_of_append_eq {order done todo : List Slot} {slot : Slot} (hnodup : order.Nodup)
    (h : done ++ slot :: todo = order) : slot ∉ done := by
  rw [← h] at hnodup
  exact fun hmem => (List.nodup_append.1 hnodup).2.2 slot hmem slot List.mem_cons_self rfl

/-- The components of the fields that are left fill them, if those in front of them are filled. -/
theorem fillAll_entries (h : fields.Printable) {done todo : List Slot}
    (hall : done ++ todo = Slot.all) :
    (fields.only done).fillAll ((fields.entries todo).map fun entry => entry.1.component entry.2) =
      .ok fields := by
  induction todo generalizing done with
  | nil =>
    rw [List.append_nil] at hall
    rw [hall, only_all]
    rfl
  | cons slot todo ih =>
    have hrest := ih (show (done ++ [slot]) ++ todo = Slot.all by rw [← hall]; simp)
    cases hv : fields slot with
    | none =>
      rw [only_concat_of_none hv] at hrest
      simpa [entries, hv] using hrest
    | some v =>
      have hprints := h.prints slot v hv
      have hdone : slot ∉ done := notMem_of_append_eq (by decide) hall
      have hfree : (fields.only done).isFree slot = true := by
        simp [isFree, only, hdone]
      have hdelay : slot = .delay → (fields.only done).isFree .duration = false := by
        rintro rfl
        -- The duration comes before the delay, and is set if that is.
        have hsplit : [.name, .duration, .timingFunction] ++ .delay ::
            [.iterationCount, .direction, .fillMode, .playState] = done ++ .delay :: todo :=
          hall.symm
        obtain ⟨rfl, -⟩ := (List.append_cons_inj_of_notMem (by decide) (by decide)).1 hsplit
        have hset : fields .duration ≠ none := by
          intro hnone
          rw [h.delayed hnone] at hv
          cases hv
        simpa [isFree, only, Option.isSome_iff_ne_none] using hset
      have hfill := fill_component hprints hfree hdelay
      rw [put_only hv hprints.ne_unset] at hfill
      have hentries : fields.entries (slot :: todo) = (slot, v) :: fields.entries todo := by
        simp [entries, hv]
      rw [hentries, List.map_cons, fillAll_cons_eq_ok_iff]
      exact ⟨_, hfill, hrest⟩

end Fields

/-! ## Round trip -/

/-- Texts that are joined by a space stand one after the other with a gap between them. -/
theorem gapped_join {texts : List Text} (h : texts ≠ []) :
    Gapped texts (Text.join [' '] texts) := by
  induction texts with
  | nil => exact absurd rfl h
  | cons t texts ih =>
    cases texts with
    | nil => simpa [Text.join] using Gapped.alone t
    | cons u texts =>
      have hrest := ih (by simp)
      rw [Text.join_cons_of_ne_nil _ _ (by simp)]
      have hspace : IsGaps [' '] := by simp [IsGaps, isGap]
      simpa using Gapped.cons isGaps_nil hspace (by simp) hrest (t := t)

/-- **Shorthand round trip.** Reading the shorthand of fields that can be written gives back these
fields: a name that is no keyword of another field, whole times and counts up to `2 ^ 53`, keywords
in their own fields, and calls with single lexemes as arguments, whichever of them are set. -/
theorem parse_serialize {fields : Fields} (h : fields.Printable) :
    parse (serialize fields) = .ok fields := by
  have hentries : ∀ entry ∈ fields.entries Slot.all, entry.1.Prints entry.2 := fun entry hentry =>
    h.prints entry.1 entry.2 (Fields.mem_entries hentry)
  have hne : fields.entries Slot.all ≠ [] := by
    obtain ⟨slot, hslot⟩ := h.exists_set
    obtain ⟨v, hv⟩ := Option.ne_none_iff_exists'.1 hslot
    have hmem : (slot, v) ∈ fields.entries Slot.all := by
      rw [Fields.entries, List.mem_filterMap]
      exact ⟨slot, slot.mem_all, by rw [hv]; rfl⟩
    exact List.ne_nil_of_mem hmem
  have hwritten : List.Forall₂ Term.Written
      ((fields.entries Slot.all).map fun entry => (entry.1.component entry.2).term)
      ((fields.entries Slot.all).map fun entry => shorthandText entry.1 entry.2) := by
    rw [List.forall₂_map_left_iff, List.forall₂_map_right_iff, List.forall₂_same]
    exact fun entry hentry => (written_component (hentries entry hentry)).1
  have hterms := terms_of_gapped hwritten (gapped_join (by simpa using hne))
  rw [← Fields.serialize_eq] at hterms
  have hcomponents : componentsOf
      ((fields.entries Slot.all).map fun entry => (entry.1.component entry.2).term) =
      .ok ((fields.entries Slot.all).map fun entry => entry.1.component entry.2) := by
    rw [componentsOf_eq_ok_iff, List.forall₂_map_left_iff, List.forall₂_map_right_iff,
      List.forall₂_same]
    exact fun entry hentry => (written_component (hentries entry hentry)).2
  have hfill : Fields.empty.fillAll
      ((fields.entries Slot.all).map fun entry => entry.1.component entry.2) = .ok fields := by
    rw [← Fields.only_nil fields]
    exact Fields.fillAll_entries h (List.nil_append Slot.all)
  rw [parse_eq_bind, components_of_terms hterms, hcomponents]
  change (Fields.empty.fillAll _).mapError Fault.conflict = _
  rw [hfill]
  rfl

/-- An animation with all its fields set. -/
def bounce : Fields
  | .name => some (.text "bounce".toList)
  | .duration => some (.number (.int 1500))
  | .timingFunction => some (.function ⟨"steps".toList, ["4".toList, "jump-end".toList]⟩)
  | .delay => some (.number (.int (-200)))
  | .iterationCount => some (.text infinite)
  | .direction => some (.text "alternate-reverse".toList)
  | .fillMode => some (.text "none".toList)
  | .playState => some (.text "paused".toList)

theorem parse_serialize_bounce :
    serialize bounce =
        "bounce 1500ms steps(4,jump-end) -200ms infinite alternate-reverse none paused".toList ∧
      parse (serialize bounce) = .ok bounce := by
  have hname : IsName "bounce".toList :=
    Or.inr ⟨(Kind.spells_iff (by decide)).2 (by decide), by decide, by rintro (_ | _) <;> decide⟩
  have hcall : TimingFunction.IsPlain ⟨"steps".toList, ["4".toList, "jump-end".toList]⟩ := by
    refine ⟨by decide, by decide, ?_⟩
    rw [List.forall_mem_cons, List.forall_mem_singleton]
    exact ⟨⟨.number, by decide, (Kind.spells_iff (by decide)).2 (by decide)⟩,
      ⟨.ident, by decide, (Kind.spells_iff (by decide)).2 (by decide)⟩⟩
  have hprintable : bounce.Printable := by
    refine ⟨⟨.name, by simp [bounce]⟩, ?_, by simp [bounce]⟩
    intro slot v hv
    cases slot <;> cases hv
    · exact .name hname
    · exact .duration (by decide)
    · exact .call hcall
    · exact .delay (by decide)
    · exact .keyword (by decide)
    · exact .keyword (by decide)
    · exact .keyword (by decide)
    · exact .keyword (by decide)
  exact ⟨by decide, parse_serialize hprintable⟩

end NativeStyle.Animation
