import NativeStyle.Proofs.Placement

/-!
# Components in another order

Every category has fields of its own, and all that the categories share is the name, which comes
last among the places of a component. So two components of different categories can be filled in
either order: unless both go to the name, neither takes a place of the other, and if both do, the
second has no place, whichever it is (`Fields.toOption_fillAll_swap`).

By exchanging neighbours like that, one list of components can be brought into the order of any
other in which every category is in the same order.

Main result: `fillAll_rearranged`.
-/

namespace NativeStyle.Animation

/-! ## Places of different categories -/

/-- The category that a field belongs to. -/
def Slot.category : Slot → Category
  | .name => .name
  | .duration | .delay => .time
  | .timingFunction => .easing
  | .iterationCount => .count
  | .direction => .direction
  | .fillMode => .fillMode
  | .playState => .playState

private theorem Category.of_mem_slots {k : Category} {slot : Slot} (h : slot ∈ k.slots) :
    k = slot.category ∧ slot ≠ .name := by
  cases k <;> simp only [slots, List.mem_cons, List.not_mem_nil, or_false] at h
  case time => rcases h with rfl | rfl <;> exact ⟨rfl, by decide⟩
  all_goals
    subst h
    exact ⟨rfl, by decide⟩

namespace Component

variable {c d : Component} {slot : Slot}

private theorem mem_places (h : slot ∈ c.places) : slot ∈ c.category.slots ∨ slot = .name := by
  cases c with
  | time n => exact Or.inl h
  | number n => exact Or.inl h
  | keyword t => simpa [places] using h
  | string t => simpa [places] using h
  | function f =>
    rw [places] at h
    split at h
    · cases h
    · exact Or.inl h

/-- The name comes behind the fields of the category. -/
private theorem places_of_name_mem (h : .name ∈ c.places) :
    c.places = c.category.slots ++ [.name] := by
  have hother (hslots : .name ∈ c.category.slots) : c.places = c.category.slots ++ [.name] :=
    absurd rfl (Category.of_mem_slots hslots).2
  cases c with
  | time n => exact hother h
  | number n => exact hother h
  | keyword t => rfl
  | string t => rfl
  | function f =>
    rw [places] at h
    split at h
    · cases h
    · exact hother h

/-- All that components of different categories share among their places is the name. -/
private theorem eq_name_of_mem_places (hcategory : c.category ≠ d.category) (hc : slot ∈ c.places)
    (hd : slot ∈ d.places) : slot = .name := by
  rcases mem_places hc with hc | rfl
  · rcases mem_places hd with hd | rfl
    · refine absurd ?_ hcategory
      rw [(Category.of_mem_slots hc).1, (Category.of_mem_slots hd).1]
    · rfl
  · rfl

end Component

/-! ## Two components -/

namespace Fields

variable {fields : Fields} {c d : Component} {slot taken : Slot} {v : Value}

private theorem isFree_put (hv : v ≠ .text unset) :
    (fields.put taken v).isFree slot = (fields.isFree slot && decide (slot ≠ taken)) := by
  by_cases hslot : slot = taken
  · subst hslot
    simp [isFree, put_same hv]
  · simp [isFree, put_other hslot, hslot]

/-- Another field that is taken is no matter to a component. -/
private theorem place?_put_of_ne (hv : v ≠ .text unset) (h : fields.place? d = some slot)
    (hne : slot ≠ taken) : (fields.put taken v).place? d = some slot := by
  rw [place?, List.find?_eq_some_iff_append] at h ⊢
  obtain ⟨hfree, front, behind, hplaces, hset⟩ := h
  refine ⟨by simp [isFree_put hv, hfree, hne], front, behind, hplaces, ?_⟩
  intro other hother
  have hother : fields.isFree other = false := by simpa using hset other hother
  simp [isFree_put hv, hother]

/-- Where a component has no place, it has none when more is taken. -/
private theorem place?_put_of_none (hv : v ≠ .text unset) (h : fields.place? d = none) :
    (fields.put taken v).place? d = none := by
  rw [place?, List.find?_eq_none] at h ⊢
  intro other hother
  simp [isFree_put hv, h other hother]

/-- The name is the last place of a component, so there is none left once it is taken. -/
private theorem place?_put_name (hv : v ≠ .text unset) (h : fields.place? d = some .name) :
    (fields.put .name v).place? d = none := by
  have hplaces := Component.places_of_name_mem (List.mem_of_find?_eq_some h)
  rw [place?, hplaces, List.find?_append] at h
  rw [place?, hplaces, List.find?_eq_none]
  cases hown : d.category.slots.find? fields.isFree with
  | some slot =>
    -- A field of the category would have been taken before the name.
    rw [hown] at h
    cases h
    exact absurd rfl (Category.of_mem_slots (List.mem_of_find?_eq_some hown)).2
  | none =>
    rw [List.find?_eq_none] at hown
    intro other hother
    rcases List.mem_append.1 hother with hother | hother
    · simp [isFree_put hv, hown other hother]
    · simp [isFree_put hv, List.mem_singleton.1 hother]

private theorem put_comm {slot' : Slot} {v' : Value} (h : slot ≠ slot') :
    (fields.put slot v).put slot' v' = (fields.put slot' v').put slot v := by
  funext other
  unfold put
  by_cases hslot : other = slot
  · rw [if_neg (hslot ▸ h), if_pos hslot, if_pos hslot]
  · rw [if_neg hslot, if_neg hslot]

theorem toOption_fillAll_cons (fields : Fields) (c : Component) (found : List Component) :
    (fields.fillAll (c :: found)).toOption =
      (fields.place? c).bind fun slot => ((fields.put slot c.value).fillAll found).toOption := by
  have hfill := toOption_fill fields c
  unfold fillAll
  rw [List.foldlM_cons]
  cases hresult : fields.fill c with
  | error e =>
    rw [hresult] at hfill
    rw [Option.map_eq_none_iff.1 hfill.symm]
    rfl
  | ok next =>
    rw [hresult] at hfill
    obtain ⟨slot, hplace, hnext⟩ := Option.map_eq_some_iff.1 hfill.symm
    rw [hplace, Option.bind_some, hnext]
    rfl

/-- Neighbours of different categories can be exchanged. -/
theorem toOption_fillAll_swap (hcategory : c.category ≠ d.category) (hc : c.value ≠ .text unset)
    (hd : d.value ≠ .text unset) (rest : List Component) :
    (fields.fillAll (c :: d :: rest)).toOption = (fields.fillAll (d :: c :: rest)).toOption := by
  simp only [toOption_fillAll_cons]
  cases hslot : fields.place? c with
  | none =>
    -- The one has no place, neither first nor second.
    simp only [Option.bind_none, place?_put_of_none hd hslot]
    cases fields.place? d <;> rfl
  | some slot =>
  cases hslot' : fields.place? d with
  | none => simp only [Option.bind_some, Option.bind_none, place?_put_of_none hc hslot']
  | some slot' =>
  simp only [Option.bind_some]
  by_cases hsame : slot = slot'
  · -- Both go to the name, and only one of them can.
    subst hsame
    obtain rfl := Component.eq_name_of_mem_places hcategory (List.mem_of_find?_eq_some hslot)
      (List.mem_of_find?_eq_some hslot')
    rw [place?_put_name hc hslot', place?_put_name hd hslot, Option.bind_none, Option.bind_none]
  · rw [place?_put_of_ne hc hslot' (Ne.symm hsame), place?_put_of_ne hd hslot hsame]
    simp only [Option.bind_some]
    rw [put_comm hsame]

/-- A component can be moved to the front past components of other categories. -/
theorem toOption_fillAll_front {front : List Component}
    (hfront : ∀ d ∈ front, d.category ≠ c.category ∧ d.value ≠ .text unset)
    (hc : c.value ≠ .text unset) (rest : List Component) (fields : Fields) :
    (fields.fillAll (front ++ c :: rest)).toOption =
      (fields.fillAll (c :: (front ++ rest))).toOption := by
  induction front generalizing fields with
  | nil => rfl
  | cons d front ih =>
    rw [List.forall_mem_cons] at hfront
    obtain ⟨⟨hcategory, hd⟩, hothers⟩ := hfront
    calc (fields.fillAll (d :: (front ++ c :: rest))).toOption
        = (fields.fillAll (d :: c :: (front ++ rest))).toOption := by
          rw [toOption_fillAll_cons, toOption_fillAll_cons]
          simp only [ih hothers]
      _ = (fields.fillAll (c :: d :: (front ++ rest))).toOption :=
          toOption_fillAll_swap hcategory hd hc _

end Fields

/-! ## All components -/

/-- Both lists have the same components of every category, in the same order. So the one is the
other rearranged, without a change inside of any category. -/
def SameByCategory (found found' : List Component) : Prop :=
  ∀ k : Category, found.filter (·.category = k) = found'.filter (·.category = k)

theorem SameByCategory.mem {found found' : List Component} (h : SameByCategory found found')
    {c : Component} (hc : c ∈ found') : c ∈ found := by
  have hfilter : c ∈ found'.filter (·.category = c.category) := List.mem_filter.2 ⟨hc, by simp⟩
  rw [← h c.category] at hfilter
  exact List.mem_of_mem_filter hfilter

/-- The first component of the one list stands in the other behind components of other categories
only, and without it the lists are still the same. -/
theorem SameByCategory.exists_of_cons {c : Component} {found found' : List Component}
    (h : SameByCategory (c :: found) found') :
    ∃ front rest, found' = front ++ c :: rest ∧ (∀ d ∈ front, d.category ≠ c.category) ∧
      SameByCategory found (front ++ rest) := by
  have hown := h c.category
  rw [List.filter_cons_of_pos (by simp)] at hown
  obtain ⟨front, rest, rfl, hfront, -, hrest⟩ := List.filter_eq_cons_iff.1 hown.symm
  have hfront : ∀ d ∈ front, d.category ≠ c.category := by simpa using hfront
  refine ⟨front, rest, rfl, hfront, ?_⟩
  intro k
  by_cases hk : c.category = k
  · subst hk
    have hnone : front.filter (·.category = c.category) = [] :=
      List.filter_eq_nil_iff.2 (by simpa using hfront)
    rw [List.filter_append, hnone, List.nil_append, hrest]
  · have hother := h k
    rwa [List.filter_cons_of_neg (by simpa using hk), List.filter_append,
      List.filter_cons_of_neg (by simpa using hk), ← List.filter_append] at hother

/-- **The order across categories does not count.** Components in another order, in which each
category keeps its own, give the same fields or fail like before, whatever was set at the start. None
of them may be the keyword that clears a field; a string, with its quotes, never is. -/
theorem fillAll_rearranged {found found' : List Component} (hsame : SameByCategory found found')
    (hunset : ∀ c ∈ found, c.value ≠ .text unset) (fields : Fields) :
    (fields.fillAll found).toOption = (fields.fillAll found').toOption := by
  -- The first component of the one list is moved to the front of the other.
  induction found generalizing found' fields with
  | nil =>
    have hnone : found' = [] := List.eq_nil_iff_forall_not_mem.2 fun c hc =>
      absurd (hsame.mem hc) List.not_mem_nil
    rw [hnone]
  | cons c found ih =>
    obtain ⟨front, rest, rfl, hfront, hrest⟩ := hsame.exists_of_cons
    have hvalues : ∀ d ∈ front, d.category ≠ c.category ∧ d.value ≠ .text unset := fun d hd =>
      ⟨hfront d hd, hunset d (hsame.mem (List.mem_append_left _ hd))⟩
    rw [List.forall_mem_cons] at hunset
    rw [Fields.toOption_fillAll_front hvalues hunset.1, Fields.toOption_fillAll_cons,
      Fields.toOption_fillAll_cons]
    simp only [ih hrest hunset.2]

/-- Two keywords of easing, of which the second names the animation, among times and a count. -/
theorem fillAll_rearranged_overflowing :
    let found := [.keyword "ease".toList, .time (.int 150), .keyword "ease".toList,
      .keyword infinite, .time (.int 20)]
    let found' := [.time (.int 150), .keyword infinite, .time (.int 20), .keyword "ease".toList,
      .keyword "ease".toList]
    SameByCategory found found' ∧ (∀ c ∈ found, c.value ≠ .text unset) ∧
      (Fields.empty.fillAll found).toOption = (Fields.empty.fillAll found').toOption := by
  intro found found'
  have hsame : SameByCategory found found' := by
    intro k
    cases k <;> decide
  have hunset : ∀ c ∈ found, c.value ≠ .text unset := by decide
  exact ⟨hsame, hunset, fillAll_rearranged hsame hunset .empty⟩

end NativeStyle.Animation
