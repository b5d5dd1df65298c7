import NativeStyle.Proofs.Trimming
import NativeStyle.Selector
import NativeStyle.Text.Pattern

/-!
# Substitutions and what they leave

A substitution replaces the matches of a pattern and lets every other character pass. So a
property that is counted in characters can be followed through it match by match: if no match
gains a character, neither does the text, and if every match loses one, then a text that loses
none holds no match at all.

Main results:
- `Pattern.count_substitute_le` and `Pattern.found_eq_nil_of_count` (the two halves of the above),
- `Pattern.related_substitute` (what holds between each match and its replacement holds between the
  texts),
- `Pattern.filter_substitute` (the characters of a kind in their order),
- `Pattern.infix_of_infix_substitute` (what a substitution cannot bring about),
- `Pattern.substitute_of_found_eq_nil` (a text without matches stays),
- `Pattern.infix_substitute` (a text that no match touches stays where it is),
- `Pattern.substitute_append_cons` (the sides of a character that no match crosses),
- `Selector.count_adapt_le` (which characters adapting a selector cannot add),
- `Selector.adapt_eq_self_iff` (a selector stays exactly if there is nothing to replace in it).
-/

namespace NativeStyle

/-! ## Needles at a border -/

namespace Text

variable {needle s t : Text} {c : Char}

/-- A needle without the character behind a border does not reach across it. -/
theorem prefix_of_prefix_append (h : ∀ d ∈ t.head?, d ∉ needle) (hin : needle <+: s ++ t) :
    needle <+: s := by
  rcases List.prefix_or_prefix_of_prefix hin (List.prefix_append s t) with hshort | ⟨rest, rfl⟩
  · exact hshort
  · cases rest with
    | nil => exact (List.append_nil s).symm ▸ List.prefix_refl s
    | cons d rest =>
      obtain ⟨behind, rfl⟩ := (List.prefix_append_right_inj s).1 hin
      exact absurd (List.mem_append_right s List.mem_cons_self) (h d rfl)

/-- Where a needle starts before a border, its first character does not count. -/
theorem prefix_of_prefix_append_of_ne_nil (h : ∀ d ∈ t.head?, d ∉ needle.tail) (hs : s ≠ [])
    (hin : needle <+: s ++ t) : needle <+: s := by
  obtain ⟨a, s, rfl⟩ := List.exists_cons_of_ne_nil hs
  rcases List.prefix_cons_iff.1 hin with rfl | ⟨rest, rfl, hrest⟩
  · exact List.nil_prefix
  · exact List.cons_prefix_cons.2 ⟨rfl, prefix_of_prefix_append h hrest⟩

theorem infix_or_infix_of_append (h : ∀ d ∈ t.head?, d ∉ needle.tail) (hin : needle <:+: s ++ t) :
    needle <:+: s ∨ needle <:+: t := by
  induction s with
  | nil => exact Or.inr hin
  | cons a s ih =>
    rcases List.infix_cons_iff.1 hin with hfront | hrest
    · exact Or.inl (prefix_of_prefix_append_of_ne_nil h (List.cons_ne_nil a s) hfront).isInfix
    · exact (ih hrest).imp_left List.infix_cons

/-- A needle does not reach across a character that it does not have. -/
theorem infix_or_infix_of_append_cons (h : c ∉ needle) (hin : needle <:+: s ++ c :: t) :
    needle <:+: s ∨ needle <:+: t := by
  have hborder : ∀ d ∈ (c :: t).head?, d ∉ needle.tail := by
    rintro d ⟨⟩ hd
    exact h (List.mem_of_mem_tail hd)
  rcases infix_or_infix_of_append hborder hin with hs | ht
  · exact Or.inl hs
  · rcases List.infix_cons_iff.1 ht with hfront | ht
    · rcases List.prefix_cons_iff.1 hfront with rfl | ⟨rest, rfl, -⟩
      · exact Or.inl List.nil_infix
      · exact absurd List.mem_cons_self h
    · exact Or.inr ht

end Text

namespace Pattern

variable {α : Type} (p : Pattern α)

/-! ## The stretches of a cut -/

/-- What a stretch becomes in a substitution. -/
private def replaced (replacement : α → Text) : Stretch α → Text
  | .plain c => [c]
  | .found a => replacement a

/-- The match in a stretch, if it is one. -/
private def match? : Stretch α → Option α
  | .plain _ => none
  | .found a => some a

private theorem substitute_eq (replacement : α → Text) (s : Text) :
    p.substitute replacement s = (p.cut s).flatMap (replaced replacement) :=
  rfl

private theorem found_eq (s : Text) : p.found s = (p.cut s).filterMap match? :=
  rfl

/-- Every match of a text was read at one of its suffixes. -/
theorem exists_read?_of_mem_found {s : Text} {a : α} (h : a ∈ p.found s) :
    ∃ t rest, t <:+ s ∧ p.read? t = some (a, rest) := by
  induction hn : s.length using Nat.strongRecOn generalizing s with
  | ind n ih =>
    rw [found_eq] at h
    cases hread : p.read? s with
    -- The match itself, or one of those behind it.
    | some r =>
      obtain ⟨b, rest⟩ := r
      rw [p.cut_of_read? hread] at h
      rcases List.mem_cons.1 h with rfl | htail
      · exact ⟨s, rest, List.suffix_refl s, hread⟩
      · have hlt := p.length_rest_lt hread
        obtain ⟨t, behind, hsuffix, ht⟩ :=
          ih rest.length (hn ▸ hlt) (by rw [found_eq]; exact htail) rfl
        refine ⟨t, behind, hsuffix.trans ?_, ht⟩
        exact ⟨p.spelling b, (p.read?_spelling hread).symm⟩
    -- Nothing is read here, so the search goes on one character later.
    | none =>
      cases s with
      | nil =>
        rw [p.cut_nil] at h
        cases h
      | cons c rest =>
        rw [p.cut_cons_of_read?_eq_none hread] at h
        obtain ⟨t, behind, hsuffix, ht⟩ :=
          ih rest.length (by simp [← hn]) (by rw [found_eq]; exact h) rfl
        exact ⟨t, behind, hsuffix.trans (List.suffix_cons c rest), ht⟩

/-! ## Counting characters -/

section Counting

variable {p} {replacement : α → Text} {s : Text} {c : Char}

private theorem count_stretches_le {stretches : List (Stretch α)}
    (h : ∀ a ∈ stretches.filterMap match?, (replacement a).count c ≤ (p.spelling a).count c) :
    (stretches.flatMap (replaced replacement)).count c ≤
      (stretches.flatMap p.stretchText).count c := by
  -- The two texts are built from the same stretches, so they are compared stretch by stretch.
  induction stretches with
  | nil => exact Nat.le_refl _
  | cons stretch stretches ih =>
    rw [List.flatMap_cons, List.flatMap_cons, List.count_append, List.count_append]
    cases stretch with
    | plain d =>
      have := ih h
      exact Nat.add_le_add_left this _
    | found a =>
      have hfirst := h a List.mem_cons_self
      have hrest := ih fun b hb => h b (List.mem_cons_of_mem _ hb)
      exact Nat.add_le_add hfirst hrest

/-- If no match gains a character, the text does not either. -/
theorem count_substitute_le
    (h : ∀ a ∈ p.found s, (replacement a).count c ≤ (p.spelling a).count c) :
    (p.substitute replacement s).count c ≤ s.count c := by
  rw [found_eq] at h
  have hcount := count_stretches_le h
  rw [p.text_cut] at hcount
  rw [substitute_eq]
  exact hcount

/-- If every match loses a character, a text that loses none holds no match. -/
theorem found_eq_nil_of_count
    (h : ∀ a ∈ p.found s, (replacement a).count c < (p.spelling a).count c)
    (hcount : s.count c ≤ (p.substitute replacement s).count c) : p.found s = [] := by
  rw [found_eq] at h ⊢
  rw [substitute_eq] at hcount
  conv at hcount => lhs; rw [← p.text_cut s]
  generalize p.cut s = stretches at h hcount ⊢
  induction stretches with
  | nil => rfl
  | cons stretch stretches ih =>
    rw [List.flatMap_cons, List.flatMap_cons, List.count_append, List.count_append] at hcount
    cases stretch with
    | plain d => exact ih h (Nat.le_of_add_le_add_left hcount)
    | found a =>
      -- This match loses a character, and the others gain none.
      have hfirst := h a List.mem_cons_self
      have hrest : (stretches.flatMap (replaced replacement)).count c ≤
          (stretches.flatMap p.stretchText).count c :=
        count_stretches_le fun b hb => Nat.le_of_lt (h b (List.mem_cons_of_mem _ hb))
      simp only [replaced, stretchText] at hcount
      omega

end Counting

/-! ## Related texts -/

/-- A relation that holds between every match and its replacement, between every character and
itself, and between texts put together from related ones, holds between a text and the result of a
substitution. -/
theorem related_substitute {R : Text → Text → Prop} (hnil : R [] []) (hplain : ∀ c, R [c] [c])
    (happend : ∀ {s s' t t'}, R s s' → R t t' → R (s ++ t) (s' ++ t')) {replacement : α → Text}
    {s : Text} (hfound : ∀ a ∈ p.found s, R (p.spelling a) (replacement a)) :
    R s (p.substitute replacement s) := by
  rw [found_eq] at hfound
  rw [substitute_eq]
  conv => lhs; rw [← p.text_cut s]
  generalize p.cut s = stretches at hfound ⊢
  induction stretches with
  | nil => exact hnil
  | cons stretch stretches ih =>
    rw [List.flatMap_cons, List.flatMap_cons]
    cases stretch with
    | plain c => exact happend (hplain c) (ih hfound)
    | found a =>
      obtain ⟨hfirst, hrest⟩ := List.forall_mem_cons.1 hfound
      exact happend hfirst (ih hrest)

/-- If every match is replaced by a text with the same characters of a kind in it, the whole text
keeps its characters of that kind. -/
theorem filter_substitute {kind : Char → Bool} {replacement : α → Text} {s : Text}
    (h : ∀ a ∈ p.found s, (replacement a).filter kind = (p.spelling a).filter kind) :
    (p.substitute replacement s).filter kind = s.filter kind := by
  refine p.related_substitute (R := fun s s' => s'.filter kind = s.filter kind) rfl
    (fun _ => rfl) ?_ h
  intro s s' t t' hs ht
  rw [List.filter_append, List.filter_append, hs, ht]

/-- A character stays in the text if every match that has it is replaced by a text with it. -/
theorem mem_substitute {replacement : α → Text} {s : Text} {c : Char} (hc : c ∈ s)
    (h : ∀ a ∈ p.found s, c ∈ p.spelling a → c ∈ replacement a) :
    c ∈ p.substitute replacement s := by
  rw [found_eq] at h
  rw [substitute_eq]
  rw [← p.text_cut s] at hc
  obtain ⟨stretch, hstretch, hc⟩ := List.mem_flatMap.1 hc
  refine List.mem_flatMap.2 ⟨stretch, hstretch, ?_⟩
  cases stretch with
  | plain d => exact hc
  | found a => exact h a (List.mem_filterMap.2 ⟨_, hstretch, rfl⟩) hc

/-! ## Texts that no substitution brings about -/

section Infixes

variable {p} {replacement : α → Text} {t : Text} {stretches : List (Stretch α)}

/-- What starts before a replacement cannot end inside it, and cannot reach past it. -/
private theorem prefix_stretches
    (hlast : ∀ a ∈ stretches.filterMap match?, ∀ c ∈ t.getLast?, c ∉ replacement a)
    (hforeign : ∀ a ∈ stretches.filterMap match?, ∃ c ∈ replacement a, c ∉ t)
    (h : t <+: stretches.flatMap (replaced replacement)) :
    t <+: stretches.flatMap p.stretchText := by
  induction stretches generalizing t with
  | nil => exact h
  | cons stretch stretches ih =>
    rw [List.flatMap_cons] at h ⊢
    cases stretch with
    | plain d =>
      rcases List.prefix_cons_iff.1 h with rfl | ⟨rest, rfl, hrest⟩
      · exact List.nil_prefix
      · refine List.prefix_cons_iff.2 (Or.inr ⟨rest, rfl, ih ?_ ?_ hrest⟩)
        · intro a ha c hc
          exact hlast a ha c (by simp [List.getLast?_cons, Option.mem_def.1 hc])
        · intro a ha
          obtain ⟨c, hc, hnot⟩ := hforeign a ha
          exact ⟨c, hc, fun hmem => hnot (List.mem_cons_of_mem d hmem)⟩
    | found a =>
      -- Either the replacement ends first, or the text does; it must be empty.
      rcases List.prefix_or_prefix_of_prefix h (List.prefix_append _ _) with hin | hout
      · cases hend : t.getLast? with
        | none => exact List.getLast?_eq_none_iff.1 hend ▸ List.nil_prefix
        | some c =>
          have hmem := hin.subset (List.mem_of_getLast? hend)
          exact absurd hmem (hlast a List.mem_cons_self c hend)
      · obtain ⟨c, hc, hnot⟩ := hforeign a List.mem_cons_self
        exact absurd (hout.subset hc) hnot

/-- A text whose ends stand in no replacement, and which has not all characters of any, was there
before the substitution if it is there afterwards. -/
theorem infix_of_infix_substitute {s : Text}
    (hhead : ∀ a ∈ p.found s, ∀ c ∈ t.head?, c ∉ replacement a)
    (hlast : ∀ a ∈ p.found s, ∀ c ∈ t.getLast?, c ∉ replacement a)
    (hforeign : ∀ a ∈ p.found s, ∃ c ∈ replacement a, c ∉ t)
    (h : t <:+: p.substitute replacement s) : t <:+: s := by
  rw [found_eq] at hhead hlast hforeign
  rw [substitute_eq] at h
  conv => rhs; rw [← p.text_cut s]
  generalize p.cut s = stretches at hhead hlast hforeign h ⊢
  induction stretches with
  | nil => exact h
  | cons stretch stretches ih =>
    rw [List.flatMap_cons] at h ⊢
    cases stretch with
    | plain d =>
      -- The text starts at this character, or behind it.
      rcases List.infix_cons_iff.1 h with hfront | hrest
      · have hstart : t <+: (Stretch.plain d :: stretches).flatMap p.stretchText :=
          prefix_stretches hlast hforeign hfront
        exact hstart.isInfix
      · exact (ih hhead hlast hforeign hrest).trans (List.suffix_cons d _).isInfix
    | found a =>
      have hrest : t <:+: stretches.flatMap (replaced replacement) := by
        rcases List.infix_append_iff.1 h with hin | hbehind | ⟨front, rest, rfl, hfront, hrest⟩
        · cases t with
          | nil => exact List.nil_infix
          | cons c rest =>
            exact absurd (hin.subset List.mem_cons_self) (hhead a List.mem_cons_self c rfl)
        · exact hbehind
        · -- No front of the text stands in the replacement.
          cases front with
          | nil => exact hrest.isInfix
          | cons c front =>
            exact absurd (hfront.subset List.mem_cons_self) (hhead a List.mem_cons_self c rfl)
      have hothers := ih (fun b hb => hhead b (List.mem_cons_of_mem a hb))
        (fun b hb => hlast b (List.mem_cons_of_mem a hb))
        (fun b hb => hforeign b (List.mem_cons_of_mem a hb)) hrest
      exact hothers.trans (List.suffix_append _ _).isInfix

end Infixes

/-! ## Texts without a match -/

private theorem cut_eq_plain_of_found_eq_nil {s : Text} (h : p.found s = []) :
    p.cut s = s.map .plain := by
  rw [found_eq] at h
  -- Stretches without a match are single characters, and their texts give the stretches back.
  have hplain {stretches : List (Stretch α)} (h : stretches.filterMap match? = []) :
      stretches = (stretches.flatMap p.stretchText).map .plain := by
    induction stretches with
    | nil => rfl
    | cons stretch stretches ih =>
      cases stretch with
      | plain c => exact congrArg (.plain c :: ·) (ih h)
      | found a => cases h
  have hcut := hplain h
  rwa [p.text_cut] at hcut

/-- A text without a match stays. -/
theorem substitute_of_found_eq_nil {s : Text} (h : p.found s = []) (replacement : α → Text) :
    p.substitute replacement s = s := by
  apply p.substitute_eq_self
  exact p.cut_eq_plain_iff.1 (p.cut_eq_plain_of_found_eq_nil h)

/-- A text without a match has none at any of its suffixes. -/
theorem read?_eq_none_of_found_eq_nil {s t : Text} (h : p.found s = []) (ht : t <:+ s) :
    p.read? t = none :=
  p.cut_eq_plain_iff.1 (p.cut_eq_plain_of_found_eq_nil h) t ht

/-! ## Texts that pass -/

/-- Characters that start no match are cut off one by one. -/
private theorem cut_append {front t : Text}
    (h : ∀ s, s ≠ [] → s <:+ front → p.read? (s ++ t) = none) :
    p.cut (front ++ t) = front.map .plain ++ p.cut t := by
  induction front with
  | nil => rfl
  | cons c front ih =>
    have hnone : p.read? (c :: (front ++ t)) = none :=
      h (c :: front) (List.cons_ne_nil c front) (List.suffix_refl _)
    have hrest := ih fun s hne hs => h s hne (hs.trans (List.suffix_cons c front))
    rw [List.cons_append, p.cut_cons_of_read?_eq_none hnone, hrest]
    rfl

/-- A front in which no match starts passes unchanged. -/
theorem substitute_append (replacement : α → Text) {front t : Text}
    (h : ∀ s, s ≠ [] → s <:+ front → p.read? (s ++ t) = none) :
    p.substitute replacement (front ++ t) = front ++ p.substitute replacement t := by
  rw [substitute_eq, p.cut_append h, List.flatMap_append, List.flatMap_map]
  simp [replaced, substitute_eq]

/-- A front in which no match starts has none. -/
theorem found_append {front t : Text} (h : ∀ s, s ≠ [] → s <:+ front → p.read? (s ++ t) = none) :
    p.found (front ++ t) = p.found t := by
  rw [found_eq, p.cut_append h, List.filterMap_append, List.filterMap_map]
  simp [Function.comp_def, match?, found_eq]

theorem substitute_of_read? (replacement : α → Text) {s rest : Text} {a : α}
    (h : p.read? s = some (a, rest)) :
    p.substitute replacement s = replacement a ++ p.substitute replacement rest := by
  rw [substitute, p.cut_of_read? h, List.flatMap_cons, substitute]

theorem found_of_read? {s rest : Text} {a : α} (h : p.read? s = some (a, rest)) :
    p.found s = a :: p.found rest := by
  rw [found, p.cut_of_read? h, List.filterMap_cons, found]

/-! ## Both sides of a character -/

section Sides

variable {p} {c : Char} {t : Text}

/-- If what stands from a character on does not matter for a match in front of it, the sides of the
character are cut on their own. -/
private theorem cut_append_cons
    (h : ∀ s, p.read? (s ++ c :: t) = (p.read? s).map fun (a, rest) => (a, rest ++ c :: t))
    (s : Text) : p.cut (s ++ c :: t) = p.cut s ++ .plain c :: p.cut t := by
  induction hn : s.length using Nat.strongRecOn generalizing s with
  | ind n ih =>
    have hread := h s
    cases hs : p.read? s with
    | some r =>
      obtain ⟨a, rest⟩ := r
      rw [hs] at hread
      rw [p.cut_of_read? hread, p.cut_of_read? hs,
        ih rest.length (hn ▸ p.length_rest_lt hs) rest rfl]
      rfl
    | none =>
      rw [hs] at hread
      cases s with
      | nil =>
        rw [List.nil_append, p.cut_cons_of_read?_eq_none hread, p.cut_nil]
        rfl
      | cons d s =>
        rw [List.cons_append] at hread ⊢
        rw [p.cut_cons_of_read?_eq_none hread, p.cut_cons_of_read?_eq_none hs,
          ih s.length (by simp [← hn]) s rfl]
        rfl

theorem substitute_append_cons (replacement : α → Text)
    (h : ∀ s, p.read? (s ++ c :: t) = (p.read? s).map fun (a, rest) => (a, rest ++ c :: t))
    (s : Text) : p.substitute replacement (s ++ c :: t) =
      p.substitute replacement s ++ c :: p.substitute replacement t := by
  rw [substitute_eq, cut_append_cons h, List.flatMap_append, List.flatMap_cons]
  rfl

theorem found_append_cons
    (h : ∀ s, p.read? (s ++ c :: t) = (p.read? s).map fun (a, rest) => (a, rest ++ c :: t))
    (s : Text) : p.found (s ++ c :: t) = p.found s ++ p.found t := by
  rw [found_eq, cut_append_cons h, List.filterMap_append]
  rfl

end Sides

/-- A text stands in the result of a substitution if it stood there before, no match reaches its
first character from the front, and none starts in it. -/
theorem infix_substitute (replacement : α → Text) {c : Char} {t behind : Text}
    (hreach : ∀ s a rest, p.read? s = some (a, rest) → c ∉ p.spelling a)
    (hinside : ∀ s, s ≠ [] → s <:+ c :: t → p.read? (s ++ behind) = none) (front : Text) :
    c :: t <:+: p.substitute replacement (front ++ (c :: t ++ behind)) := by
  induction hn : front.length using Nat.strongRecOn generalizing front with
  | ind n ih =>
    cases hread : p.read? (front ++ (c :: t ++ behind)) with
    | some r =>
      obtain ⟨a, rest⟩ := r
      -- The match ends in front of the text, and the search goes on behind it.
      have hspelled := p.read?_spelling hread
      have hborder : ∀ d ∈ (c :: t ++ behind).head?, d ∉ p.spelling a := by
        rintro d ⟨⟩
        exact hreach _ a rest hread
      obtain ⟨front, rfl⟩ := Text.prefix_of_prefix_append hborder ⟨rest, hspelled.symm⟩
      rw [List.append_assoc] at hspelled
      obtain rfl := List.append_cancel_left hspelled
      have hpos := List.length_pos_iff.2 (p.spelling_ne_nil hread)
      have hin := ih front.length (by rw [← hn, List.length_append]; omega) front rfl
      rw [p.substitute_of_read? replacement hread]
      exact hin.trans (List.suffix_append _ _).isInfix
    | none =>
      cases front with
      | nil =>
        rw [List.nil_append, p.substitute_append replacement hinside]
        exact (List.prefix_append _ _).isInfix
      | cons d front =>
        have hin := ih front.length (by simp [← hn]) front rfl
        rw [List.cons_append] at hread ⊢
        rw [substitute, p.cut_cons_of_read?_eq_none hread, List.flatMap_cons]
        exact hin.trans (List.suffix_append _ _).isInfix

/-! ## Trimmed texts -/

/-- A trimmed text stays trimmed if what its matches become is neither empty nor starts or ends
with a blank. -/
theorem trim_substitute {replacement : α → Text} {s : Text} (hs : Text.trim s = s)
    (h : ∀ a ∈ p.found s, replacement a ≠ [] ∧ ∀ c ∈ replacement a, Text.isBlank c = false) :
    Text.trim (p.substitute replacement s) = p.substitute replacement s := by
  rw [found_eq] at h
  rw [substitute_eq]
  rw [← p.text_cut s, Text.trim_eq_self_iff] at hs
  rw [Text.trim_eq_self_iff]
  -- From here on only the stretches matter, not how they were cut.
  generalize p.cut s = stretches at h hs ⊢
  constructor
  · -- The first stretch decides what the text starts with.
    cases stretches with
    | nil => simp
    | cons stretch stretches =>
      cases stretch with
      | plain c => simpa [replaced, stretchText] using hs.1
      | found a =>
        obtain ⟨hne, hblank⟩ := h a List.mem_cons_self
        obtain ⟨d, rest, hstart⟩ := List.exists_cons_of_ne_nil hne
        intro c hc
        rw [List.flatMap_cons, replaced, hstart] at hc
        cases hc
        exact hblank d (hstart ▸ List.mem_cons_self)
  · -- The last stretch decides what it ends with.
    rcases List.eq_nil_or_concat stretches with rfl | ⟨before, stretch, rfl⟩
    · simp
    · rw [List.concat_eq_append] at h hs ⊢
      cases stretch with
      | plain c => simpa [replaced, stretchText] using hs.2
      | found a =>
        obtain ⟨hne, hblank⟩ := h a (by simp [match?])
        rcases List.eq_nil_or_concat (replacement a) with hnil | ⟨front, d, hend⟩
        · exact absurd hnil hne
        · rw [List.concat_eq_append] at hend
          intro c hc
          have hlast : d = c := by simpa [replaced, hend] using hc
          exact hblank c (by simp [hend, hlast])

theorem substitute_ne_nil {replacement : α → Text} {s : Text} (hs : s ≠ [])
    (h : ∀ a ∈ p.found s, replacement a ≠ []) : p.substitute replacement s ≠ [] := by
  rw [found_eq] at h
  rw [substitute_eq]
  rw [← p.text_cut s] at hs
  generalize p.cut s = stretches at h hs ⊢
  cases stretches with
  | nil => exact absurd rfl hs
  | cons stretch stretches =>
    rw [List.flatMap_cons]
    cases stretch with
    | plain c => simp [replaced]
    | found a => simp [replaced, h a List.mem_cons_self]

theorem mem_of_read?_literals {needles : List Text} {hne : [] ∉ needles} {s needle rest : Text}
    (h : (literals needles hne).read? s = some (needle, rest)) : needle ∈ needles := by
  obtain ⟨found, hmem, hfound⟩ := List.exists_of_findSome?_eq_some h
  simp only [Option.map_eq_some_iff, Prod.mk.injEq] at hfound
  obtain ⟨behind, -, rfl, -⟩ := hfound
  exact hmem

theorem mem_of_mem_found_literals {needles : List Text} {hne : [] ∉ needles} {s needle : Text}
    (h : needle ∈ (literals needles hne).found s) : needle ∈ needles := by
  obtain ⟨t, rest, -, hread⟩ := (literals needles hne).exists_read?_of_mem_found h
  exact mem_of_read?_literals hread

/-- Where none of the fixed texts stands, there is no match. -/
theorem found_literals_eq_nil {needles : List Text} {hne : [] ∉ needles} {s : Text}
    (h : ∀ needle ∈ needles, ¬needle <:+: s) : (literals needles hne).found s = [] := by
  rw [List.eq_nil_iff_forall_not_mem]
  intro needle hfound
  obtain ⟨t, rest, hsuffix, hread⟩ := (literals needles hne).exists_read?_of_mem_found hfound
  have hspelled : t = needle ++ rest := (literals needles hne).read?_spelling hread
  have hstart : needle <+: t := ⟨rest, hspelled.symm⟩
  exact h needle (mem_of_read?_literals hread) (hstart.isInfix.trans hsuffix.isInfix)

end Pattern

/-! ## Selectors -/

namespace Selector

/-- The steps behind the groups: gaps between children by siblings, and placeholders by their
field. -/
def adaptGaps (selector : Text) : Text :=
  Text.trim (placeholderPattern.substitute (fun _ => [])
    (shownPattern.substitute (fun _ => siblings)
      (notLastPattern.substitute (fun _ => siblings) selector)))

theorem adapt_eq_adaptGaps (selector : Text) :
    adapt selector = adaptGaps (wherePattern.substitute id
      (rootPattern.substitute (fun _ => rootClasses) selector)) :=
  rfl

theorem trim_adapt (selector : Text) : Text.trim (adapt selector) = adapt selector := by
  rw [adapt_eq_adaptGaps, adaptGaps, Text.trim_trim]

private theorem count_le_of_notMem {c : Char} {t : Text} (h : c ∉ t) (n : Nat) : t.count c ≤ n := by
  rw [List.count_eq_zero.2 h]
  exact Nat.zero_le n

theorem count_adaptGaps_le {c : Char} (hsiblings : c ∉ siblings) (selector : Text) :
    (adaptGaps selector).count c ≤ selector.count c := by
  rw [adaptGaps]
  apply Nat.le_trans (Text.count_trim_le c _)
  apply Nat.le_trans (Pattern.count_substitute_le fun _ _ =>
    count_le_of_notMem List.not_mem_nil _)
  exact Nat.le_trans (Pattern.count_substitute_le fun _ _ => count_le_of_notMem hsiblings _)
    (Pattern.count_substitute_le fun _ _ => count_le_of_notMem hsiblings _)

/-- What adapting a selector puts in are the root's classes and the siblings; no other character
is ever added. -/
theorem count_adapt_le {c : Char} (hroot : c ∉ rootClasses) (hsiblings : c ∉ siblings)
    (selector : Text) : (adapt selector).count c ≤ selector.count c := by
  rw [adapt_eq_adaptGaps]
  apply Nat.le_trans (count_adaptGaps_le hsiblings _)
  refine Nat.le_trans (Pattern.count_substitute_le ?_)
    (Pattern.count_substitute_le fun _ _ => count_le_of_notMem hroot _)
  intro inner _
  -- The inside of a group is a part of its spelling.
  show inner.count c ≤ (whereStart ++ inner ++ [')']).count c
  rw [List.count_append, List.count_append]
  omega

theorem notMem_adapt {c : Char} (hroot : c ∉ rootClasses) (hsiblings : c ∉ siblings)
    {selector : Text} (h : c ∉ selector) : c ∉ adapt selector :=
  Text.notMem_of_count_le (count_adapt_le hroot hsiblings selector) h

/-- A step that takes a colon out of what it replaces, in front of others that add none, has
replaced nothing if the whole brings the text back. -/
private theorem stays_of_count {α : Type} {p : Pattern α} {replacement : α → Text}
    {next : Text → Text} {s : Text}
    (hlost : ∀ a ∈ p.found s, (replacement a).count ':' < (p.spelling a).count ':')
    (hnext : ∀ t, (next t).count ':' ≤ t.count ':') (h : next (p.substitute replacement s) = s) :
    p.found s = [] ∧ next s = s := by
  have hfound : p.found s = [] := by
    apply Pattern.found_eq_nil_of_count hlost
    have hle := hnext (p.substitute replacement s)
    rwa [h] at hle
  rw [p.substitute_of_found_eq_nil hfound] at h
  exact ⟨hfound, h⟩

private theorem count_lt_of_mem_literals {needles : List Text} (hne : [] ∉ needles)
    {replacement : Text} (h : ∀ needle ∈ needles, replacement.count ':' < needle.count ':')
    (s : Text) : ∀ a ∈ (Pattern.literals needles hne).found s,
      replacement.count ':' < ((Pattern.literals needles hne).spelling a).count ':' :=
  fun a ha => h a (Pattern.mem_of_mem_found_literals ha)

private theorem count_lt_of_mem_where (s : Text) :
    ∀ inner ∈ wherePattern.found s, inner.count ':' < (wherePattern.spelling inner).count ':' := by
  intro inner _
  have hstart : whereStart.count ':' = 1 := by decide
  show inner.count ':' < (whereStart ++ inner ++ [')']).count ':'
  rw [List.count_append, List.count_append, hstart]
  omega

/-- Gaps and placeholders lose a colon each. If no colon is lost, there are none. -/
theorem found_eq_nil_of_count_adaptGaps {s : Text} (h : s.count ':' ≤ (adaptGaps s).count ':') :
    notLastPattern.found s = [] ∧ shownPattern.found s = [] ∧ placeholderPattern.found s = [] := by
  have hlast : ∀ a ∈ notLastPattern.found s,
      siblings.count ':' < (notLastPattern.spelling a).count ':' :=
    count_lt_of_mem_literals (by decide) (by decide) s
  have hshown (t : Text) : ∀ a ∈ shownPattern.found t,
      siblings.count ':' < (shownPattern.spelling a).count ':' :=
    count_lt_of_mem_literals (by decide) (by decide) t
  have hplaceholder (t : Text) : ∀ a ∈ placeholderPattern.found t,
      ([] : Text).count ':' < (placeholderPattern.spelling a).count ':' :=
    count_lt_of_mem_literals (by decide) (by decide) t
  have hle (t : Text) :
      (Text.trim (placeholderPattern.substitute (fun _ => []) t)).count ':' ≤ t.count ':' :=
    Nat.le_trans (Text.count_trim_le ':' _)
      (Pattern.count_substitute_le fun a ha => Nat.le_of_lt (hplaceholder t a ha))
  have hle' (t : Text) := Nat.le_trans (hle _)
    (Pattern.count_substitute_le fun a ha => Nat.le_of_lt (hshown t a ha))
  -- Peel the steps off from the inside: each has found nothing, so it can be left out.
  rw [adaptGaps] at h
  have hnoLast := Pattern.found_eq_nil_of_count hlast (Nat.le_trans h (hle' _))
  rw [Pattern.substitute_of_found_eq_nil _ hnoLast] at h
  have hnoShown := Pattern.found_eq_nil_of_count (hshown s) (Nat.le_trans h (hle _))
  rw [Pattern.substitute_of_found_eq_nil _ hnoShown] at h
  have hnoPlaceholder := Pattern.found_eq_nil_of_count (hplaceholder s)
    (Nat.le_trans h (Text.count_trim_le ':' _))
  exact ⟨hnoLast, hnoShown, hnoPlaceholder⟩

theorem adaptGaps_of_found_eq_nil {s : Text} (hlast : notLastPattern.found s = [])
    (hshown : shownPattern.found s = []) (hplaceholder : placeholderPattern.found s = []) :
    adaptGaps s = Text.trim s := by
  rw [adaptGaps, Pattern.substitute_of_found_eq_nil _ hlast,
    Pattern.substitute_of_found_eq_nil _ hshown,
    Pattern.substitute_of_found_eq_nil _ hplaceholder]

/-- Adapting has nothing to do: the selector is trimmed and holds none of the texts that are
replaced. -/
structure Settled (selector : Text) : Prop where
  trimmed : Text.trim selector = selector
  noRoot : rootPattern.found selector = []
  noGroup : wherePattern.found selector = []
  noLastChild : notLastPattern.found selector = []
  noShown : shownPattern.found selector = []
  noPlaceholder : placeholderPattern.found selector = []

/-- Adapting takes a colon out of everything that it replaces, and adds none anywhere else. So a
selector stays exactly if there is nothing to replace in it. -/
theorem adapt_eq_self_iff {selector : Text} : adapt selector = selector ↔ Settled selector := by
  constructor
  · intro h
    have hroot (t : Text) : ∀ a ∈ rootPattern.found t,
        rootClasses.count ':' < (rootPattern.spelling a).count ':' :=
      count_lt_of_mem_literals (by decide) (by decide) t
    have hle (t : Text) := count_adaptGaps_le (c := ':') (by decide) t
    have hle' (t : Text) := Nat.le_trans (hle _)
      (Pattern.count_substitute_le fun a ha => Nat.le_of_lt (count_lt_of_mem_where t a ha))
    rw [adapt_eq_adaptGaps] at h
    -- The steps have found nothing one after the other, so each can be left out.
    obtain ⟨hnoRoot, h⟩ := stays_of_count (hroot _) hle' h
    obtain ⟨hnoGroup, h⟩ := stays_of_count (count_lt_of_mem_where _) hle h
    obtain ⟨hnoLast, hnoShown, hnoPlaceholder⟩ :=
      found_eq_nil_of_count_adaptGaps (Nat.le_of_eq (congrArg (List.count ':') h.symm))
    rw [adaptGaps_of_found_eq_nil hnoLast hnoShown hnoPlaceholder] at h
    exact ⟨h, hnoRoot, hnoGroup, hnoLast, hnoShown, hnoPlaceholder⟩
  · intro h
    rw [adapt_eq_adaptGaps, Pattern.substitute_of_found_eq_nil _ h.noRoot,
      Pattern.substitute_of_found_eq_nil _ h.noGroup,
      adaptGaps_of_found_eq_nil h.noLastChild h.noShown h.noPlaceholder, h.trimmed]

/-- A selector that stays styles no placeholder. -/
theorem Settled.isPlaceholder_eq_false {selector : Text} (h : Settled selector) :
    isPlaceholder selector = false := by
  by_contra hplaceholder
  rw [Bool.not_eq_false, isPlaceholder, Text.contains_iff] at hplaceholder
  -- A placeholder in the selector would be read at its place.
  obtain ⟨before, behind, hselector⟩ := hplaceholder
  have hsuffix : placeholder ++ behind <:+ selector := ⟨before, by rw [← hselector]; simp⟩
  have hread := placeholderPattern.read?_eq_none_of_found_eq_nil h.noPlaceholder hsuffix
  have hfront : Text.after? placeholder (placeholder ++ behind) = some behind :=
    Text.after?_eq_some_iff.2 rfl
  simp [placeholderPattern, Pattern.literals, hfront] at hread

instance (selector : Text) : Decidable (Settled selector) :=
  decidable_of_iff _ adapt_eq_self_iff

end Selector

end NativeStyle
