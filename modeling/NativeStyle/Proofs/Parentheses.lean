import NativeStyle.Proofs.Groups

/-!
# Parentheses of a selector

Where a group is unwrapped, its opening parenthesis goes and with it the first closing one behind,
which need not be its partner. Nothing is closed between the two, so between them only one
parenthesis less is open, and that is never the last one that is needed. Everything else that is
replaced has balanced parentheses or none.

So no step of adapting changes how deep a text leads, from any depth at which it starts. That is
what is followed here (`Leads`), since matches may stand anywhere in the parentheses around them.

Main results:
- `leads_append` (texts one behind the other),
- `sameDepths_substitute` (a substitution that keeps the depths match by match keeps them all),
- `balanced_adapt_selector_iff` (adapting a selector neither breaks its parentheses nor mends them).
-/

namespace NativeStyle

namespace Selector

variable {d e f : Nat} {s s' t t' : Text}

/-! ## Depths -/

/-- From inside `d` parentheses the text leads inside `e` of them, and never closes more than are
open. -/
structure Leads (d : Nat) (s : Text) (e : Nat) : Prop where
  neverBelow : ∀ t, t <+: s → t.count ')' ≤ d + t.count '('
  totals : e + s.count ')' = d + s.count '('

theorem balanced_iff_leads : Balanced s ↔ Leads 0 s 0 := by
  constructor
  · intro h
    refine ⟨fun t ht => ?_, ?_⟩
    · rw [Nat.zero_add]
      exact h.neverBelow t ht
    · rw [Nat.zero_add, Nat.zero_add]
      exact h.sameTotals
  · intro h
    refine ⟨fun t ht => ?_, ?_⟩
    · have := h.neverBelow t ht
      rwa [Nat.zero_add] at this
    · have := h.totals
      rwa [Nat.zero_add, Nat.zero_add] at this

/-- A text leads as deep as its two parts do, one behind the other. -/
theorem leads_append : Leads d (s ++ t) f ↔ ∃ e, Leads d s e ∧ Leads e t f := by
  constructor
  · intro h
    have hmiddle := h.neverBelow s (List.prefix_append s t)
    have htotals := h.totals
    rw [List.count_append, List.count_append] at htotals
    refine ⟨d + s.count '(' - s.count ')', ⟨?_, by omega⟩, ?_, by omega⟩
    · intro u hu
      exact h.neverBelow u (hu.trans (List.prefix_append s t))
    · intro u hu
      have hbelow := h.neverBelow (s ++ u) ((List.prefix_append_right_inj s).2 hu)
      rw [List.count_append, List.count_append] at hbelow
      omega
  · rintro ⟨e, hs, ht⟩
    have hmiddle := hs.totals
    have htotals := ht.totals
    refine ⟨?_, by rw [List.count_append, List.count_append]; omega⟩
    intro u hu
    -- A beginning ends in the first part, or it has all of it.
    rcases List.prefix_or_prefix_of_prefix hu (List.prefix_append s t) with hshort | ⟨v, rfl⟩
    · exact hs.neverBelow u hshort
    · have hbelow := ht.neverBelow v ((List.prefix_append_right_inj s).1 hu)
      rw [List.count_append, List.count_append]
      omega

/-- Where nothing is closed, only what is opened counts. -/
theorem leads_iff_of_notMem (h : ')' ∉ s) : Leads d s e ↔ e = d + s.count '(' := by
  have hclose (u : Text) (hu : u <+: s) : u.count ')' = 0 :=
    List.count_eq_zero.2 fun hmem => h (hu.subset hmem)
  have hwhole := hclose s (List.prefix_refl s)
  constructor
  · intro hs
    have := hs.totals
    omega
  · intro he
    refine ⟨fun u hu => ?_, by omega⟩
    rw [hclose u hu]
    exact Nat.zero_le _

/-- A balanced text leads back to any depth. -/
theorem Balanced.leads_iff (h : Balanced s) : Leads d s e ↔ e = d := by
  have htotals := h.sameTotals
  constructor
  · intro hs
    have := hs.totals
    omega
  · rintro rfl
    refine ⟨fun t ht => ?_, by omega⟩
    have := h.neverBelow t ht
    omega

theorem leads_closing_iff : Leads d [')'] e ↔ d = e + 1 := by
  constructor
  · intro h
    have := h.totals
    simpa using this.symm
  · rintro rfl
    refine ⟨fun t ht => ?_, by simp⟩
    have := ht.sublist.count_le ')'
    rw [List.count_singleton_self] at this
    omega

/-! ## Texts of the same depths -/

/-- The two texts lead equally deep, wherever they stand. -/
def SameDepths (s t : Text) : Prop :=
  ∀ d e, Leads d s e ↔ Leads d t e

theorem SameDepths.refl (s : Text) : SameDepths s s :=
  fun _ _ => Iff.rfl

theorem SameDepths.trans {u : Text} (hst : SameDepths s t) (htu : SameDepths t u) :
    SameDepths s u :=
  fun d e => (hst d e).trans (htu d e)

theorem SameDepths.balanced_iff (h : SameDepths s t) : Balanced s ↔ Balanced t := by
  rw [balanced_iff_leads, balanced_iff_leads]
  exact h 0 0

theorem SameDepths.append (hs : SameDepths s s') (ht : SameDepths t t') :
    SameDepths (s ++ t) (s' ++ t') := by
  intro d f
  rw [leads_append, leads_append]
  apply exists_congr
  intro e
  rw [hs d e, ht e f]

theorem sameDepths_of_balanced (hs : Balanced s) (ht : Balanced t) : SameDepths s t := by
  intro d e
  rw [hs.leads_iff, ht.leads_iff]

/-- Trimming takes no parenthesis. -/
theorem sameDepths_trim (s : Text) : SameDepths s (Text.trim s) := by
  obtain ⟨before, behind, hs, hbefore, hbehind⟩ := Text.exists_blanks_trim s
  have hblanks {t : Text} (ht : ∀ c ∈ t, Text.isBlank c = true) : SameDepths t [] := by
    have hopen : '(' ∉ t := Text.notMem_of_blanks ht (by decide)
    have hclose : ')' ∉ t := Text.notMem_of_blanks ht (by decide)
    intro d e
    rw [leads_iff_of_notMem hclose, leads_iff_of_notMem List.not_mem_nil,
      List.count_eq_zero.2 hopen, List.count_nil]
  have hwhole := ((hblanks hbefore).append (.refl (Text.trim s))).append (hblanks hbehind)
  rwa [← hs, List.nil_append, List.append_nil] at hwhole

/-- A substitution that keeps the depths match by match keeps them all. -/
theorem sameDepths_substitute {α : Type} {p : Pattern α} {replacement : α → Text}
    (h : ∀ a ∈ p.found s, SameDepths (p.spelling a) (replacement a)) :
    SameDepths s (p.substitute replacement s) := by
  apply p.related_substitute
  · exact .refl []
  · exact fun c => .refl [c]
  · exact SameDepths.append
  · exact h

/-! ## The steps of adapting -/

/-- Fixed texts with balanced parentheses can be replaced by another such text. -/
theorem sameDepths_literals {needles : List Text} {hne : [] ∉ needles} {replacement : Text}
    (hneedles : ∀ needle ∈ needles, Balanced needle) (hreplacement : Balanced replacement)
    (s : Text) :
    SameDepths s ((Pattern.literals needles hne).substitute (fun _ => replacement) s) := by
  apply sameDepths_substitute
  intro needle hfound
  have hneedle := hneedles needle (Pattern.mem_of_mem_found_literals hfound)
  exact sameDepths_of_balanced hneedle hreplacement

/-- A group is read up to its first closing parenthesis. -/
theorem close_notMem_of_read? {rest inner : Text} (h : wherePattern.read? s = some (inner, rest)) :
    ')' ∉ inner := by
  simp only [wherePattern, Option.bind_eq_some_iff] at h
  obtain ⟨tail, -, h⟩ := h
  split at h
  · next hcut =>
    split at h
    · cases h
    · cases h
      exact (Text.cut?_eq_some_iff.1 hcut).2
  · cases h

/-- What a group holds up to its first closing parenthesis leads as deep as the group with that
parenthesis. -/
theorem sameDepths_group {inner : Text} (hclose : ')' ∉ inner) :
    SameDepths (whereStart ++ inner ++ [')']) inner := by
  have hopened : ')' ∉ whereStart ++ inner := by
    rw [List.mem_append, not_or]
    exact ⟨by decide, hclose⟩
  have hcount : (whereStart ++ inner).count '(' = inner.count '(' + 1 := by
    rw [List.count_append, Nat.add_comm]
    rfl
  intro d f
  rw [leads_append, leads_iff_of_notMem hclose]
  constructor
  · rintro ⟨e, hgroup, hend⟩
    rw [leads_iff_of_notMem hopened] at hgroup
    rw [leads_closing_iff] at hend
    omega
  · intro hf
    refine ⟨f + 1, (leads_iff_of_notMem hopened).2 ?_, leads_closing_iff.2 rfl⟩
    omega

theorem sameDepths_substitute_where (s : Text) :
    SameDepths s (wherePattern.substitute id s) := by
  apply sameDepths_substitute
  intro inner hfound
  obtain ⟨t, rest, -, hread⟩ := wherePattern.exists_read?_of_mem_found hfound
  exact sameDepths_group (close_notMem_of_read? hread)

/-- No step of adapting changes the depths. -/
theorem sameDepths_adapt (selector : Text) : SameDepths selector (adapt selector) := by
  have hroot (s : Text) : SameDepths s (rootPattern.substitute (fun _ => rootClasses) s) :=
    sameDepths_literals (by decide) (by decide) s
  have hlast (s : Text) : SameDepths s (notLastPattern.substitute (fun _ => siblings) s) :=
    sameDepths_literals (by decide) (by decide) s
  have hshown (s : Text) : SameDepths s (shownPattern.substitute (fun _ => siblings) s) :=
    sameDepths_literals (by decide) (by decide) s
  have hplaceholder (s : Text) : SameDepths s (placeholderPattern.substitute (fun _ => []) s) :=
    sameDepths_literals (by decide) (by decide) s
  unfold adapt
  apply (hroot _).trans
  apply (sameDepths_substitute_where _).trans
  apply (hlast _).trans
  apply (hshown _).trans
  apply (hplaceholder _).trans
  exact sameDepths_trim _

/-- **Parentheses.** The parentheses of an adapted selector are balanced exactly if those of the
selector are, whatever stands in it to be replaced. -/
theorem balanced_adapt_selector_iff (selector : Text) :
    Balanced (adapt selector) ↔ Balanced selector :=
  (sameDepths_adapt selector).balanced_iff.symm

/-- The parenthesis that goes is the partner of another one. -/
example : adapt ":where(:is(.a) .b)".toList = ":is(.a .b)".toList := by decide +kernel

end Selector

end NativeStyle
