import NativeStyle.Proofs.Rereading

/-!
# Adapting twice

A second pass leaves the text of the first one as it is exactly if every fragment is read as the
fragment that was written, and nothing is left to be done with it: `Stable` says what that takes.
What happens to the first fragment is known, and the run over all fragments follows by induction.

Main results:
- `adaptSheet_joined_iff` (when the text of a list of fragments stays),
- `adapt_again_iff` (when adapting twice is the same as adapting once).
-/

namespace NativeStyle

open Stylesheet (Balanced Declaration)

/-! ## Stable fragments -/

/-- Every fragment stays, and all but the last close what they open. -/
structure Stable (fs : List Fragment) : Prop where
  stays : ∀ f ∈ fs, f.Stays
  closed : fs.Pairwise fun f _ => Balanced f.inside

instance (fs : List Fragment) : Decidable (Stable fs) :=
  decidable_of_iff
    ((∀ f ∈ fs, f.Stays) ∧ fs.Pairwise fun f _ => Balanced f.inside)
    ⟨fun h => ⟨h.1, h.2⟩, fun h => ⟨h.stays, h.closed⟩⟩

theorem stable_nil : Stable [] :=
  ⟨by simp, .nil⟩

theorem stable_cons_iff {f : Fragment} {fs : List Fragment} :
    Stable (f :: fs) ↔ f.Stays ∧ (Balanced f.inside ∨ fs = []) ∧ Stable fs := by
  constructor
  · rintro ⟨hstays, hclosed⟩
    -- The first of several fragments is not the last one.
    obtain ⟨hfirst, hrest⟩ := List.pairwise_cons.1 hclosed
    refine ⟨hstays f List.mem_cons_self, ?_, ?_⟩
    · cases fs with
      | nil => exact Or.inr rfl
      | cons g gs => exact Or.inl (hfirst g List.mem_cons_self)
    · exact ⟨fun g hg => hstays g (List.mem_cons_of_mem _ hg), hrest⟩
  · rintro ⟨hf, hinside, hstays, hclosed⟩
    constructor
    · intro g hg
      rcases List.mem_cons.1 hg with rfl | hg
      · exact hf
      · exact hstays g hg
    · refine List.pairwise_cons.2 ⟨?_, hclosed⟩
      intro g hg
      rcases hinside with hinside | rfl
      · exact hinside
      · cases hg

/-! ## Joined fragments -/

/-- The text of a list of fragments. -/
def joined (fs : List Fragment) : Text :=
  Text.join fragmentSeparator (fs.map Fragment.text)

theorem Fragment.text_ne_nil (f : Fragment) : f.text ≠ [] := by
  cases f with
  | rule selector declarations => exact renderRule_ne_nil _ _
  | keyframes params body => exact renderKeyframes_ne_nil _ _

theorem joined_cons (f : Fragment) (fs : List Fragment) :
    joined (f :: fs) = f.text ++ behind (joined fs) := by
  apply join_cons
  intro hmem
  obtain ⟨g, -, hnil⟩ := List.mem_map.1 hmem
  exact g.text_ne_nil hnil

theorem joined_eq_nil_iff {fs : List Fragment} : joined fs = [] ↔ fs = [] := by
  constructor
  · intro h
    cases fs with
    | nil => rfl
    | cons f fs =>
      rw [joined_cons] at h
      exact absurd (List.append_eq_nil_iff.1 h).1 f.text_ne_nil
  · rintro rfl
    rfl

/-- Every fragment opens a block. -/
theorem Fragment.Emitted.open_mem_text {f : Fragment} (h : f.Emitted) : '{' ∈ f.text := by
  cases h with
  | @rule selector declarations _ _ _ hne _ =>
    have hlines : declarations.map Declaration.text ≠ [] := by simpa using hne
    rw [Fragment.text, renderRule_eq hlines]
    simp
  | @keyframes params body =>
    rw [Fragment.text, renderKeyframes_eq]
    generalize "keyframes".toList = name
    simp

theorem open_mem_joined {fs : List Fragment} (hfs : ∀ f ∈ fs, f.Emitted) (hne : fs ≠ []) :
    '{' ∈ joined fs := by
  obtain ⟨f, rest, rfl⟩ := List.exists_cons_of_ne_nil hne
  rw [joined_cons]
  exact List.mem_append_left _ (hfs f List.mem_cons_self).open_mem_text

/-! ## All fragments -/

/-- The text of emitted fragments stays exactly if the fragments are stable. -/
theorem adaptSheet_joined_iff {options : Options} {fs : List Fragment} (hfs : ∀ f ∈ fs, f.Emitted)
    (hlast : fs.Pairwise fun f _ => ∀ params body, f = .keyframes params body → Balanced body) :
    (adaptSheet options 0 (joined fs)).result = .ok (joined fs) ↔ Stable fs := by
  -- The induction takes off the first fragment with the step lemma of its kind.
  induction fs with
  | nil =>
    refine iff_of_true ?_ stable_nil
    rw [joined_eq_nil_iff.2 rfl, adaptSheet_eq, Stylesheet.split_nil]
    rfl
  | cons f fs ih =>
    obtain ⟨hfirst, hothers⟩ := List.pairwise_cons.1 hlast
    have hrest := ih (fun g hg => hfs g (List.mem_cons_of_mem _ hg)) hothers
    have hf := hfs f List.mem_cons_self
    have hopen : joined fs ≠ [] → '{' ∈ joined fs := by
      intro hne
      apply open_mem_joined fun g hg => hfs g (List.mem_cons_of_mem _ hg)
      exact fun hnil => hne (joined_eq_nil_iff.2 hnil)
    rw [joined_cons, stable_cons_iff, ← hrest]
    cases f with
    | rule selector ds => rw [adaptSheet_rule_iff hf hopen, joined_eq_nil_iff]
    | keyframes params body =>
      -- Keyframes with something behind them were closed in the first place.
      have hclosed : Balanced body ∨ joined fs = [] := by
        cases fs with
        | nil => exact Or.inr rfl
        | cons g gs => exact Or.inl (hfirst g List.mem_cons_self params body rfl)
      rw [adaptSheet_keyframes_iff hf hclosed, joined_eq_nil_iff]

/-- **Adapting twice.** Where adapting succeeds, a second pass leaves the result as it is exactly
if the fragments of the first pass are stable. -/
theorem adapt_again_iff {options : Options} {css out : Text}
    (h : (adapt options css).result = .ok out) :
    (adapt options out).result = .ok out ↔ Stable (fragments options css) := by
  have hout := adapt_eq_join_fragments options css h
  rw [hout]
  exact adaptSheet_joined_iff (emitted_of_mem_fragments options css)
    (pairwise_fragments options css)

/-- A rule that was taken out of a layer stays. -/
theorem adapt_again_flattened :
    (adapt {} "@layer a\x7b.b\x7bwidth:2rem\x7d\x7d".toList).result =
        .ok ".b \x7b\n  width: 32;\n\x7d".toList ∧
      (adapt {} ".b \x7b\n  width: 32;\n\x7d".toList).result =
        .ok ".b \x7b\n  width: 32;\n\x7d".toList := by
  have hfirst : (adapt {} "@layer a\x7b.b\x7bwidth:2rem\x7d\x7d".toList).result =
      .ok ".b \x7b\n  width: 32;\n\x7d".toList := by
    decide +kernel
  exact ⟨hfirst, (adapt_again_iff hfirst).2 (by decide +kernel)⟩

/-- Of two groups without weight, one inside the other, a pass takes away only one. -/
theorem not_forall_adapt_again :
    ¬∀ (options : Options) (css out : Text), (adapt options css).result = .ok out →
      (adapt options out).result = .ok out := by
  intro h
  have hagain := h {} ":where(:where(.a))\x7bcolor:red\x7d".toList
    ":where(.a) \x7b\n  color: red;\n\x7d".toList (by decide +kernel)
  revert hagain
  decide +kernel

end NativeStyle
