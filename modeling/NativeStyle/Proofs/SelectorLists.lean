import NativeStyle.Proofs.Groups
import NativeStyle.Proofs.InnerBlocks
import NativeStyle.Proofs.Placeholders

/-!
# Selector lists

A rule whose selector is a list of two stands for two rules, but its selector is asked about and
adapted as one text. What is asked for reaches neither across the comma nor across the blank behind
it, so the answers for the list come from those for its members. A member takes part in the other's
rule in one way only: if it styles a placeholder, colours are renamed for both.

Main results:
- `Selector.isSupported_list` and `Selector.isPlaceholder_list` (what is asked of a list),
- `Selector.mem_adapt` (which characters adapting leaves in a selector),
- `adaptRule_list` (a rule for a list against that for one of its members).
-/

namespace NativeStyle

open Stylesheet (Declaration)

/-! ## Questions about a list -/

namespace Selector

/-- A needle with neither a comma nor a blank stands in a member, or not at all. -/
theorem infix_list_iff {needle : Text} (hcomma : ',' ∉ needle) (hblank : ' ' ∉ needle)
    (a b : Text) : needle <:+: a ++ ", ".toList ++ b ↔ needle <:+: a ∨ needle <:+: b := by
  have hlist : a ++ ", ".toList ++ b = a ++ ',' :: ' ' :: b := List.append_assoc _ _ _
  rw [hlist]
  constructor
  · intro h
    refine (Text.infix_or_infix_of_append_cons hcomma h).imp_right fun hrest => ?_
    rcases Text.infix_or_infix_of_append_cons (s := []) hblank hrest with hnil | hb
    · exact List.infix_nil.1 hnil ▸ List.nil_infix
    · exact hb
  · rintro (ha | hb)
    · exact ha.trans (List.prefix_append _ _).isInfix
    · exact hb.trans ((List.suffix_cons _ _).trans
        ((List.suffix_cons _ _).trans (List.suffix_append _ _))).isInfix

theorem isSupported_list (a b : Text) :
    isSupported (a ++ ", ".toList ++ b) = true ↔ isSupported a = true ∧ isSupported b = true := by
  have hneedles : ∀ needle ∈ unsupportedTexts, ',' ∉ needle ∧ ' ' ∉ needle := by decide
  rw [isSupported_iff, isSupported_iff, isSupported_iff, ← forall₂_and]
  refine forall₂_congr fun needle hmem => ?_
  obtain ⟨hcomma, hblank⟩ := hneedles needle hmem
  rw [infix_list_iff hcomma hblank, not_or]

theorem isPlaceholder_list (a b : Text) :
    isPlaceholder (a ++ ", ".toList ++ b) = (isPlaceholder a || isPlaceholder b) := by
  rw [Bool.eq_iff_iff, Bool.or_eq_true]
  unfold isPlaceholder
  rw [Text.contains_iff, Text.contains_iff, Text.contains_iff]
  exact infix_list_iff (by decide) (by decide) a b

/-! ## Adapting a list -/

/-- Adapting leaves every character that stands in none of the texts that it replaces. -/
theorem mem_adapt {c : Char} (hreplaced : ∀ needle ∈ replacedTexts, c ∉ needle) (hclose : c ≠ ')')
    (hblank : Text.isBlank c = false) {selector : Text} (hc : c ∈ selector) :
    c ∈ adapt selector := by
  have hliteral {needles : List Text} {hne : [] ∉ needles} {replacement s : Text}
      (hsub : ∀ needle ∈ needles, needle ∈ replacedTexts) (hs : c ∈ s) :
      c ∈ (Pattern.literals needles hne).substitute (fun _ => replacement) s := by
    apply Pattern.mem_substitute _ hs
    intro needle hfound hneedle
    exact absurd hneedle (hreplaced _ (hsub _ (Pattern.mem_of_mem_found_literals hfound)))
  have hgroup {s : Text} (hs : c ∈ s) : c ∈ wherePattern.substitute id s := by
    apply Pattern.mem_substitute _ hs
    intro inner _ hspelling
    -- The character stands inside, since it is neither in the start nor the end of the group.
    have hstart : c ∉ whereStart := hreplaced whereStart (by decide)
    have hspelled : c ∈ whereStart ++ inner ++ [')'] := hspelling
    simpa [hstart, hclose] using hspelled
  have hroot : c ∈ rootPattern.substitute (fun _ => rootClasses) selector :=
    hliteral (by decide) hc
  have hwhere := hgroup hroot
  have hlast : c ∈ notLastPattern.substitute (fun _ => siblings) _ :=
    hliteral (by decide) hwhere
  have hshown : c ∈ shownPattern.substitute (fun _ => siblings) _ :=
    hliteral (by decide) hlast
  have hplaceholder : c ∈ placeholderPattern.substitute (fun _ => []) _ :=
    hliteral (by decide) hshown
  rw [adapt, ← List.count_pos_iff, Text.count_trim hblank, List.count_pos_iff]
  exact hplaceholder

/-- The comma of a list is never lost. -/
theorem adapt_list_ne_nil (a b : Text) : adapt (a ++ ", ".toList ++ b) ≠ [] := by
  have hcomma : ',' ∈ a ++ ", ".toList ++ b := by simp
  exact List.ne_nil_of_mem (mem_adapt (by decide) (by decide) (by decide) hcomma)

end Selector

/-! ## Rules for lists -/

variable {a b : Text}

/-- The declarations of a rule for a list fail as they do for a member that styles no placeholder, or
leave the same lines, with the colours renamed where the other member styles one. -/
theorem ruleLines_list (hplain : Selector.isPlaceholder a = false) (options : Options)
    (b body : Text) :
    (∃ e, (ruleLines options (ruleDeclarations a body)).result = .error e ∧
      (ruleLines options (ruleDeclarations (a ++ ", ".toList ++ b) body)).result = .error e) ∨
    ∃ ds : List Declaration, (∀ d ∈ ds, d.Normal) ∧
      (ruleLines options (ruleDeclarations a body)).result = .ok (ds.map Declaration.text) ∧
      (ruleLines options (ruleDeclarations (a ++ ", ".toList ++ b) body)).result =
        .ok ((if Selector.isPlaceholder b then ds.map toPlaceholder else ds).map
          Declaration.text) := by
  have hnormal : ∀ d ∈ Stylesheet.declarations body, d.Normal :=
    Stylesheet.normal_of_mem_declarations
  unfold ruleDeclarations
  rw [Selector.isPlaceholder_list, hplain, Bool.false_or, if_neg Bool.false_ne_true]
  by_cases hplaceholder : Selector.isPlaceholder b = true
  · rw [if_pos hplaceholder]
    have hrenamed := renamed_ruleLines options hnormal
    generalize (ruleLines options (Stylesheet.declarations body)).result = x at hrenamed ⊢
    generalize (ruleLines options
      ((Stylesheet.declarations body).map toPlaceholder)).result = y at hrenamed ⊢
    cases hrenamed with
    | failed e => exact Or.inl ⟨e, rfl, rfl⟩
    | lines hds => exact Or.inr ⟨_, hds, rfl, by rw [if_pos hplaceholder]⟩
  · rw [if_neg hplaceholder]
    cases hlines : (ruleLines options (Stylesheet.declarations body)).result with
    | error e => exact Or.inl ⟨e, rfl, rfl⟩
    | ok lines =>
      obtain ⟨ds, rfl, hds⟩ := emitted_of_ruleLines hnormal hlines
      exact Or.inr ⟨ds, fun d hd => (hds d hd).normal, rfl, by rw [if_neg hplaceholder]⟩

/-- **Selector lists.** Let the selectors of a list be supported, and let one of them style no
placeholder and not adapt to nothing. A rule for the list fails, or leaves nothing, exactly if the
rule for this member does. Otherwise the two have the same declarations, except that the rule for
the list has its colours renamed if the other member styles a placeholder. -/
theorem adaptRule_list (ha : Selector.isSupported a = true) (hb : Selector.isSupported b = true)
    (hplain : Selector.isPlaceholder a = false) (hne : Selector.adapt a ≠ []) (options : Options)
    (body : Text) :
    (∀ e, (adaptRule options (a ++ ", ".toList ++ b) body).result = .error e ↔
      (adaptRule options a body).result = .error e) ∧
    ((adaptRule options (a ++ ", ".toList ++ b) body).result = .ok none ↔
      (adaptRule options a body).result = .ok none) ∧
    ∀ text, (adaptRule options a body).result = .ok (some text) →
      ∃ ds : List Declaration, ds ≠ [] ∧ (∀ d ∈ ds, d.Normal) ∧
        text = renderRule (Selector.adapt a) (ds.map Declaration.text) ∧
        (adaptRule options (a ++ ", ".toList ++ b) body).result =
          .ok (some (renderRule (Selector.adapt (a ++ ", ".toList ++ b))
            ((if Selector.isPlaceholder b then ds.map toPlaceholder else ds).map
              Declaration.text))) := by
  have hlist := (Selector.isSupported_list a b).2 ⟨ha, hb⟩
  have hlistne := Selector.adapt_list_ne_nil a b
  rcases ruleLines_list hplain options b body with
    ⟨e, hmember, hwhole⟩ | ⟨ds, hds, hmember, hwhole⟩
  · rw [result_adaptRule hlist hlistne, result_adaptRule ha hne, hmember, hwhole]
    exact ⟨fun _ => Iff.rfl, iff_of_false nofun nofun, nofun⟩
  by_cases hnil : ds = []
  · -- Nothing is left, by whatever name.
    subst hnil
    rw [List.map_nil, ite_self] at hwhole
    rw [result_adaptRule hlist hlistne, result_adaptRule ha hne, hmember, hwhole]
    exact ⟨fun _ => iff_of_false nofun nofun, iff_of_true rfl rfl, nofun⟩
  · have hrenamed : (if Selector.isPlaceholder b then ds.map toPlaceholder else ds) ≠ [] := by
      split
      · exact mt List.map_eq_nil_iff.1 hnil
      · exact hnil
    have hleft := adaptRule_eq_some_iff.2
      ⟨ha, hne, _, hmember, mt List.map_eq_nil_iff.1 hnil, rfl⟩
    have hright := adaptRule_eq_some_iff.2
      ⟨hlist, hlistne, _, hwhole, mt List.map_eq_nil_iff.1 hrenamed, rfl⟩
    rw [hleft, hright]
    refine ⟨fun _ => iff_of_false nofun nofun, iff_of_false nofun nofun, fun text h => ?_⟩
    cases h
    exact ⟨ds, hnil, hds, rfl, rfl⟩

/-- Beside a placeholder, a class loses its colour. -/
theorem adaptRule_list_field :
    Selector.isSupported ".x".toList = true ∧
      Selector.isSupported "input::placeholder".toList = true ∧
      Selector.isPlaceholder ".x".toList = false ∧ Selector.adapt ".x".toList ≠ [] ∧
      ∃ ds : List Declaration,
        ".x \x7b\n  color: red;\n  opacity: 1;\n\x7d".toList =
          renderRule ".x".toList (ds.map Declaration.text) ∧
        (adaptRule {} (".x".toList ++ ", ".toList ++ "input::placeholder".toList)
            "color: red; opacity: 1".toList).result =
          .ok (some (renderRule ".x, input".toList
            ((ds.map toPlaceholder).map Declaration.text))) := by
  have hsupported : Selector.isSupported ".x".toList = true := by decide
  have hother : Selector.isSupported "input::placeholder".toList = true := by decide
  have hplain : Selector.isPlaceholder ".x".toList = false := by decide
  have hplaceholder : Selector.isPlaceholder "input::placeholder".toList = true := by decide
  have hadapt : Selector.adapt ".x".toList = ".x".toList := by decide +kernel
  have hlist : Selector.adapt (".x".toList ++ ", ".toList ++ "input::placeholder".toList) =
      ".x, input".toList := by
    decide +kernel
  have hne : Selector.adapt ".x".toList ≠ [] := by
    rw [hadapt]
    decide
  have hrule := adaptRule_list hsupported hother hplain hne {} "color: red; opacity: 1".toList
  obtain ⟨ds, -, -, htext, hwhole⟩ := hrule.2.2
    ".x \x7b\n  color: red;\n  opacity: 1;\n\x7d".toList (by decide +kernel)
  rw [hadapt] at htext
  rw [hlist, if_pos hplaceholder] at hwhole
  exact ⟨hsupported, hother, hplain, hne, ds, htext, hwhole⟩

/-- What a member receives depends on the other one where that styles a placeholder. -/
theorem not_forall_adaptRule_list :
    ¬∀ (options : Options) (a b body : Text),
      Selector.isSupported a = true → Selector.isSupported b = true → ',' ∉ a → ',' ∉ b →
      Selector.Balanced a → Selector.Balanced b → Selector.isPlaceholder a = false →
      Selector.adapt a ≠ [] → Selector.adapt b ≠ [] →
      ((adaptRule options (a ++ ", ".toList ++ b) body).result = .ok none ↔
        (adaptRule options a body).result = .ok none) ∧
      ∀ lines, (∀ line ∈ lines, ';' ∉ line) → lines ≠ [] →
        (adaptRule options a body).result = .ok (some (renderRule (Selector.adapt a) lines)) →
        (adaptRule options (a ++ ", ".toList ++ b) body).result =
          .ok (some (renderRule (Selector.adapt (a ++ ", ".toList ++ b)) lines)) := by
  intro h
  have hrule := h {} ".x".toList ".y::placeholder".toList "color:red".toList (by decide)
    (by decide) (by decide) (by decide) (by decide) (by decide) (by decide) (by decide +kernel)
    (by decide +kernel)
  have hlines := hrule.2 ["color: red".toList] (by decide) (by decide) (by decide +kernel)
  revert hlines
  decide +kernel

end NativeStyle
