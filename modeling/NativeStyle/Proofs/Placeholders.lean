import NativeStyle.Proofs.Rules

/-!
# Colours of placeholders

In a rule for placeholders the colour has another name, and it gets that name before the policy
decides. The policy treats the two names alike, and no other property ever becomes a colour. So it
makes no difference whether the declarations are renamed or the lines that are left of them.

Main results:
- `Policy.result_verdict_color` (what becomes of a colour, by either name),
- `renamed_singleton` and `renamed_ruleLines` (a renamed declaration leaves the renamed lines, and so
  do the declarations of a whole rule),
- `adaptRule_placeholder` (a rule for placeholders against one for a class with the same body).
-/

namespace NativeStyle

open Stylesheet (Declaration)

/-! ## The two names -/

namespace Policy

/-- The names of the colour of a text: in any rule, and in one for placeholders. -/
def colorNames : List Text :=
  ["color".toList, "placeholder-color".toList]

/-- The policy keeps the value as a colour. -/
def takesColor (value : Text) : Bool :=
  !Text.contains "color-mix".toList value &&
    !Text.contains "currentcolor".toList (Text.lower value) &&
      !Support.rejectedEndings.any (Text.endsWith · (RelativeLength.convert value))

/-- No step of the policy asks for a colour by its name, except for the last, and the engine knows
both names. -/
private theorem colorNames_unnamed : ∀ name ∈ colorNames,
    Support.isBookkeeping name = false ∧ name ≠ Step.animation ∧
      (∀ r ∈ replacements, r.1 ≠ name) ∧ Declaration.isCustom ⟨name, []⟩ = false ∧
        Support.table.lookup name = some .always := by
  decide +kernel

private theorem isSupported_of_always {property : Text}
    (h : Support.table.lookup property = some .always) (value : Text) :
    Support.isSupported property (some value) =
      !Support.rejectedEndings.any (Text.endsWith · value) := by
  have hnil : (!Support.rejectedEndings.any (Text.endsWith · [])) = true := by decide
  unfold Support.isSupported
  rw [h]
  cases value with
  | nil => exact hnil.symm
  | cons c value => exact Bool.and_true _

/-- What becomes of a colour depends on its value only. -/
theorem result_verdict_color {name : Text} (hname : name ∈ colorNames) (value : Text)
    (options : Options) : (Policy.verdict options .standard ⟨name, value⟩).result =
      .ok (if takesColor value then .keep name (RelativeLength.convert value) else .drop) := by
  obtain ⟨hbook, hanimation, hother, hcustom, htable⟩ := colorNames_unnamed name hname
  have hreplaced (replacement : Text) : (name, value, replacement) ∉ replacements :=
    fun hmem => hother _ hmem rfl
  have hsupported := isSupported_of_always htable (RelativeLength.convert value)
  by_cases hpasses : Passes ⟨name, value⟩
  · have htakes : takesColor value =
        Support.isSupported name (some (RelativeLength.convert value)) := by
      rw [takesColor, hpasses.noColorMix, hpasses.noCurrentColor, hsupported]
      rfl
    rw [htakes]
    by_cases hkept : Support.isSupported name (some (RelativeLength.convert value)) = true
    · rw [if_pos hkept]
      exact result_verdict_of_kept hpasses hanimation hreplaced (Or.inr hkept) options
    · rw [if_neg hkept]
      exact result_verdict_of_unsupported hpasses
        ⟨hreplaced, hanimation, hcustom, Bool.eq_false_iff.2 hkept⟩ options
  · have htakes : takesColor value = false := by
      rw [not_passes_iff, or_iff_right (Bool.eq_false_iff.1 hbook)] at hpasses
      rcases hpasses with hmix | hcurrent
      · rw [takesColor, hmix]
        rfl
      · rw [takesColor, hcurrent, Bool.not_true, Bool.and_false]
        rfl
    rw [htakes]
    exact result_verdict_of_not_passes hpasses options

/-- Nothing but a colour leaves a colour. -/
theorem Outcome.property_ne_color {d e : Declaration} {v : Verdict} (h : Outcome d v)
    (hd : d.Normal) (he : e.Normal) (hline : e.text ∈ v.lines)
    (hproperty : d.property ≠ "color".toList) : e.property ≠ "color".toList := by
  -- The line tells its property, which is in front of the first colon.
  have hfront {value : Text} (property : Text) (hcolon : ':' ∉ property)
      (htext : e.text = property ++ ':' :: ' ' :: value) : e.property = property :=
    (Text.append_separator_inj he.colon_notMem hcolon htext).1
  cases h with
  | dropped => cases hline
  | replaced | kept => rwa [hfront _ hd.colon_notMem (List.mem_singleton.1 hline)]
  | spread _ _ hspread =>
    rcases Animation.spread_lines hspread with hshorthand | hlonghands
    · rw [hshorthand] at hline
      rw [hfront Step.animation (by decide) (List.mem_singleton.1 hline)]
      decide
    · have hnames : ∀ slot ∈ Animation.longhandSlots,
          ':' ∉ "animation-".toList ++ slot.property ∧
            "animation-".toList ++ slot.property ≠ "color".toList := by
        decide
      obtain ⟨slot, hslot, t, htext, -, -⟩ := hlonghands _ hline
      obtain ⟨hcolon, hne⟩ := hnames slot hslot
      rwa [hfront _ hcolon htext]

end Policy

/-! ## Renamed lines -/

theorem toPlaceholder_of_ne {d : Declaration} (h : d.property ≠ "color".toList) :
    toPlaceholder d = d :=
  if_neg h

/-- Two runs fail alike, or leave the same declarations except for the name of the colour. -/
inductive Renamed : Except Failure (List Text) → Except Failure (List Text) → Prop where
  | failed (e : Failure) : Renamed (.error e) (.error e)
  | lines {ds : List Declaration} (hds : ∀ d ∈ ds, d.Normal) :
      Renamed (.ok (ds.map Declaration.text)) (.ok ((ds.map toPlaceholder).map Declaration.text))

theorem Renamed.append {x x' y y' : Except Failure (List Text)} (hx : Renamed x x')
    (hy : Renamed y y') :
    Renamed (x >>= fun lines => (lines ++ ·) <$> y) (x' >>= fun lines => (lines ++ ·) <$> y') := by
  cases hx with
  | failed e => exact .failed e
  | @lines ds hds =>
    cases hy with
    | failed e => exact .failed e
    | @lines es hes =>
      have hboth : ∀ d ∈ ds ++ es, d.Normal := by
        intro d hd
        exact (List.mem_append.1 hd).elim (hds d) (hes d)
      have hrenamed := Renamed.lines hboth
      rw [List.map_append, List.map_append, List.map_append] at hrenamed
      exact hrenamed

variable {d : Declaration} {ds : List Declaration}

/-- One step: the renamed declaration leaves the renamed lines. -/
theorem renamed_singleton (options : Options) (hd : d.Normal) :
    Renamed (ruleLines options [d]).result (ruleLines options [toPlaceholder d]).result := by
  rw [result_ruleLines_singleton, result_ruleLines_singleton]
  by_cases hproperty : d.property = "color".toList
  · -- A colour leaves one line or none, under either name.
    obtain ⟨property, value⟩ := d
    subst hproperty
    rw [toPlaceholder, if_pos rfl, Policy.result_verdict_color (by decide),
      Policy.result_verdict_color (by decide)]
    split
    · exact .lines (List.forall_mem_singleton.2 hd.convert)
    · exact .lines (List.forall_mem_nil _)
  · -- Any other declaration stays, and so do its lines.
    rw [toPlaceholder_of_ne hproperty]
    cases hv : (Policy.verdict options .standard d).result with
    | error e => exact .failed e
    | ok v =>
      have houtcome := Policy.outcome_of_verdict hv
      obtain ⟨es, hes, hemitted⟩ := exists_emitted_of_lines (houtcome.emitted hd)
      have hstay : ∀ e ∈ es, toPlaceholder e = e := by
        intro e he
        have hline : e.text ∈ v.lines := hes ▸ List.mem_map_of_mem he
        exact toPlaceholder_of_ne
          (houtcome.property_ne_color hd (hemitted e he).normal hline hproperty)
      have hrenamed := Renamed.lines fun e he => (hemitted e he).normal
      rw [List.map_congr_left hstay, List.map_id', ← hes] at hrenamed
      exact hrenamed

/-- The whole run, declaration by declaration. -/
theorem renamed_ruleLines (options : Options) (hds : ∀ d ∈ ds, d.Normal) :
    Renamed (ruleLines options ds).result (ruleLines options (ds.map toPlaceholder)).result := by
  induction ds with
  | nil => exact .lines (List.forall_mem_nil _)
  | cons d ds ih =>
    obtain ⟨hd, hds⟩ := List.forall_mem_cons.1 hds
    have happend := (renamed_singleton options hd).append (ih hds)
    rw [← result_ruleLines_append, ← result_ruleLines_append] at happend
    exact happend

/-! ## Rules for placeholders -/

/-- Two rules whose runs leave the same lines except for the name of the colour fail alike or have
nothing left alike, and otherwise they have these lines. -/
theorem Renamed.rules {x y : Except Failure (List Text)} (h : Renamed x y) (selector field : Text) :
    (∀ e, ruleText? field <$> y = .error e ↔ ruleText? selector <$> x = .error e) ∧
    (ruleText? field <$> y = .ok none ↔ ruleText? selector <$> x = .ok none) ∧
    ∀ text, ruleText? selector <$> x = .ok (some text) →
      ∃ ds : List Declaration, ds ≠ [] ∧ (∀ d ∈ ds, d.Normal) ∧
        text = renderRule selector (ds.map Declaration.text) ∧
        ruleText? field <$> y =
          .ok (some (renderRule field ((ds.map toPlaceholder).map Declaration.text))) := by
  cases h with
  | failed e => exact ⟨fun _ => Iff.rfl, iff_of_false nofun nofun, nofun⟩
  | @lines ds hds =>
    simp only [Except.map_ok]
    by_cases hnil : ds = []
    · -- Nothing is left, by whatever name.
      subst hnil
      exact ⟨fun _ => iff_of_false nofun nofun, Iff.rfl, nofun⟩
    · have hleft : ruleText? selector (ds.map Declaration.text) =
          some (renderRule selector (ds.map Declaration.text)) :=
        if_neg (mt List.map_eq_nil_iff.1 hnil)
      have hright : ruleText? field ((ds.map toPlaceholder).map Declaration.text) =
          some (renderRule field ((ds.map toPlaceholder).map Declaration.text)) := by
        apply if_neg
        rw [List.map_eq_nil_iff, List.map_eq_nil_iff]
        exact hnil
      rw [hleft, hright]
      refine ⟨fun _ => iff_of_false nofun nofun, iff_of_false nofun nofun, ?_⟩
      intro text htext
      cases htext
      exact ⟨ds, hnil, hds, rfl, rfl⟩

/-- **Placeholders.** Let the selector style a placeholder, be supported and not adapt to nothing. A
rule with it fails, or leaves nothing, exactly if the rule for a class with the same body does.
Otherwise the two have the same declarations, except that every colour is that of the placeholder. -/
theorem adaptRule_placeholder {selector : Text} (hsupported : Selector.isSupported selector = true)
    (hplaceholder : Selector.isPlaceholder selector = true) (hne : Selector.adapt selector ≠ [])
    (options : Options) (body : Text) :
    (∀ e, (adaptRule options selector body).result = .error e ↔
      (adaptRule options ".x".toList body).result = .error e) ∧
    ((adaptRule options selector body).result = .ok none ↔
      (adaptRule options ".x".toList body).result = .ok none) ∧
    ∀ text, (adaptRule options ".x".toList body).result = .ok (some text) →
      ∃ ds : List Declaration, ds ≠ [] ∧ (∀ d ∈ ds, d.Normal) ∧
        text = renderRule ".x".toList (ds.map Declaration.text) ∧
        (adaptRule options selector body).result =
          .ok (some (renderRule (Selector.adapt selector)
            ((ds.map toPlaceholder).map Declaration.text))) := by
  have hclass : Selector.isSupported ".x".toList = true := by decide
  have hadapt : Selector.adapt ".x".toList = ".x".toList := by decide +kernel
  have hclassne : Selector.adapt ".x".toList ≠ [] := by
    rw [hadapt]
    decide
  -- Of the two rules, only one has its declarations renamed.
  have hplain : ruleDeclarations ".x".toList body = Stylesheet.declarations body :=
    if_neg (by decide)
  have hfield : ruleDeclarations selector body =
      (Stylesheet.declarations body).map toPlaceholder := if_pos hplaceholder
  have hnormal : ∀ d ∈ Stylesheet.declarations body, d.Normal :=
    Stylesheet.normal_of_mem_declarations
  rw [result_adaptRule hsupported hne, result_adaptRule hclass hclassne, hfield, hplain, hadapt]
  exact (renamed_ruleLines options hnormal).rules ".x".toList (Selector.adapt selector)

/-- A colour, one that is dropped by either name, and an animation that is called a colour. -/
theorem adaptRule_placeholder_field :
    Selector.isSupported "input::placeholder".toList = true ∧
      Selector.isPlaceholder "input::placeholder".toList = true ∧
      Selector.adapt "input::placeholder".toList ≠ [] ∧
      ∃ ds : List Declaration,
        ".x \x7b\n  color: red;\n  animation-name: color;\n  opacity: 1;\n\x7d".toList =
          renderRule ".x".toList (ds.map Declaration.text) ∧
        (adaptRule {} "input::placeholder".toList
            "color: red; color: currentColor; animation: color; opacity: 1".toList).result =
          .ok (some (renderRule "input".toList ((ds.map toPlaceholder).map Declaration.text))) := by
  have hsupported : Selector.isSupported "input::placeholder".toList = true := by decide
  have hplaceholder : Selector.isPlaceholder "input::placeholder".toList = true := by decide
  have hadapt : Selector.adapt "input::placeholder".toList = "input".toList := by decide +kernel
  have hne : Selector.adapt "input::placeholder".toList ≠ [] := by
    rw [hadapt]
    decide
  obtain ⟨ds, -, -, htext, hfield⟩ := (adaptRule_placeholder hsupported hplaceholder hne {}
    "color: red; color: currentColor; animation: color; opacity: 1".toList).2.2
    ".x \x7b\n  color: red;\n  animation-name: color;\n  opacity: 1;\n\x7d".toList
    (by decide +kernel)
  rw [hadapt] at hfield
  exact ⟨hsupported, hplaceholder, hne, ds, htext, hfield⟩

end NativeStyle
