import NativeStyle.Adapt.Rule
import NativeStyle.Proofs.Runs
import NativeStyle.Proofs.Substitution
import NativeStyle.Proofs.Verdicts

/-!
# Rules, their lines, and their texts

A rule is adapted declaration by declaration, and what is left is written line by line. The lines
are declarations again, so the text of a rule tells its selector and its lines whatever stands
behind it (`renderRule_append_inj`), and a policy that runs over the lines once more leaves them as
they are exactly if each of them is settled (`ruleLines_eq_iff_settled`).

Main results:
- `adaptRule_eq_some_iff` (when something is left of a rule, and what),
- `count_ruleLines_le` and `emitted_of_ruleLines` (what the lines of a rule are),
- `renderRule_append_inj`, `ruleLines_eq_iff_settled` (see above).
-/

namespace NativeStyle

open Stylesheet (Declaration declarations parts)

/-! ## The lines of a rule -/

section Lines

variable {options : Options} {ds : List Declaration} {lines : List Text}

theorem ruleLines_eq_ok_iff : (ruleLines options ds).result = .ok lines ↔
    ∃ vs, List.Forall₂ (fun d v => (Policy.verdict options .standard d).result = .ok v) ds vs ∧
      lines = vs.flatMap Verdict.lines := by
  rw [ruleLines, Logged.result_bind, Logged.result_mapM]
  constructor
  · intro h
    cases hvs : ds.mapM fun d => (Policy.verdict options .standard d).result with
    | error e =>
      rw [hvs] at h
      cases h
    | ok vs =>
      rw [hvs] at h
      cases h
      exact ⟨vs, mapM_eq_ok_iff.1 hvs, rfl⟩
  · rintro ⟨vs, hvs, rfl⟩
    rw [mapM_eq_ok_iff.2 hvs]
    rfl

theorem result_ruleLines_singleton (d : Declaration) : (ruleLines options [d]).result =
    Verdict.lines <$> (Policy.verdict options .standard d).result := by
  simp only [ruleLines, Logged.result_bind, List.mapM_cons, List.mapM_nil]
  cases (Policy.verdict options .standard d).result with
  | error e => rfl
  | ok v => exact congrArg Except.ok (List.flatMap_singleton _ _)

theorem result_ruleLines_append (ds es : List Declaration) : (ruleLines options (ds ++ es)).result =
    (ruleLines options ds).result >>= fun lines =>
      (lines ++ ·) <$> (ruleLines options es).result := by
  simp only [ruleLines, Logged.result_bind, Logged.result_mapM, List.mapM_append]
  -- Either of the two runs may fail, and then no line is left of both together.
  cases ds.mapM fun d => (Policy.verdict options .standard d).result with
  | error e => rfl
  | ok vs =>
    cases es.mapM fun d => (Policy.verdict options .standard d).result with
    | error e => rfl
    | ok ws => exact congrArg Except.ok List.flatMap_append

/-- The lines of a rule hold no mark more than its declarations. -/
theorem count_ruleLines_le {c : Char} (hc : c ∈ marks)
    (h : (ruleLines options ds).result = .ok lines) :
    lines.flatten.count c ≤ (parts ds).count c := by
  obtain ⟨vs, hvs, rfl⟩ := ruleLines_eq_ok_iff.1 h
  clear h
  -- Declaration by declaration, as the verdicts are given.
  induction hvs with
  | nil => exact Nat.le_refl _
  | @cons d v ds vs hv _ ih =>
    have hfirst := (Policy.outcome_of_verdict hv).count_lines_le hc
    unfold parts at ih ⊢
    rw [List.flatMap_cons, List.flatten_append, List.count_append, List.flatMap_cons,
      List.count_append]
    exact Nat.add_le_add hfirst ih

/-- Where each line has its declaration, the lines together are a list of declarations. -/
theorem exists_emitted_of_lines (h : ∀ line ∈ lines, ∃ e : Declaration, line = e.text ∧ e.Emitted) :
    ∃ es : List Declaration, lines = es.map Declaration.text ∧ ∀ e ∈ es, e.Emitted := by
  induction lines with
  | nil => exact ⟨[], rfl, by simp⟩
  | cons line lines ih =>
    obtain ⟨e, rfl, he⟩ := h line List.mem_cons_self
    obtain ⟨es, rfl, hes⟩ := ih fun other hmem => h other (List.mem_cons_of_mem _ hmem)
    exact ⟨e :: es, rfl, List.forall_mem_cons.2 ⟨he, hes⟩⟩

/-- The lines of a rule are declarations again. -/
theorem emitted_of_ruleLines (hds : ∀ d ∈ ds, d.Normal)
    (h : (ruleLines options ds).result = .ok lines) :
    ∃ es : List Declaration, lines = es.map Declaration.text ∧ ∀ e ∈ es, e.Emitted := by
  obtain ⟨vs, hvs, rfl⟩ := ruleLines_eq_ok_iff.1 h
  apply exists_emitted_of_lines
  clear h
  induction hvs with
  | nil => simp
  | @cons d v ds vs hv _ ih =>
    intro line hmem
    rw [List.flatMap_cons] at hmem
    rcases List.mem_append.1 hmem with hmem | hmem
    · exact (Policy.outcome_of_verdict hv).emitted (hds d List.mem_cons_self) line hmem
    · exact ih (fun e he => hds e (List.mem_cons_of_mem _ he)) line hmem

theorem semicolon_notMem_of_ruleLines (hds : ∀ d ∈ ds, d.Normal)
    (h : (ruleLines options ds).result = .ok lines) : ∀ line ∈ lines, ';' ∉ line := by
  obtain ⟨es, rfl, hes⟩ := emitted_of_ruleLines hds h
  exact Stylesheet.semicolon_notMem_lines fun e he => (hes e he).normal

private theorem length_lines_le {vs : List Verdict} (hds : ∀ d ∈ ds, d.Emitted)
    (hvs : List.Forall₂ (fun d v => (Policy.verdict options .standard d).result = .ok v) ds vs) :
    (vs.flatMap Verdict.lines).length ≤ ds.length := by
  induction hvs with
  | nil => exact Nat.le_refl _
  | @cons d v ds vs hv _ ih =>
    have hfirst := (hds d List.mem_cons_self).length_lines_le hv
    have hrest := ih fun e he => hds e (List.mem_cons_of_mem _ he)
    rw [List.flatMap_cons, List.length_append, List.length_cons]
    omega

/-- Lines that went through the policy once go through it unchanged exactly if each of them is
settled. -/
theorem ruleLines_eq_iff_settled (hds : ∀ d ∈ ds, d.Emitted) :
    (ruleLines options ds).result = .ok (ds.map Declaration.text) ↔ ∀ d ∈ ds, d.Settled := by
  constructor
  · intro h
    obtain ⟨vs, hvs, hlines⟩ := ruleLines_eq_ok_iff.1 h
    clear h
    induction hvs with
    | nil => simp
    | @cons d v ds vs hv hrest ih =>
      have hd := hds d List.mem_cons_self
      have hds' : ∀ e ∈ ds, e.Emitted := fun e he => hds e (List.mem_cons_of_mem _ he)
      rw [List.map_cons, List.flatMap_cons] at hlines
      -- Each declaration has at most one line, so none can be missing.
      have hlength := hd.length_lines_le hv
      cases hlinesOf : v.lines with
      | nil =>
        rw [hlinesOf, List.nil_append] at hlines
        have hshort := length_lines_le hds' hrest
        rw [← hlines, List.length_cons, List.length_map] at hshort
        omega
      | cons line others =>
        rw [hlinesOf, List.length_cons] at hlength
        have hnone : others = [] := List.length_eq_zero_iff.1 (by omega)
        subst hnone
        rw [hlinesOf, List.singleton_append] at hlines
        obtain ⟨hline, hothers⟩ := List.cons.inj hlines
        intro e he
        rcases List.mem_cons.1 he with rfl | he
        · apply (hd.lines_eq_iff hv).1
          rw [hlinesOf, hline]
        · exact ih hds' hothers e he
  · intro h
    rw [ruleLines_eq_ok_iff]
    induction ds with
    | nil => exact ⟨[], .nil, rfl⟩
    | cons d ds ih =>
      obtain ⟨v, hv, hlines⟩ :=
        (hds d List.mem_cons_self).result_of_settled (h d List.mem_cons_self) options
      obtain ⟨vs, hvs, hrest⟩ := ih (fun e he => hds e (List.mem_cons_of_mem _ he))
        fun e he => h e (List.mem_cons_of_mem _ he)
      refine ⟨v :: vs, .cons hv hvs, ?_⟩
      rw [List.map_cons, List.flatMap_cons, hlines, ← hrest]
      rfl

end Lines

/-! ## Declarations of a rule -/

theorem normal_of_mem_ruleDeclarations {selector body : Text} :
    ∀ d ∈ ruleDeclarations selector body, d.Normal := by
  intro d hd
  unfold ruleDeclarations at hd
  split at hd
  · obtain ⟨e, he, rfl⟩ := List.mem_map.1 hd
    have hnormal := Stylesheet.normal_of_mem_declarations e he
    -- The name that is put in for placeholders is a property in normal form.
    have hname : Text.trim "placeholder-color".toList = "placeholder-color".toList ∧
        "placeholder-color".toList ≠ [] ∧ ':' ∉ "placeholder-color".toList ∧
        ';' ∉ "placeholder-color".toList := by
      decide
    unfold toPlaceholder
    split
    · exact {
        hnormal with
        trim_property := hname.1
        property_ne_nil := hname.2.1
        colon_notMem := hname.2.2.1
        semicolon_notMem_property := hname.2.2.2 }
    · exact hnormal
  · exact Stylesheet.normal_of_mem_declarations d hd

/-- Where the selector stays, no property is renamed, and blanks around the body do not count. -/
theorem ruleDeclarations_of_settled {selector : Text} (h : Selector.Settled selector)
    (body : Text) : ruleDeclarations selector (Text.trim body) = declarations body := by
  rw [ruleDeclarations, h.isPlaceholder_eq_false, Stylesheet.declarations_trim]
  rfl

/-- In a rule for placeholders no mark is added either. -/
theorem count_ruleDeclarations_le {c : Char} (hc : c ∈ marks) (selector body : Text) :
    (parts (ruleDeclarations selector body)).count c ≤ body.count c := by
  have hname : c ∉ "placeholder-color".toList := by
    revert c
    decide
  have hrename (d : Declaration) : (toPlaceholder d).property.count c ≤ d.property.count c ∧
      (toPlaceholder d).value = d.value := by
    unfold toPlaceholder
    split
    · refine ⟨?_, rfl⟩
      show ("placeholder-color".toList).count c ≤ d.property.count c
      exact Nat.le_trans (Nat.le_of_eq (List.count_eq_zero.2 hname)) (Nat.zero_le _)
    · exact ⟨Nat.le_refl _, rfl⟩
  -- Renaming a property cannot add a mark to the parts.
  have hmap (ds : List Declaration) :
      (parts (ds.map toPlaceholder)).count c ≤ (parts ds).count c := by
    unfold parts
    induction ds with
    | nil => exact Nat.le_refl _
    | cons d ds ih =>
      obtain ⟨hproperty, hvalue⟩ := hrename d
      rw [List.map_cons, List.flatMap_cons, List.flatMap_cons, List.count_append,
        List.count_append, List.count_append, List.count_append, hvalue]
      omega
  have hread := Stylesheet.count_declarations_le c body
  unfold ruleDeclarations
  split
  · exact Nat.le_trans (hmap _) hread
  · exact hread

/-! ## What is left of a rule -/

/-- What is left of a rule with these lines. -/
def ruleText? (selector : Text) (lines : List Text) : Option Text :=
  if lines = [] then none else some (renderRule selector lines)

theorem ruleText?_eq_some_iff {selector text : Text} {lines : List Text} :
    ruleText? selector lines = some text ↔ lines ≠ [] ∧ text = renderRule selector lines := by
  unfold ruleText?
  split
  · next hnil => exact iff_of_false nofun fun h => h.1 hnil
  · next hne => rw [Option.some.injEq, eq_comm, and_iff_right hne]

theorem result_adaptRule {options : Options} {selector : Text}
    (hsupported : Selector.isSupported selector = true) (hne : Selector.adapt selector ≠ [])
    (body : Text) :
    (adaptRule options selector body).result =
      ruleText? (Selector.adapt selector) <$>
        (ruleLines options (ruleDeclarations selector body)).result := by
  have hselector : ¬(!Selector.isSupported selector ∨ Selector.adapt selector = []) := by
    simp [hsupported, hne]
  rw [adaptRule, if_neg hselector, Logged.result_bind]
  cases (ruleLines options (ruleDeclarations selector body)).result <;> rfl

theorem adaptRule_eq_some_iff {options : Options} {selector body text : Text} :
    (adaptRule options selector body).result = .ok (some text) ↔
      Selector.isSupported selector = true ∧ Selector.adapt selector ≠ [] ∧
        ∃ lines, (ruleLines options (ruleDeclarations selector body)).result = .ok lines ∧
          lines ≠ [] ∧ text = renderRule (Selector.adapt selector) lines := by
  -- The selector decides first; only then the lines are made.
  by_cases hselector : !Selector.isSupported selector ∨ Selector.adapt selector = []
  · rw [adaptRule, if_pos hselector]
    constructor
    · intro h
      cases h
    · rintro ⟨hsupported, hne, -⟩
      simp [hsupported, hne] at hselector
  · obtain ⟨hsupported, hne⟩ := not_or.1 hselector
    rw [Bool.not_eq_true', Bool.not_eq_false] at hsupported
    rw [result_adaptRule hsupported hne]
    cases (ruleLines options (ruleDeclarations selector body)).result with
    | error e =>
      constructor
      · intro h
        cases h
      · rintro ⟨-, -, lines, h, -⟩
        cases h
    | ok lines =>
      rw [Except.map_ok, Except.ok.injEq, ruleText?_eq_some_iff]
      constructor
      · rintro ⟨hlines, rfl⟩
        exact ⟨hsupported, hne, lines, rfl, hlines, rfl⟩
      · rintro ⟨-, -, lines, h, hlines, rfl⟩
        cases h
        exact ⟨hlines, rfl⟩

/-! ## The text of a rule -/

/-- What stands in front of a line. -/
def indent : Text := ['\n', ' ', ' ']

/-- The text between the braces of a rule. -/
def ruleInside (lines : List Text) : Text :=
  lines.flatMap (fun line => indent ++ line ++ [';']) ++ ['\n']

private theorem join_lines {lines : List Text} (h : lines ≠ []) :
    indent ++ Text.join (';' :: indent) lines ++ [';'] =
      lines.flatMap fun line => indent ++ line ++ [';'] := by
  induction lines with
  | nil => exact absurd rfl h
  | cons line lines ih =>
    by_cases hrest : lines = []
    · subst hrest
      simp [Text.join]
    · rw [Text.join_cons_of_ne_nil _ _ hrest, List.flatMap_cons, ← ih hrest]
      simp only [List.append_assoc, List.cons_append, List.nil_append]

/-- A rule is its selector and a block with its lines. -/
theorem renderRule_eq {lines : List Text} (h : lines ≠ []) (selector : Text) :
    renderRule selector lines = selector ++ ' ' :: '{' :: (ruleInside lines ++ ['}']) := by
  have hparts : renderRule selector lines = selector ++ (' ' :: '{' :: indent) ++
      Text.join (';' :: indent) lines ++ [';', '\n', '}'] := rfl
  rw [hparts, ruleInside, ← join_lines h]
  simp only [List.append_assoc, List.cons_append, List.nil_append]

theorem renderRule_append {lines : List Text} (h : lines ≠ []) (selector t : Text) :
    renderRule selector lines ++ t =
      selector ++ ' ' :: '{' :: (ruleInside lines ++ '}' :: t) := by
  rw [renderRule_eq h]
  simp only [List.append_assoc, List.cons_append, List.nil_append]

theorem count_ruleInside {c : Char} (hc : c ∈ ['{', '}', '@']) (lines : List Text) :
    (ruleInside lines).count c = lines.flatten.count c := by
  have hindent : indent.count c = 0 ∧ [';'].count c = 0 ∧ ['\n'].count c = 0 := by
    revert c
    decide
  obtain ⟨hfront, hsemi, hbreak⟩ := hindent
  rw [ruleInside, List.count_append, hbreak]
  induction lines with
  | nil => rfl
  | cons line lines ih =>
    rw [List.flatMap_cons, List.count_append, List.count_append, List.count_append,
      List.flatten_cons, List.count_append, hfront, hsemi]
    omega

/-- The lines of a rule are read back as its declarations. -/
theorem declarations_ruleInside {ds : List Declaration} (h : ∀ d ∈ ds, d.Normal) {behind : Text}
    (hsemi : ';' ∉ behind) (hcolon : ':' ∉ behind) :
    declarations (ruleInside (ds.map Declaration.text) ++ behind) = ds := by
  have hindent : ∀ c ∈ indent, Text.isBlank c = true := by decide
  have hsemi' : ';' ∉ '\n' :: behind := by simpa using hsemi
  have hcolon' : ':' ∉ '\n' :: behind := by simpa using hcolon
  have hread := Stylesheet.declarations_of_lines h hindent hsemi' hcolon'
  rw [ruleInside, List.flatMap_map, List.append_assoc]
  exact hread

theorem ruleInside_append_inj {lines lines' : List Text} {t t' : Text}
    (hlines : ∀ line ∈ lines, ';' ∉ line) (hlines' : ∀ line ∈ lines', ';' ∉ line)
    (h : ruleInside lines ++ '}' :: t = ruleInside lines' ++ '}' :: t') :
    lines = lines' ∧ t = t' := by
  -- Line by line: both texts have a line next, or both have the closing brace.
  induction lines generalizing lines' with
  | nil =>
    cases lines' with
    | nil => exact ⟨rfl, (List.cons.inj (List.cons.inj h).2).2⟩
    | cons line' lines' =>
      -- Behind the line feed stands a brace on the one side and a blank on the other.
      exact absurd (List.cons.inj (List.cons.inj h).2).1 (by decide)
  | cons line lines ih =>
    cases lines' with
    | nil => exact absurd (List.cons.inj (List.cons.inj h).2).1 (by decide)
    | cons line' lines' =>
      have hstep (l : Text) (ls : List Text) (s : Text) :
          ruleInside (l :: ls) ++ s = indent ++ (l ++ ';' :: (ruleInside ls ++ s)) := by
        simp only [ruleInside, List.flatMap_cons, List.append_assoc, List.cons_append,
          List.nil_append]
      rw [hstep, hstep] at h
      -- The first semicolon ends the line on either side.
      obtain ⟨rfl, hrest⟩ := Text.append_separator_inj (hlines line List.mem_cons_self)
        (hlines' line' List.mem_cons_self) (List.append_cancel_left h)
      obtain ⟨rfl, ht⟩ := ih (fun l hl => hlines l (List.mem_cons_of_mem _ hl))
        (fun l hl => hlines' l (List.mem_cons_of_mem _ hl)) hrest
      exact ⟨rfl, ht⟩

/-- The text of a rule tells its lines. -/
theorem ruleText?_injective {selector : Text} {lines lines' : List Text}
    (hlines : ∀ line ∈ lines, ';' ∉ line) (hlines' : ∀ line ∈ lines', ';' ∉ line)
    (h : ruleText? selector lines = ruleText? selector lines') : lines = lines' := by
  unfold ruleText? at h
  by_cases hne : lines = []
  · rw [if_pos hne] at h
    split at h
    · next hnil => rw [hne, hnil]
    · cases h
  · rw [if_neg hne] at h
    split at h
    · cases h
    · next hne' =>
      rw [Option.some.injEq, renderRule_eq hne, renderRule_eq hne'] at h
      have hinside := (List.cons.inj (List.cons.inj (List.append_cancel_left h)).2).2
      exact (ruleInside_append_inj hlines hlines' hinside).1

/-- The text of a rule tells its selector, its lines and what stands behind it. -/
theorem renderRule_append_inj {selector selector' : Text} {lines lines' : List Text}
    {t t' : Text} (hselector : '{' ∉ selector) (hselector' : '{' ∉ selector') (hne : lines ≠ [])
    (hne' : lines' ≠ []) (hlines : ∀ line ∈ lines, ';' ∉ line)
    (hlines' : ∀ line ∈ lines', ';' ∉ line)
    (h : renderRule selector lines ++ t = renderRule selector' lines' ++ t') :
    selector = selector' ∧ lines = lines' ∧ t = t' := by
  have hform {sel : Text} {ls : List Text} (hls : ls ≠ []) (u : Text) :
      renderRule sel ls ++ u = (sel ++ [' ']) ++ '{' :: (ruleInside ls ++ '}' :: u) := by
    rw [renderRule_eq hls]
    simp only [List.append_assoc, List.cons_append, List.nil_append]
  rw [hform hne, hform hne'] at h
  -- The first opening brace ends the selector on either side.
  obtain ⟨hfront, hrest⟩ := Text.append_separator_inj (by simpa using hselector)
    (by simpa using hselector') h
  obtain ⟨hsame, ht⟩ := ruleInside_append_inj hlines hlines' hrest
  exact ⟨List.append_cancel_right hfront, hsame, ht⟩

end NativeStyle
