import NativeStyle.CommandLine.Run
import NativeStyle.Proofs.Fronts
import NativeStyle.Proofs.Rules

/-!
# Checking one declaration

The command that checks a declaration asks the policy alone. A stylesheet with a single rule for
that declaration takes the long way: it is split, its body is read, the selector is looked at, and
the lines that are left are written. Both come to the same end, as the way there adds nothing to
what the policy says (`result_adapt_oneRule`).

Without a value the command answers from the support table. It answers yes exactly if the policy
would leave something of the property with some value (`isKnown_iff`).

Main results:
- `check_agrees_with_adapt` (a property with a value),
- `check_property_iff` (a property alone).
-/

namespace NativeStyle

open Stylesheet (Declaration split)

/-! ## A rule with one declaration -/

/-- The stylesheet with one rule that holds one declaration. -/
def oneRule (property value : Text) : Text :=
  ".x \x7b".toList ++ property ++ ": ".toList ++ value ++ "\x7d".toList

private theorem ruleLines_singleton (options : Options) (d : Declaration) :
    (ruleLines options [d]).result =
      (Policy.verdict options .standard d).result.map Verdict.lines := by
  rw [ruleLines, Logged.result_bind, Logged.result_mapM]
  cases hv : (Policy.verdict options .standard d).result with
  | error e => rw [List.mapM_cons, hv]; rfl
  | ok v =>
    rw [List.mapM_cons, hv]
    show Except.ok ([v].flatMap Verdict.lines) = Except.ok v.lines
    rw [List.flatMap_singleton]

/-- A property and a value that can be written in a rule: both are in normal form, and neither opens
or closes a block. -/
structure FitsRule (property value : Text) : Prop where
  normal : Declaration.Normal ⟨property, value⟩
  open_notMem : '{' ∉ property ∧ '{' ∉ value
  close_notMem : '}' ∉ property ∧ '}' ∉ value

section OneRule

variable {property value : Text} (h : FitsRule property value)
include h

private theorem declarations_text :
    Stylesheet.declarations (Declaration.text ⟨property, value⟩) = [⟨property, value⟩] := by
  have hnothing : ∀ c ∈ ([] : Text), Text.isBlank c = true := by simp
  have hsegment := h.normal.ofSegment?_text hnothing
  rw [List.nil_append] at hsegment
  rw [Stylesheet.declarations_of_notMem h.normal.semicolon_notMem_text, hsegment]
  rfl

/-- The only node of the stylesheet is its rule. -/
private theorem split_oneRule :
    split (oneRule property value) =
      [.rule ".x".toList (Text.trim (Declaration.text ⟨property, value⟩))] := by
  have hcss : oneRule property value =
      ".x".toList ++ ' ' :: '{' :: (Declaration.text ⟨property, value⟩ ++ '}' :: []) := by
    show ".x".toList ++ [' ', '{'] ++ property ++ [':', ' '] ++ value ++ ['}'] =
      ".x".toList ++ ' ' :: '{' :: (property ++ ':' :: ' ' :: value ++ '}' :: [])
    simp only [List.append_assoc, List.cons_append, List.nil_append]
  have hinside : Text.trim (Declaration.text ⟨property, value⟩) ≠ [] := by
    intro hnil
    have hread := declarations_text h
    rw [← Stylesheet.declarations_trim, hnil] at hread
    cases hread
  have hbalanced : Stylesheet.Balanced (Declaration.text ⟨property, value⟩) := by
    apply Stylesheet.balanced_of_no_brace
    · simp [Declaration.text, h.open_notMem]
    · simp [Declaration.text, h.close_notMem]
  rw [hcss, Stylesheet.split_rule (by decide) (by decide) (by decide) (by decide),
    Stylesheet.Block.read_balanced hbalanced, if_neg hinside, Stylesheet.split_nil]
  rfl

/-- Adapting a rule with one declaration adds nothing to what the policy says about it. -/
theorem result_adapt_oneRule (options : Options) :
    (adapt options (oneRule property value)).result =
      (Policy.verdict options .standard ⟨property, value⟩).result.map fun v =>
        if v.lines = [] then [] else renderRule ".x".toList v.lines := by
  have hselector : Selector.isSupported ".x".toList = true ∧
      Selector.isPlaceholder ".x".toList = false ∧ Selector.adapt ".x".toList = ".x".toList := by
    decide +kernel
  obtain ⟨hsupported, hplaceholder, hadapt⟩ := hselector
  have hrefused : ¬(!Selector.isSupported ".x".toList ∨ Selector.adapt ".x".toList = []) := by
    rw [hsupported, hadapt]
    decide
  have hread : ruleDeclarations ".x".toList (Text.trim (Declaration.text ⟨property, value⟩)) =
      [⟨property, value⟩] := by
    rw [ruleDeclarations, hplaceholder, Stylesheet.declarations_trim]
    exact declarations_text h
  rw [adapt, adaptSheet_eq, split_oneRule h, List.map_singleton, joinFragments_singleton,
    Logged.result_bind, adaptNode, adaptRule, if_neg hrefused, hread, hadapt, Logged.result_bind,
    ruleLines_singleton]
  cases (Policy.verdict options .standard ⟨property, value⟩).result with
  | error e => rfl
  | ok v => by_cases hlines : v.lines = [] <;> simp [Except.map, bind, Except.bind, hlines]

end OneRule

namespace CommandLine

/-! ## The command -/

/-- Every property can be asked about: behind two hyphens nothing is an option. -/
theorem ofArguments?_check_property (property : Text) :
    Command.ofArguments? ["check".toList, "--".toList, property] = some (.check property []) :=
  rfl

theorem ofArguments?_check (property value : Text) :
    Command.ofArguments? ["check".toList, "--".toList, property, value] =
      some (.check property value) :=
  rfl

private theorem written_check (property value : Text) : (check property value).written = none := by
  unfold check
  split
  · split <;> rfl
  · split <;> rfl

/-- However the arguments ask for the check, its report does not depend on anything else, and the
directory stays. -/
theorem runIn_check {arguments : List Text} {property value : Text}
    (h : Command.ofArguments? arguments = some (.check property value)) (directory : Directory)
    (environment : List (Text × Text)) (standardInput : ByteArray) :
    runIn directory environment standardInput arguments =
      some (check property value, directory) := by
  simp only [runIn, h, Command.run?, Option.bind_eq_bind, Option.bind_some, written_check]

/-! ## A property with a value -/

/-- The line about a declaration that is dropped. -/
def droppedLine (property value : Text) : Text :=
  "dropped: ".toList ++ property ++ ": ".toList ++ value

/-- How the check of a declaration and the adapting of its rule end together. -/
inductive Agree (property value : Text) : Report → Except Failure Text → Prop where
  /-- Lines are left: they are said, and are the lines of the adapted rule. -/
  | left {lines : List Text} : lines ≠ [] → (∀ line ∈ lines, ';' ∉ line) →
      Agree property value (.saying 0 lines) (.ok (renderRule ".x".toList lines))
  | dropped : Agree property value (.saying 1 [droppedLine property value]) (.ok [])
  | failed {e : Failure} : Agree property value (.crashed [] .unreadableTime) (.error e)

/-- The command asks the policy, and the rule has the lines of its verdict. -/
theorem agree_of_fitsRule {property value : Text} (h : FitsRule property value) :
    Agree property value (check property value) (adapt {} (oneRule property value)).result := by
  have hvalue : value ≠ [] := h.normal.value_ne_nil
  rw [result_adapt_oneRule h, check, if_neg hvalue]
  cases hresult : (Policy.verdict {} .standard ⟨property, value⟩).result with
  | error e =>
    obtain ⟨time⟩ := e
    exact .failed
  | ok v =>
    have houtcome := Policy.outcome_of_verdict hresult
    have hsemi : ∀ line ∈ v.lines, ';' ∉ line := by
      intro line hline
      obtain ⟨e, rfl, he⟩ := houtcome.emitted h.normal line hline
      exact he.normal.semicolon_notMem_text
    have hleft (hdrop : v ≠ .drop) :
        Agree property value (.saying 0 v.lines)
          (.ok (if v.lines = [] then [] else renderRule ".x".toList v.lines)) := by
      have hlines := houtcome.lines_ne_nil hdrop
      rw [if_neg hlines]
      exact .left hlines hsemi
    cases v with
    | drop => exact .dropped
    | keep property value => exact hleft (by simp)
    | spread lines => exact hleft (by simp)

namespace Agree

variable {property value : Text} {report : Report} {adapted : Except Failure Text}

theorem exitCode_eq_zero_iff (h : Agree property value report adapted) :
    report.exitCode = 0 ↔ ∃ lines, lines ≠ [] ∧ (∀ line ∈ lines, ';' ∉ line) ∧
      adapted = .ok (renderRule ".x".toList lines) := by
  cases h with
  | left hne hsemi => exact ⟨fun _ => ⟨_, hne, hsemi, rfl⟩, fun _ => rfl⟩
  | dropped =>
    constructor
    · intro hcode
      cases hcode
    · rintro ⟨lines, -, -, hrule⟩
      exact absurd (Except.ok.inj hrule).symm (renderRule_ne_nil _ _)
  | failed =>
    constructor
    · intro hcode
      cases hcode
    · rintro ⟨lines, -, -, hrule⟩
      cases hrule

/-- The text of a rule tells its lines, so no others can be said. -/
theorem eq_saying_of_rule (h : Agree property value report adapted) {lines : List Text}
    (hne : lines ≠ []) (hsemi : ∀ line ∈ lines, ';' ∉ line)
    (hrule : adapted = .ok (renderRule ".x".toList lines)) : report = .saying 0 lines := by
  cases h with
  | left hne' hsemi' =>
    have hopen : '{' ∉ ".x".toList := by decide
    have hsame := congrArg (· ++ []) (Except.ok.inj hrule)
    obtain ⟨-, rfl, -⟩ := renderRule_append_inj hopen hopen hne' hne hsemi' hsemi hsame
    rfl
  | dropped => exact absurd (Except.ok.inj hrule).symm (renderRule_ne_nil _ _)
  | failed => cases hrule

theorem says_dropped_iff (h : Agree property value report adapted) :
    report = .saying 1 [droppedLine property value] ↔ adapted = .ok [] := by
  cases h with
  | left =>
    constructor
    · intro hreport
      cases congrArg Report.exitCode hreport
    · intro hnil
      exact absurd (Except.ok.inj hnil) (renderRule_ne_nil _ _)
  | dropped => exact ⟨fun _ => rfl, fun _ => rfl⟩
  | failed =>
    constructor
    · intro hreport
      cases congrArg Report.crash hreport
    · intro hnil
      cases hnil

theorem crash_ne_none_iff (h : Agree property value report adapted) :
    report.crash ≠ none ↔ ∃ e, adapted = .error e := by
  cases h with
  | left =>
    constructor
    · intro hcrash
      exact absurd rfl hcrash
    · rintro ⟨e, he⟩
      cases he
  | dropped =>
    constructor
    · intro hcrash
      exact absurd rfl hcrash
    · rintro ⟨e, he⟩
      cases he
  | failed => exact ⟨fun _ => ⟨_, rfl⟩, fun _ => Option.some_ne_none _⟩

end Agree

/-- **Checking agrees with adapting.** For a property and a value that fit a rule, the command ends
well exactly if the stylesheet with that rule is adapted to a rule with some lines, and then it
says these lines: it prints each of them, less its control sequences, on a line of its own. It says
that the declaration is dropped exactly if nothing is left of the stylesheet, and it breaks off
exactly if the stylesheet cannot be adapted. -/
theorem check_agrees_with_adapt {property value : Text} (h : FitsRule property value)
    {arguments : List Text}
    (hcommand : Command.ofArguments? arguments = some (.check property value))
    (directory : Directory) (environment : List (Text × Text)) (standardInput : ByteArray) :
    ∃ report,
      runIn directory environment standardInput arguments = some (report, directory) ∧
      (report.exitCode = 0 ↔ ∃ lines, lines ≠ [] ∧ (∀ line ∈ lines, ';' ∉ line) ∧
        (adapt {} (oneRule property value)).result = .ok (renderRule ".x".toList lines)) ∧
      (∀ lines, lines ≠ [] → (∀ line ∈ lines, ';' ∉ line) →
        (adapt {} (oneRule property value)).result = .ok (renderRule ".x".toList lines) →
        report = .saying 0 lines) ∧
      (report = .saying 1 [droppedLine property value] ↔
        (adapt {} (oneRule property value)).result = .ok []) ∧
      (report.crash ≠ none ↔ ∃ e, (adapt {} (oneRule property value)).result = .error e) := by
  have hagree := agree_of_fitsRule h
  exact ⟨check property value, runIn_check hcommand directory environment standardInput,
    hagree.exitCode_eq_zero_iff, fun _ => hagree.eq_saying_of_rule, hagree.says_dropped_iff,
    hagree.crash_ne_none_iff⟩

/-- An animation is spread over several lines, in the rule as in what the command says. -/
theorem check_agrees_with_adapt_animation :
    runIn ⟨[]⟩ [] .empty
        ["check".toList, "--".toList, "animation".toList, "spin linear".toList] =
      some (.saying 0 ["animation-name: spin".toList, "animation-timing-function: linear".toList],
        ⟨[]⟩) := by
  have hfits : FitsRule "animation".toList "spin linear".toList := by
    refine ⟨⟨?_, ?_, ?_, ?_, ?_, ?_, ?_⟩, ?_, ?_⟩ <;> decide
  have hadapted : (adapt {} (oneRule "animation".toList "spin linear".toList)).result =
      .ok (renderRule ".x".toList
        ["animation-name: spin".toList, "animation-timing-function: linear".toList]) := by
    rw [result_adapt_oneRule hfits]
    decide +kernel
  obtain ⟨report, hrun, -, hsays, -, -⟩ :=
    check_agrees_with_adapt hfits (ofArguments?_check _ _) ⟨[]⟩ [] .empty
  rw [hrun, hsays _ (by decide) (by decide) hadapted]

/-- What is printed is not always what stands in the rule: the control sequence that makes a letter
red is left out. -/
theorem not_printing_iff_of_control_sequence :
    ¬((runIn ⟨[]⟩ [] .empty
          ["check".toList, "--".toList, "--x".toList, "a\x1b[31mb".toList]).map (·.1) =
        some (.printing 0 (Text.lines ["--x: a\x1b[31mb".toList])) ↔
      (adapt {} (oneRule "--x".toList "a\x1b[31mb".toList)).result =
        .ok (renderRule ".x".toList ["--x: a\x1b[31mb".toList])) := by
  decide +kernel

/-! ## A property alone -/

variable {property : Text}

/-- With a value, the check ends well exactly if the policy leaves something. -/
theorem exitCode_check_eq_zero_iff {value : Text} (hvalue : value ≠ []) :
    (check property value).exitCode = 0 ↔
      ∃ v, (Policy.verdict {} .standard ⟨property, value⟩).result = .ok v ∧ v ≠ .drop := by
  rw [check, if_neg hvalue]
  cases hresult : (Policy.verdict {} .standard ⟨property, value⟩).result with
  | error e =>
    obtain ⟨time⟩ := e
    constructor
    · intro hcode
      cases hcode
    · rintro ⟨v, hv, -⟩
      cases hv
  | ok v =>
    cases v with
    | drop =>
      constructor
      · intro hcode
        cases hcode
      · rintro ⟨v, hv, hdrop⟩
        exact absurd (Except.ok.inj hv).symm hdrop
    | keep kept value => exact ⟨fun _ => ⟨_, rfl, by simp⟩, fun _ => rfl⟩
    | spread lines => exact ⟨fun _ => ⟨_, rfl, by simp⟩, fun _ => rfl⟩

/-- The properties for which the policy has a step of their own. -/
def ownSteps : List Text := Step.animation :: Policy.replacements.map (·.1)

private theorem of_mem_ownSteps : ∀ name ∈ ownSteps,
    "--".toList.isPrefixOf name = false ∧ (Support.table.lookup name).isSome = true := by
  decide +kernel

private theorem notMem_replacements_of_notMem_ownSteps (h : property ∉ ownSteps)
    (value replacement : Text) : (property, value, replacement) ∉ Policy.replacements :=
  fun hmem => h (List.mem_cons_of_mem _ (List.mem_map_of_mem hmem))

/-- A custom property that keeps no books takes every value, such as a number. -/
private theorem exitCode_check_of_custom (hcustom : "--".toList.isPrefixOf property = true)
    (hbook : Support.isBookkeeping property = false) :
    (check property ['0']).exitCode = 0 := by
  have hown : property ∉ ownSteps := by
    intro hmem
    rw [(of_mem_ownSteps property hmem).1] at hcustom
    cases hcustom
  have hmix : Text.contains "color-mix".toList ['0'] = false := by decide
  have hcurrent : Text.contains "currentcolor".toList (Text.lower ['0']) = false := by decide
  have hpasses : Policy.Passes ⟨property, ['0']⟩ := ⟨hbook, hmix, hcurrent⟩
  have hresult := Policy.result_verdict_of_kept hpasses (List.ne_of_not_mem_cons hown)
    (notMem_replacements_of_notMem_ownSteps hown ['0']) (Or.inl hcustom) {}
  exact (exitCode_check_eq_zero_iff (by decide)).2 ⟨_, hresult, by simp⟩

/-- A value that a property of the engine takes. -/
def sampleValue : Support.Accepts → Text
  | .always => "none".toList
  | .oneOf keywords => keywords.headD []

private theorem exitCode_check_sampleValue : ∀ entry ∈ Support.table,
    sampleValue entry.2 ≠ [] ∧ (check entry.1 (sampleValue entry.2)).exitCode = 0 := by
  decide +kernel

theorem exists_check_of_isKnown (h : isKnown property = true) :
    ∃ value, value ≠ [] ∧ (check property value).exitCode = 0 := by
  rw [isKnown, Bool.or_eq_true, Bool.and_eq_true, Support.isSupported_of_no_value,
    List.lookup_isSome_iff] at h
  obtain ⟨hcustom, hbook⟩ | ⟨entry, hentry, hproperty⟩ := h
  · rw [Bool.not_eq_true'] at hbook
    exact ⟨['0'], by decide, exitCode_check_of_custom hcustom hbook⟩
  · obtain ⟨hvalue, hcode⟩ := exitCode_check_sampleValue entry hentry
    rw [← eq_of_beq hproperty] at hcode
    exact ⟨sampleValue entry.2, hvalue, hcode⟩

/-- What is not known is dropped with every value. -/
theorem result_eq_drop_of_not_isKnown (h : isKnown property = false) (value : Text) :
    (Policy.verdict {} .standard ⟨property, value⟩).result = .ok .drop := by
  rw [isKnown, Bool.or_eq_false_iff, Support.isSupported_of_no_value] at h
  obtain ⟨hcustom, hlookup⟩ := h
  rw [Policy.result_eq_drop_iff]
  by_cases hpasses : Policy.Passes ⟨property, value⟩
  · have hown : property ∉ ownSteps := by
      intro hmem
      rw [(of_mem_ownSteps property hmem).2] at hlookup
      cases hlookup
    rw [hpasses.notBookkeeping, Bool.not_false, Bool.and_true] at hcustom
    rw [Option.isSome_eq_false_iff, Option.isNone_iff_eq_none] at hlookup
    refine Or.inr ?_
    exact {
      notReplaced := notMem_replacements_of_notMem_ownSteps hown value
      notAnimation := List.ne_of_not_mem_cons hown
      notCustom := hcustom
      notSupported := by rw [Support.isSupported, hlookup] }
  · exact Or.inl hpasses

/-- **A property alone.** The command says that a property is supported exactly if the policy leaves
something of it with some value; what it calls unsupported is dropped with every value. -/
theorem check_property_iff {property : Text} {arguments : List Text}
    (hcommand : Command.ofArguments? arguments = some (.check property []))
    (directory : Directory) (environment : List (Text × Text)) (standardInput : ByteArray) :
    ∃ report,
      runIn directory environment standardInput arguments = some (report, directory) ∧
      (report.exitCode = 0 ↔ ∃ value, value ≠ [] ∧
        ∃ v, (Policy.verdict {} .standard ⟨property, value⟩).result = .ok v ∧ v ≠ .drop) ∧
      (report.exitCode ≠ 0 → ∀ value,
        (Policy.verdict {} .standard ⟨property, value⟩).result = .ok .drop) := by
  refine ⟨check property [], runIn_check hcommand directory environment standardInput, ?_⟩
  rw [check, if_pos rfl]
  cases hknown : isKnown property with
  | true =>
    obtain ⟨value, hvalue, hcode⟩ := exists_check_of_isKnown hknown
    have hleft := (exitCode_check_eq_zero_iff hvalue).1 hcode
    exact ⟨⟨fun _ => ⟨value, hvalue, hleft⟩, fun _ => rfl⟩, fun hcode => absurd rfl hcode⟩
  | false =>
    have hdrop := result_eq_drop_of_not_isKnown hknown
    refine ⟨⟨?_, ?_⟩, fun _ => hdrop⟩
    · intro hcode
      cases hcode
    · rintro ⟨value, -, v, hv, hv'⟩
      rw [hdrop] at hv
      exact absurd (Except.ok.inj hv).symm hv'

/-- The shadow of a ring keeps books, and no value of it is left. -/
theorem check_property_iff_bookkeeping :
    ∃ report,
      runIn ⟨[]⟩ [] .empty ["check".toList, "--".toList, "--tw-ring-shadow".toList] =
        some (report, ⟨[]⟩) ∧
      ∀ value, (Policy.verdict {} .standard ⟨"--tw-ring-shadow".toList, value⟩).result =
        .ok .drop := by
  obtain ⟨report, hrun, -, hdrop⟩ := check_property_iff
    (ofArguments?_check_property "--tw-ring-shadow".toList) ⟨[]⟩ [] .empty
  refine ⟨report, hrun, hdrop ?_⟩
  -- Its name alone settles the exit code.
  rw [runIn_check (ofArguments?_check_property _), Option.some.injEq, Prod.mk.injEq] at hrun
  rw [← hrun.1]
  decide +kernel

end CommandLine

end NativeStyle
