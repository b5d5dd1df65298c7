import NativeStyle.Policy
import NativeStyle.Proofs.Declarations
import NativeStyle.Proofs.Longhands

/-!
# What the standard policy decides

The steps of the standard policy are tried in order, so a verdict tells which steps have not
applied. `Policy.Outcome` lists the four things that can become of a declaration, with all that
is known in each case; every later fact about verdicts is read off it.

Main results:
- `Policy.outcome_of_verdict` (there are no other verdicts),
- `Policy.result_eq_drop_iff` (what is dropped, and nothing else),
- `Policy.Outcome.count_lines_le` (what the lines of a declaration can hold),
- `Policy.Outcome.emitted` (every line is a declaration in normal form),
- `Declaration.Emitted.lines_eq_iff` (when the policy leaves a line as it is).
-/

namespace NativeStyle

open Stylesheet (Declaration)

namespace Policy

/-! ## Outcomes -/

/-- The declaration is not dropped for what its texts hold. -/
structure Passes (d : Declaration) : Prop where
  notBookkeeping : Support.isBookkeeping d.property = false
  noColorMix : Text.contains "color-mix".toList d.value = false
  noCurrentColor : Text.contains "currentcolor".toList (Text.lower d.value) = false

theorem not_passes_iff {d : Declaration} : ¬Passes d ↔
    Support.isBookkeeping d.property = true ∨ Text.contains "color-mix".toList d.value = true ∨
      Text.contains "currentcolor".toList (Text.lower d.value) = true := by
  simp only [← Bool.not_eq_false]
  constructor
  · intro h
    by_contra hnone
    obtain ⟨hbook, hneedles⟩ := not_or.1 hnone
    obtain ⟨hmix, hcurrent⟩ := not_or.1 hneedles
    exact h ⟨not_not.1 hbook, not_not.1 hmix, not_not.1 hcurrent⟩
  · rintro (hbook | hmix | hcurrent) hpasses
    · exact hbook hpasses.notBookkeeping
    · exact hmix hpasses.noColorMix
    · exact hcurrent hpasses.noCurrentColor

/-- A property, one of its values, and the value that takes its place. -/
def replacements : List (Text × Text × Text) :=
  [("visibility".toList, "hidden".toList, "collapse".toList),
    ("vertical-align".toList, "middle".toList, "center".toList)]

/-- What the standard policy can make of a declaration. -/
inductive Outcome (d : Declaration) : Verdict → Prop where
  /-- It is dropped. -/
  | dropped : Outcome d .drop
  /-- Its value is replaced. -/
  | replaced {replacement : Text} :
      (d.property, d.value, replacement) ∈ replacements →
      Outcome d (.keep d.property replacement)
  /-- It is spread as an animation. -/
  | spread {lines : List Text} :
      Passes d → d.property = Step.animation → Animation.spread d.value = .ok lines →
      Outcome d (.spread lines)
  /-- It is kept, with its relative lengths converted. -/
  | kept :
      Passes d → d.property ≠ Step.animation →
      (d.isCustom = true ∨
        Support.isSupported d.property (some (RelativeLength.convert d.value)) = true) →
      Outcome d (.keep d.property (RelativeLength.convert d.value))

theorem result_convert (options : Options) (value : Text) :
    (Step.convert options value).result = .ok (RelativeLength.convert value) := by
  unfold Step.convert
  cases options.debug <;> rfl

private theorem applies_currentColor (d : Declaration) :
    (Step.dropContaining "currentColor".toList false).applies d =
      Text.contains "currentcolor".toList (Text.lower d.value) := by
  have hlower : Text.lower "currentColor".toList = "currentcolor".toList := by decide
  rw [Step.applies, hlower]

private theorem result_keepCustom (options : Options) (d : Declaration) :
    (Step.keepCustom.verdict options d).result =
      .ok (.keep d.property (RelativeLength.convert d.value)) := by
  rw [Step.verdict, Logged.result_bind, result_convert]
  rfl

private theorem result_keepSupported (options : Options) (d : Declaration) :
    (Step.keepSupported.verdict options d).result =
      .ok (if Support.isSupported d.property (some (RelativeLength.convert d.value)) then
        .keep d.property (RelativeLength.convert d.value) else .drop) := by
  rw [Step.verdict, Logged.result_bind, result_convert]
  rfl

private theorem result_spreadAnimation_eq_ok {options : Options} {d : Declaration} {v : Verdict}
    (h : (Step.spreadAnimation.verdict options d).result = .ok v) :
    ∃ lines, Animation.spread d.value = .ok lines ∧ v = .spread lines := by
  simp only [Step.verdict, Logged.ofResult] at h
  cases hspread : Animation.spread d.value with
  | error t =>
    rw [hspread] at h
    cases h
  | ok lines =>
    rw [hspread] at h
    cases h
    exact ⟨lines, rfl, rfl⟩

/-- What does not pass is dropped by one of the first three steps. -/
theorem result_verdict_of_not_passes {d : Declaration} (h : ¬Passes d) (options : Options) :
    (Policy.verdict options .standard d).result = .ok .drop := by
  unfold standard
  -- One of the first three steps applies, or else the declaration would pass.
  by_cases hbook : Step.dropBookkeeping.applies d = true
  · rw [verdict_of_applies hbook]
    rfl
  rw [verdict_of_not_applies (Bool.eq_false_iff.2 hbook)]
  by_cases hmix : (Step.dropContaining "color-mix".toList true).applies d = true
  · rw [verdict_of_applies hmix]
    rfl
  rw [verdict_of_not_applies (Bool.eq_false_iff.2 hmix)]
  by_cases hcurrent : (Step.dropContaining "currentColor".toList false).applies d = true
  · rw [verdict_of_applies hcurrent]
    rfl
  refine absurd ?_ h
  exact {
    notBookkeeping := Bool.eq_false_iff.2 hbook
    noColorMix := Bool.eq_false_iff.2 hmix
    noCurrentColor := by
      rw [← applies_currentColor]
      exact Bool.eq_false_iff.2 hcurrent }

/-- A replacement asks for nothing but the property and the value. -/
theorem result_verdict_of_replaced {d : Declaration} {replacement : Text}
    (h : (d.property, d.value, replacement) ∈ replacements) (options : Options) :
    (Policy.verdict options .standard d).result = .ok (.keep d.property replacement) := by
  obtain ⟨property, value⟩ := d
  simp only [replacements, List.mem_cons, List.not_mem_nil, or_false, Prod.mk.injEq] at h
  rcases h with ⟨rfl, rfl, rfl⟩ | ⟨rfl, rfl, rfl⟩ <;> rfl

/-- A declaration that passes, and whose value is not replaced, comes to the last three steps. -/
theorem verdict_of_passes {d : Declaration} (h : Passes d)
    (hreplaced : ∀ replacement, (d.property, d.value, replacement) ∉ replacements)
    (options : Options) :
    Policy.verdict options .standard d =
      Policy.verdict options [.spreadAnimation, .keepCustom, .keepSupported] d := by
  have hvisibility : (Step.replaceValue "visibility".toList "hidden".toList
      "collapse".toList).applies d = false := by
    apply decide_eq_false
    rintro ⟨hproperty, hvalue⟩
    exact hreplaced "collapse".toList (by simp [hproperty, hvalue, replacements])
  have halign : (Step.replaceValue "vertical-align".toList "middle".toList
      "center".toList).applies d = false := by
    apply decide_eq_false
    rintro ⟨hproperty, hvalue⟩
    exact hreplaced "center".toList (by simp [hproperty, hvalue, replacements])
  -- None of the first five steps applies.
  have hbook : Step.dropBookkeeping.applies d = false := h.notBookkeeping
  have hmix : (Step.dropContaining "color-mix".toList true).applies d = false := h.noColorMix
  have hcurrent := (applies_currentColor d).trans h.noCurrentColor
  unfold standard
  rw [verdict_of_not_applies hbook, verdict_of_not_applies hmix, verdict_of_not_applies hcurrent,
    verdict_of_not_applies hvisibility, verdict_of_not_applies halign]

/-- Every verdict of the standard policy is one of the four outcomes. -/
theorem outcome_of_verdict {options : Options} {d : Declaration} {v : Verdict}
    (h : (Policy.verdict options .standard d).result = .ok v) : Outcome d v := by
  by_cases hpasses : Passes d
  · by_cases hreplaced : ∃ replacement, (d.property, d.value, replacement) ∈ replacements
    · obtain ⟨replacement, hmem⟩ := hreplaced
      rw [result_verdict_of_replaced hmem] at h
      cases h
      exact .replaced hmem
    rw [verdict_of_passes hpasses (not_exists.1 hreplaced)] at h
    -- The last three steps in their order; once one has not applied, the next is looked at.
    by_cases hanimation : Step.spreadAnimation.applies d = true
    · rw [verdict_of_applies hanimation] at h
      obtain ⟨lines, hspread, rfl⟩ := result_spreadAnimation_eq_ok h
      exact .spread hpasses (of_decide_eq_true hanimation) hspread
    rw [verdict_of_not_applies (Bool.eq_false_iff.2 hanimation)] at h
    have hproperty : d.property ≠ Step.animation :=
      of_decide_eq_false (Bool.eq_false_iff.2 hanimation)
    by_cases hcustom : Step.keepCustom.applies d = true
    · rw [verdict_of_applies hcustom, result_keepCustom] at h
      cases h
      exact .kept hpasses hproperty (Or.inl hcustom)
    rw [verdict_of_not_applies (Bool.eq_false_iff.2 hcustom), verdict_of_applies rfl,
      result_keepSupported] at h
    -- The last step always applies, and asks the property about the converted value.
    split at h <;> cases h
    · next hsupported => exact .kept hpasses hproperty (Or.inr hsupported)
    · exact .dropped
  · rw [result_verdict_of_not_passes hpasses] at h
    cases h
    exact .dropped

theorem result_verdict_of_animation {d : Declaration} (h : Passes d)
    (hproperty : d.property = Step.animation) {lines : List Text}
    (hspread : Animation.spread d.value = .ok lines) (options : Options) :
    (Policy.verdict options .standard d).result = .ok (.spread lines) := by
  -- The replacements are for other properties.
  have hreplaced : ∀ replacement, (d.property, d.value, replacement) ∉ replacements := by
    intro replacement hmem
    rw [hproperty] at hmem
    simp only [replacements, List.mem_cons, List.not_mem_nil, or_false, Prod.mk.injEq] at hmem
    rcases hmem with ⟨hname, -⟩ | ⟨hname, -⟩ <;> exact absurd hname (by decide)
  have happlies : Step.spreadAnimation.applies d = true := decide_eq_true hproperty
  rw [verdict_of_passes h hreplaced, verdict_of_applies happlies, Step.verdict, hspread]
  rfl

theorem result_verdict_of_kept {d : Declaration} (h : Passes d)
    (hproperty : d.property ≠ Step.animation)
    (hreplaced : ∀ replacement, (d.property, d.value, replacement) ∉ replacements)
    (hkept : d.isCustom = true ∨
      Support.isSupported d.property (some (RelativeLength.convert d.value)) = true)
    (options : Options) :
    (Policy.verdict options .standard d).result =
      .ok (.keep d.property (RelativeLength.convert d.value)) := by
  have hanimation : Step.spreadAnimation.applies d = false := decide_eq_false hproperty
  rw [verdict_of_passes h hreplaced, verdict_of_not_applies hanimation]
  by_cases hcustom : Step.keepCustom.applies d = true
  · rw [verdict_of_applies hcustom, result_keepCustom]
  · rw [Bool.not_eq_true] at hcustom
    have hsupported : Support.isSupported d.property
        (some (RelativeLength.convert d.value)) = true := by
      rcases hkept with h | h
      · exact absurd h (Bool.eq_false_iff.1 hcustom)
      · exact h
    rw [verdict_of_not_applies hcustom, verdict_of_applies rfl, result_keepSupported,
      if_pos hsupported]

/-! ## When a declaration is dropped -/

/-- What the engine has no use for: a declaration that is neither replaced nor an animation, whose
property is not custom and does not take the converted value. -/
structure Unsupported (d : Declaration) : Prop where
  notReplaced : ∀ replacement, (d.property, d.value, replacement) ∉ replacements
  notAnimation : d.property ≠ Step.animation
  notCustom : d.isCustom = false
  notSupported : Support.isSupported d.property (some (RelativeLength.convert d.value)) = false

theorem result_verdict_of_unsupported {d : Declaration} (hpasses : Passes d) (h : Unsupported d)
    (options : Options) : (Policy.verdict options .standard d).result = .ok .drop := by
  have hanimation : Step.spreadAnimation.applies d = false := decide_eq_false h.notAnimation
  have hcustom : Step.keepCustom.applies d = false := h.notCustom
  rw [verdict_of_passes hpasses h.notReplaced, verdict_of_not_applies hanimation,
    verdict_of_not_applies hcustom, verdict_of_applies rfl, result_keepSupported,
    h.notSupported]
  rfl

/-- Nothing is dropped but what does not pass and what is not supported. -/
theorem result_eq_drop_iff {options : Options} {d : Declaration} :
    (Policy.verdict options .standard d).result = .ok .drop ↔ ¬Passes d ∨ Unsupported d := by
  constructor
  · intro h
    by_cases hpasses : Passes d
    · refine Or.inr ?_
      -- Whatever is not so makes the policy come to another verdict.
      have hreplaced : ∀ replacement, (d.property, d.value, replacement) ∉ replacements := by
        intro replacement hmem
        rw [result_verdict_of_replaced hmem] at h
        cases h
      have hanimation : d.property ≠ Step.animation := by
        intro hproperty
        have happlies : Step.spreadAnimation.applies d = true := decide_eq_true hproperty
        rw [verdict_of_passes hpasses hreplaced, verdict_of_applies happlies] at h
        obtain ⟨lines, -, hlines⟩ := result_spreadAnimation_eq_ok h
        cases hlines
      have hkept : ¬(d.isCustom = true ∨
          Support.isSupported d.property (some (RelativeLength.convert d.value)) = true) := by
        intro hkept
        rw [result_verdict_of_kept hpasses hanimation hreplaced hkept] at h
        cases h
      rw [not_or, Bool.not_eq_true, Bool.not_eq_true] at hkept
      exact ⟨hreplaced, hanimation, hkept.1, hkept.2⟩
    · exact Or.inl hpasses
  · intro h
    by_cases hpasses : Passes d
    · exact result_verdict_of_unsupported hpasses (h.resolve_left (not_not_intro hpasses)) options
    · exact result_verdict_of_not_passes hpasses options

end Policy

/-! ## Lines -/

/-- The characters that mean something to a stylesheet. -/
def marks : List Char := ['{', '}', '@', ';']

private theorem isNumeral_of_mem_marks {c : Char} (hc : c ∈ marks) : isNumeral c = false := by
  revert c
  decide

private theorem isInert_of_mem_marks {c : Char} (hc : c ∈ marks) :
    Animation.isInert c = false ∧ c ≠ ' ' := by
  revert c
  decide

namespace Stylesheet.Declaration

theorem count_text {c : Char} (hc : c ∈ marks) (d : Declaration) :
    d.text.count c = d.property.count c + d.value.count c := by
  have hseparator : [':', ' '].count c = 0 := by
    apply List.count_eq_zero.2
    revert c
    decide
  have htext : d.text = d.property ++ ([':', ' '] ++ d.value) := rfl
  rw [htext, List.count_append, List.count_append, hseparator, Nat.zero_add]

/-- Converting the relative lengths of a value leaves a declaration in normal form. -/
theorem Normal.convert {d : Declaration} (hd : d.Normal) :
    Normal ⟨d.property, RelativeLength.convert d.value⟩ := by
  have hle := RelativeLength.count_convert_le (c := ';') (by decide) d.value
  exact {
    hd with
    trim_value := RelativeLength.trim_convert hd.trim_value
    value_ne_nil := RelativeLength.convert_ne_nil hd.value_ne_nil
    semicolon_notMem_value := Text.notMem_of_count_le hle hd.semicolon_notMem_value }

/-- A declaration as the policy leaves it: it could be read from a body, it keeps no books, and
as an animation it has shown that it cannot be spread any further. -/
structure Emitted (d : Declaration) : Prop where
  normal : d.Normal
  notBookkeeping : Support.isBookkeeping d.property = false
  animation : d.property = Step.animation →
    Policy.Passes d ∧ Animation.spread d.value = .ok [d.text]

end Stylesheet.Declaration

namespace Policy.Outcome

variable {d : Declaration} {v : Verdict}

/-- What is not dropped leaves a line. -/
theorem lines_ne_nil (h : Outcome d v) (hdrop : v ≠ .drop) : v.lines ≠ [] := by
  cases h with
  | dropped => exact absurd rfl hdrop
  | replaced => exact List.cons_ne_nil _ _
  | spread _ _ hspread => exact Animation.spread_ne_nil hspread
  | kept => exact List.cons_ne_nil _ _

/-- The lines of a declaration hold no mark more than the declaration itself. -/
theorem count_lines_le {c : Char} (hc : c ∈ marks) (h : Outcome d v) :
    v.lines.flatten.count c ≤ (d.property ++ d.value).count c := by
  -- One case for each outcome; what is written in place of the value has no mark.
  cases h with
  | dropped => exact Nat.zero_le _
  | @replaced replacement hmem =>
    have hnone : ∀ r ∈ replacements, c ∉ r.2.2 := by
      revert c
      decide
    have htext : (Verdict.keep d.property replacement).lines.flatten =
        Declaration.text ⟨d.property, replacement⟩ := List.flatten_singleton
    rw [htext, Declaration.count_text hc, List.count_append]
    show d.property.count c + replacement.count c ≤ d.property.count c + d.value.count c
    rw [List.count_eq_zero.2 (hnone _ hmem)]
    exact Nat.le_add_right _ _
  | spread hpasses hproperty hspread =>
    have hle := Animation.count_spread_le (isInert_of_mem_marks hc).1 (isInert_of_mem_marks hc).2
      hspread
    rw [List.count_append]
    exact Nat.le_trans hle (Nat.le_add_left _ _)
  | kept =>
    have hle := RelativeLength.count_convert_le (isNumeral_of_mem_marks hc) d.value
    have htext : (Verdict.keep d.property (RelativeLength.convert d.value)).lines.flatten =
        Declaration.text ⟨d.property, RelativeLength.convert d.value⟩ := List.flatten_singleton
    rw [htext, Declaration.count_text hc, List.count_append]
    exact Nat.add_le_add_left hle _

private theorem emitted_of_longhand {slot : Animation.Slot} {t : Text}
    (hslot : slot ∈ Animation.longhandSlots) (hne : t ≠ []) (htrim : Text.trim t = t)
    (hsemi : ';' ∉ t) :
    Declaration.Emitted ⟨"animation-".toList ++ slot.property, t⟩ := by
  have hname : ∀ slot ∈ Animation.longhandSlots,
      let property := "animation-".toList ++ slot.property
      Text.trim property = property ∧ property ≠ [] ∧ ':' ∉ property ∧ ';' ∉ property ∧
        Support.isBookkeeping property = false ∧ property ≠ Step.animation := by
    decide
  obtain ⟨htrimmed, hproperty, hcolon, hsemicolon, hbook, hanimation⟩ := hname slot hslot
  exact {
    normal := ⟨htrimmed, hproperty, hcolon, hsemicolon, htrim, hne, hsemi⟩
    notBookkeeping := hbook
    animation := fun heq => absurd heq hanimation }

/-- Every line that a declaration leaves is a declaration again. -/
theorem emitted (hd : d.Normal) (h : Outcome d v) :
    ∀ line ∈ v.lines, ∃ e : Declaration, line = e.text ∧ e.Emitted := by
  intro line hline
  -- A replacement is a fixed text; longhands and conversions are known from their modules.
  cases h with
  | dropped => cases hline
  | @replaced replacement hmem =>
    have hgood : ∀ r ∈ replacements, Support.isBookkeeping r.1 = false ∧ r.1 ≠ Step.animation ∧
        Text.trim r.2.2 = r.2.2 ∧ r.2.2 ≠ [] ∧ ';' ∉ r.2.2 := by
      decide
    obtain ⟨hbook, hanimation, htrim, hne, hsemi⟩ := hgood _ hmem
    refine ⟨⟨d.property, replacement⟩, List.mem_singleton.1 hline, ?_⟩
    exact {
      normal := { hd with
        trim_value := htrim
        value_ne_nil := hne
        semicolon_notMem_value := hsemi }
      notBookkeeping := hbook
      animation := fun heq => absurd heq hanimation }
  | @spread lines hpasses hproperty hspread =>
    have hsemi : ';' ∉ line := by
      -- The value has no semicolon, so none of its lines can have one.
      have hle := Animation.count_spread_le (c := ';') (by decide) (by decide) hspread
      have hnone := Text.notMem_of_count_le hle hd.semicolon_notMem_value
      intro hmem
      exact hnone (List.mem_flatten_of_mem hline hmem)
    -- If the shorthand stays, the same value can only be spread to itself again.
    rcases Animation.spread_lines hspread with hshorthand | hlonghands
    · have htext : Animation.shorthandLine d.value = d.text := by
        rw [Declaration.text, hproperty]
        rfl
      rw [hshorthand, htext] at hspread
      rw [hshorthand, htext] at hline
      refine ⟨d, List.mem_singleton.1 hline, ?_⟩
      exact {
        normal := hd
        notBookkeeping := hpasses.notBookkeeping
        animation := fun _ => ⟨hpasses, hspread⟩ }
    · obtain ⟨slot, hslot, t, rfl, hne, htrim⟩ := hlonghands line hline
      refine ⟨⟨"animation-".toList ++ slot.property, t⟩, rfl, ?_⟩
      apply emitted_of_longhand hslot hne htrim
      intro hmem
      exact hsemi (List.mem_append_right _ (List.mem_cons_of_mem _ (List.mem_cons_of_mem _ hmem)))
  | kept hpasses hproperty =>
    refine ⟨⟨d.property, RelativeLength.convert d.value⟩, List.mem_singleton.1 hline, ?_⟩
    exact {
      normal := hd.convert
      notBookkeeping := hpasses.notBookkeeping
      animation := fun heq => absurd heq hproperty }

end Policy.Outcome

/-! ## Declarations that stay -/

namespace Stylesheet.Declaration

/-- The policy has nothing left to do: the declaration is an animation that was kept as it was,
or its value holds none of the texts for which it is dropped and no relative length, and its
property takes it. -/
def Settled (d : Declaration) : Prop :=
  d.property = Step.animation ∨
    (Text.contains "color-mix".toList d.value = false ∧
      Text.contains "currentcolor".toList (Text.lower d.value) = false ∧
      RelativeLength.found d.value = [] ∧
      (d.isCustom = true ∨ Support.isSupported d.property (some d.value) = true))

instance (d : Declaration) : Decidable d.Settled :=
  inferInstanceAs (Decidable (d.property = Step.animation ∨
    (Text.contains "color-mix".toList d.value = false ∧
      Text.contains "currentcolor".toList (Text.lower d.value) = false ∧
      RelativeLength.found d.value = [] ∧
      (d.isCustom = true ∨ Support.isSupported d.property (some d.value) = true))))

namespace Emitted

variable {options : Options} {d : Declaration} {v : Verdict}

/-- An emitted declaration is never spread over more than one line. -/
theorem length_lines_le (hd : d.Emitted)
    (h : (Policy.verdict options .standard d).result = .ok v) : v.lines.length ≤ 1 := by
  -- Only an animation could have more lines, and it was spread to one before.
  cases Policy.outcome_of_verdict h with
  | dropped => exact Nat.zero_le 1
  | replaced => exact Nat.le_refl 1
  | kept => exact Nat.le_refl 1
  | @spread lines _ hproperty hspread =>
    have hagain := (hd.animation hproperty).2
    rw [hspread] at hagain
    cases hagain
    exact Nat.le_refl 1

theorem result_of_settled (hd : d.Emitted) (h : d.Settled) (options : Options) :
    ∃ v, (Policy.verdict options .standard d).result = .ok v ∧ v.lines = [d.text] := by
  by_cases hproperty : d.property = Step.animation
  · obtain ⟨hpasses, hspread⟩ := hd.animation hproperty
    exact ⟨_, Policy.result_verdict_of_animation hpasses hproperty hspread options, rfl⟩
  · rcases h with h | ⟨hmix, hcurrent, hfound, hkept⟩
    · exact absurd h hproperty
    · have hpasses : Policy.Passes d := ⟨hd.notBookkeeping, hmix, hcurrent⟩
      have hconvert : RelativeLength.convert d.value = d.value :=
        RelativeLength.convert_eq_self_iff.2 hfound
      have hreplaced : ∀ replacement, (d.property, d.value, replacement) ∉ Policy.replacements := by
        -- The engine takes none of the values that are replaced.
        have hrefused : ∀ r ∈ Policy.replacements, Declaration.isCustom ⟨r.1, r.2.1⟩ = false ∧
            Support.isSupported r.1 (some r.2.1) = false := by
          decide +kernel
        intro replacement hmem
        obtain ⟨hcustom, hsupported⟩ := hrefused _ hmem
        rcases hkept with hkept | hkept
        · exact absurd hkept (Bool.eq_false_iff.1 hcustom)
        · exact absurd hkept (Bool.eq_false_iff.1 hsupported)
      have hresult := Policy.result_verdict_of_kept hpasses hproperty hreplaced
        (by rwa [hconvert]) options
      rw [hconvert] at hresult
      exact ⟨_, hresult, rfl⟩

/-- An emitted declaration stays exactly if the policy has nothing left to do. -/
theorem lines_eq_iff (hd : d.Emitted)
    (h : (Policy.verdict options .standard d).result = .ok v) :
    v.lines = [d.text] ↔ d.Settled := by
  constructor
  · intro hlines
    -- Both lines have the same property, so the values can be compared.
    have hvalue {value : Text} (heq : (Verdict.keep d.property value).lines = [d.text]) :
        value = d.value := by
      have htext : d.property ++ ':' :: ' ' :: value = d.property ++ ':' :: ' ' :: d.value :=
        (List.cons.inj heq).1
      exact (List.cons.inj (List.cons.inj (List.append_cancel_left htext)).2).2
    -- The four outcomes: only a value that was kept and not changed gives the line back.
    cases Policy.outcome_of_verdict h with
    | dropped => cases hlines
    | replaced hmem =>
      have hother : ∀ r ∈ Policy.replacements, r.2.2 ≠ r.2.1 := by
        decide
      exact absurd (hvalue hlines) (hother _ hmem)
    | spread _ hproperty => exact Or.inl hproperty
    | kept hpasses _ hkept =>
      have hconvert := hvalue hlines
      refine Or.inr ⟨hpasses.noColorMix, hpasses.noCurrentColor, ?_, ?_⟩
      · exact RelativeLength.convert_eq_self_iff.1 hconvert
      · rwa [hconvert] at hkept
  · intro hsettled
    obtain ⟨w, hw, hlines⟩ := hd.result_of_settled hsettled options
    rw [h] at hw
    cases hw
    exact hlines

end Emitted

end Stylesheet.Declaration

end NativeStyle
