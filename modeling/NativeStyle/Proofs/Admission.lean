import NativeStyle.Proofs.Needles

/-!
# What the standard policy admits

The first steps of the policy look at a value as it was written, the last one at the value with its
relative lengths converted. Both views agree: what is kept would pass the first steps once more,
and its property takes the value that is kept.

Main result: `Policy.verdict_sound_and_complete` (what is kept, spread and dropped).
-/

namespace NativeStyle

open Stylesheet (Declaration)

namespace Policy

/-- What takes the place of a value is as good as any that is kept. -/
private theorem admitted_of_replaced {property value replacement : Text}
    (h : (property, value, replacement) ∈ replacements) :
    Passes ⟨property, replacement⟩ ∧ property ≠ Step.animation ∧
      Support.isSupported property (some replacement) = true := by
  have hgood : ∀ r ∈ replacements, Support.isBookkeeping r.1 = false ∧
      Text.contains "color-mix".toList r.2.2 = false ∧
      Text.contains "currentcolor".toList (Text.lower r.2.2) = false ∧
      r.1 ≠ Step.animation ∧ Support.isSupported r.1 (some r.2.2) = true := by
    decide +kernel
  obtain ⟨hbook, hmix, hcurrent, hanimation, hsupported⟩ := hgood _ h
  exact ⟨⟨hbook, hmix, hcurrent⟩, hanimation, hsupported⟩

/-- What is kept passes, is no animation, and is taken by its property. -/
theorem Outcome.admitted {d : Declaration} {property value : Text}
    (h : Outcome d (.keep property value)) :
    property = d.property ∧ Passes ⟨property, value⟩ ∧ property ≠ Step.animation ∧
      ("--".toList <+: property ∨ Support.isSupported property (some value) = true) := by
  cases h with
  | replaced hmem =>
    obtain ⟨hpasses, hanimation, hsupported⟩ := admitted_of_replaced hmem
    exact ⟨rfl, hpasses, hanimation, Or.inr hsupported⟩
  | kept hpasses hanimation htaken =>
    exact ⟨rfl, hpasses.convert, hanimation, htaken.imp_left List.isPrefixOf_iff_prefix.1⟩

/-- **Soundness and completeness of the policy.** A declaration that is kept keeps its property,
passes with the value that is kept, is no animation, and is custom or supported with that value.
Only an animation is spread. And a declaration is dropped exactly if its property only keeps books,
if its value holds one of the needles, or if it is not supported with its relative lengths
converted. -/
theorem verdict_sound_and_complete {options : Options} {d : Declaration} {v : Verdict}
    (h : (Policy.verdict options .standard d).result = .ok v) :
    (∀ property value, v = .keep property value →
      property = d.property ∧ Passes ⟨property, value⟩ ∧ property ≠ Step.animation ∧
        ("--".toList <+: property ∨ Support.isSupported property (some value) = true)) ∧
    (∀ lines, v = .spread lines → d.property = Step.animation) ∧
    (v = .drop ↔ Support.isBookkeeping d.property = true ∨
      Text.contains "color-mix".toList d.value = true ∨
      Text.contains "currentcolor".toList (Text.lower d.value) = true ∨ Unsupported d) := by
  have houtcome := outcome_of_verdict h
  refine ⟨?_, ?_, ?_⟩
  · rintro property value rfl
    exact houtcome.admitted
  · rintro lines rfl
    cases houtcome with
    | spread _ hproperty => exact hproperty
  · have hdrop := @result_eq_drop_iff options d
    rw [h, Except.ok.injEq, not_passes_iff, or_assoc, or_assoc] at hdrop
    exact hdrop

/-- A needle that a conversion nearly brings about. -/
theorem verdict_sound_and_complete_near_miss :
    (Policy.verdict { debug := true } .standard
        ⟨"background".toList, "color-1emmix CURRENT1.5remColor".toList⟩).result =
      .ok (.keep "background".toList "color-16mix CURRENT24Color".toList) ∧
    Passes ⟨"background".toList, "color-16mix CURRENT24Color".toList⟩ := by
  have hresult : (Policy.verdict { debug := true } .standard
        ⟨"background".toList, "color-1emmix CURRENT1.5remColor".toList⟩).result =
      .ok (.keep "background".toList "color-16mix CURRENT24Color".toList) := by
    decide +kernel
  exact ⟨hresult, ((verdict_sound_and_complete hresult).1 _ _ rfl).2.1⟩

end Policy

end NativeStyle
