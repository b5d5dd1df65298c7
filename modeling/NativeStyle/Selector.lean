import NativeStyle.Text.Blank
import NativeStyle.Text.Pattern

/-!
# Selectors

The engine has no nested selectors and not every pseudo-class; a rule with such a selector is
dropped. Other selectors are adapted to the engine's vocabulary by substitutions in a fixed
order, each in the result of the one before.

Main statement: `isSupported_iff` (a selector is supported unless it holds one of three texts).
-/

namespace NativeStyle.Selector

/-! ## Questions -/

/-- The texts that no supported selector holds: nesting, and states that a device has not. -/
def unsupportedTexts : List Text :=
  ["&".toList, ":focus-within".toList, ":hover".toList]

/-- Whether the engine understands the selector after adapting. -/
def isSupported (selector : Text) : Bool :=
  !unsupportedTexts.any (Text.contains · selector)

/-- The pseudo-element of the text that a field shows while it is empty. -/
def placeholder : Text := "::placeholder".toList

/-- Whether the selector styles a placeholder. -/
def isPlaceholder (selector : Text) : Bool :=
  Text.contains placeholder selector

/-- A selector is supported unless it holds one of the unsupported texts. -/
theorem isSupported_iff {selector : Text} :
    isSupported selector = true ↔ ∀ t ∈ unsupportedTexts, ¬ t <:+: selector := by
  simp [isSupported, ← Text.contains_iff]

/-! ## Patterns -/

/-- The root of a document. -/
def rootPattern : Pattern Text :=
  .literals [":root".toList, ":host".toList] (by decide)

/-- The classes that stand for the root: a page, or a dialog in front of it. -/
def rootClasses : Text := ".ns-root, .ns-modal".toList

/-- The beginning of a selector group without weight. -/
def whereStart : Text := ":where(".toList

/-- A group without weight; what it holds goes up to the first closing parenthesis. -/
def wherePattern : Pattern Text where
  read? s :=
    (Text.after? whereStart s).bind fun s =>
      match Text.cut? ')' s with
      | some (inner, rest) => if inner = [] then none else some (inner, rest)
      | none => none
  spelling inner := whereStart ++ inner ++ [')']
  read?_spelling h := by
    simp only [Option.bind_eq_some_iff] at h
    obtain ⟨tail, htail, h⟩ := h
    split at h
    · next inner rest hcut =>
      split at h
      · cases h
      · cases h
        rw [Text.after?_eq_some_iff.1 htail, (Text.cut?_eq_some_iff.1 hcut).1]
        simp
    · cases h
  spelling_ne_nil _ := by simp

/-- All children but the last. -/
def notLastPattern : Pattern Text :=
  .literals [":not(:last-child)".toList] (by decide)

/-- A child that shows, behind another that shows. -/
def shownPattern : Pattern Text :=
  .literals [":not([hidden]) ~ :not([hidden])".toList] (by decide)

/-- Any element behind any other. -/
def siblings : Text := "* + *".toList

/-- The pseudo-element of placeholders. -/
def placeholderPattern : Pattern Text :=
  .literals [placeholder] (by decide)

/-! ## Adapting -/

/-- The selector in the engine's vocabulary: the root by its classes, groups without weight by
what they hold, gaps between children by siblings, and placeholders by their field. -/
def adapt (selector : Text) : Text :=
  let selector := rootPattern.substitute (fun _ => rootClasses) selector
  let selector := wherePattern.substitute id selector
  let selector := notLastPattern.substitute (fun _ => siblings) selector
  let selector := shownPattern.substitute (fun _ => siblings) selector
  let selector := placeholderPattern.substitute (fun _ => []) selector
  Text.trim selector

end NativeStyle.Selector
