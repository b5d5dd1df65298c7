import NativeStyle.Animation.Shorthand
import NativeStyle.Length
import NativeStyle.Logged
import NativeStyle.Options
import NativeStyle.Stylesheet.Declaration
import NativeStyle.Support

/-!
# The policy for declarations

Every declaration is decided by the first step of an ordered policy that applies to it: it is
dropped, kept with perhaps another value, or spread into several lines. A declaration to which no
step applies is dropped.

Main statements: `verdict_of_applies`, `verdict_of_not_applies` (the first step that applies
has the verdict).
-/

namespace NativeStyle

open Stylesheet (Declaration)

/-! ## Verdicts -/

/-- What becomes of a declaration. -/
inductive Verdict where
  | drop
  | keep (property value : Text)
  | spread (lines : List Text)
deriving DecidableEq, Repr

/-- The lines that a declaration leaves. -/
def Verdict.lines : Verdict → List Text
  | drop => []
  | keep property value => [property ++ ':' :: ' ' :: value]
  | spread lines => lines

/-! ## Steps -/

/-- A step of a policy. -/
inductive Step where
  /-- Drops the variables that only keep a stylesheet's own books. -/
  | dropBookkeeping
  /-- Drops every value that holds a text, perhaps whatever its letter case. -/
  | dropContaining (needle : Text) (caseSensitive : Bool)
  /-- Replaces one value of one property. -/
  | replaceValue (property value replacement : Text)
  /-- Spreads an animation over its longhands. -/
  | spreadAnimation
  /-- Keeps every custom property, with relative lengths converted. -/
  | keepCustom
  /-- Keeps what the engine supports, with relative lengths converted. -/
  | keepSupported
deriving DecidableEq, Repr

namespace Step

/-- The property that spells a whole animation. -/
def animation : Text := "animation".toList

/-- Whether the step decides the declaration. -/
def applies : Step → Declaration → Bool
  | dropBookkeeping, d => Support.isBookkeeping d.property
  | dropContaining needle true, d => Text.contains needle d.value
  | dropContaining needle false, d => Text.contains (Text.lower needle) (Text.lower d.value)
  | replaceValue property value _, d => d.property = property ∧ d.value = value
  | spreadAnimation, d => d.property = animation
  | keepCustom, d => d.isCustom
  | keepSupported, _ => true

/-- The value with its relative lengths converted. In debug runs every conversion is recorded. -/
def convert (options : Options) (value : Text) : Logged Text := do
  if options.debug then
    Logged.log ((RelativeLength.found value).map fun l => .converting l.spelling l.pixels)
  return RelativeLength.convert value

/-- The verdict of the step on a declaration to which it applies. -/
def verdict (options : Options) : Step → Declaration → Logged Verdict
  | dropBookkeeping, _ | dropContaining _ _, _ => return .drop
  | replaceValue property _ replacement, _ => return .keep property replacement
  | spreadAnimation, d =>
    Logged.ofResult ((Animation.spread d.value).map .spread |>.mapError .unreadableTime)
  | keepCustom, d => return .keep d.property (← convert options d.value)
  | keepSupported, d => do
    let value ← convert options d.value
    return if Support.isSupported d.property (some value) then .keep d.property value else .drop

end Step

/-! ## Policies -/

/-- An ordered list of steps. -/
abbrev Policy := List Step

namespace Policy

/-- The policy for the engine. -/
def standard : Policy :=
  [.dropBookkeeping,
    .dropContaining "color-mix".toList true,
    .dropContaining "currentColor".toList false,
    .replaceValue "visibility".toList "hidden".toList "collapse".toList,
    .replaceValue "vertical-align".toList "middle".toList "center".toList,
    .spreadAnimation,
    .keepCustom,
    .keepSupported]

/-- The verdict of the first step that applies. -/
def verdict (options : Options) : Policy → Declaration → Logged Verdict
  | [], _ => return .drop
  | step :: steps, d =>
    if step.applies d then step.verdict options d else Policy.verdict options steps d

theorem verdict_of_applies {options : Options} {step : Step} {steps : Policy} {d : Declaration}
    (h : step.applies d = true) :
    Policy.verdict options (step :: steps) d = step.verdict options d := by
  simp [Policy.verdict, h]

theorem verdict_of_not_applies {options : Options} {step : Step} {steps : Policy} {d : Declaration}
    (h : step.applies d = false) :
    Policy.verdict options (step :: steps) d = Policy.verdict options steps d := by
  simp [Policy.verdict, h]

end Policy

end NativeStyle
