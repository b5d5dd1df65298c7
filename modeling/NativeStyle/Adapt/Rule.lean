import NativeStyle.Policy
import NativeStyle.Selector

/-!
# Adapting a rule

A rule is adapted if the engine understands its selector and something of its body is left. The
colour of a placeholder is a property of the field that shows it, so in a rule for placeholders
the property is renamed before the policy decides.

Main statement: `adaptRule_of_unsupported` (a rule with an unsupported selector leaves nothing).
-/

namespace NativeStyle

open Stylesheet (Declaration)

/-- The declaration as it stands in a rule for placeholders. -/
def toPlaceholder (d : Declaration) : Declaration :=
  if d.property = "color".toList then { d with property := "placeholder-color".toList } else d

/-- The declarations of a rule, as the policy sees them. -/
def ruleDeclarations (selector body : Text) : List Declaration :=
  if Selector.isPlaceholder selector then (Stylesheet.declarations body).map toPlaceholder
  else Stylesheet.declarations body

/-- The lines that the declarations of a rule leave. -/
def ruleLines (options : Options) (declarations : List Declaration) : Logged (List Text) := do
  let verdicts ← declarations.mapM (Policy.verdict options .standard)
  return verdicts.flatMap Verdict.lines

/-- The text of a rule with its lines. -/
def renderRule (selector : Text) (lines : List Text) : Text :=
  selector ++ " \x7b\n  ".toList ++ Text.join ";\n  ".toList lines ++ ";\n\x7d".toList

/-- The adapted rule, unless nothing of it is left. -/
def adaptRule (options : Options) (selector body : Text) : Logged (Option Text) :=
  if !Selector.isSupported selector ∨ Selector.adapt selector = [] then return none
  else do
    let lines ← ruleLines options (ruleDeclarations selector body)
    return if lines = [] then none else some (renderRule (Selector.adapt selector) lines)

/-- A rule with an unsupported selector leaves nothing, in the log neither. -/
theorem adaptRule_of_unsupported {options : Options} {selector body : Text}
    (h : Selector.isSupported selector = false) : adaptRule options selector body = pure none := by
  simp [adaptRule, h]

end NativeStyle
