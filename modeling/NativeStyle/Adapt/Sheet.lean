import NativeStyle.Adapt.Rule
import NativeStyle.Stylesheet.Node

/-!
# Adapting a stylesheet

The nodes of a stylesheet are adapted one by one, and the fragments that are left are joined by
blank lines. Layers are flattened: the body of a layer is adapted as a stylesheet of its own,
one level deeper, and stands in the layer's place. Keyframes are kept as they are; every other
at-rule is dropped.

Main statements: `adaptSheet_eq` and `adaptAtRule_layer` (how stylesheets and layers are
adapted in terms of each other).
-/

namespace NativeStyle

open Stylesheet (Node split)

/-! ## At-rules -/

/-- What is done with an at-rule, by its name. -/
inductive AtRuleKind where
  /-- Its body is flattened. -/
  | layer
  /-- It is kept. -/
  | keyframes
  /-- The engine is known not to have it. -/
  | unsupported
  /-- It is not known. -/
  | unknown
deriving DecidableEq, Repr

/-- The names of at-rules that the engine is known not to have. -/
def unsupportedAtRules : List Text :=
  ["media".toList, "supports".toList, "property".toList]

/-- The kind of an at-rule. Names count letter by letter. -/
def AtRuleKind.ofName (name : Text) : AtRuleKind :=
  if name = "layer".toList then layer
  else if name = "keyframes".toList then keyframes
  else if unsupportedAtRules.contains name then unsupported
  else unknown

/-- The text of kept keyframes. -/
def renderKeyframes (params body : Text) : Text :=
  "@keyframes ".toList ++ params ++ " \x7b\n".toList ++ Text.trim body ++ "\n\x7d".toList

/-! ## Fragments -/

/-- The text between two fragments. -/
def fragmentSeparator : Text := "\n\n".toList

/-- The fragments that are left, joined, with all records in order. -/
def joinFragments (fragments : List (Logged (Option Text))) : Logged Text := do
  let fragments ← fragments.mapM id
  return Text.join fragmentSeparator (fragments.filterMap id)

/-! ## Stylesheets -/

private theorem bodySize_lt {css name params : Text} {body : Option Text}
    (h : .atRule name params body ∈ split css) : body.elim 0 List.length < css.length := by
  cases body with
  | some body => exact Stylesheet.length_body_lt h rfl
  | none =>
    cases css with
    | nil => simp [split, Stylesheet.pieces] at h
    | cons c css => simp

mutual

/-- The adapted at-rule, unless nothing of it is left. It stands so many layers deep. -/
def adaptAtRule (options : Options) (depth : Int) (name params : Text) (body : Option Text) :
    Logged (Option Text) :=
  match AtRuleKind.ofName name, body with
  | .layer, some body =>
    if options.maxDepth ≤ depth then do
      Logged.log [.tooDeep params options.maxDepth]
      return none
    else do
      let inner ← adaptSheet options (depth + 1) body
      return if inner = [] then none else some inner
  | .keyframes, some body => return some (renderKeyframes params body)
  | .layer, none | .keyframes, none => return none
  | .unsupported, _ => do
    if options.debug then Logged.log [.skipping name]
    return none
  | .unknown, _ => do
    Logged.log [.unknown name]
    return none
termination_by 2 * body.elim 0 List.length + 1

/-- The adapted stylesheet, which stands so many layers deep. -/
def adaptSheet (options : Options) (depth : Int) (css : Text) : Logged Text :=
  joinFragments ((split css).attach.map fun
    | ⟨.rule selector body, _⟩ => adaptRule options selector body
    | ⟨.atRule name params body, _⟩ => adaptAtRule options depth name params body)
termination_by 2 * css.length
decreasing_by
  have := bodySize_lt ‹_›
  omega

end

/-- The adapted node, unless nothing of it is left. It stands so many layers deep. -/
def adaptNode (options : Options) (depth : Int) : Node → Logged (Option Text)
  | .rule selector body => adaptRule options selector body
  | .atRule name params body => adaptAtRule options depth name params body

/-- A stylesheet is adapted node by node. -/
theorem adaptSheet_eq (options : Options) (depth : Int) (css : Text) :
    adaptSheet options depth css = joinFragments ((split css).map (adaptNode options depth)) := by
  rw [adaptSheet]
  congr 1
  conv => rhs; rw [← List.attach_map_subtype_val (split css), List.map_map]
  refine List.map_congr_left fun node _ => ?_
  obtain ⟨node, h⟩ := node
  cases node <;> rfl

/-- A layer that is not too deep gives what its body gives, one level deeper. -/
theorem adaptAtRule_layer {options : Options} {depth : Int} {params body : Text}
    (h : depth < options.maxDepth) :
    adaptAtRule options depth "layer".toList params (some body) = (do
      let inner ← adaptSheet options (depth + 1) body
      return if inner = [] then none else some inner) := by
  rw [adaptAtRule]
  · exact if_neg (Int.not_le.2 h)
  · decide

/-! ## Whole stylesheets -/

/-- The stylesheet in the engine's vocabulary; empty where nothing is left. -/
def adapt (options : Options) (css : Text) : Logged Text :=
  adaptSheet options 0 css

/-- The adapted stylesheet, or none with a record of the failure. -/
def adapt? (options : Options) (css : Text) : List Record × Option Text :=
  let adapted := adapt options css
  match adapted.result with
  | .ok text => (adapted.records, some text)
  | .error _ => (adapted.records ++ [.failed], none)

end NativeStyle
