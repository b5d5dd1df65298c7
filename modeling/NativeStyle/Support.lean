import NativeStyle.Text.Basic

/-!
# What the engine supports

The styling engine of NativeScript knows a fixed set of properties. Most take any value; some take
one of a few keywords. Values in viewport units and the content-based sizes are never understood.

Main statement: `isSupported_of_no_value` (without a value only the property counts).
-/

namespace NativeStyle.Support

/-! ## The table -/

/-- The values that a property takes. -/
inductive Accepts where
  | always
  | oneOf (keywords : List Text)
deriving DecidableEq, Repr

/-- The properties of the engine, by name. -/
def table : List (Text × Accepts) := [
  ("align-content".toList, .always),
  ("align-items".toList, .always),
  ("align-self".toList, .always),
  ("android-dynamic-elevation-offset".toList, .always),
  ("android-elevation".toList, .always),
  ("android-selected-tab-highlight-color".toList, .always),
  ("animation".toList, .always),
  ("animation-delay".toList, .always),
  ("animation-direction".toList, .always),
  ("animation-duration".toList, .always),
  ("animation-fill-mode".toList, .always),
  ("animation-iteration-count".toList, .always),
  ("animation-name".toList, .always),
  ("animation-timing-function".toList, .always),
  ("background".toList, .always),
  ("background-color".toList, .always),
  ("background-image".toList, .always),
  ("background-position".toList, .always),
  ("background-repeat".toList,
    .oneOf ["no-repeat".toList, "repeat".toList, "repeat-x".toList, "repeat-y".toList]),
  ("background-size".toList, .always),
  ("border-bottom-color".toList, .always),
  ("border-bottom-left-radius".toList, .always),
  ("border-bottom-right-radius".toList, .always),
  ("border-bottom-width".toList, .always),
  ("border-color".toList, .always),
  ("border-left-color".toList, .always),
  ("border-left-width".toList, .always),
  ("border-radius".toList, .always),
  ("border-right-color".toList, .always),
  ("border-right-width".toList, .always),
  ("border-top-color".toList, .always),
  ("border-top-left-radius".toList, .always),
  ("border-top-right-radius".toList, .always),
  ("border-top-width".toList, .always),
  ("border-width".toList, .always),
  ("box-shadow".toList, .always),
  ("clip-path".toList, .always),
  ("color".toList, .always),
  ("flex".toList, .always),
  ("flex-direction".toList, .always),
  ("flex-grow".toList, .always),
  ("flex-shrink".toList, .always),
  ("flex-wrap".toList, .always),
  ("font".toList, .always),
  ("font-family".toList, .always),
  ("font-size".toList, .always),
  ("font-style".toList, .oneOf ["italic".toList, "normal".toList]),
  ("font-variation-settings".toList, .always),
  ("font-weight".toList, .always),
  ("height".toList, .always),
  ("highlight-color".toList, .always),
  ("horizontal-align".toList,
    .oneOf ["center".toList, "left".toList, "right".toList, "stretch".toList]),
  ("justify-content".toList, .always),
  ("justify-items".toList, .always),
  ("justify-self".toList, .always),
  ("letter-spacing".toList, .always),
  ("line-height".toList, .always),
  ("margin".toList, .always),
  ("margin-block".toList, .always),
  ("margin-block-end".toList, .always),
  ("margin-block-start".toList, .always),
  ("margin-bottom".toList, .always),
  ("margin-inline".toList, .always),
  ("margin-inline-end".toList, .always),
  ("margin-inline-start".toList, .always),
  ("margin-left".toList, .always),
  ("margin-right".toList, .always),
  ("margin-top".toList, .always),
  ("max-height".toList, .always),
  ("max-width".toList, .always),
  ("min-height".toList, .always),
  ("min-width".toList, .always),
  ("off-background-color".toList, .always),
  ("opacity".toList, .always),
  ("order".toList, .always),
  ("padding".toList, .always),
  ("padding-block".toList, .always),
  ("padding-bottom".toList, .always),
  ("padding-inline".toList, .always),
  ("padding-left".toList, .always),
  ("padding-right".toList, .always),
  ("padding-top".toList, .always),
  ("place-content".toList, .always),
  ("place-items".toList, .always),
  ("place-self".toList, .always),
  ("placeholder-color".toList, .always),
  ("rotate".toList, .always),
  ("selected-tab-text-color".toList, .always),
  ("tab-background-color".toList, .always),
  ("tab-text-color".toList, .always),
  ("tab-text-font-size".toList, .always),
  ("text-align".toList, .oneOf ["center".toList, "left".toList, "right".toList]),
  ("text-decoration".toList, .oneOf ["line-through".toList, "none".toList, "underline".toList]),
  ("text-shadow".toList, .always),
  ("text-transform".toList,
    .oneOf ["capitalize".toList, "lowercase".toList, "none".toList, "uppercase".toList]),
  ("transform".toList, .always),
  ("vertical-align".toList,
    .oneOf ["bottom".toList, "center".toList, "stretch".toList, "top".toList]),
  ("visibility".toList, .oneOf ["collapse".toList, "visible".toList]),
  ("width".toList, .always),
  ("z-index".toList, .always)]

/-- The endings of values that no property takes. -/
def rejectedEndings : List Text :=
  ["max-content".toList, "min-content".toList, "vh".toList, "vw".toList]

/-! ## Questions about declarations -/

/-- Whether the values of a property include this one. -/
def Accepts.allows : Accepts → Text → Bool
  | .always, _ => true
  | .oneOf keywords, value => keywords.contains value

/-- Whether the engine takes the property with the value. Without a value, or with an empty one,
only the property counts. -/
def isSupported (property : Text) (value : Option Text) : Bool :=
  match table.lookup property, value.getD [] with
  | none, _ => false
  | some _, [] => true
  | some accepts, value =>
    !rejectedEndings.any (Text.endsWith · value) && accepts.allows value

/-- Without a value only the property counts. -/
theorem isSupported_of_no_value {property : Text} :
    isSupported property none = (table.lookup property).isSome := by
  unfold isSupported
  cases table.lookup property <;> rfl

/-! ## Bookkeeping variables -/

/-- The beginnings of the names of variables that only keep a stylesheet's own books. -/
def bookkeepingStarts : List Text :=
  ["--tw-ring".toList, "--tw-shadow".toList, "--tw-ordinal".toList, "--tw-slashed-zero".toList,
    "--tw-numeric".toList]

/-- The texts anywhere in a name that show such a variable: the order of divided or spaced
children is reversed along an axis. -/
def bookkeepingMarks : List Text :=
  ["--tw-divide-x-reverse".toList, "--tw-divide-y-reverse".toList, "--tw-space-x-reverse".toList,
    "--tw-space-y-reverse".toList]

/-- Whether the property is a variable that only keeps a stylesheet's own books. -/
def isBookkeeping (property : Text) : Bool :=
  bookkeepingStarts.any (·.isPrefixOf property) || bookkeepingMarks.any (Text.contains · property)

end NativeStyle.Support
