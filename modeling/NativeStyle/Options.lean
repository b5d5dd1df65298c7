import NativeStyle.Text.Blank
import NativeStyle.Text.Lowercase

/-!
# Options

What can be chosen about a run: whether conversions and skipped at-rules are reported, and how
deep layers may be nested.

Main statement: `ofEnvironment_nil` (an empty environment leaves the defaults).
-/

namespace NativeStyle

/-- The options of a run. -/
structure Options where
  /-- Whether conversions and skipped at-rules are reported. -/
  debug : Bool := false
  /-- The deepest nesting of layers that is still flattened. -/
  maxDepth : Int := 32
deriving DecidableEq, Repr

namespace Options

/-- The environment variable that turns reports on. -/
def debugVariable : Text := "NS_TAILWIND_DEBUG".toList

/-- The texts that say yes. -/
def affirmations : List Text := ["1".toList, "true".toList, "yes".toList]

/-- Whether a text says yes, blanks around it and letter case aside. -/
def isAffirmative (s : Text) : Bool :=
  affirmations.contains (Text.lower (Text.trim s))

/-- The options that an environment asks for. -/
def ofEnvironment (environment : List (Text × Text)) : Options where
  debug := isAffirmative ((environment.lookup debugVariable).getD [])

/-- An empty environment leaves the defaults. -/
theorem ofEnvironment_nil : ofEnvironment [] = {} := by
  decide

end Options

end NativeStyle
