import NativeStyle.Text.Basic

/-!
# Commands

The arguments of the program name one of its commands and its parameters. Options may stand among
the other arguments of a command, but not before its name; two hyphens alone end them. An option
takes the next argument as its value, whatever that looks like. All other arguments that start
with a hyphen are refused, save the hyphen alone.

Main statement: `ofArguments?_nil` (without arguments there is no command).
-/

namespace NativeStyle.CommandLine

/-- What the program is asked to do. -/
inductive Command where
  /-- Tell the version. -/
  | version
  /-- Tell what becomes of one declaration; an empty value asks about the property alone. -/
  | check (property value : Text)
  /-- Adapt stylesheets, to `output`. -/
  | transform (files : List Text) (output : Text) (debug : Bool)
deriving DecidableEq, Repr

/-- The path that stands for the standard input or output. -/
def standardPath : Text := "-".toList

/-- The argument that ends the options. -/
def endOfOptions : Text := "--".toList

/-- Whether an argument is to be read as an option. -/
def isOption : Text → Bool
  | '-' :: _ :: _ => true
  | _ => false

/-! ## Parameters of a command -/

/-- The parameters of an adapting command that have been read. -/
structure TransformParameters where
  files : List Text
  output : Text
  debug : Bool
deriving DecidableEq, Repr

namespace TransformParameters

/-- An option with what it takes as its value from its own argument or the next ones. -/
inductive ReadOption where
  | debug
  | output (path : Text)
deriving DecidableEq, Repr

/-- The next argument as the path of the output, and the arguments behind it. -/
def nextOutput? : List Text → Option (ReadOption × List Text)
  | [] => none
  | path :: rest => some (.output path, rest)

/-- The option of an argument, and the arguments behind its value. -/
def readOption? (argument : Text) (rest : List Text) : Option (ReadOption × List Text) :=
  if argument = "--debug".toList then some (.debug, rest)
  else if argument = "--output".toList then nextOutput? rest
  else match Text.after? "--output=".toList argument with
    | some path => some (.output path, rest)
    | none =>
      match argument with
      | ['-', 'o'] => nextOutput? rest
      | '-' :: 'o' :: path => some (.output path, rest)
      | _ => none

theorem length_le_of_nextOutput? {rest behind : List Text} {option : ReadOption}
    (h : nextOutput? rest = some (option, behind)) : behind.length ≤ rest.length := by
  cases rest with
  | nil => cases h
  | cons path rest => cases h; exact Nat.le_succ _

theorem length_le_of_readOption? {argument : Text} {rest behind : List Text} {option : ReadOption}
    (h : readOption? argument rest = some (option, behind)) : behind.length ≤ rest.length := by
  unfold readOption? at h
  split at h
  · cases h; exact Nat.le_refl _
  · split at h
    · exact length_le_of_nextOutput? h
    · split at h
      · cases h; exact Nat.le_refl _
      · split at h
        · exact length_le_of_nextOutput? h
        · cases h; exact Nat.le_refl _
        · cases h

/-- The parameters that the arguments add to those already read. -/
def read? (parameters : TransformParameters) : List Text → Option TransformParameters
  | [] => some parameters
  | argument :: rest =>
    if argument = endOfOptions then some { parameters with files := parameters.files ++ rest }
    else if isOption argument then
      match _h : readOption? argument rest with
      | some (.debug, behind) => { parameters with debug := true }.read? behind
      | some (.output path, behind) => { parameters with output := path }.read? behind
      | none => none
    else { parameters with files := parameters.files ++ [argument] }.read? rest
termination_by arguments => arguments.length
decreasing_by
  · exact Nat.lt_succ_of_le (length_le_of_readOption? ‹_›)
  · exact Nat.lt_succ_of_le (length_le_of_readOption? ‹_›)
  · exact Nat.lt_succ_self _

end TransformParameters

/-- The arguments of a command without options. -/
def plainArguments? : List Text → Option (List Text)
  | [] => some []
  | argument :: rest =>
    if argument = endOfOptions then some rest
    else if isOption argument then none
    else (plainArguments? rest).map (argument :: ·)

/-! ## The command -/

/-- The command with its name and arguments. -/
def Command.ofName? (name : Text) (arguments : List Text) : Option Command :=
  if name = "check".toList then
    match plainArguments? arguments with
    | some [property] => some (.check property [])
    | some [property, value] => some (.check property value)
    | _ => none
  else if name = "transform".toList then
    (TransformParameters.read? ⟨[], standardPath, false⟩ arguments).map fun p =>
      .transform p.files p.output p.debug
  else none

/-- The arguments from the name of the command on, and whether the version is asked for before
them. -/
def skipVersion? (asked : Bool) : List Text → Option (Bool × List Text)
  | [] => some (asked, [])
  | argument :: rest =>
    if argument = endOfOptions then some (asked, rest)
    else if argument = "--version".toList then skipVersion? true rest
    else if isOption argument then none
    else some (asked, argument :: rest)

/-- The command that the arguments ask for, if they ask for one properly. What stands behind two
hyphens in place of a name but looks like an option names no command; it is read as an option after
all. -/
def Command.ofArguments? (arguments : List Text) : Option Command :=
  match skipVersion? false arguments with
  | some (true, _) => some .version
  | some (false, name :: rest) =>
    if isOption name then
      match skipVersion? false (name :: rest) with
      | some (true, _) => some .version
      | some (false, _) | none => none
    else Command.ofName? name rest
  | some (false, []) | none => none

/-- Without arguments there is no command. -/
theorem Command.ofArguments?_nil : Command.ofArguments? [] = none := rfl

end NativeStyle.CommandLine
