import NativeStyle.Text.Encoding

/-!
# Directories

A flat directory of files: a name has at most one file. A path leads to a file of the directory
if, apart from steps that stay where they are, it is a name.

Main statements: `find?_put_same`, `find?_put_other` (a file that is put is there, and no other
file changes).
-/

namespace NativeStyle.CommandLine

/-- The files of a directory, by name. -/
structure Directory where
  files : List (Text × ByteArray)

/-- Why a path cannot be opened. -/
inductive Obstacle where
  /-- A path is no path if it holds a NUL. -/
  | noPath
  | missing
  | isDirectory
  | notDirectory
  | nameTooLong
deriving DecidableEq, Repr

/-- What is said about an obstacle. -/
def Obstacle.message : Obstacle → Text
  | noPath => "A path holds a NUL".toList
  | missing => "No such file or directory".toList
  | isDirectory => "Is a directory".toList
  | notDirectory => "Not a directory".toList
  | nameTooLong => "File name too long".toList

namespace Directory

/-- The content of a file. -/
def find? (d : Directory) (name : Text) : Option ByteArray :=
  d.files.lookup name

/-- The files with one of them put in place of the one that has its name, or else behind all. -/
def putIn (name : Text) (bytes : ByteArray) : List (Text × ByteArray) → List (Text × ByteArray)
  | [] => [(name, bytes)]
  | (other, content) :: files =>
    if other = name then (name, bytes) :: files else (other, content) :: putIn name bytes files

/-- The directory with a file written. -/
def put (d : Directory) (name : Text) (bytes : ByteArray) : Directory :=
  ⟨putIn name bytes d.files⟩

theorem find?_put_same (d : Directory) (name : Text) (bytes : ByteArray) :
    (d.put name bytes).find? name = some bytes := by
  show (putIn name bytes d.files).lookup name = some bytes
  induction d.files with
  | nil => simp [putIn]
  | cons file files ih =>
    obtain ⟨first, content⟩ := file
    by_cases heq : first = name
    · simp [putIn, heq]
    · have hname : (name == first) = false := by simpa using Ne.symm heq
      simp only [putIn, heq, if_false, List.lookup_cons, hname, ih]

theorem find?_put_other (d : Directory) {name other : Text} (bytes : ByteArray)
    (h : other ≠ name) : (d.put name bytes).find? other = d.find? other := by
  show (putIn name bytes d.files).lookup other = d.files.lookup other
  induction d.files with
  | nil =>
    have hname : (other == name) = false := by simpa using h
    simp [putIn, List.lookup_cons, hname]
  | cons file files ih =>
    obtain ⟨first, content⟩ := file
    by_cases heq : first = name
    · subst heq
      have hfirst : (other == first) = false := by simpa using h
      simp [putIn, List.lookup_cons, hfirst]
    · simp only [putIn, heq, if_false, List.lookup_cons, ih]

/-! ## Paths -/

/-- The longest name, in bytes. -/
def nameLimit : Nat := 255

/-- The longest path, in bytes. -/
def pathLimit : Nat := 4095

/-- Where the steps of a path have led. Of the directories around it a directory knows only that
they are there. -/
inductive Place where
  | here
  | around
deriving DecidableEq, Repr

/-- Whether a step of a path stays in its directory. -/
def staysHere (step : Text) : Bool :=
  step = [] ∨ step = ['.']

/-- The name of the file to which the steps of a path lead, whether the file is there or not. A
slash at the end asks for a directory. -/
def follow (d : Directory) (place : Place) : List Text → Except Obstacle Text
  | [] => .error .isDirectory
  | step :: steps =>
    if staysHere step then d.follow place steps
    else if step = ['.', '.'] then d.follow .around steps
    else if steps ≠ [] ∧ steps.all (· = []) then .error .isDirectory
    else if nameLimit < (Text.toUtf8 step).size then .error .nameTooLong
    else if place = .around then .error .missing
    else if steps = [] then .ok step
    else .error (if (d.find? step).isSome then .notDirectory else .missing)

/-- The name of the file to which a path leads, whether the file is there or not. No file lies
outside the directory. -/
def resolve (d : Directory) (path : Text) : Except Obstacle Text :=
  if '\x00' ∈ path then .error .noPath
  else if path = [] then .error .missing
  else if pathLimit < (Text.toUtf8 path).size then .error .nameTooLong
  else d.follow (if path.head? = some '/' then .around else .here) (path.splitOn '/')

/-- The content of the file to which a path leads. -/
def read (d : Directory) (path : Text) : Except Obstacle ByteArray := do
  match d.find? (← d.resolve path) with
  | some bytes => return bytes
  | none => throw .missing

/-- The directory with the file written to which a path leads. -/
def write (d : Directory) (path : Text) (bytes : ByteArray) : Except Obstacle Directory :=
  (d.resolve path).map fun name => d.put name bytes

end Directory

end NativeStyle.CommandLine
