import NativeStyle.Animation.Component
import NativeStyle.Text.Quoted

/-!
# Fields of an animation

An animation has eight fields. The components of its value fill them in the order in which they
stand: the first time is the duration and the second the delay, a number counts iterations, a
keyword goes to the first of its fields that is free, and what fits nowhere else is the name.

Main statements: `put_same`, `put_other` (a value that is put is there, and nothing else changes).
-/

namespace NativeStyle.Animation

/-- The fields of an animation. -/
inductive Slot where
  | name
  | duration
  | timingFunction
  | delay
  | iterationCount
  | direction
  | fillMode
  | playState
deriving DecidableEq, Repr

/-- All fields in the order of the shorthand. -/
def Slot.all : List Slot :=
  [.name, .duration, .timingFunction, .delay, .iterationCount, .direction, .fillMode, .playState]

/-- What a field can hold. -/
inductive Value where
  | text (t : Text)
  | number (n : Number)
  | function (f : TimingFunction)
deriving DecidableEq

/-- The keyword of a field that is not set. -/
def unset : Text := "unset".toList

/-- The values of the fields that are set. -/
def Fields := Slot → Option Value

namespace Fields

/-- No field is set. -/
def empty : Fields := fun _ => none

/-- The fields with one value put into its place. The keyword `unset` clears the field. -/
def put (fields : Fields) (slot : Slot) (value : Value) : Fields := fun other =>
  if other = slot then (if value = .text unset then none else some value) else fields other

theorem put_same {fields : Fields} {slot : Slot} {value : Value} (h : value ≠ .text unset) :
    fields.put slot value slot = some value := by
  simp [put, h]

theorem put_other {fields : Fields} {slot other : Slot} {value : Value} (h : other ≠ slot) :
    fields.put slot value other = fields other := by
  simp [put, h]

/-- Whether a field is not set. -/
def isFree (fields : Fields) (slot : Slot) : Bool :=
  (fields slot).isNone

end Fields

/-! ## Keywords -/

/-- The keywords of easing. -/
def timingKeywords : List Text :=
  ["ease".toList, "ease-in".toList, "ease-out".toList, "ease-in-out".toList, "linear".toList,
    "step-start".toList, "step-end".toList]

/-- The keywords of the direction of play. -/
def directionKeywords : List Text :=
  ["normal".toList, "reverse".toList, "alternate".toList, "alternate-reverse".toList]

/-- The keywords for the time before and after the animation. -/
def fillModeKeywords : List Text :=
  ["none".toList, "forwards".toList, "backwards".toList, "both".toList]

/-- The keywords of the state of play. -/
def playStateKeywords : List Text :=
  ["running".toList, "paused".toList]

/-- The count of an animation that never ends. -/
def infinite : Text := "infinite".toList

/-- The fields with keywords of their own, in the order in which they take a keyword. -/
def keywordSlots : List (Slot × List Text) :=
  [(.timingFunction, timingKeywords), (.direction, directionKeywords),
    (.fillMode, fillModeKeywords), (.playState, playStateKeywords)]

/-! ## Filling the fields -/

/-- Why a component finds no place. -/
inductive Conflict where
  | thirdTime (n : Number)
  | secondFunction (f : TimingFunction)
  | spacedArgument (f : TimingFunction)
  | secondCount (n : Number)
  | secondName (t : Text)
deriving DecidableEq

/-- The message about a conflict. -/
def Conflict.message : Conflict → Text
  | thirdTime n => "Too many time values: ".toList ++ n.text
  | secondFunction f => "Duplicate timing function: ".toList ++ f.text
  | spacedArgument f => "Multi-token timing function argument: ".toList ++ f.text
  | secondCount n => "Duplicate iteration count: ".toList ++ n.text
  | secondName t => "Unexpected value in animation shorthand: ".toList ++ Text.quoted t

namespace Fields

/-- The free field that takes a keyword, if one does. -/
def keywordSlot? (fields : Fields) (keyword : Text) : Option Slot :=
  if keyword = infinite ∧ fields.isFree .iterationCount then some .iterationCount
  else (keywordSlots.find? fun (slot, keywords) =>
    keywords.contains keyword && fields.isFree slot).map (·.1)

/-- The fields with a name, unless they have one. -/
def fillName (fields : Fields) (t : Text) : Except Conflict Fields :=
  if fields.isFree .name then .ok (fields.put .name (.text t)) else .error (.secondName t)

/-- The fields with one more component in its place. -/
def fill (fields : Fields) : Component → Except Conflict Fields
  | .time n =>
    if fields.isFree .duration then .ok (fields.put .duration (.number n))
    else if fields.isFree .delay then .ok (fields.put .delay (.number n))
    else .error (.thirdTime n)
  | .function f =>
    if !fields.isFree .timingFunction then .error (.secondFunction f)
    else if f.arguments.any fun argument => ' ' ∈ argument then .error (.spacedArgument f)
    else .ok (fields.put .timingFunction (.function f))
  | .number n =>
    if fields.isFree .iterationCount then .ok (fields.put .iterationCount (.number n))
    else .error (.secondCount n)
  | .keyword t =>
    match fields.keywordSlot? t with
    | some slot => .ok (fields.put slot (.text t))
    | none => fields.fillName t
  | .string t => fields.fillName t

/-- The fields that the components fill one after the other. -/
def fillAll (fields : Fields) (components : List Component) : Except Conflict Fields :=
  components.foldlM fill fields

end Fields

end NativeStyle.Animation
