import NativeStyle.Animation.Fields

/-!
# The shorthand of an animation

One value spells all fields of an animation. It can be read into fields, fields can be written as
one value, and a value can be spread over the longhand properties, of which the engine has one for
each field but the state of play. A value that is no single animation stays a shorthand.

Main statement: `spread_ne_nil` (a value that can be spread gives at least one line).
-/

namespace NativeStyle.Animation

/-! ## Reading -/

/-- Why a value gives no fields. -/
inductive Fault where
  /-- The text is no animation. -/
  | rejected (r : Rejection)
  /-- A component finds no place. -/
  | conflict (c : Conflict)
  /-- A time has no value. -/
  | unreadable (t : Term)
deriving DecidableEq

/-- The components of the terms, all of which must have a value. -/
def componentsOf (terms : List Term) : Except Fault (List Component) :=
  terms.mapM fun t =>
    match Component.ofTerm? t with
    | some component => .ok component
    | none => .error (.unreadable t)

/-- The fields that a value spells. -/
def parse (value : Text) : Except Fault Fields := do
  let terms ← (terms value).mapError .rejected
  let components ← componentsOf terms
  (Fields.fillAll .empty components).mapError .conflict

/-! ## Writing -/

/-- The text of a value in its own right. -/
def Value.render : Value → Text
  | .text t => t
  | .number n => n.text
  | .function f => f.text

/-- The text of a field in a shorthand: times are written in milliseconds. -/
def shorthandText (slot : Slot) (value : Value) : Text :=
  match slot, value with
  | .duration, .number n | .delay, .number n => n.text ++ ['m', 's']
  | _, value => value.render

/-- The shorthand of the fields that are set. -/
def serialize (fields : Fields) : Text :=
  Text.join [' '] (Slot.all.filterMap fun slot => (fields slot).map (shorthandText slot))

/-! ## Longhands -/

/-- The fields that have a longhand property. -/
def longhandSlots : List Slot :=
  [.name, .duration, .timingFunction, .delay, .iterationCount, .direction, .fillMode]

/-- The part of a longhand property's name that tells the field. -/
def Slot.property : Slot → Text
  | .name => "name".toList
  | .duration => "duration".toList
  | .timingFunction => "timing-function".toList
  | .delay => "delay".toList
  | .iterationCount => "iteration-count".toList
  | .direction => "direction".toList
  | .fillMode => "fill-mode".toList
  | .playState => "play-state".toList

/-- A time in a longhand: whole milliseconds are written in seconds, others as they are. -/
def timeText : Number → Text
  | .int n => (Binary64.ofQuotient n 1000).compact ++ ['s']
  | .real x => x.compact ++ ['m', 's']

/-- The text of a field in its longhand property. A call stands up to its first space. -/
def longhandText (slot : Slot) (value : Value) : Text :=
  match slot, value with
  | .duration, .number n | .delay, .number n => timeText n
  | _, .number (.int n) => Text.ofInt n
  | _, .number (.real x) => x.compact
  | _, .text t => t
  | _, .function f => f.text.takeWhile (· ≠ ' ')

/-- The longhand declaration of a field that is set. -/
def longhandLine (slot : Slot) (value : Value) : Text :=
  "animation-".toList ++ slot.property ++ ':' :: ' ' :: longhandText slot value

/-- The longhand declarations of the fields, in the order of the shorthand. -/
def longhandLines (fields : Fields) : List Text :=
  longhandSlots.filterMap fun slot => (fields slot).map (longhandLine slot)

/-- The declaration that keeps the shorthand. -/
def shorthandLine (value : Text) : Text :=
  "animation: ".toList ++ value

/-- The declarations that a value spreads into. A value that is no animation, or sets nothing that
has a longhand, stays as it is. Only a time without a value makes this fail. -/
def spread (value : Text) : Except Term (List Text) :=
  match parse value with
  | .ok fields =>
    if longhandLines fields = [] then .ok [shorthandLine value] else .ok (longhandLines fields)
  | .error (.unreadable t) => .error t
  | .error (.rejected _) | .error (.conflict _) => .ok [shorthandLine value]

/-- A value that can be spread gives at least one line. -/
theorem spread_ne_nil {value : Text} {lines : List Text} (h : spread value = .ok lines) :
    lines ≠ [] := by
  unfold spread at h
  split at h
  · split at h
    · cases h; simp
    · next hne => cases h; exact hne
  · cases h
  · cases h; simp
  · cases h; simp

end NativeStyle.Animation
