import NativeStyle.Animation.Lexeme

/-!
# Terms of an animation

The value of an animation is one or more terms: times, numbers, keywords, strings and calls of
easing functions, in any order. The text is read lexeme by lexeme; which kinds of lexemes are
looked for depends on what has been read. Blanks between lexemes are passed over; they are fewer
than those of a stylesheet.

Main statement: `accepts_of_read?` (a lexeme that was read is of a kind looked for).
-/

namespace NativeStyle.Animation

/-- A term of an animation, as it was written. -/
inductive Term where
  | time (text : Text)
  | number (text : Text)
  | keyword (text : Text)
  | string (text : Text)
  /-- A call of an easing function. Every argument is a list of lexemes. -/
  | call (name : Text) (arguments : List (List Text))
deriving DecidableEq, Repr

/-! ## Reading states -/

/-- What has been read: the terms that are complete, and perhaps a part of a call. -/
inductive State where
  /-- Between terms. -/
  | between (terms : List Term)
  /-- Behind the name of a function. -/
  | named (terms : List Term) (name : Text)
  /-- Inside the parentheses of a call: the complete arguments, and the lexemes so far of the one
  that is being read. -/
  | inCall (terms : List Term) (name : Text) (arguments : List (List Text)) (current : List Text)
deriving DecidableEq, Repr

namespace State

/-- The kinds of lexemes that can follow, those that are tried first in front. -/
def accepts : State → List Kind
  | between _ => [.functionName, .time, .number, .ident, .string]
  | named _ _ => [.opening]
  | inCall _ _ _ [] => [.percent, .number, .ident]
  | inCall _ _ _ (_ :: _) => [.percent, .number, .ident, .comma, .closing]

/-- The first lexeme of an accepted kind at the front of a text. -/
def read? (state : State) (s : Text) : Option (Lexeme × Text) :=
  state.accepts.findSome? fun kind => (kind.read? s).map fun (t, rest) => (⟨kind, t⟩, rest)

/-- The state behind one more lexeme, which must be of an accepted kind. -/
def push : State → Lexeme → State
  | between terms, ⟨.functionName, t⟩ => named terms t
  | between terms, ⟨.time, t⟩ => between (terms ++ [.time t])
  | between terms, ⟨.number, t⟩ => between (terms ++ [.number t])
  | between terms, ⟨.ident, t⟩ => between (terms ++ [.keyword t])
  | between terms, ⟨.string, t⟩ => between (terms ++ [.string t])
  | named terms name, _ => inCall terms name [] []
  | inCall terms name arguments current, ⟨.comma, _⟩ =>
    inCall terms name (arguments ++ [current]) []
  | inCall terms name arguments current, ⟨.closing, _⟩ =>
    between (terms ++ [.call name (arguments ++ [current])])
  | inCall terms name arguments current, ⟨_, t⟩ => inCall terms name arguments (current ++ [t])
  | state, _ => state

/-- The terms, if the text may end here: not inside a call, and not before the first term. -/
def finish? : State → Option (List Term)
  | between [] => none
  | between terms => some terms
  | _ => none

/-- A lexeme that was read is of an accepted kind and begins the text. -/
theorem accepts_of_read? {state : State} {s rest : Text} {l : Lexeme}
    (h : state.read? s = some (l, rest)) :
    l.kind ∈ state.accepts ∧ s = l.text ++ rest ∧ l.text ≠ [] := by
  obtain ⟨kind, hmem, h⟩ := List.exists_of_findSome?_eq_some h
  simp only [Option.map_eq_some_iff, Prod.exists, Prod.mk.injEq] at h
  obtain ⟨t, behind, hread, rfl, rfl⟩ := h
  exact ⟨hmem, Kind.read?_eq_some hread⟩

end State

/-! ## Reading a text -/

/-- The blanks that may stand between lexemes. -/
def isGap (c : Char) : Bool :=
  c == ' ' || c == '\t' || c == '\x0c' || c == '\r' || c == '\n'

/-- Why a text is no animation. -/
inductive Rejection where
  /-- No lexeme that can follow stands at the front of this rest of the text. -/
  | unexpected (rest : Text)
  /-- The text ends too early; its last lexeme starts at the front of this rest of it. -/
  | incomplete (last : Text)
deriving DecidableEq, Repr

/-- The terms that a text adds to a state. The last lexeme so far starts at the front of `last`. -/
def readFrom (state : State) (last s : Text) : Except Rejection (List Term) :=
  match _hs : s.dropWhile isGap with
  | [] =>
    match state.finish? with
    | some terms => .ok terms
    | none => .error (.incomplete last)
  | c :: t =>
    match _hr : state.read? (c :: t) with
    | some (l, rest) => readFrom (state.push l) (c :: t) rest
    | none => .error (.unexpected (c :: t))
termination_by s.length
decreasing_by
  obtain ⟨-, heq, hne⟩ := State.accepts_of_read? ‹_›
  have hle := (List.dropWhile_sublist (l := s) isGap).length_le
  have hpos := List.length_pos_iff.2 hne
  rw [‹s.dropWhile isGap = _›, heq, List.length_append] at hle
  omega

/-- The terms of an animation. Where a text without any lexeme ends too early, it is at its very
beginning. -/
def terms (s : Text) : Except Rejection (List Term) :=
  readFrom (.between []) s s

/-! ## Positions -/

/-- A place in a text, both numbers counted from one. -/
structure Position where
  line : Nat
  column : Nat
deriving DecidableEq, Repr

/-- The place at which a rest of the text starts. Only a line feed starts a line. -/
def Position.ofRest (s rest : Text) : Position :=
  let before := s.take (s.length - rest.length)
  ⟨before.count '\n' + 1, (before.reverse.takeWhile (· ≠ '\n')).length + 1⟩

/-- The place at which a text was rejected. -/
def Rejection.position (s : Text) : Rejection → Position
  | unexpected rest => .ofRest s rest
  | incomplete last => .ofRest s last

end NativeStyle.Animation
