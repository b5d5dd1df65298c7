import NativeStyle.Text.Pattern

/-!
# Control sequences

A terminal does not show a control sequence but obeys it: an escape and an opening bracket,
parameters, intermediate characters, and one final character. Each of the three has a range of
ASCII characters of its own. Without a final character there is no control sequence.

Main statement: `withoutControls_eq_self` (a text without escapes stays).
-/

namespace NativeStyle

/-- A control sequence, behind its escape and bracket. -/
structure ControlSequence where
  parameters : Text
  intermediates : Text
  final : Char
deriving DecidableEq, Repr

namespace ControlSequence

/-- The character that starts a control sequence. -/
def escape : Char := '\x1b'

/-- The characters of parameters: digits, separators between them, and marks of private use. -/
def isParameter (c : Char) : Bool :=
  '0' ≤ c && c ≤ '?'

/-- The characters between the parameters and the final character. -/
def isIntermediate (c : Char) : Bool :=
  ' ' ≤ c && c ≤ '/'

/-- The characters that end a control sequence. -/
def isFinal (c : Char) : Bool :=
  '@' ≤ c && c ≤ '~'

/-- The text of a control sequence. -/
def spelling (sequence : ControlSequence) : Text :=
  escape :: '[' :: sequence.parameters ++ sequence.intermediates ++ [sequence.final]

/-- The rest of a control sequence behind its escape and bracket. -/
def readBehind? (s : Text) : Option (ControlSequence × Text) :=
  let behind := s.dropWhile isParameter
  match behind.dropWhile isIntermediate with
  | [] => none
  | c :: rest =>
    if isFinal c then some (⟨s.takeWhile isParameter, behind.takeWhile isIntermediate, c⟩, rest)
    else none

/-- The control sequence at the front of a text. -/
def read? (s : Text) : Option (ControlSequence × Text) :=
  (Text.after? [escape, '['] s).bind readBehind?

theorem read?_eq_some {s rest : Text} {sequence : ControlSequence}
    (h : read? s = some (sequence, rest)) : s = sequence.spelling ++ rest := by
  obtain ⟨tail, htail, h⟩ := Option.bind_eq_some_iff.1 h
  rw [Text.after?_eq_some_iff.1 htail]
  simp only [readBehind?] at h
  split at h
  · cases h
  · next c behind hfinal =>
    split at h
    · cases h
      have hinter := List.takeWhile_append_dropWhile (p := isIntermediate)
        (l := tail.dropWhile isParameter)
      have hparam := List.takeWhile_append_dropWhile (p := isParameter) (l := tail)
      rw [hfinal] at hinter
      rw [← hinter] at hparam
      simpa [spelling] using hparam.symm
    · cases h

/-- Control sequences as a pattern to look for. -/
def pattern : Pattern ControlSequence where
  read? := read?
  spelling := spelling
  read?_spelling := read?_eq_some
  spelling_ne_nil _ := by simp [spelling]

end ControlSequence

/-- The text as a terminal shows it, without its control sequences. -/
def Text.withoutControls (s : Text) : Text :=
  ControlSequence.pattern.substitute (fun _ => []) s

/-- A text without escapes stays. -/
theorem Text.withoutControls_eq_self {s : Text} (h : ControlSequence.escape ∉ s) :
    Text.withoutControls s = s := by
  refine ControlSequence.pattern.substitute_eq_self fun t ht => ?_
  cases hr : ControlSequence.pattern.read? t with
  | none => rfl
  | some r =>
    have hmem : ControlSequence.escape ∈ t := by
      rw [ControlSequence.pattern.read?_spelling hr]
      exact List.mem_append_left _ List.mem_cons_self
    exact absurd (ht.subset hmem) h

end NativeStyle
