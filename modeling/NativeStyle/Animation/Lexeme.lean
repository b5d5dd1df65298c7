import NativeStyle.Text.Digit
import NativeStyle.Text.Word

/-!
# Lexemes of an animation

The value of an animation is made of lexemes of nine kinds. Each kind has a reader that takes the
longest lexeme of its kind from the front of a text. Some kinds look at the character behind the
lexeme: a time or a number must not run into a name, and a function name needs its parenthesis.

Main statement: `read?_eq_some` (a lexeme is a non-empty beginning of the text).
-/

namespace NativeStyle.Animation

/-! ## Numerals -/

/-- A numeral of the value: digits, a point possibly among, behind or before them, and a sign. -/
structure Numeral where
  negative : Bool
  whole : Text
  /-- The digits behind the point, if there is a point. -/
  places : Option Text
deriving DecidableEq, Repr

namespace Numeral

/-- The sign and the digits before the point. -/
def start (n : Numeral) : Text :=
  (if n.negative then ['-'] else []) ++ n.whole

/-- The text of a numeral. -/
def spelling (n : Numeral) : Text :=
  n.start ++ n.places.elim [] ('.' :: ·)

/-- The longest numeral without a sign at the front of a text. A lone point is none. -/
def readUnsigned? (negative : Bool) (s : Text) : Option (Numeral × Text) :=
  let whole := s.takeWhile Text.isDigit
  match s.dropWhile Text.isDigit with
  | '.' :: rest =>
    let places := rest.takeWhile Text.isDigit
    if whole = [] ∧ places = [] then none
    else some (⟨negative, whole, some places⟩, rest.dropWhile Text.isDigit)
  | rest => if whole = [] then none else some (⟨negative, whole, none⟩, rest)

/-- The longest numeral at the front of a text. -/
def read? : Text → Option (Numeral × Text)
  | '-' :: s => readUnsigned? true s
  | s => readUnsigned? false s

theorem readUnsigned?_eq_some {negative : Bool} {s rest : Text} {n : Numeral}
    (h : readUnsigned? negative s = some (n, rest)) :
    (if negative then ['-'] else []) ++ s = n.spelling ++ rest := by
  have hsplit := List.takeWhile_append_dropWhile (p := Text.isDigit) (l := s)
  simp only [readUnsigned?] at h
  split at h
  · next tail htail =>
    split at h
    · cases h
    · cases h
      rw [htail] at hsplit
      simp only [spelling, start, Option.elim_some, List.append_assoc, List.cons_append,
        List.takeWhile_append_dropWhile]
      rw [hsplit]
  · split at h
    · cases h
    · cases h
      simp only [spelling, start, Option.elim_none, List.append_nil, List.append_assoc]
      rw [hsplit]

theorem read?_eq_some {s rest : Text} {n : Numeral} (h : read? s = some (n, rest)) :
    s = n.spelling ++ rest := by
  unfold read? at h
  split at h <;> simpa using readUnsigned?_eq_some h

theorem spelling_ne_nil {s rest : Text} {n : Numeral} (h : read? s = some (n, rest)) :
    n.spelling ≠ [] := by
  have hne {negative : Bool} {s : Text} (h : readUnsigned? negative s = some (n, rest)) :
      n.spelling ≠ [] := by
    simp only [readUnsigned?] at h
    split at h <;> split at h
    · cases h
    · cases h; simp [spelling]
    · cases h
    · next hw => cases h; simp [spelling, start, hw]
  unfold read? at h
  split at h <;> exact hne h

end Numeral

/-- Whether a name would go on at the front of the text. -/
def continuesName : Text → Bool
  | [] => false
  | c :: _ => Text.isNameChar c

/-! ## Readers -/

/-- The names of the easing functions. -/
def functionNames : List Text :=
  ["cubic-bezier".toList, "steps".toList, "linear".toList]

/-- The name of an easing function directly before its parenthesis. -/
def readFunctionName? (s : Text) : Option (Text × Text) :=
  functionNames.findSome? fun name =>
    match Text.after? name s with
    | some ('(' :: rest) => some (name, '(' :: rest)
    | _ => none

/-- Whether the letter stands for seconds: an s of either case, or a long s. -/
def isSecond (c : Char) : Bool :=
  c == 's' || c == 'S' || c == 'ſ'

/-- A unit of time at the front of a text, in any letter case. -/
def readTimeUnit? : Text → Option (Text × Text)
  | [] => none
  | c :: s =>
    if isSecond c then some ([c], s)
    else if c = 'm' ∨ c = 'M' then
      match s with
      | d :: rest => if isSecond d then some ([c, d], rest) else none
      | [] => none
    else none

/-- A numeral with a unit of time. -/
def readTime? (s : Text) : Option (Text × Text) :=
  (Numeral.read? s).bind fun (n, s) =>
    (readTimeUnit? s).bind fun (unit, rest) =>
      if continuesName rest then none else some (n.spelling ++ unit, rest)

/-- A numeral. Where a name follows it, only the digits before its point are left of it. -/
def readNumber? (s : Text) : Option (Text × Text) :=
  (Numeral.read? s).bind fun (n, rest) =>
    if continuesName rest then
      match n.places with
      | some places => if n.whole = [] then none else some (n.start, '.' :: places ++ rest)
      | none => none
    else some (n.spelling, rest)

/-- A numeral with a percent sign. -/
def readPercent? (s : Text) : Option (Text × Text) :=
  (Numeral.read? s).bind fun (n, rest) =>
    match rest with
    | '%' :: rest => some (n.spelling ++ ['%'], rest)
    | _ => none

/-- The characters that start an identifier. -/
def isIdentStart (c : Char) : Bool :=
  c.isAlpha || c == '_'

/-- The characters that go on with an identifier. -/
def isIdentChar (c : Char) : Bool :=
  c.isAlphanum || c == '_' || c == '-'

/-- An identifier: perhaps a hyphen, then ASCII letters, digits, underscores and hyphens, of which
the first is no digit and no hyphen. -/
def readIdent? : Text → Option (Text × Text)
  | '-' :: c :: s =>
    if isIdentStart c then some ('-' :: c :: s.takeWhile isIdentChar, s.dropWhile isIdentChar)
    else none
  | c :: s =>
    if isIdentStart c then some (c :: s.takeWhile isIdentChar, s.dropWhile isIdentChar) else none
  | [] => none

/-- A text in single or double quotes, with its quotes. -/
def readString? : Text → Option (Text × Text)
  | [] => none
  | quote :: s =>
    if quote = '"' ∨ quote = '\'' then
      (Text.cut? quote s).map fun (inner, rest) => (quote :: inner ++ [quote], rest)
    else none

/-- A single character of punctuation. -/
def readMark? (mark : Char) : Text → Option (Text × Text)
  | [] => none
  | c :: rest => if c = mark then some ([mark], rest) else none

/-! ## Kinds -/

/-- The kinds of lexemes. -/
inductive Kind where
  | functionName
  | time
  | number
  | percent
  | ident
  | string
  | opening
  | closing
  | comma
deriving DecidableEq, Repr

/-- The lexeme of a kind at the front of a text, and the rest. -/
def Kind.read? : Kind → Text → Option (Text × Text)
  | functionName => readFunctionName?
  | time => readTime?
  | number => readNumber?
  | percent => readPercent?
  | ident => readIdent?
  | string => readString?
  | opening => readMark? '('
  | closing => readMark? ')'
  | comma => readMark? ','

/-- A lexeme with its kind. -/
structure Lexeme where
  kind : Kind
  text : Text
deriving DecidableEq, Repr

/-! ## Lexemes are beginnings of the text -/

private theorem readTimeUnit?_eq_some {s t rest : Text} (h : readTimeUnit? s = some (t, rest)) :
    s = t ++ rest := by
  unfold readTimeUnit? at h
  split at h
  · cases h
  · split at h
    · cases h; rfl
    · split at h
      · split at h
        · split at h <;> cases h
          rfl
        · cases h
      · cases h

private theorem readIdent?_eq_some {s t rest : Text} (h : readIdent? s = some (t, rest)) :
    s = t ++ rest ∧ t ≠ [] := by
  unfold readIdent? at h
  split at h
  · split at h <;> cases h
    simp [List.takeWhile_append_dropWhile]
  · split at h <;> cases h
    simp [List.takeWhile_append_dropWhile]
  · cases h

/-- A lexeme is a non-empty beginning of the text. -/
theorem Kind.read?_eq_some {k : Kind} {s t rest : Text} (h : k.read? s = some (t, rest)) :
    s = t ++ rest ∧ t ≠ [] := by
  have hmark {mark : Char} (h : readMark? mark s = some (t, rest)) : s = t ++ rest ∧ t ≠ [] := by
    unfold readMark? at h
    split at h
    · cases h
    · split at h <;> cases h
      next hc => simp [hc]
  cases k with
  | functionName =>
    obtain ⟨name, hmem, h⟩ := List.exists_of_findSome?_eq_some h
    split at h <;> cases h
    next htail =>
      refine ⟨Text.after?_eq_some_iff.1 htail, ?_⟩
      rintro rfl
      exact absurd hmem (by decide)
  | time =>
    simp only [read?, readTime?, Option.bind_eq_some_iff, Prod.exists] at h
    obtain ⟨n, tail, hn, unit, behind, hunit, h⟩ := h
    split at h <;> cases h
    have hs := Numeral.read?_eq_some hn
    rw [readTimeUnit?_eq_some hunit, ← List.append_assoc] at hs
    exact ⟨hs, by simp [Numeral.spelling_ne_nil hn]⟩
  | number =>
    simp only [read?, readNumber?, Option.bind_eq_some_iff, Prod.exists] at h
    obtain ⟨n, tail, hn, h⟩ := h
    have hs := Numeral.read?_eq_some hn
    split at h
    · split at h
      · next places hplaces =>
        split at h
        · cases h
        · next hwhole =>
          cases h
          simp only [Numeral.spelling, hplaces, Option.elim_some, List.append_assoc] at hs
          exact ⟨hs, by simp [Numeral.start, hwhole]⟩
      · cases h
    · cases h
      exact ⟨hs, Numeral.spelling_ne_nil hn⟩
  | percent =>
    simp only [read?, readPercent?, Option.bind_eq_some_iff, Prod.exists] at h
    obtain ⟨n, tail, hn, h⟩ := h
    split at h <;> cases h
    exact ⟨by simpa using Numeral.read?_eq_some hn, by simp⟩
  | ident => exact readIdent?_eq_some h
  | string =>
    simp only [read?] at h
    unfold readString? at h
    split at h
    · cases h
    · split at h
      · simp only [Option.map_eq_some_iff, Prod.exists, Prod.mk.injEq] at h
        obtain ⟨inner, behind, hcut, rfl, rfl⟩ := h
        rw [(Text.cut?_eq_some_iff.1 hcut).1]
        simp
      · cases h
  | opening => exact hmark h
  | closing => exact hmark h
  | comma => exact hmark h

end NativeStyle.Animation
