import NativeStyle.Animation.Term
import NativeStyle.Proofs.Trimming

/-!
# What the terms of an animation hold

An animation is read lexeme by lexeme, and only a string in quotes can hold a character that means
something to a stylesheet: numbers, identifiers and names of functions are made of *inert*
characters, which are neither blanks nor braces, at signs or semicolons.

The invariant `State.WellRead` says what is known of the terms so far. One lexeme preserves it
(`State.push_wellRead`), so it holds of all terms that a text is read as (`wellRead_of_terms`).
-/

namespace NativeStyle.Animation

/-- Whether the character means nothing to a stylesheet. -/
def isInert (c : Char) : Bool :=
  !Text.isBlank c && !(['{', '}', '@', ';'].contains c)

/-! ## Inert characters -/

theorem isInert_of_isAlphanum {c : Char} (h : c.isAlphanum = true) : isInert c = true := by
  -- None of the four marks is a letter or a digit.
  have hmark : c ∉ ['{', '}', '@', ';'] := by
    intro hmem
    simp only [List.mem_cons, List.not_mem_nil, or_false] at hmem
    rcases hmem with rfl | rfl | rfl | rfl <;> revert h <;> decide
  simp [isInert, Text.isBlank_of_isAlphanum h, hmark]

/-- No digit of any script is a blank. -/
private theorem isBlank_of_isDigit {c : Char} (h : Text.isDigit c = true) :
    Text.isBlank c = false := by
  -- The table of blanks and the table of digits have nothing in common.
  have hapart : ∀ r ∈ Text.blankTable, ∀ start ∈ Text.zeroTable,
      r.last < start ∨ start + 10 ≤ r.first := by
    decide
  obtain ⟨value, hvalue⟩ := Option.isSome_iff_exists.1 h
  obtain ⟨start, hstart, hrange⟩ := List.exists_of_findSome?_eq_some hvalue
  rw [Text.isBlank, ← Bool.not_eq_true, CodeRange.holds_iff]
  rintro ⟨r, hr, hfirst, hlast⟩
  have := hapart r hr start hstart
  split at hrange
  · omega
  · cases hrange

theorem isInert_of_isDigit {c : Char} (h : Text.isDigit c = true) : isInert c = true := by
  have hmark : c ∉ ['{', '}', '@', ';'] := by
    intro hmem
    simp only [List.mem_cons, List.not_mem_nil, or_false] at hmem
    rcases hmem with rfl | rfl | rfl | rfl <;> revert h <;> decide
  simp [isInert, isBlank_of_isDigit h, hmark]

theorem isBlank_of_isInert {c : Char} (h : isInert c = true) : Text.isBlank c = false := by
  rw [isInert, Bool.and_eq_true, Bool.not_eq_true'] at h
  exact h.1

/-- A text of inert characters is trimmed. -/
theorem trim_of_inert {t : Text} (h : ∀ c ∈ t, isInert c = true) : Text.trim t = t := by
  rw [Text.trim_eq_self_iff]
  constructor
  · intro c hc
    exact isBlank_of_isInert (h c (List.mem_of_head? hc))
  · intro c hc
    exact isBlank_of_isInert (h c (List.mem_of_getLast? hc))

/-! ## Lexemes -/

private theorem mem_of_mem_takeWhile {p : Char → Bool} {c : Char} {s : Text}
    (h : c ∈ s.takeWhile p) : p c = true :=
  List.all_eq_true.1 List.all_takeWhile c h

/-- A numeral is made of a sign, a point and digits. -/
theorem Numeral.of_mem_spelling {s rest : Text} {n : Numeral}
    (h : Numeral.read? s = some (n, rest)) :
    ∀ c ∈ n.spelling, c = '-' ∨ c = '.' ∨ Text.isDigit c = true := by
  have hunsigned {negative : Bool} {t : Text}
      (h : Numeral.readUnsigned? negative t = some (n, rest)) :
      ∀ c ∈ n.spelling, c = '-' ∨ c = '.' ∨ Text.isDigit c = true := by
    have hsign : ∀ c ∈ (if negative then ['-'] else [] : Text), c = '-' := by
      cases negative <;> simp
    have hdigits (t : Text) : ∀ c ∈ t.takeWhile Text.isDigit, Text.isDigit c = true :=
      fun c hc => mem_of_mem_takeWhile hc
    simp only [Numeral.readUnsigned?] at h
    -- With a point behind the digits, and without one.
    split at h <;> split at h <;> cases h
    · intro c hc
      simp only [spelling, start, Option.elim_some, List.mem_append, List.mem_cons] at hc
      rcases hc with (hc | hc) | rfl | hc
      · exact Or.inl (hsign c hc)
      · exact Or.inr (Or.inr (hdigits _ c hc))
      · exact Or.inr (Or.inl rfl)
      · exact Or.inr (Or.inr (hdigits _ c hc))
    · intro c hc
      simp only [spelling, start, Option.elim_none, List.append_nil, List.mem_append] at hc
      rcases hc with hc | hc
      · exact Or.inl (hsign c hc)
      · exact Or.inr (Or.inr (hdigits _ c hc))
  unfold Numeral.read? at h
  split at h <;> exact hunsigned h

theorem Numeral.isInert_of_mem_spelling {s rest : Text} {n : Numeral}
    (h : Numeral.read? s = some (n, rest)) : ∀ c ∈ n.spelling, isInert c = true := by
  intro c hc
  rcases Numeral.of_mem_spelling h c hc with rfl | rfl | hdigit
  · decide
  · decide
  · exact isInert_of_isDigit hdigit

/-- What can stand in front of the letter for seconds. -/
def unitFronts : List Text := [[], ['m'], ['M']]

/-- The letters for seconds. -/
def secondLetters : List Char := ['s', 'S', 'ſ']

private theorem mem_secondLetters {c : Char} (h : isSecond c = true) : c ∈ secondLetters := by
  simpa [isSecond, secondLetters, or_assoc] using h

/-- A unit is a letter for seconds, perhaps behind an m. -/
theorem exists_of_readTimeUnit? {s unit rest : Text} (h : readTimeUnit? s = some (unit, rest)) :
    ∃ front ∈ unitFronts, ∃ c ∈ secondLetters, unit = front ++ [c] := by
  unfold readTimeUnit? at h
  split at h
  · cases h
  · next c tail =>
    split at h
    · next hsecond =>
      cases h
      exact ⟨[], by simp [unitFronts], c, mem_secondLetters hsecond, rfl⟩
    · split at h
      · next hm =>
        split at h
        · next d tail =>
          split at h
          · next hsecond =>
            cases h
            exact ⟨[c], by simpa [unitFronts] using hm, d, mem_secondLetters hsecond, rfl⟩
          · cases h
        · cases h
      · cases h

private theorem isInert_of_readTime? {s t rest : Text} (h : readTime? s = some (t, rest)) :
    ∀ c ∈ t, isInert c = true := by
  have hunits : ∀ front ∈ unitFronts, ∀ c ∈ secondLetters, ∀ d ∈ front ++ [c],
      isInert d = true := by
    decide
  simp only [readTime?, Option.bind_eq_some_iff, Prod.exists] at h
  obtain ⟨n, tail, hn, unit, behind, hunit, h⟩ := h
  split at h <;> cases h
  obtain ⟨front, hfront, c, hc, rfl⟩ := exists_of_readTimeUnit? hunit
  rw [List.forall_mem_append]
  exact ⟨Numeral.isInert_of_mem_spelling hn, hunits front hfront c hc⟩

private theorem isInert_of_readNumber? {s t rest : Text} (h : readNumber? s = some (t, rest)) :
    ∀ c ∈ t, isInert c = true := by
  simp only [readNumber?, Option.bind_eq_some_iff, Prod.exists] at h
  obtain ⟨n, tail, hn, h⟩ := h
  have hspelling := Numeral.isInert_of_mem_spelling hn
  -- A number can be followed by an exponent, which belongs to its text.
  split at h
  · split at h
    · split at h <;> cases h
      intro c hc
      exact hspelling c (List.mem_append_left _ hc)
    · cases h
  · cases h
    exact hspelling

private theorem isInert_of_readPercent? {s t rest : Text} (h : readPercent? s = some (t, rest)) :
    ∀ c ∈ t, isInert c = true := by
  simp only [readPercent?, Option.bind_eq_some_iff, Prod.exists] at h
  obtain ⟨n, tail, hn, h⟩ := h
  split at h <;> cases h
  intro c hc
  rcases List.mem_append.1 hc with hc | hc
  · exact Numeral.isInert_of_mem_spelling hn c hc
  · rw [List.mem_singleton.1 hc]
    decide

private theorem isInert_of_isIdentChar {c : Char} (h : isIdentChar c = true) :
    isInert c = true := by
  simp only [isIdentChar, Bool.or_eq_true, beq_iff_eq] at h
  rcases h with (h | rfl) | rfl
  · exact isInert_of_isAlphanum h
  · decide
  · decide

theorem isIdentChar_of_isIdentStart {c : Char} (h : isIdentStart c = true) :
    isIdentChar c = true := by
  simp only [isIdentStart, Bool.or_eq_true] at h
  rcases h with h | h <;> simp [isIdentChar, Char.isAlphanum, h]

private theorem isInert_of_readIdent? {s t rest : Text} (h : readIdent? s = some (t, rest)) :
    ∀ c ∈ t, isInert c = true := by
  have hstretch (u : Text) : ∀ c ∈ u.takeWhile isIdentChar, isInert c = true :=
    fun c hc => isInert_of_isIdentChar (mem_of_mem_takeWhile hc)
  unfold readIdent? at h
  -- An identifier can begin with a hyphen; then the start of it comes second.
  split at h
  · split at h <;> cases h
    next hstart =>
      intro c hc
      rcases List.mem_cons.1 hc with rfl | hc
      · decide
      · rcases List.mem_cons.1 hc with rfl | hc
        · exact isInert_of_isIdentChar (isIdentChar_of_isIdentStart hstart)
        · exact hstretch _ c hc
  · split at h <;> cases h
    next hstart =>
      intro c hc
      rcases List.mem_cons.1 hc with rfl | hc
      · exact isInert_of_isIdentChar (isIdentChar_of_isIdentStart hstart)
      · exact hstretch _ c hc
  · cases h

private theorem isInert_of_mem_functionNames {name : Text} (h : name ∈ functionNames) :
    ∀ c ∈ name, isInert c = true := by
  have hall : ∀ name ∈ functionNames, ∀ c ∈ name, isInert c = true := by decide
  exact hall name h

private theorem mem_functionNames_of_readFunctionName? {s t rest : Text}
    (h : readFunctionName? s = some (t, rest)) : t ∈ functionNames := by
  obtain ⟨name, hmem, hname⟩ := List.exists_of_findSome?_eq_some h
  split at hname <;> cases hname
  exact hmem

/-- Only a string can hold a character that means something to a stylesheet. -/
theorem Kind.isInert_of_read? {k : Kind} {s t rest : Text} (hstring : k ≠ .string)
    (h : k.read? s = some (t, rest)) : ∀ c ∈ t, isInert c = true := by
  have hmark {mark : Char} (hinert : isInert mark = true)
      (h : readMark? mark s = some (t, rest)) : ∀ c ∈ t, isInert c = true := by
    unfold readMark? at h
    split at h
    · cases h
    · split at h <;> cases h
      simpa using hinert
  cases k with
  | functionName => exact isInert_of_mem_functionNames (mem_functionNames_of_readFunctionName? h)
  | time => exact isInert_of_readTime? h
  | number => exact isInert_of_readNumber? h
  | percent => exact isInert_of_readPercent? h
  | ident => exact isInert_of_readIdent? h
  | string => exact absurd rfl hstring
  | opening => exact hmark (by decide) h
  | closing => exact hmark (by decide) h
  | comma => exact hmark (by decide) h

private theorem trim_of_readString? {s t rest : Text} (h : readString? s = some (t, rest)) :
    Text.trim t = t := by
  unfold readString? at h
  split at h
  · cases h
  · split at h
    · next quote tail hquote =>
      simp only [Option.map_eq_some_iff, Prod.exists, Prod.mk.injEq] at h
      obtain ⟨inner, behind, -, rfl, -⟩ := h
      have hblank : Text.isBlank quote = false := by
        rcases hquote with rfl | rfl <;> decide
      -- A string begins and ends with its quote, which is no blank.
      rw [Text.trim_eq_self_iff]
      constructor
      · intro c hc
        cases hc
        exact hblank
      · intro c hc
        rw [List.getLast?_concat] at hc
        cases hc
        exact hblank
    · cases h

/-- What is known of a lexeme from its kind. -/
def Lexeme.WellRead (value : Text) (l : Lexeme) : Prop :=
  l.text <:+: value ∧ l.text ≠ [] ∧
    match l.kind with
    | .functionName => l.text ∈ functionNames
    | .number | .percent | .ident => ∀ c ∈ l.text, isInert c = true
    | .string => Text.trim l.text = l.text
    | .time | .opening | .closing | .comma => True

/-- Every lexeme that is read somewhere in a value is as its kind has it. -/
theorem State.wellRead_of_read? {state : State} {value s rest : Text} {l : Lexeme}
    (hs : s <:+ value) (h : state.read? s = some (l, rest)) :
    l.WellRead value ∧ rest <:+ value := by
  obtain ⟨-, heq, hne⟩ := State.accepts_of_read? h
  obtain ⟨before, hvalue⟩ := hs
  have hinside : l.text <:+: value := ⟨before, rest, by rw [← hvalue, heq, List.append_assoc]⟩
  have hrest : rest <:+ value :=
    ⟨before ++ l.text, by rw [← hvalue, heq, List.append_assoc]⟩
  refine ⟨⟨hinside, hne, ?_⟩, hrest⟩
  -- The lexeme was read as one of the kinds that the state accepts.
  obtain ⟨kind, -, h⟩ := List.exists_of_findSome?_eq_some h
  simp only [Option.map_eq_some_iff, Prod.exists, Prod.mk.injEq] at h
  obtain ⟨t, behind, hread, rfl, rfl⟩ := h
  cases kind with
  | functionName => exact mem_functionNames_of_readFunctionName? hread
  | number => exact Kind.isInert_of_read? (by simp) hread
  | percent => exact Kind.isInert_of_read? (by simp) hread
  | ident => exact Kind.isInert_of_read? (by simp) hread
  | string => exact trim_of_readString? hread
  | time => trivial
  | opening => trivial
  | closing => trivial
  | comma => trivial

/-! ## Terms -/

/-- What is known of a term: names and strings stand in the value as they are, and a call holds
nothing but inert characters. -/
def Term.WellRead (value : Text) : Term → Prop
  | .time _ | .number _ => True
  | .keyword t | .string t => t <:+: value ∧ t ≠ [] ∧ Text.trim t = t
  | .call name arguments =>
    name ∈ functionNames ∧ ∀ argument ∈ arguments, ∀ t ∈ argument, ∀ c ∈ t, isInert c = true

/-- The invariant of reading: the complete terms and the parts of an open call are well read. -/
def State.WellRead (value : Text) : State → Prop
  | .between terms => ∀ t ∈ terms, t.WellRead value
  | .named terms name => (∀ t ∈ terms, t.WellRead value) ∧ name ∈ functionNames
  | .inCall terms name arguments current =>
    (∀ t ∈ terms, t.WellRead value) ∧
      (Term.call name (arguments ++ [current])).WellRead value

private theorem wellRead_concat {value : Text} {terms : List Term} {term : Term}
    (hterms : ∀ t ∈ terms, t.WellRead value) (hterm : term.WellRead value) :
    ∀ t ∈ terms ++ [term], t.WellRead value := by
  intro t ht
  rcases List.mem_append.1 ht with ht | ht
  · exact hterms t ht
  · rw [List.mem_singleton.1 ht]
    exact hterm

/-- One more inert lexeme goes to the argument that is being read. -/
private theorem wellRead_push_current {value t name : Text} {arguments : List (List Text)}
    {current : List Text} (h : (Term.call name (arguments ++ [current])).WellRead value)
    (ht : ∀ c ∈ t, isInert c = true) :
    (Term.call name (arguments ++ [current ++ [t]])).WellRead value := by
  refine ⟨h.1, ?_⟩
  intro argument hargument u hu
  rcases List.mem_append.1 hargument with hold | hnew
  · exact h.2 argument (List.mem_append_left _ hold) u hu
  · rw [List.mem_singleton.1 hnew] at hu
    rcases List.mem_append.1 hu with hu | hu
    · exact h.2 current (List.mem_append_right _ List.mem_cons_self) u hu
    · rw [List.mem_singleton.1 hu]
      exact ht

/-- An argument that has just begun holds nothing yet. -/
private theorem wellRead_next {value name : Text} {arguments : List (List Text)}
    (h : (Term.call name arguments).WellRead value) :
    (Term.call name (arguments ++ [[]])).WellRead value := by
  refine ⟨h.1, ?_⟩
  intro argument hargument u hu
  rcases List.mem_append.1 hargument with hold | hnew
  · exact h.2 argument hold u hu
  · rw [List.mem_singleton.1 hnew] at hu
    cases hu

/-- One accepted lexeme keeps the invariant. -/
theorem State.push_wellRead {value : Text} {state : State} {l : Lexeme}
    (hstate : state.WellRead value) (hl : l.WellRead value) (hkind : l.kind ∈ state.accepts) :
    (state.push l).WellRead value := by
  obtain ⟨kind, t⟩ := l
  obtain ⟨hinside, hne, htext⟩ := hl
  cases state with
  | between terms =>
    -- Between terms a lexeme is a term of its own or begins a call.
    cases kind with
    | functionName => exact ⟨hstate, htext⟩
    | time => exact wellRead_concat hstate trivial
    | number => exact wellRead_concat hstate trivial
    | ident => exact wellRead_concat hstate ⟨hinside, hne, trim_of_inert htext⟩
    | string => exact wellRead_concat hstate ⟨hinside, hne, htext⟩
    | percent => exact hstate
    | opening => exact hstate
    | closing => exact hstate
    | comma => exact hstate
  -- Behind a name the opening parenthesis begins a first, empty argument.
  | named terms name =>
    refine ⟨hstate.1, hstate.2, ?_⟩
    intro argument hargument u hu
    rw [List.mem_singleton.1 hargument] at hu
    cases hu
  | inCall terms name arguments current =>
    -- Only percentages, numbers and identifiers are accepted into an argument.
    have hargument (h : ∀ c ∈ t, isInert c = true) :
        (State.inCall terms name arguments (current ++ [t])).WellRead value :=
      ⟨hstate.1, wellRead_push_current hstate.2 h⟩
    cases kind with
    | percent => exact hargument htext
    | number => exact hargument htext
    | ident => exact hargument htext
    | comma => exact ⟨hstate.1, wellRead_next hstate.2⟩
    | closing => exact wellRead_concat hstate.1 hstate.2
    | functionName => cases current <;> exact absurd hkind (by simp [State.accepts])
    | time => cases current <;> exact absurd hkind (by simp [State.accepts])
    | string => cases current <;> exact absurd hkind (by simp [State.accepts])
    | opening => cases current <;> exact absurd hkind (by simp [State.accepts])

/-! ## Reading to the end -/

/-- What one lexeme preserves of a state and the text behind it holds at the end of a text, where
only gaps are left behind the last term. -/
theorem readFrom_induction {P : State → Text → Prop}
    (push : ∀ state s l rest, P state s → state.read? (s.dropWhile isGap) = some (l, rest) →
      P (state.push l) rest)
    {state : State} {last s : Text} {read : List Term} (hstart : P state s)
    (h : readFrom state last s = .ok read) :
    ∃ rest, P (.between read) rest ∧ rest.dropWhile isGap = [] := by
  -- The induction follows the reader: one lexeme is pushed, and the rest is shorter.
  fun_induction readFrom state last s with
  | case1 state last s hend terms hfinish =>
    cases h
    refine ⟨s, ?_, hend⟩
    -- Only between terms can a value end, and not before the first term.
    cases state with
    | between terms' =>
      cases terms' with
      | nil => cases hfinish
      | cons t terms' =>
        cases hfinish
        exact hstart
    | named => cases hfinish
    | inCall => cases hfinish
  | case2 => cases h
  | case3 state last s c t hgap l rest hread ih =>
    rw [← hgap] at hread
    exact ih (push _ _ _ _ hstart hread) h
  | case4 => cases h

/-- What is left of a text behind its gaps. -/
theorem dropWhile_isGap_suffix {value s : Text} (h : s <:+ value) :
    s.dropWhile isGap <:+ value :=
  (List.dropWhile_suffix _).trans h

/-- All terms of a value are well read. -/
theorem wellRead_of_terms {value : Text} {read : List Term} (h : terms value = .ok read) :
    ∀ t ∈ read, t.WellRead value := by
  have hstart : (State.between []).WellRead value := by
    intro t ht
    cases ht
  have hpush : ∀ (state : State) s l rest, state.WellRead value ∧ s <:+ value →
      state.read? (s.dropWhile isGap) = some (l, rest) →
      (state.push l).WellRead value ∧ rest <:+ value := by
    rintro state s l rest ⟨hstate, hs⟩ hread
    obtain ⟨hl, hrest⟩ := State.wellRead_of_read? (dropWhile_isGap_suffix hs) hread
    exact ⟨State.push_wellRead hstate hl (State.accepts_of_read? hread).1, hrest⟩
  obtain ⟨rest, hread, -⟩ := readFrom_induction hpush ⟨hstart, List.suffix_refl value⟩ h
  exact hread.1

end NativeStyle.Animation
