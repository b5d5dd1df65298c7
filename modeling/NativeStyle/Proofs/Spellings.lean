import NativeStyle.Proofs.Lexemes

/-!
# How lexemes are spelled

Each kind of lexeme is a set of texts, given here by its spelling alone (`Kind.Spells`), and some
kinds ask for something behind their lexeme (`Kind.Precedes`). A reader only reads what is spelled
like that. Conversely a spelled lexeme is read as a whole where a gap, a comma or a closing
parenthesis ends it, and then none of the kinds that are tried before its own reads anything. So
which lexeme a state reads is known from how it is spelled (`State.read?_of_spells`).

Main results:
- `Kind.spells_of_read?` (what is read is spelled as its kind has it),
- `Kind.spells_iff` (exactly what is spelled so is read to its end),
- `State.read?_of_spells` (what is spelled as a kind is read as that kind).
-/

namespace NativeStyle.Animation

/-! ## Spellings -/

/-- A numeral has digits, and only digits stand on either side of its point. -/
def Numeral.WellFormed (n : Numeral) : Prop :=
  (∀ c ∈ n.whole ++ n.places.getD [], Text.isDigit c = true) ∧ n.whole ++ n.places.getD [] ≠ []

/-- The texts of a kind. -/
inductive Kind.Spells : Kind → Text → Prop where
  | functionName {name : Text} : name ∈ functionNames → Spells .functionName name
  | time {n : Numeral} {front : Text} {c : Char} :
      n.WellFormed → front ∈ unitFronts → c ∈ secondLetters →
      Spells .time (n.spelling ++ (front ++ [c]))
  | number {n : Numeral} : n.WellFormed → Spells .number n.spelling
  | percent {n : Numeral} : n.WellFormed → Spells .percent (n.spelling ++ ['%'])
  | ident {hyphen : Text} {c : Char} {t : Text} :
      hyphen = [] ∨ hyphen = ['-'] → isIdentStart c = true → (∀ d ∈ t, isIdentChar d = true) →
      Spells .ident (hyphen ++ c :: t)
  | string {quote : Char} {inner : Text} :
      quote = '"' ∨ quote = '\'' → quote ∉ inner → Spells .string (quote :: inner ++ [quote])
  | opening : Spells .opening ['(']
  | closing : Spells .closing [')']
  | comma : Spells .comma [',']

/-- What a kind asks for behind its lexeme: a function name has its parenthesis there, and a time or
a number does not run into a name. -/
def Kind.Precedes : Kind → Text → Prop
  | functionName, rest => rest.head? = some '('
  | time, rest | number, rest => continuesName rest = false
  | _, _ => True

/-! ## What is read is spelled so -/

private theorem wellFormed_of_readUnsigned? {negative : Bool} {s rest : Text} {n : Numeral}
    (h : Numeral.readUnsigned? negative s = some (n, rest)) : n.WellFormed := by
  have hdigits (t : Text) : ∀ c ∈ t.takeWhile Text.isDigit, Text.isDigit c = true :=
    List.all_eq_true.1 List.all_takeWhile
  simp only [Numeral.readUnsigned?] at h
  -- With a point behind the first digits, and without one.
  split at h <;> split at h <;> cases h
  · next hne =>
    refine ⟨?_, by simpa using hne⟩
    rw [Option.getD_some, List.forall_mem_append]
    exact ⟨hdigits _, hdigits _⟩
  · next hne =>
    refine ⟨?_, by simpa using hne⟩
    rw [Option.getD_none, List.append_nil]
    exact hdigits _

theorem Numeral.wellFormed_of_read? {s rest : Text} {n : Numeral}
    (h : Numeral.read? s = some (n, rest)) : n.WellFormed := by
  unfold Numeral.read? at h
  split at h <;> exact wellFormed_of_readUnsigned? h

private theorem spells_of_readTime? {s t rest : Text} (h : readTime? s = some (t, rest)) :
    Kind.time.Spells t ∧ continuesName rest = false := by
  simp only [readTime?, Option.bind_eq_some_iff, Prod.exists] at h
  obtain ⟨n, tail, hn, unit, behind, hunit, h⟩ := h
  split at h <;> cases h
  next hstop =>
    obtain ⟨front, hfront, c, hc, rfl⟩ := exists_of_readTimeUnit? hunit
    exact ⟨.time (Numeral.wellFormed_of_read? hn) hfront hc, by simpa using hstop⟩

private theorem spells_of_readNumber? {s t rest : Text} (h : readNumber? s = some (t, rest)) :
    Kind.number.Spells t ∧ continuesName rest = false := by
  simp only [readNumber?, Option.bind_eq_some_iff, Prod.exists] at h
  obtain ⟨n, tail, hn, h⟩ := h
  have hwellFormed := Numeral.wellFormed_of_read? hn
  split at h
  · split at h
    · next places hplaces =>
      split at h <;> cases h
      next hwhole =>
        -- Only the digits before the point are left, and the point goes on with no name.
        have hstart : n.start = (⟨n.negative, n.whole, none⟩ : Numeral).spelling := by
          simp [Numeral.spelling, Numeral.start]
        rw [hstart]
        have hdigits : ∀ c ∈ n.whole, Text.isDigit c = true :=
          fun c hc => hwellFormed.1 c (List.mem_append_left _ hc)
        exact ⟨.number ⟨by simpa using hdigits, by simpa using hwhole⟩,
          (by decide : Text.isNameChar '.' = false)⟩
    · cases h
  · next hstop =>
    cases h
    exact ⟨.number hwellFormed, by simpa using hstop⟩

private theorem spells_of_readIdent? {s t rest : Text} (h : readIdent? s = some (t, rest)) :
    Kind.ident.Spells t := by
  have hchars (u : Text) : ∀ c ∈ u.takeWhile isIdentChar, isIdentChar c = true :=
    List.all_eq_true.1 List.all_takeWhile
  unfold readIdent? at h
  split at h
  · split at h <;> cases h
    next hstart => exact @Kind.Spells.ident ['-'] _ _ (Or.inr rfl) hstart (hchars _)
  · split at h <;> cases h
    next hstart => exact @Kind.Spells.ident [] _ _ (Or.inl rfl) hstart (hchars _)
  · cases h

private theorem spells_of_readString? {s t rest : Text} (h : readString? s = some (t, rest)) :
    Kind.string.Spells t := by
  unfold readString? at h
  split at h
  · cases h
  · split at h
    · next quote tail hquote =>
      simp only [Option.map_eq_some_iff, Prod.exists, Prod.mk.injEq] at h
      obtain ⟨inner, behind, hcut, rfl, -⟩ := h
      exact .string hquote (Text.cut?_eq_some_iff.1 hcut).2
    · cases h

/-- What is read is spelled as its kind has it, and stands before what the kind asks for. -/
theorem Kind.spells_of_read? {k : Kind} {s t rest : Text} (h : k.read? s = some (t, rest)) :
    k.Spells t ∧ k.Precedes rest := by
  have hmark {mark : Char} (h : readMark? mark s = some (t, rest)) : t = [mark] := by
    unfold readMark? at h
    split at h
    · cases h
    · split at h <;> cases h
      rfl
  cases k with
  | functionName =>
    obtain ⟨name, hmem, hname⟩ := List.exists_of_findSome?_eq_some h
    split at hname <;> cases hname
    exact ⟨.functionName hmem, rfl⟩
  | time => exact spells_of_readTime? h
  | number => exact spells_of_readNumber? h
  | percent =>
    simp only [read?, readPercent?, Option.bind_eq_some_iff, Prod.exists] at h
    obtain ⟨n, tail, hn, h⟩ := h
    split at h <;> cases h
    exact ⟨.percent (Numeral.wellFormed_of_read? hn), trivial⟩
  | ident => exact ⟨spells_of_readIdent? h, trivial⟩
  | string => exact ⟨spells_of_readString? h, trivial⟩
  | opening => exact ⟨hmark h ▸ .opening, trivial⟩
  | closing => exact ⟨hmark h ▸ .closing, trivial⟩
  | comma => exact ⟨hmark h ▸ .comma, trivial⟩

/-! ## What is spelled so is read -/

/-- Whether the character ends a lexeme in front of it. -/
def endsLexeme (c : Char) : Bool :=
  isGap c || c == ',' || c == ')'

/-- A character that ends lexemes is in none of them but the marks and strings. -/
private theorem of_endsLexeme {c : Char} (h : endsLexeme c = true) :
    (Text.isDigit c = false ∧ c ≠ '.') ∧ Text.isNameChar c = false ∧ isIdentChar c = false ∧
      isSecond c = false ∧ c ≠ 'm' ∧ c ≠ 'M' ∧ c ≠ '%' ∧ c ≠ '(' := by
  have hall : ∀ c ∈ [' ', '\t', '\x0c', '\r', '\n', ',', ')'],
      (Text.isDigit c = false ∧ c ≠ '.') ∧ Text.isNameChar c = false ∧ isIdentChar c = false ∧
        isSecond c = false ∧ c ≠ 'm' ∧ c ≠ 'M' ∧ c ≠ '%' ∧ c ≠ '(' := by
    decide
  exact hall c (by simpa [endsLexeme, isGap, or_assoc] using h)

theorem isGap_of_isIdentStart {c : Char} (h : isIdentStart c = true) : isGap c = false := by
  rw [← Bool.not_eq_true]
  intro hgap
  have hident := (of_endsLexeme (c := c) (by simp [endsLexeme, hgap])).2.2.1
  rw [isIdentChar_of_isIdentStart h] at hident
  cases hident

theorem isGap_of_numeral {c : Char} (h : c = '-' ∨ c = '.' ∨ Text.isDigit c = true) :
    isGap c = false := by
  rw [← Bool.not_eq_true]
  intro hgap
  obtain ⟨⟨hdigit, hpoint⟩, -⟩ := of_endsLexeme (c := c) (by simp [endsLexeme, hgap])
  rcases h with rfl | rfl | h
  · exact absurd hgap (by decide)
  · exact hpoint rfl
  · rw [hdigit] at h
    cases h

/-- Behind the text stands nothing, or a character that ends lexemes. -/
def Ends (rest : Text) : Prop :=
  ∀ c ∈ rest.head?, endsLexeme c = true

theorem ends_nil : Ends [] := by
  simp [Ends]

/-- What stands behind a lexeme of a kind neither goes on with it nor makes it one of another kind.
Only the first character behind it is looked at. -/
def Kind.StopsAt : Kind → Text → Text → Prop
  | functionName, _, rest => rest.head? = some '('
  | time, _, rest => continuesName rest = false
  | number, t, rest => ∀ c ∈ rest.head?,
      (Text.isDigit c = false ∧ (c = '.' → '.' ∈ t)) ∧ Text.isNameChar c = false ∧ c ≠ '%'
  | ident, _, rest => ∀ c ∈ rest.head?, isIdentChar c = false ∧ c ≠ '('
  | _, _, _ => True

/-- A stretch ends where a character stands that does not belong to it. -/
theorem takeWhile_append_of_head {p : Char → Bool} {s rest : Text} (hs : ∀ c ∈ s, p c = true)
    (hrest : ∀ c ∈ rest.head?, p c = false) :
    (s ++ rest).takeWhile p = s ∧ (s ++ rest).dropWhile p = rest := by
  rw [List.takeWhile_append_of_pos hs, List.dropWhile_append_of_pos hs]
  cases rest with
  | nil => simp
  | cons c rest => simp [hrest c rfl]

namespace Numeral

private theorem readUnsigned?_append {negative : Bool} {whole rest : Text} {places : Option Text}
    (h : (⟨negative, whole, places⟩ : Numeral).WellFormed)
    (hrest : ∀ c ∈ rest.head?, Text.isDigit c = false ∧ (c = '.' → places ≠ none)) :
    readUnsigned? negative (whole ++ (places.elim [] ('.' :: ·) ++ rest)) =
      some (⟨negative, whole, places⟩, rest) := by
  obtain ⟨hdigits, hne⟩ := h
  rw [List.forall_mem_append] at hdigits
  have hdigit : ∀ c ∈ rest.head?, Text.isDigit c = false := fun c hc => (hrest c hc).1
  cases places with
  | none =>
    -- Without a point the digits go up to the rest, which does not begin with one.
    obtain ⟨htake, hdrop⟩ := takeWhile_append_of_head hdigits.1 hdigit
    have hwhole : whole ≠ [] := by simpa using hne
    simp only [Option.elim_none, List.nil_append, readUnsigned?, htake, hdrop]
    split
    · exact absurd rfl ((hrest '.' rfl).2 rfl)
    · rw [if_neg hwhole]
  | some places =>
    have hpoint : ∀ c ∈ ('.' :: (places ++ rest)).head?, Text.isDigit c = false := by
      simp only [List.head?_cons, Option.mem_some_iff, forall_eq']
      decide
    obtain ⟨htake, hdrop⟩ := takeWhile_append_of_head hdigits.1 hpoint
    obtain ⟨htake', hdrop'⟩ := takeWhile_append_of_head hdigits.2 hdigit
    simp only [Option.getD_some] at htake' hdrop' hne
    simp only [Option.elim_some, List.cons_append, readUnsigned?, htake, hdrop, htake', hdrop']
    rw [if_neg (by simpa using hne)]

/-- A numeral is read up to a character that does not go on with it. -/
theorem read?_spelling_append {n : Numeral} {rest : Text} (h : n.WellFormed)
    (hrest : ∀ c ∈ rest.head?, Text.isDigit c = false ∧ (c = '.' → n.places ≠ none)) :
    read? (n.spelling ++ rest) = some (n, rest) := by
  obtain ⟨negative, whole, places⟩ := n
  have hread := readUnsigned?_append h hrest
  simp only [spelling, start, List.append_assoc]
  cases negative with
  | true => exact hread
  | false =>
    simp only [Bool.false_eq_true, if_false, List.nil_append]
    unfold read?
    split
    · next t ht =>
      -- A minus is neither a digit nor the point.
      have hdigit : Text.isDigit '-' = true := by
        cases whole with
        | cons d whole =>
          cases ht
          exact h.1 '-' (by simp)
        | nil =>
          cases places with
          | none => exact absurd rfl h.2
          | some places => cases ht
      exact absurd hdigit (by decide)
    · exact hread

/-- A numeral on its own is read as a whole. -/
theorem read?_spelling {n : Numeral} (h : n.WellFormed) : read? n.spelling = some (n, []) := by
  have hread : read? (n.spelling ++ []) = some (n, []) :=
    read?_spelling_append h fun c hc => nomatch hc
  rwa [List.append_nil] at hread

/-- A numeral begins with a minus, a point or a digit. -/
theorem head_spelling {n : Numeral} (h : n.WellFormed) :
    ∃ c t, n.spelling = c :: t ∧ (c = '-' ∨ c = '.' ∨ Text.isDigit c = true) := by
  have hread := read?_spelling h
  obtain ⟨c, t, hcons⟩ := List.exists_cons_of_ne_nil (spelling_ne_nil hread)
  exact ⟨c, t, hcons, of_mem_spelling hread c (by simp [hcons])⟩

/-- Only behind its digits a numeral has its point. -/
private theorem places_ne_none {n : Numeral} (h : n.WellFormed) (hpoint : '.' ∈ n.spelling) :
    n.places ≠ none := by
  intro hplaces
  have hwhole : ∀ c ∈ n.whole, Text.isDigit c = true := by simpa [hplaces] using h.1
  rw [spelling, start, hplaces, Option.elim_none, List.append_nil, List.mem_append] at hpoint
  rcases hpoint with hsign | hdigit
  · cases hnegative : n.negative <;> simp [hnegative] at hsign
  · exact absurd (hwhole '.' hdigit) (by decide)

/-- A numeral of a number or a time is read up to what stops it. -/
private theorem read?_append_of_stops {n : Numeral} {rest : Text} (h : n.WellFormed)
    (hrest : ∀ c ∈ rest.head?, Text.isDigit c = false ∧ (c = '.' → '.' ∈ n.spelling)) :
    read? (n.spelling ++ rest) = some (n, rest) :=
  read?_spelling_append h fun c hc => ⟨(hrest c hc).1, fun hpoint =>
    places_ne_none h ((hrest c hc).2 hpoint)⟩

end Numeral

private theorem continuesName_eq_false {rest : Text}
    (h : ∀ c ∈ rest.head?, Text.isNameChar c = false) : continuesName rest = false := by
  cases rest with
  | nil => rfl
  | cons c rest => exact h c rfl

private theorem readTime?_append {n : Numeral} {front rest : Text} {c : Char} (hn : n.WellFormed)
    (hfront : front ∈ unitFronts) (hc : c ∈ secondLetters) (hrest : continuesName rest = false) :
    readTime? (n.spelling ++ (front ++ [c]) ++ rest) =
      some (n.spelling ++ (front ++ [c]), rest) := by
  have hunits : ∀ front ∈ unitFronts, ∀ c ∈ secondLetters, ∀ d ∈ front ++ [c],
      Text.isDigit d = false ∧ d ≠ '.' := by
    decide
  have hhead : ∀ d ∈ (front ++ [c] ++ rest).head?,
      Text.isDigit d = false ∧ (d = '.' → n.places ≠ none) := by
    intro d hd
    rw [List.head?_append, Option.or_of_isSome (by simp)] at hd
    obtain ⟨hdigit, hpoint⟩ := hunits front hfront c hc d (List.mem_of_head? hd)
    exact ⟨hdigit, fun h => absurd h hpoint⟩
  have hunit : readTimeUnit? (front ++ [c] ++ rest) = some (front ++ [c], rest) := by
    simp only [unitFronts, secondLetters, List.mem_cons, List.not_mem_nil, or_false] at hfront hc
    rcases hfront with rfl | rfl | rfl <;> rcases hc with rfl | rfl | rfl <;> rfl
  simp only [readTime?, List.append_assoc n.spelling, Numeral.read?_spelling_append hn hhead, hunit,
    Option.bind_some, hrest, Bool.false_eq_true, if_false]

private theorem readIdent?_append {hyphen t rest : Text} {c : Char}
    (hhyphen : hyphen = [] ∨ hyphen = ['-']) (hc : isIdentStart c = true)
    (ht : ∀ d ∈ t, isIdentChar d = true) (hrest : ∀ d ∈ rest.head?, isIdentChar d = false) :
    readIdent? (hyphen ++ c :: t ++ rest) = some (hyphen ++ c :: t, rest) := by
  obtain ⟨htake, hdrop⟩ := takeWhile_append_of_head ht hrest
  have hminus : c ≠ '-' := by
    rintro rfl
    exact absurd hc (by decide)
  rcases hhyphen with rfl | rfl
  · simp [readIdent?, hminus, hc, htake, hdrop]
  · simp [readIdent?, hc, htake, hdrop]

private theorem readString?_append {quote : Char} {inner : Text}
    (hquote : quote = '"' ∨ quote = '\'') (hinner : quote ∉ inner) (rest : Text) :
    readString? (quote :: inner ++ [quote] ++ rest) = some (quote :: inner ++ [quote], rest) := by
  have hcut : Text.cut? quote (inner ++ quote :: rest) = some (inner, rest) :=
    Text.cut?_eq_some_iff.2 ⟨rfl, hinner⟩
  rw [List.append_assoc, List.cons_append, readString?, if_pos hquote]
  simp only [List.cons_append, List.nil_append, hcut, Option.map_some]

/-- What ends a lexeme of a kind: function names end at their parenthesis and marks anywhere, all
other kinds where a lexeme ends. -/
def Kind.EndsAt : Kind → Text → Prop
  | functionName, rest => rest.head? = some '('
  | opening, _ | closing, _ | comma, _ => True
  | _, rest => Ends rest

/-- Where a lexeme ends, it stops. -/
theorem Kind.EndsAt.stopsAt {k : Kind} {rest : Text} (h : k.EndsAt rest) (t : Text) :
    k.StopsAt t rest := by
  cases k with
  | functionName => exact h
  | time => exact continuesName_eq_false fun c hc => (of_endsLexeme (h c hc)).2.1
  | number =>
    intro c hc
    obtain ⟨⟨hdigit, hpoint⟩, hname, -, -, -, -, hpercent, -⟩ := of_endsLexeme (h c hc)
    exact ⟨⟨hdigit, fun heq => absurd heq hpoint⟩, hname, hpercent⟩
  | ident =>
    intro c hc
    obtain ⟨-, -, hident, -, -, -, -, hparen⟩ := of_endsLexeme (h c hc)
    exact ⟨hident, hparen⟩
  | percent => trivial
  | string => trivial
  | opening => trivial
  | closing => trivial
  | comma => trivial

/-- A spelled lexeme is read as a whole. -/
theorem Kind.read?_append {k : Kind} {t rest : Text} (h : k.Spells t) (hrest : k.StopsAt t rest) :
    k.read? (t ++ rest) = some (t, rest) := by
  cases h with
  | functionName hname =>
    cases rest with
    | nil => cases hrest
    | cons c rest =>
      cases hrest
      simp only [functionNames, List.mem_cons, List.not_mem_nil, or_false] at hname
      rcases hname with rfl | rfl | rfl <;> rfl
  | time hn hfront hc => exact readTime?_append hn hfront hc hrest
  | number hn =>
    have hstop := continuesName_eq_false fun c hc => (hrest c hc).2.1
    simp only [read?, readNumber?, Numeral.read?_append_of_stops hn fun c hc => (hrest c hc).1,
      Option.bind_some, hstop, Bool.false_eq_true, if_false]
  | @percent n hn =>
    have hhead : ∀ c ∈ ('%' :: rest).head?,
        Text.isDigit c = false ∧ (c = '.' → n.places ≠ none) := by
      rintro c ⟨⟩
      exact ⟨by decide, fun h => absurd h (by decide)⟩
    rw [read?, readPercent?, List.append_assoc, List.singleton_append,
      Numeral.read?_spelling_append hn hhead]
    rfl
  | ident hhyphen hc ht => exact readIdent?_append hhyphen hc ht fun d hd => (hrest d hd).1
  | string hquote hinner => exact readString?_append hquote hinner rest
  | opening => rfl
  | closing => rfl
  | comma => rfl

/-- A text is spelled as a kind has it exactly if it is read to its end. Function names alone are
not, since something must stand behind them. -/
theorem Kind.spells_iff {k : Kind} {t : Text} (hk : k ≠ .functionName) :
    k.Spells t ↔ k.read? t = some (t, []) := by
  constructor
  · intro h
    have hends : k.EndsAt [] := by
      cases k with
      | functionName => exact absurd rfl hk
      | time | number | percent | ident | string => exact ends_nil
      | opening | closing | comma => trivial
    simpa using Kind.read?_append h (hends.stopsAt t)
  · exact fun h => (Kind.spells_of_read? h).1

/-! ## What is tried before reads nothing -/

/-- The kinds that are tried before a kind, in any state. -/
def Kind.before : Kind → List Kind
  | functionName | percent | opening => []
  | time => [functionName]
  | number => [functionName, time, percent]
  | ident => [functionName, time, number, percent]
  | string => [functionName, time, number, ident]
  | comma => [percent, number, ident]
  | closing => [percent, number, ident, comma]

theorem readFunctionName?_eq_none {c : Char} (hc : c ∉ ['c', 's', 'l']) (s : Text) :
    readFunctionName? (c :: s) = none := by
  simp only [List.mem_cons, List.not_mem_nil, or_false, not_or] at hc
  have hnone {d : Char} (hd : c ≠ d) (t : Text) : Text.after? (d :: t) (c :: s) = none := by
    rw [Text.after?, if_neg (Ne.symm hd)]
  rw [readFunctionName?, List.findSome?_eq_none_iff]
  intro name hname
  simp only [functionNames, List.mem_cons, List.not_mem_nil, or_false] at hname
  -- Each of the three names has its own first letter.
  rcases hname with rfl | rfl | rfl
  · rw [show "cubic-bezier".toList = 'c' :: "ubic-bezier".toList from rfl, hnone hc.1]
  · rw [show "steps".toList = 's' :: "teps".toList from rfl, hnone hc.2.1]
  · rw [show "linear".toList = 'l' :: "inear".toList from rfl, hnone hc.2.2]

/-- Behind an identifier stands no parenthesis, so it is no function name. -/
private theorem readFunctionName?_ident {t rest : Text} (ht : ∀ c ∈ t, isIdentChar c = true)
    (hrest : ∀ c ∈ rest.head?, isIdentChar c = false ∧ c ≠ '(') :
    readFunctionName? (t ++ rest) = none := by
  have hnames : ∀ name ∈ functionNames, ∀ c ∈ name, isIdentChar c = true := by decide
  rw [readFunctionName?, List.findSome?_eq_none_iff]
  intro name hname
  split
  · next behind hafter =>
    -- Both the identifier and the name are the longest stretch of their characters.
    have hident := (takeWhile_append_of_head ht fun c hc => (hrest c hc).1).2
    have hparen : ∀ c ∈ ('(' :: behind).head?, isIdentChar c = false := by
      simp only [List.head?_cons, Option.mem_some_iff, forall_eq']
      decide
    have hcall := (takeWhile_append_of_head (hnames name hname) hparen).2
    rw [← Text.after?_eq_some_iff.1 hafter, hident] at hcall
    rw [hcall] at hrest
    exact absurd rfl (hrest '(' rfl).2
  · rfl

private theorem read?_eq_none_of_numeral {s : Text} (h : Numeral.read? s = none) :
    ∀ k ∈ [Kind.time, .number, .percent], k.read? s = none := by
  intro k hk
  simp only [List.mem_cons, List.not_mem_nil, or_false] at hk
  rcases hk with rfl | rfl | rfl <;>
    simp [Kind.read?, readTime?, readNumber?, readPercent?, h]

private theorem Numeral.readUnsigned?_eq_none {negative : Bool} {c : Char}
    (hc : c ≠ '.' ∧ Text.isDigit c = false) (s : Text) :
    readUnsigned? negative (c :: s) = none := by
  simp [readUnsigned?, hc.1, hc.2]

private theorem Numeral.read?_eq_none {c : Char}
    (hc : c ≠ '-' ∧ c ≠ '.' ∧ Text.isDigit c = false) (s : Text) : read? (c :: s) = none := by
  unfold read?
  split
  · next t ht => exact absurd (List.cons.inj ht).1 hc.1
  · exact readUnsigned?_eq_none hc.2 s

/-- The digits of all scripts stand apart from what starts an identifier. -/
private theorem isDigit_of_isIdentStart {c : Char} (h : isIdentStart c = true) :
    c ≠ '-' ∧ c ≠ '.' ∧ Text.isDigit c = false := by
  have hapart : ∀ start ∈ Text.zeroTable, start + 10 ≤ 65 ∨ 122 < start := by decide
  have hrange : 65 ≤ c.toNat ∧ c.toNat ≤ 122 := by
    rw [isIdentStart, Bool.or_eq_true, beq_iff_eq] at h
    rcases h with hletter | rfl
    · have := Text.toNat_of_isAlpha hletter
      omega
    · decide
  refine ⟨?_, ?_, ?_⟩
  · rintro rfl
    exact absurd h (by decide)
  · rintro rfl
    exact absurd h (by decide)
  · rw [← Bool.not_eq_true]
    intro hdigit
    obtain ⟨value, hvalue⟩ := Option.isSome_iff_exists.1 hdigit
    obtain ⟨start, hstart, hin⟩ := List.exists_of_findSome?_eq_some hvalue
    have := hapart start hstart
    split at hin
    · omega
    · cases hin

/-- Of the other kinds only function names can begin like an identifier. -/
private theorem numeral_read?_ident {hyphen t : Text} {c : Char}
    (hhyphen : hyphen = [] ∨ hyphen = ['-']) (hc : isIdentStart c = true) (rest : Text) :
    Numeral.read? (hyphen ++ c :: t ++ rest) = none := by
  have hdigit := isDigit_of_isIdentStart hc
  rcases hhyphen with rfl | rfl
  · exact Numeral.read?_eq_none hdigit (t ++ rest)
  · exact Numeral.readUnsigned?_eq_none hdigit.2 (t ++ rest)

/-- Neither a quote nor a mark begins a lexeme of another kind. -/
theorem Kind.read?_eq_none_of_mark {c : Char} (hc : c ∈ ['"', '\'', ',', ')', '(', '%'])
    (s : Text) :
    ∀ k ∈ [Kind.functionName, .time, .number, .percent, .ident], k.read? (c :: s) = none := by
  have hall : ∀ c ∈ ['"', '\'', ',', ')', '(', '%'], c ∉ ['c', 's', 'l'] ∧
      (c ≠ '-' ∧ c ≠ '.' ∧ Text.isDigit c = false) ∧ isIdentStart c = false := by
    decide
  obtain ⟨hname, hnumeral, hident⟩ := hall c hc
  intro k hk
  simp only [List.mem_cons, List.not_mem_nil, or_false] at hk
  have hnone := read?_eq_none_of_numeral (Numeral.read?_eq_none hnumeral s)
  rcases hk with rfl | rfl | rfl | rfl | rfl
  · exact readFunctionName?_eq_none hname s
  · exact hnone .time (by simp)
  · exact hnone .number (by simp)
  · exact hnone .percent (by simp)
  · simp [Kind.read?, readIdent?, hnumeral.1, hident]

/-- A unit of time goes on with a name. -/
private theorem readTimeUnit?_eq_none {rest : Text}
    (h : ∀ c ∈ rest.head?, Text.isNameChar c = false) : readTimeUnit? rest = none := by
  cases rest with
  | nil => rfl
  | cons c rest =>
    have hletters : ∀ d ∈ ['s', 'S', 'ſ', 'm', 'M'], Text.isNameChar d = true := by
      decide +kernel
    have hc : c ∉ ['s', 'S', 'ſ', 'm', 'M'] := by
      intro hmem
      have hname := h c rfl
      rw [hletters c hmem] at hname
      cases hname
    simp only [List.mem_cons, List.not_mem_nil, or_false, not_or] at hc
    simp [readTimeUnit?, isSecond, hc]

/-- A numeral does not begin like a function name. -/
private theorem readFunctionName?_numeral {n : Numeral} (h : n.WellFormed) (s : Text) :
    readFunctionName? (n.spelling ++ s) = none := by
  obtain ⟨c, t, hcons, hc⟩ := Numeral.head_spelling h
  rw [hcons, List.cons_append]
  apply readFunctionName?_eq_none
  intro hmem
  have hall : ∀ c ∈ ['c', 's', 'l'], ¬(c = '-' ∨ c = '.' ∨ Text.isDigit c = true) := by decide
  exact hall c hmem hc

/-- None of the kinds tried before reads anything of a spelled lexeme. -/
theorem Kind.read?_eq_none_of_before {k k' : Kind} {t rest : Text} (h : k.Spells t)
    (hrest : k.StopsAt t rest) (hbefore : k' ∈ k.before) : k'.read? (t ++ rest) = none := by
  cases h with
  | functionName => cases hbefore
  | time hn =>
    rw [List.mem_singleton.1 hbefore, List.append_assoc]
    exact readFunctionName?_numeral hn _
  | number hn =>
    have hread := Numeral.read?_append_of_stops hn fun c hc => (hrest c hc).1
    simp only [before, List.mem_cons, List.not_mem_nil, or_false] at hbefore
    rcases hbefore with rfl | rfl | rfl
    · exact readFunctionName?_numeral hn rest
    · -- What ends a number is no unit of time.
      have hunit : readTimeUnit? rest = none :=
        readTimeUnit?_eq_none fun c hc => (hrest c hc).2.1
      simp only [read?, readTime?, hread, Option.bind_some, hunit, Option.bind_none]
    · -- Nor is it a percent sign.
      simp only [read?, readPercent?, hread, Option.bind_some]
      split
      · next behind => exact absurd rfl (hrest '%' rfl).2.2
      · rfl
  | percent => cases hbefore
  | @ident hyphen c t hhyphen hc ht =>
    have hchars : ∀ d ∈ hyphen ++ c :: t, isIdentChar d = true := by
      rw [List.forall_mem_append, List.forall_mem_cons]
      refine ⟨?_, isIdentChar_of_isIdentStart hc, ht⟩
      rcases hhyphen with rfl | rfl <;> decide
    have hnone := read?_eq_none_of_numeral (numeral_read?_ident (t := t) hhyphen hc rest)
    simp only [before, List.mem_cons, List.not_mem_nil, or_false] at hbefore
    rcases hbefore with rfl | rfl | rfl | rfl
    · exact readFunctionName?_ident hchars hrest
    · exact hnone .time (by simp)
    · exact hnone .number (by simp)
    · exact hnone .percent (by simp)
  | @string quote inner hquote =>
    have hmark := Kind.read?_eq_none_of_mark (c := quote) (by rcases hquote with rfl | rfl <;> simp)
      (inner ++ [quote] ++ rest)
    simp only [before, List.mem_cons, List.not_mem_nil, or_false] at hbefore
    rcases hbefore with rfl | rfl | rfl | rfl <;> exact hmark _ (by simp)
  | opening => cases hbefore
  | closing =>
    have hmark := Kind.read?_eq_none_of_mark (c := ')') (by simp) rest
    simp only [before, List.mem_cons, List.not_mem_nil, or_false] at hbefore
    rcases hbefore with rfl | rfl | rfl | rfl
    · exact hmark _ (by simp)
    · exact hmark _ (by simp)
    · exact hmark _ (by simp)
    · rfl
  | comma =>
    have hmark := Kind.read?_eq_none_of_mark (c := ',') (by simp) rest
    simp only [before, List.mem_cons, List.not_mem_nil, or_false] at hbefore
    rcases hbefore with rfl | rfl | rfl <;> exact hmark _ (by simp)

/-- Whatever a state tries in front of a kind comes before it. -/
theorem State.pairwise_accepts (state : State) :
    state.accepts.Pairwise fun earlier k => earlier ∈ k.before := by
  cases state with
  | between terms => simp [accepts, Kind.before]
  | named terms name => simp [accepts]
  | inCall terms name arguments current =>
    cases current with
    | nil => simp [accepts, Kind.before]
    | cons t current => simp [accepts, Kind.before]

/-- In every state that accepts its kind, a spelled lexeme is what is read. -/
theorem State.read?_of_spells {state : State} {k : Kind} {t rest : Text}
    (hk : k ∈ state.accepts) (h : k.Spells t) (hrest : k.StopsAt t rest) :
    state.read? (t ++ rest) = some (⟨k, t⟩, rest) := by
  obtain ⟨front, behind, haccepts⟩ := List.append_of_mem hk
  have hpairwise := state.pairwise_accepts
  rw [haccepts] at hpairwise
  have hbefore := (List.pairwise_append.1 hpairwise).2.2
  rw [read?, List.findSome?_eq_some_iff]
  refine ⟨front, k, behind, haccepts, ?_, ?_⟩
  · rw [Kind.read?_append h hrest]
    rfl
  · intro k' hk'
    rw [Kind.read?_eq_none_of_before h hrest (hbefore k' hk' k List.mem_cons_self)]
    rfl

end NativeStyle.Animation
