import NativeStyle.Proofs.Derivations

/-!
# What a lexeme looks at behind it

Some lexemes look at the character behind them, and a number looks further: where digits with a
point run into a name, it falls back to the digits in front of the point. But then nothing can be
read behind it, since what follows is the point and the same name (`State.read?_behind_cut_number`).
So a lexeme with another one behind it depends on no more than one character
(`State.stopsAt_of_read?_push`), and the lexemes in front of a place are read as they are, whatever
comes instead of the text from there on, as long as the last of them stops there.

Main results:
- `State.stopsAt_of_read?_push` (a lexeme with another one behind it),
- `State.Lexes.readsAs` (lexemes in front of another text),
- `exists_lexes_of_readFrom` (the lexemes in front of the place where a text is rejected).
-/

namespace NativeStyle

/-- The digits of all scripts are word characters. -/
theorem Text.isNameChar_of_isDigit {c : Char} (h : isDigit c = true) : isNameChar c = true := by
  have hwords : ∀ start ∈ zeroTable, start = 0x30 ∨
      0x80 ≤ start ∧ ∃ r ∈ wordTable, r.first ≤ start ∧ start + 9 ≤ r.last := by
    decide +kernel
  obtain ⟨value, hvalue⟩ := Option.isSome_iff_exists.1 h
  obtain ⟨start, hstart, hin⟩ := List.exists_of_findSome?_eq_some hvalue
  split at hin
  · next hrange =>
    have hword : isWord c = true := by
      rcases hwords start hstart with rfl | ⟨hbeyond, r, hr, hfirst, hlast⟩
      · have hdigit : c.isDigit = true := by
          simp only [Char.isDigit, Bool.and_eq_true, decide_eq_true_eq, UInt32.le_iff_toNat_le,
            ge_iff_le]
          exact ⟨hrange.1, Nat.le_of_lt_succ hrange.2⟩
        exact isWord_of_isAlphanum (by omega) (by simp [Char.isAlphanum, hdigit])
      · rw [isWord, if_neg (by omega)]
        exact CodeRange.holds_iff.2 ⟨r, hr, by omega, by omega⟩
    simp [isNameChar, hword]
  · cases hin

namespace Animation

/-! ## One character behind a lexeme -/

/-- Only the first character behind a lexeme matters for where it stops. -/
theorem Kind.StopsAt.congr {k : Kind} {t rest rest' : Text} (h : k.StopsAt t rest)
    (hhead : rest'.head? = rest.head?) : k.StopsAt t rest' := by
  have hname : continuesName rest' = continuesName rest := by
    cases rest <;> cases rest' <;> simp_all [continuesName]
  cases k with
  | functionName => exact hhead.trans h
  | time => exact hname.trans h
  | number =>
    intro c hc
    exact h c (hhead ▸ hc)
  | ident =>
    intro c hc
    exact h c (hhead ▸ hc)
  | percent => trivial
  | string => trivial
  | opening => trivial
  | closing => trivial
  | comma => trivial

private theorem isIdentChar_of_readIdent? {s t rest : Text} (h : readIdent? s = some (t, rest)) :
    ∀ c ∈ rest.head?, isIdentChar c = false := by
  have hstop (u : Text) : ∀ c ∈ (u.dropWhile isIdentChar).head?, isIdentChar c = false := by
    intro c hc
    have hnot := List.head?_dropWhile_not isIdentChar u
    rw [Option.mem_def.1 hc] at hnot
    simpa using hnot
  unfold readIdent? at h
  split at h
  · split at h <;> cases h
    exact hstop _
  · split at h <;> cases h
    exact hstop _
  · cases h

/-- Behind the name of a function its parenthesis is read, and nowhere else; a percent sign alone
is never read. -/
theorem State.read?_eq_none_of_foreign {state : State} {c : Char}
    (hc : c = '%' ∨ c = '(' ∧ ∀ terms name, state ≠ .named terms name) (s : Text) :
    state.read? (c :: s) = none := by
  have hmem : c ∈ ['"', '\'', ',', ')', '(', '%'] := by
    rcases hc with rfl | ⟨rfl, -⟩ <;> simp
  have hothers := Kind.read?_eq_none_of_mark hmem s
  have hmarks : c ≠ ',' ∧ c ≠ ')' ∧ c ≠ '"' ∧ c ≠ '\'' := by
    rcases hc with rfl | ⟨rfl, -⟩ <;> decide
  have hstring : readString? (c :: s) = none := by
    simp [readString?, hmarks]
  rw [read?, List.findSome?_eq_none_iff]
  intro k hk
  rw [Option.map_eq_none_iff]
  cases k with
  | functionName => exact hothers _ (by simp)
  | time => exact hothers _ (by simp)
  | number => exact hothers _ (by simp)
  | percent => exact hothers _ (by simp)
  | ident => exact hothers _ (by simp)
  | string => exact hstring
  | closing => simp [Kind.read?, readMark?, hmarks]
  | comma => simp [Kind.read?, readMark?, hmarks]
  | opening =>
    rcases hc with rfl | ⟨-, hnamed⟩
    · rfl
    · -- Only a state behind a name accepts a parenthesis.
      cases state with
      | between terms => simp [accepts] at hk
      | named terms name => exact absurd rfl (hnamed terms name)
      | inCall terms name arguments current => cases current <;> simp [accepts] at hk

/-! ## Numbers that fall back -/

/-- A numeral ends where no digit stands, and before a point only if it has one. -/
private theorem Numeral.head_of_read? {s rest : Text} {n : Numeral}
    (h : Numeral.read? s = some (n, rest)) :
    ∀ c ∈ rest.head?, Text.isDigit c = false ∧ (c = '.' → n.places ≠ none) := by
  have hdrop (t : Text) : ∀ c ∈ (t.dropWhile Text.isDigit).head?, Text.isDigit c = false := by
    intro c hc
    have hnot := List.head?_dropWhile_not Text.isDigit t
    rw [Option.mem_def.1 hc] at hnot
    simpa using hnot
  have hunsigned {negative : Bool} {t : Text}
      (h : Numeral.readUnsigned? negative t = some (n, rest)) :
      ∀ c ∈ rest.head?, Text.isDigit c = false ∧ (c = '.' → n.places ≠ none) := by
    simp only [readUnsigned?] at h
    split at h
    · split at h <;> cases h
      exact fun c hc => ⟨hdrop _ c hc, by simp⟩
    · next hnoPoint =>
      split at h <;> cases h
      intro c hc
      refine ⟨hdrop _ c hc, ?_⟩
      rintro rfl
      obtain ⟨tail, htail⟩ := List.head?_eq_some_iff.1 hc
      exact absurd htail (hnoPoint tail)
  unfold Numeral.read? at h
  split at h <;> exact hunsigned h

/-- A number that stops in front of a point without having one was a numeral with a point, which a
name goes on with. -/
private theorem exists_numeral_of_cut {s t behind : Text}
    (h : readNumber? s = some (t, '.' :: behind)) (hpoint : '.' ∉ t) :
    ∃ n places tail, Numeral.read? s = some (n, tail) ∧ n.places = some places ∧
      continuesName tail = true ∧ behind = places ++ tail := by
  simp only [readNumber?, Option.bind_eq_some_iff, Prod.exists] at h
  obtain ⟨n, tail, hn, h⟩ := h
  split at h
  · next hname =>
    split at h
    · next places hplaces =>
      split at h <;> cases h
      exact ⟨n, places, tail, hn, hplaces, hname, rfl⟩
    · cases h
  · -- The numeral itself has no point, so it does not end in front of one.
    cases h
    have hplaces := (Numeral.head_of_read? hn '.' rfl).2 rfl
    obtain ⟨places, hplaces⟩ := Option.ne_none_iff_exists'.1 hplaces
    exact absurd (by simp [Numeral.spelling, hplaces]) hpoint

/-- The point and the digits behind it are a numeral of their own, if there are any digits. -/
private theorem Numeral.read?_point {s tail places : Text} {n : Numeral}
    (h : Numeral.read? s = some (n, tail)) (hplaces : n.places = some places) :
    Numeral.read? ('.' :: (places ++ tail)) =
      if places = [] then none else some (⟨false, [], some places⟩, tail) := by
  have hdigits : ∀ c ∈ places, Text.isDigit c = true := by
    intro c hc
    exact (Numeral.wellFormed_of_read? h).1 c (by simp [hplaces, hc])
  obtain ⟨htake, hdrop⟩ := takeWhile_append_of_head hdigits fun c hc =>
    (Numeral.head_of_read? h c hc).1
  have hpoint : Text.isDigit '.' = false := by decide
  simp [read?, readUnsigned?, hpoint, htake, hdrop]

/-- What is read is of the first kind that reads anything. -/
theorem State.read?_eq_none_of_accepts {state : State} {s rest : Text} {l : Lexeme} {k : Kind}
    (h : state.read? s = some (l, rest)) (hk : k ∈ state.accepts) (hne : k ≠ l.kind)
    (hbefore : l.kind ∉ k.before) : k.read? s = none := by
  have hpairwise := state.pairwise_accepts
  obtain ⟨front, k', behind, haccepts, hread, hnone⟩ := List.findSome?_eq_some_iff.1 h
  obtain ⟨⟨t, rest'⟩, -, heq⟩ := Option.map_eq_some_iff.1 hread
  obtain rfl : k' = l.kind := congrArg (fun r => r.1.kind) heq
  rw [haccepts] at hk hpairwise
  rcases List.mem_append.1 hk with hfront | hbehind
  · simpa using hnone k hfront
  · rcases List.mem_cons.1 hbehind with rfl | hbehind
    · exact absurd rfl hne
    · have hcons := (List.pairwise_append.1 hpairwise).2.1
      exact absurd ((List.pairwise_cons.1 hcons).1 k hbehind) hbefore

/-- Where a number has fallen back to the digits in front of its point, nothing is read behind
it. -/
theorem State.read?_behind_cut_number {state : State} {s t behind : Text}
    (h : state.read? s = some (⟨.number, t⟩, '.' :: behind)) (hpoint : '.' ∉ t) :
    (state.push ⟨.number, t⟩).read? ('.' :: behind) = none := by
  obtain ⟨n, places, tail, hn, hplaces, hname, rfl⟩ :=
    exists_numeral_of_cut (State.read?_eq_some h) hpoint
  have hnumeral := Numeral.read?_point hn hplaces
  rw [read?, List.findSome?_eq_none_iff]
  intro k hk
  rw [Option.map_eq_none_iff]
  cases k with
  | functionName => exact readFunctionName?_eq_none (by decide) _
  | ident => rfl
  | string => rfl
  | opening => rfl
  | closing => rfl
  | comma => rfl
  | number =>
    simp only [Kind.read?, readNumber?, hnumeral]
    by_cases hnone : places = [] <;> simp [hnone, hname]
  | percent =>
    have hsign : Text.isNameChar '%' = false := by decide
    have hpercent : ∀ rest, tail ≠ '%' :: rest := by
      rintro rest rfl
      rw [continuesName, hsign] at hname
      cases hname
    simp only [Kind.read?, readPercent?, hnumeral]
    by_cases hnone : places = []
    · simp [hnone]
    · rw [if_neg hnone, Option.bind_some]
      split
      · next hrest => exact absurd hrest (hpercent _)
      · rfl
  | time =>
    -- The same unit would have been read behind the whole numeral, and the number as a time.
    have htime : readTime? s = none := by
      cases state with
      | between terms =>
        exact State.read?_eq_none_of_accepts (k := .time) h (by simp [accepts]) (by simp)
          (by simp [Kind.before])
      | named terms name => simp [push, accepts] at hk
      | inCall terms name arguments current =>
        cases current <;> simp [push, accepts] at hk
    simp only [readTime?, hn, Option.bind_some, Option.bind_eq_none_iff, Prod.forall] at htime
    simp only [Kind.read?, readTime?, hnumeral]
    by_cases hnone : places = []
    · simp [hnone]
    · rw [if_neg hnone, Option.bind_some, Option.bind_eq_none_iff]
      rintro ⟨unit, rest⟩ hunit
      simpa using htime unit rest hunit

/-! ## A lexeme with another one behind it -/

/-- A lexeme depends on no more than the character behind it, if another lexeme is read there. -/
theorem State.stopsAt_of_read?_push {state : State} {s rest : Text} {l : Lexeme}
    (h : state.read? s = some (l, rest))
    (hnext : (state.push l).read? (rest.dropWhile isGap) ≠ none) :
    l.kind.StopsAt l.text rest := by
  obtain ⟨kind, t⟩ := l
  have hprecedes := (Kind.spells_of_read? (State.read?_eq_some h)).2
  -- A character that is no gap is where the next lexeme begins.
  have hbegins {c : Char} (hc : c ∈ rest.head?) (hgap : isGap c = false) :
      ∃ more, rest = c :: more ∧ (state.push ⟨kind, t⟩).read? (c :: more) ≠ none := by
    obtain ⟨more, rfl⟩ := List.head?_eq_some_iff.1 hc
    rw [List.dropWhile_cons_of_neg (by simp [hgap])] at hnext
    exact ⟨more, rfl, hnext⟩
  cases kind with
  | functionName => exact hprecedes
  | time => exact hprecedes
  | number =>
    intro c hc
    have hname : Text.isNameChar c = false := by
      obtain ⟨more, rfl⟩ := List.head?_eq_some_iff.1 hc
      exact hprecedes
    refine ⟨⟨?_, ?_⟩, hname, ?_⟩
    · rw [← Bool.not_eq_true]
      intro hdigit
      rw [Text.isNameChar_of_isDigit hdigit] at hname
      cases hname
    · rintro rfl
      by_contra hpoint
      obtain ⟨more, rfl, hread⟩ := hbegins hc (by decide)
      exact hread (State.read?_behind_cut_number h hpoint)
    · rintro rfl
      obtain ⟨more, rfl, hread⟩ := hbegins hc (by decide)
      exact hread (State.read?_eq_none_of_foreign (Or.inl rfl) more)
  | ident =>
    intro c hc
    refine ⟨isIdentChar_of_readIdent? (State.read?_eq_some h) c hc, ?_⟩
    rintro rfl
    obtain ⟨more, rfl, hread⟩ := hbegins hc (by decide)
    refine hread (State.read?_eq_none_of_foreign (Or.inr ⟨rfl, ?_⟩) more)
    cases state <;> simp [push]
  | percent => trivial
  | string => trivial
  | opening => trivial
  | closing => trivial
  | comma => trivial

/-! ## The lexemes in front of a place -/

/-- A lexeme begins behind the gaps. -/
theorem State.dropWhile_isGap_append {state : State} {gap s rest : Text} {l : Lexeme}
    (hgap : IsGaps gap) (h : state.read? s = some (l, rest)) :
    (gap ++ s).dropWhile isGap = s := by
  obtain ⟨-, heq, -⟩ := State.accepts_of_read? h
  obtain ⟨c, t, hcons, hc⟩ := (Kind.spells_of_read? (State.read?_eq_some h)).1.head
  rw [List.dropWhile_append_of_pos hgap, heq, hcons, List.cons_append,
    List.dropWhile_cons_of_neg (by simp [hc])]

/-- In front of what stands behind, these lexemes are read of a text from one state to another, with
nothing but gaps in front of each. -/
inductive State.Lexes (behind : Text) : State → Text → List Lexeme → State → Prop where
  | nil {state : State} : Lexes behind state [] [] state
  | cons {state final : State} {gap front : Text} {l : Lexeme} {lexemes : List Lexeme} :
      IsGaps gap → state.read? (l.text ++ (front ++ behind)) = some (l, front ++ behind) →
      Lexes behind (state.push l) front lexemes final →
      Lexes behind state (gap ++ (l.text ++ front)) (l :: lexemes) final

namespace State.Lexes

variable {behind front : Text} {state final : State} {lexemes : List Lexeme}

/-- The lexemes are read as they are in front of any text that the last of them stops at. -/
theorem readsAs {other : Text} {read : List Term} (h : Lexes behind state front lexemes final)
    (hlast : ∀ l ∈ lexemes.getLast?, l.kind.StopsAt l.text other)
    (hother : final.ReadsAs other read) : state.ReadsAs (front ++ other) read := by
  induction h with
  | nil => exact hother
  | @cons state final gap front l lexemes hgap hread hrest ih =>
    obtain ⟨hkind, -, -⟩ := State.accepts_of_read? hread
    obtain ⟨hspells, -⟩ := Kind.spells_of_read? (State.read?_eq_some hread)
    have hstop : l.kind.StopsAt l.text (front ++ other) := by
      cases hrest with
      | nil => exact hlast l rfl
      | @cons _ _ gap front l' lexemes hgap hread' =>
        -- Another lexeme follows: the character that this one looks at is in front of the place.
        have hnext := State.dropWhile_isGap_append hgap hread'
        have hstop := State.stopsAt_of_read?_push hread (by simp [hnext, hread'])
        apply hstop.congr
        have hne : gap ++ (l'.text ++ front) ≠ [] := by
          simp [(State.accepts_of_read? hread').2.2]
        rw [List.head?_append_of_ne_nil _ hne, List.head?_append_of_ne_nil _ hne]
    have hlater : (state.push l).ReadsAs (front ++ other) read := by
      apply ih _ hother
      cases lexemes with
      | nil => simp
      | cons => simpa using hlast
    rw [List.append_assoc, List.append_assoc]
    exact (hlater.lexeme_append hkind hspells hstop).gap_append hgap

/-- Where the last lexeme starts, and the state that read it. -/
theorem exists_last {l : Lexeme} (h : Lexes behind state front lexemes final)
    (hlast : lexemes.getLast? = some l) :
    ∃ before, ∃ previous : State, front = before ++ l.text ∧ final = previous.push l ∧
      previous.read? (l.text ++ behind) = some (l, behind) := by
  induction h with
  | nil => cases hlast
  | @cons state final gap front l' lexemes hgap hread hrest ih =>
    cases lexemes with
    | nil =>
      cases hrest
      cases hlast
      exact ⟨gap, state, by simp, rfl, by simpa using hread⟩
    | cons =>
      obtain ⟨before, previous, rfl, hfinal, hprevious⟩ := ih (by simpa using hlast)
      exact ⟨gap ++ (l'.text ++ before), previous, by simp, hfinal, hprevious⟩

end State.Lexes

/-- What stands behind the lexemes of a text that is rejected: something else than gaps at the place
of the rejection, or gaps alone, and then the rejection is at the start of the last lexeme, or where
reading started. -/
def Rejection.Follows (start : Text) (lexemes : List Lexeme) (behind : Text) : Rejection → Prop
  | .unexpected rest => behind.dropWhile isGap = rest ∧ rest ≠ []
  | .incomplete last =>
    IsGaps behind ∧ last = lexemes.getLast?.elim start fun l => l.text ++ behind

/-- A text is rejected behind lexemes that are read of it. -/
theorem exists_lexes_of_readFrom {state : State} {last s : Text} {r : Rejection}
    (h : readFrom state last s = .error r) :
    ∃ front behind lexemes final, s = front ++ behind ∧
      State.Lexes behind state front lexemes final ∧ r.Follows last lexemes behind := by
  -- The induction follows the reader, and adds a lexeme in front of those that are read behind it.
  fun_induction readFrom state last s with
  | case1 => cases h
  | case2 state last s hend =>
    cases h
    exact ⟨[], s, [], state, rfl, .nil, List.dropWhile_eq_nil_iff.1 hend, rfl⟩
  | case3 state last s c t hgap l rest hread ih =>
    obtain ⟨front, behind, lexemes, final, rfl, hlexes, hr⟩ := ih h
    obtain ⟨-, heq, -⟩ := State.accepts_of_read? hread
    have hs : s = s.takeWhile isGap ++ (l.text ++ front) ++ behind := by
      rw [List.append_assoc, List.append_assoc, ← heq, ← hgap, List.takeWhile_append_dropWhile]
    refine ⟨_, behind, l :: lexemes, final, hs, .cons ?_ ?_ hlexes, ?_⟩
    · exact List.all_eq_true.1 List.all_takeWhile
    · rw [← heq]
      exact hread
    · cases r with
      | unexpected => exact hr
      | incomplete start =>
        refine ⟨hr.1, hr.2.trans ?_⟩
        cases hlexes with
        | nil => exact heq
        | cons => simp [List.getLast?_cons]
  | case4 state last s c t hgap hread =>
    cases h
    exact ⟨[], s, [], state, rfl, .nil, hgap, List.cons_ne_nil c t⟩

end Animation

end NativeStyle
