import NativeStyle.Proofs.Longhands
import NativeStyle.Proofs.Spellings
import NativeStyle.Proofs.Times

/-!
# The grammar of an animation

An animation derives a list of lexemes: a term is a single lexeme or a call, a call is a function
name with its arguments in parentheses and commas between them, and an argument is one or more
numbers, percentages and identifiers (`Term.Derives`).

Reading is *sound*: the lexemes that are read stand in the text in order, with nothing but gaps
between them, and the terms derive exactly these lexemes. The invariant is that the terms so far,
and the open call if there is one, derive the lexemes read so far (`State.Derives`); one lexeme
keeps it (`State.derives_push`).

Reading is also *complete*: terms that are written one after the other with gaps between them are
read as these terms, whatever the gaps are (`terms_of_gapped`).

Main result: `terms_sound_and_complete` (both, down to the components that fill the fields).
-/

namespace NativeStyle.Animation

/-! ## Derivations -/

/-- The kinds of lexemes that an argument is made of. -/
def argumentKinds : List Kind := [.number, .percent, .ident]

/-- The lexemes of an argument. -/
def IsArgument (lexemes : List Lexeme) : Prop :=
  lexemes ≠ [] ∧ ∀ l ∈ lexemes, l.kind ∈ argumentKinds

/-- The texts of the lexemes of arguments. -/
def argumentTexts (arguments : List (List Lexeme)) : List (List Text) :=
  arguments.map fun argument => argument.map Lexeme.text

/-- The lexemes of arguments with a comma behind each. -/
def withCommas (arguments : List (List Lexeme)) : List Lexeme :=
  arguments.flatMap (· ++ [⟨.comma, [',']⟩])

/-- The lexemes that a term derives. -/
inductive Term.Derives : Term → List Lexeme → Prop where
  | time (t : Text) : Derives (.time t) [⟨.time, t⟩]
  | number (t : Text) : Derives (.number t) [⟨.number, t⟩]
  | keyword (t : Text) : Derives (.keyword t) [⟨.ident, t⟩]
  | string (t : Text) : Derives (.string t) [⟨.string, t⟩]
  | call (name : Text) {arguments : List (List Lexeme)} :
      arguments ≠ [] → (∀ argument ∈ arguments, IsArgument argument) →
      Derives (.call name (argumentTexts arguments))
        (⟨.functionName, name⟩ :: ⟨.opening, ['(']⟩ ::
          ([⟨.comma, [',']⟩] : List Lexeme).intercalate arguments ++ [⟨.closing, [')']⟩])

/-- The lexemes that terms derive one after the other. -/
def DeriveAll (terms : List Term) (lexemes : List Lexeme) : Prop :=
  ∃ parts, List.Forall₂ Term.Derives terms parts ∧ lexemes = parts.flatten

/-- A text of gaps alone. -/
def IsGaps (t : Text) : Prop :=
  ∀ c ∈ t, isGap c = true

/-- The text is made of these lexemes in their order, with nothing but gaps around them. Each is
spelled as its kind has it and stands before what its kind asks for. -/
inductive Spaced : List Lexeme → Text → Prop where
  | nil {gap : Text} : IsGaps gap → Spaced [] gap
  | cons {gap rest : Text} {l : Lexeme} {lexemes : List Lexeme} :
      IsGaps gap → l.kind.Spells l.text → l.kind.Precedes rest → Spaced lexemes rest →
      Spaced (l :: lexemes) (gap ++ l.text ++ rest)

/-! ## Soundness -/

private theorem deriveAll_nil : DeriveAll [] [] :=
  ⟨[], .nil, rfl⟩

/-- One more term behind the others. -/
private theorem DeriveAll.concat {terms : List Term} {term : Term} {lexemes more : List Lexeme}
    (h : DeriveAll terms lexemes) (hterm : term.Derives more) :
    DeriveAll (terms ++ [term]) (lexemes ++ more) := by
  obtain ⟨parts, hparts, rfl⟩ := h
  refine ⟨parts ++ [more], List.rel_append hparts (.cons hterm .nil), ?_⟩
  rw [List.flatten_append, List.flatten_singleton]

/-- The complete arguments and the one that is being read, with the commas between them. -/
private theorem intercalate_concat (arguments : List (List Lexeme)) (current : List Lexeme) :
    ([⟨.comma, [',']⟩] : List Lexeme).intercalate (arguments ++ [current]) =
      withCommas arguments ++ current := by
  induction arguments with
  | nil => simp [withCommas]
  | cons argument arguments ih =>
    rw [List.cons_append, List.intercalate_cons_of_ne_nil (by simp), ih]
    simp [withCommas]

/-- Inside a call a comma or the closing parenthesis can follow once the argument has begun. -/
private theorem mem_accepts_inCall {terms : List Term} {name : Text} {arguments : List (List Text)}
    {current : List Text} {k : Kind} :
    k ∈ (State.inCall terms name arguments current).accepts ↔
      k ∈ argumentKinds ∨ current ≠ [] ∧ (k = .comma ∨ k = .closing) := by
  cases current with
  | nil => cases k <;> simp [State.accepts, argumentKinds]
  | cons => cases k <;> simp [State.accepts, argumentKinds]

/-- A lexeme of an argument goes to the argument that has begun. -/
theorem State.push_argument {terms : List Term} {name : Text} {complete : List (List Text)}
    {begun : List Lexeme} {l : Lexeme} (hl : l.kind ∈ argumentKinds) :
    (inCall terms name complete (begun.map Lexeme.text)).push l =
      inCall terms name complete ((begun ++ [l]).map Lexeme.text) := by
  obtain ⟨kind, t⟩ := l
  simp only [argumentKinds, List.mem_cons, List.not_mem_nil, or_false] at hl
  rcases hl with rfl | rfl | rfl <;> simp [push]

/-- What has been read derives these lexemes: the complete terms, and the parts of an open call. -/
def State.Derives : State → List Lexeme → Prop
  | .between terms, lexemes => DeriveAll terms lexemes
  | .named terms name, lexemes =>
    ∃ before, DeriveAll terms before ∧ lexemes = before ++ [⟨.functionName, name⟩]
  | .inCall terms name arguments current, lexemes =>
    ∃ before complete, ∃ begun : List Lexeme, DeriveAll terms before ∧
      arguments = argumentTexts complete ∧
      current = begun.map Lexeme.text ∧ (∀ argument ∈ complete, IsArgument argument) ∧
      (∀ l ∈ begun, l.kind ∈ argumentKinds) ∧
      lexemes = before ++ (⟨.functionName, name⟩ :: ⟨.opening, ['(']⟩ ::
        (withCommas complete ++ begun))

/-- One more lexeme is derived by the state behind it. -/
theorem State.derives_push {state : State} {lexemes : List Lexeme} {l : Lexeme}
    (h : state.Derives lexemes) (hkind : l.kind ∈ state.accepts) (hspells : l.kind.Spells l.text) :
    (state.push l).Derives (lexemes ++ [l]) := by
  obtain ⟨kind, t⟩ := l
  cases state with
  | between terms =>
    -- Between terms a lexeme is a term of its own or begins a call.
    simp only [accepts, List.mem_cons, List.not_mem_nil, or_false] at hkind
    rcases hkind with rfl | rfl | rfl | rfl | rfl
    · exact ⟨lexemes, h, rfl⟩
    · exact DeriveAll.concat h (.time t)
    · exact DeriveAll.concat h (.number t)
    · exact DeriveAll.concat h (.keyword t)
    · exact DeriveAll.concat h (.string t)
  | named terms name =>
    obtain ⟨before, hbefore, rfl⟩ := h
    simp only [accepts, List.mem_singleton] at hkind
    subst hkind
    cases hspells
    exact ⟨before, [], [], hbefore, rfl, rfl, by simp, by simp, by simp [withCommas]⟩
  | inCall terms name arguments current =>
    obtain ⟨before, complete, begun, hbefore, rfl, rfl, hcomplete, hbegun, rfl⟩ := h
    rcases mem_accepts_inCall.1 hkind with hargument | ⟨hne, hmark⟩
    · -- The lexeme goes to the argument that has begun.
      rw [push_argument hargument]
      refine ⟨before, complete, begun ++ [⟨kind, t⟩], hbefore, rfl, rfl, hcomplete, ?_, by simp⟩
      rw [List.forall_mem_append, List.forall_mem_singleton]
      exact ⟨hbegun, hargument⟩
    · -- A mark ends the argument, which is complete then.
      have hcomplete' : ∀ argument ∈ complete ++ [begun], IsArgument argument := by
        rw [List.forall_mem_append, List.forall_mem_singleton]
        exact ⟨hcomplete, by simpa using hne, hbegun⟩
      rcases hmark with rfl | rfl
      · cases hspells
        exact ⟨before, complete ++ [begun], [], hbefore, by simp [argumentTexts], rfl, hcomplete',
          by simp, by simp [withCommas]⟩
      · cases hspells
        have hcall := Term.Derives.call name (by simp) hcomplete'
        rw [intercalate_concat] at hcall
        have hall := hbefore.concat hcall
        simpa [Derives, push, argumentTexts] using hall

/-- The terms of a value derive the lexemes that it is made of. -/
theorem exists_derivation_of_terms {value : Text} {read : List Term} (h : terms value = .ok read) :
    ∃ lexemes, DeriveAll read lexemes ∧ Spaced lexemes value := by
  -- What is still to be read completes what has been read to the lexemes of the whole value.
  have hpush : ∀ (state : State) s l rest,
      (∃ lexemes, state.Derives lexemes ∧
        ∀ more, Spaced more s → Spaced (lexemes ++ more) value) →
      state.read? (s.dropWhile isGap) = some (l, rest) →
      ∃ lexemes, (state.push l).Derives lexemes ∧
        ∀ more, Spaced more rest → Spaced (lexemes ++ more) value := by
    rintro state s l rest ⟨lexemes, hderives, hvalue⟩ hread
    obtain ⟨hkind, heq, -⟩ := State.accepts_of_read? hread
    obtain ⟨hspells, hprecedes⟩ := Kind.spells_of_read? (State.read?_eq_some hread)
    refine ⟨lexemes ++ [l], State.derives_push hderives hkind hspells, ?_⟩
    intro more hmore
    have hgap : IsGaps (s.takeWhile isGap) := List.all_eq_true.1 List.all_takeWhile
    have hs : s = s.takeWhile isGap ++ l.text ++ rest := by
      rw [List.append_assoc, ← heq, List.takeWhile_append_dropWhile]
    rw [List.append_assoc, List.singleton_append]
    apply hvalue
    rw [hs]
    exact .cons hgap hspells hprecedes hmore
  have hstart : ∃ lexemes, (State.between []).Derives lexemes ∧
      ∀ more, Spaced more value → Spaced (lexemes ++ more) value :=
    ⟨[], deriveAll_nil, fun more hmore => hmore⟩
  obtain ⟨rest, ⟨lexemes, hderives, hvalue⟩, hrest⟩ := readFrom_induction hpush hstart h
  refine ⟨lexemes, hderives, ?_⟩
  have hend : Spaced [] rest := .nil (List.dropWhile_eq_nil_iff.1 hrest)
  simpa using hvalue [] hend

/-- A value ends behind a term, so there is one. -/
theorem readFrom_ne_nil {state : State} {last s : Text} {read : List Term}
    (h : readFrom state last s = .ok read) : read ≠ [] := by
  fun_induction readFrom state last s with
  | case1 state last s hend terms hfinish =>
    cases h
    rintro rfl
    cases state with
    | between terms => cases terms <;> cases hfinish
    | named => cases hfinish
    | inCall => cases hfinish
  | case2 => cases h
  | case3 state last s c t hgap l rest hread ih => exact ih h
  | case4 => cases h

/-! ## Written terms -/

/-- The texts one after the other, with gaps between them, and perhaps gaps around them. -/
inductive Gapped : List Text → Text → Prop where
  | single {before t behind : Text} :
      IsGaps before → IsGaps behind → Gapped [t] (before ++ (t ++ behind))
  | cons {before t gap s : Text} {texts : List Text} :
      IsGaps before → IsGaps gap → gap ≠ [] → Gapped texts s →
      Gapped (t :: texts) (before ++ (t ++ (gap ++ s)))

theorem isGaps_nil : IsGaps [] :=
  fun _ hc => nomatch hc

/-- A text alone, without gaps around it. -/
theorem Gapped.alone (t : Text) : Gapped [t] t := by
  simpa using Gapped.single isGaps_nil (t := t) isGaps_nil

/-- The texts of an argument: its lexemes, spelled as their kinds have them, with gaps. -/
def ArgumentWritten (argument : List Lexeme) (s : Text) : Prop :=
  (∀ l ∈ argument, l.kind ∈ argumentKinds ∧ l.kind.Spells l.text) ∧
    Gapped (argument.map Lexeme.text) s

/-- The texts of a term. A call is a function name directly before its parenthesis, and has commas
between its arguments. -/
inductive Term.Written : Term → Text → Prop where
  | time {t : Text} : Kind.time.Spells t → Written (.time t) t
  | number {t : Text} : Kind.number.Spells t → Written (.number t) t
  | keyword {t : Text} : Kind.ident.Spells t → Written (.keyword t) t
  | string {t : Text} : Kind.string.Spells t → Written (.string t) t
  | call {name : Text} {arguments : List (List Lexeme)} {texts : List Text} :
      name ∈ functionNames → arguments ≠ [] → List.Forall₂ ArgumentWritten arguments texts →
      Written (.call name (argumentTexts arguments))
        (name ++ '(' :: (Text.join [','] texts ++ [')']))

/-! ## Reading what is written -/

/-- A spelled lexeme does not begin with a gap. -/
theorem Kind.Spells.head {k : Kind} {t : Text} (h : k.Spells t) :
    ∃ c u, t = c :: u ∧ isGap c = false := by
  have hnumeral {n : Numeral} (hn : n.WellFormed) (u : Text) :
      ∃ c v, n.spelling ++ u = c :: v ∧ isGap c = false := by
    obtain ⟨c, v, hcons, hc⟩ := Numeral.head_spelling hn
    exact ⟨c, v ++ u, by rw [hcons, List.cons_append], isGap_of_numeral hc⟩
  cases h with
  | functionName hname =>
    simp only [functionNames, List.mem_cons, List.not_mem_nil, or_false] at hname
    rcases hname with rfl | rfl | rfl <;> exact ⟨_, _, rfl, by decide⟩
  | time hn => exact hnumeral hn _
  | number hn => simpa using hnumeral hn []
  | percent hn => exact hnumeral hn ['%']
  | @ident hyphen c t hhyphen hc =>
    rcases hhyphen with rfl | rfl
    · exact ⟨c, t, rfl, isGap_of_isIdentStart hc⟩
    · exact ⟨'-', c :: t, rfl, by decide⟩
  | @string quote inner hquote =>
    refine ⟨quote, inner ++ [quote], rfl, ?_⟩
    rcases hquote with rfl | rfl <;> decide
  | opening => exact ⟨_, _, rfl, by decide⟩
  | closing => exact ⟨_, _, rfl, by decide⟩
  | comma => exact ⟨_, _, rfl, by decide⟩

/-- One step of reading, without the proofs that the rest is shorter. -/
theorem readFrom_eq (state : State) (last s : Text) :
    readFrom state last s =
      match s.dropWhile isGap with
      | [] => state.finish?.elim (.error (.incomplete last)) .ok
      | c :: t => (state.read? (c :: t)).elim (.error (.unexpected (c :: t))) fun (l, rest) =>
        readFrom (state.push l) (c :: t) rest := by
  rw [readFrom]
  split
  · next hs =>
    simp only [hs]
    cases state.finish? <;> rfl
  · next c t hs =>
    simp only [hs]
    split
    · next l rest hr => simp only [hr, Option.elim_some]
    · next hr => simp only [hr, Option.elim_none]

/-- Gaps in front of a text are passed over. -/
theorem readFrom_gap {gap : Text} (hgap : IsGaps gap) (state : State) (last s : Text) :
    readFrom state last (gap ++ s) = readFrom state last s := by
  rw [readFrom_eq, List.dropWhile_append_of_pos hgap, ← readFrom_eq]

theorem ends_gap_append {gap : Text} (hgap : IsGaps gap) (hne : gap ≠ []) (rest : Text) :
    Ends (gap ++ rest) := by
  obtain ⟨c, gap, rfl⟩ := List.exists_cons_of_ne_nil hne
  intro d hd
  cases hd
  simp [endsLexeme, hgap c List.mem_cons_self]

theorem Ends.gap_append {gap rest : Text} (h : Ends rest) (hgap : IsGaps gap) :
    Ends (gap ++ rest) := by
  by_cases hne : gap = []
  · rwa [hne]
  · exact ends_gap_append hgap hne rest

/-- The state reads the text to its end, and these are the terms then. -/
def State.ReadsAs (state : State) (s : Text) (read : List Term) : Prop :=
  ∀ last, readFrom state last s = .ok read

section ReadsAs

variable {state : State} {s rest gap t : Text} {read : List Term}

theorem State.ReadsAs.gap_append (h : state.ReadsAs s read) (hgap : IsGaps gap) :
    state.ReadsAs (gap ++ s) read := fun last => by
  rw [readFrom_gap hgap, h last]

/-- A lexeme that can follow is read, and the rest is left to the state behind it. -/
theorem State.ReadsAs.lexeme_append {k : Kind} (h : (state.push ⟨k, t⟩).ReadsAs rest read)
    (hk : k ∈ state.accepts) (ht : k.Spells t) (hrest : k.StopsAt t rest) :
    state.ReadsAs (t ++ rest) read := by
  intro last
  have hread := State.read?_of_spells hk ht hrest
  obtain ⟨c, u, rfl, hc⟩ := ht.head
  have hdrop : (c :: u ++ rest).dropWhile isGap = c :: (u ++ rest) := by
    rw [List.cons_append, List.dropWhile_cons_of_neg (by simp [hc])]
  rw [List.cons_append] at hread
  rw [readFrom_eq, hdrop]
  simp only [hread]
  exact h _

/-- Texts with gaps between them are read one after the other if each is read up to what ends a
lexeme. -/
theorem State.ReadsAs.gapped_append {α : Type} {Reads : α → Text → Prop} (stateOf : List α → State)
    (step : ∀ done item t rest, Reads item t → Ends rest →
      (stateOf (done ++ [item])).ReadsAs rest read → (stateOf done).ReadsAs (t ++ rest) read)
    {texts : List Text} (hgapped : Gapped texts s) {items : List α}
    (hitems : List.Forall₂ Reads items texts) (done : List α) (hrest : Ends rest)
    (h : (stateOf (done ++ items)).ReadsAs rest read) :
    (stateOf done).ReadsAs (s ++ rest) read := by
  induction hgapped generalizing items done with
  | @single before t behind hbefore hbehind =>
    cases hitems with
    | cons hitem hnone =>
      cases hnone
      rw [List.append_assoc, List.append_assoc]
      exact (step done _ t _ hitem (hrest.gap_append hbehind) (h.gap_append hbehind)).gap_append
        hbefore
  | @cons before t gap s texts hbefore hgap hne hgapped ih =>
    cases hitems with
    | @cons item _ items _ hitem hitems =>
      have hends : Ends (gap ++ (s ++ rest)) := ends_gap_append hgap hne _
      have hread : (stateOf (done ++ [item])).ReadsAs (s ++ rest) read := by
        apply ih hitems (done ++ [item])
        rwa [List.append_assoc, List.singleton_append]
      rw [List.append_assoc, List.append_assoc, List.append_assoc]
      exact (step done item t _ hitem hends (hread.gap_append hgap)).gap_append hbefore

end ReadsAs

/-! ## Completeness -/

section Completeness

variable {rest name : Text} {done read : List Term}

/-- One lexeme of an argument goes to the argument that has begun. -/
private theorem readsAs_argument_lexeme {complete : List (List Text)} {begun : List Lexeme}
    {l : Lexeme} (hkind : l.kind ∈ argumentKinds) (hspells : l.kind.Spells l.text)
    (hrest : Ends rest)
    (h : (State.inCall done name complete ((begun ++ [l]).map Lexeme.text)).ReadsAs rest read) :
    (State.inCall done name complete (begun.map Lexeme.text)).ReadsAs (l.text ++ rest) read := by
  obtain ⟨kind, t⟩ := l
  rw [← State.push_argument hkind] at h
  refine h.lexeme_append (mem_accepts_inCall.2 (Or.inl hkind)) hspells (Kind.EndsAt.stopsAt ?_ t)
  simp only [argumentKinds, List.mem_cons, List.not_mem_nil, or_false] at hkind
  rcases hkind with rfl | rfl | rfl <;> exact hrest

/-- An argument is read up to the comma or the parenthesis behind it. -/
private theorem readsAs_argument {complete : List (List Text)} {argument : List Lexeme} {s : Text}
    (hargument : ArgumentWritten argument s) (hrest : Ends rest)
    (h : (State.inCall done name complete (argument.map Lexeme.text)).ReadsAs rest read) :
    (State.inCall done name complete []).ReadsAs (s ++ rest) read := by
  obtain ⟨hlexemes, hgapped⟩ := hargument
  have hstep : ∀ (begun : List Lexeme) (l : Lexeme) t rest,
      ((l.kind ∈ argumentKinds ∧ l.kind.Spells l.text) ∧ t = l.text) → Ends rest →
      (State.inCall done name complete ((begun ++ [l]).map Lexeme.text)).ReadsAs rest read →
      (State.inCall done name complete (begun.map Lexeme.text)).ReadsAs (t ++ rest) read := by
    rintro begun l t rest ⟨⟨hkind, hspells⟩, rfl⟩ hends h
    exact readsAs_argument_lexeme hkind hspells hends h
  have hitems : List.Forall₂ (fun (l : Lexeme) t =>
      (l.kind ∈ argumentKinds ∧ l.kind.Spells l.text) ∧ t = l.text) argument
      (argument.map Lexeme.text) := by
    rw [List.forall₂_map_right_iff, List.forall₂_same]
    exact fun l hl => ⟨hlexemes l hl, rfl⟩
  exact State.ReadsAs.gapped_append
    (fun begun : List Lexeme => State.inCall done name complete (begun.map Lexeme.text))
    hstep hgapped hitems [] hrest h

/-- The arguments of a call are read up to behind its closing parenthesis. -/
private theorem readsAs_arguments {arguments : List (List Lexeme)} {texts : List Text}
    (hwritten : List.Forall₂ ArgumentWritten arguments texts) (hne : arguments ≠ [])
    {complete : List (List Text)}
    (h : (State.between (done ++ [.call name (complete ++ argumentTexts arguments)])).ReadsAs
      rest read) :
    (State.inCall done name complete []).ReadsAs (Text.join [','] texts ++ ')' :: rest) read := by
  induction hwritten generalizing complete with
  | nil => exact absurd rfl hne
  | @cons argument s arguments texts hargument hwritten ih =>
    have hbegun : argument.map Lexeme.text ≠ [] := by
      intro hnil
      have hgapped := hargument.2
      rw [hnil] at hgapped
      cases hgapped
    -- Behind the argument stands the mark that completes it.
    have hmark {k : Kind} (hk : k = .comma ∨ k = .closing) :
        k ∈ (State.inCall done name complete (argument.map Lexeme.text)).accepts :=
      mem_accepts_inCall.2 (Or.inr ⟨hbegun, hk⟩)
    cases hwritten with
    | nil =>
      have hclosing : (State.inCall done name complete (argument.map Lexeme.text)).ReadsAs
          ([')'] ++ rest) read :=
        State.ReadsAs.lexeme_append (k := .closing) h (hmark (Or.inr rfl)) .closing trivial
      have hends : Ends ([')'] ++ rest) := by simp [Ends, endsLexeme]
      simpa [Text.join] using readsAs_argument hargument hends hclosing
    | @cons next t arguments texts hnext hwritten =>
      have hrest : (State.inCall done name (complete ++ [argument.map Lexeme.text]) []).ReadsAs
          (Text.join [','] (t :: texts) ++ ')' :: rest) read := by
        apply ih (by simp)
        simpa [argumentTexts] using h
      have hcomma : (State.inCall done name complete (argument.map Lexeme.text)).ReadsAs
          ([','] ++ (Text.join [','] (t :: texts) ++ ')' :: rest)) read :=
        State.ReadsAs.lexeme_append (k := .comma) hrest (hmark (Or.inl rfl)) .comma trivial
      rw [Text.join_cons_of_ne_nil _ _ (by simp), List.append_assoc, List.append_assoc]
      exact readsAs_argument hargument (by simp [Ends, endsLexeme]) hcomma

/-- A written term is read up to what ends a lexeme. -/
theorem readsAs_term {term : Term} {t : Text} (hwritten : term.Written t) (hrest : Ends rest)
    (h : (State.between (done ++ [term])).ReadsAs rest read) :
    (State.between done).ReadsAs (t ++ rest) read := by
  have hlexeme {k : Kind} {t rest : Text} (ht : k.Spells t) (hrest : k.EndsAt rest)
      (hk : k ∈ (State.between done).accepts)
      (h : (State.push (.between done) ⟨k, t⟩).ReadsAs rest read) :
      (State.between done).ReadsAs (t ++ rest) read :=
    h.lexeme_append hk ht (hrest.stopsAt t)
  cases hwritten with
  | time ht => exact hlexeme ht hrest (by simp [State.accepts]) h
  | number ht => exact hlexeme ht hrest (by simp [State.accepts]) h
  | keyword ht => exact hlexeme ht hrest (by simp [State.accepts]) h
  | string ht => exact hlexeme ht hrest (by simp [State.accepts]) h
  | @call name arguments texts hname hne hwritten =>
    -- The name stands directly before its parenthesis, and the arguments behind that.
    have hopening : (State.named done name).ReadsAs
        (['('] ++ (Text.join [','] texts ++ ')' :: rest)) read :=
      State.ReadsAs.lexeme_append (k := .opening) (readsAs_arguments hwritten hne h)
        (by simp [State.accepts]) .opening trivial
    have hname := hlexeme (.functionName hname) (by simp [Kind.EndsAt]) (by simp [State.accepts])
      hopening
    simpa using hname

/-- Terms that are written one after the other are read as these terms. -/
theorem terms_of_gapped {found : List Term} {texts : List Text} {value : Text}
    (hwritten : List.Forall₂ Term.Written found texts) (hgapped : Gapped texts value) :
    terms value = .ok found := by
  have hne : found ≠ [] := by
    rintro rfl
    cases hwritten
    cases hgapped
  have hstep : ∀ (done : List Term) (term : Term) t rest, term.Written t → Ends rest →
      (State.between (done ++ [term])).ReadsAs rest found →
      (State.between done).ReadsAs (t ++ rest) found :=
    fun _ _ _ _ => readsAs_term
  have hend : (State.between ([] ++ found)).ReadsAs [] found := by
    intro last
    obtain ⟨term, others, rfl⟩ := List.exists_cons_of_ne_nil hne
    rw [readFrom_eq]
    rfl
  have hread := State.ReadsAs.gapped_append .between hstep hgapped hwritten [] ends_nil hend
  rw [List.append_nil] at hread
  exact hread value

end Completeness

/-! ## Components -/

/-- The components that a value is made of, before they fill the fields. -/
def components (value : Text) : Except Fault (List Component) := do
  let terms ← (terms value).mapError .rejected
  componentsOf terms

theorem components_of_terms {value : Text} {found : List Term} (h : terms value = .ok found) :
    components value = componentsOf found := by
  rw [components, h]
  rfl

/-- Reading a value is finding its components and filling the fields with them. -/
theorem parse_eq_bind (value : Text) :
    parse value = components value >>= fun read =>
      (Fields.fillAll .empty read).mapError .conflict := by
  unfold parse components
  cases terms value <;> rfl

/-- Every written term has a value, unless it is a time that is spelled with a long s. -/
theorem Term.Written.exists_component {term : Term} {t : Text} (h : term.Written t)
    (hlong : ∀ time, term = .time time → 'ſ' ∉ time) : ∃ c, Component.ofTerm? term = some c := by
  cases h with
  | time ht =>
    have hread : readTime? t = some (t, []) := (Kind.spells_iff (by decide)).1 ht
    obtain ⟨millis, hmillis⟩ : ∃ millis, millis? t = some millis := by
      rw [← Option.ne_none_iff_exists', ne_eq, millis?_eq_none_iff hread]
      rintro ⟨unit, hunit, hsuffix⟩
      have hall : ∀ unit ∈ longUnits, 'ſ' ∈ unit := by decide
      exact hlong t rfl (hsuffix.subset (hall unit hunit))
    exact ⟨.time millis.toNumber, by rw [Component.ofTerm?, hmillis]; rfl⟩
  | number ht =>
    have hread : readNumber? t = some (t, []) := (Kind.spells_iff (by decide)).1 ht
    obtain ⟨d, hd⟩ := Option.isSome_iff_exists.1 (ofNumeral?_isSome_of_readNumber? hread)
    exact ⟨.number (Binary64.ofDecimal d).toNumber, by rw [Component.ofTerm?, hd]; rfl⟩
  | keyword => exact ⟨.keyword t, rfl⟩
  | string => exact ⟨.string t, rfl⟩
  | call => exact ⟨_, rfl⟩

/-- Written terms have components, one each. -/
theorem exists_components_of_written {found : List Term} {texts : List Text}
    (h : List.Forall₂ Term.Written found texts) (hlong : ∀ t, .time t ∈ found → 'ſ' ∉ t) :
    ∃ read, List.Forall₂ (fun t c => Component.ofTerm? t = some c) found read := by
  induction h with
  | nil => exact ⟨[], .nil⟩
  | @cons term t found texts hwritten _ ih =>
    obtain ⟨c, hc⟩ := hwritten.exists_component fun time htime =>
      hlong time (htime ▸ List.mem_cons_self)
    obtain ⟨read, hread⟩ := ih fun time htime => hlong time (List.mem_cons_of_mem _ htime)
    exact ⟨c :: read, .cons hc hread⟩

/-! ## Both directions -/

/-- **The grammar is read soundly and completely.** The terms of a value are never none, they derive
lexemes that stand in the value in this order with nothing but gaps around them, and the components
that fill the fields are those of the terms, in order. Conversely terms that are written one after
the other, with gaps between them and perhaps at both ends, are read as these terms, and each has
its component unless a time is spelled with a long s. -/
theorem terms_sound_and_complete (value : Text) :
    (parse value = components value >>= fun read =>
      (Fields.fillAll .empty read).mapError .conflict) ∧
    (∀ found, terms value = .ok found →
      found ≠ [] ∧ (∃ lexemes, DeriveAll found lexemes ∧ Spaced lexemes value) ∧
      ∀ read, components value = .ok read ↔
        List.Forall₂ (fun t c => Component.ofTerm? t = some c) found read) ∧
    ∀ found texts, List.Forall₂ Term.Written found texts → Gapped texts value →
      terms value = .ok found ∧ ((∀ t, .time t ∈ found → 'ſ' ∉ t) → ∃ read,
        components value = .ok read ∧
        List.Forall₂ (fun t c => Component.ofTerm? t = some c) found read) := by
  refine ⟨parse_eq_bind value, ?_, ?_⟩
  · intro found hfound
    refine ⟨readFrom_ne_nil hfound, exists_derivation_of_terms hfound, fun read => ?_⟩
    rw [components_of_terms hfound, componentsOf_eq_ok_iff]
  · intro found texts hwritten hgapped
    have hfound := terms_of_gapped hwritten hgapped
    refine ⟨hfound, fun hlong => ?_⟩
    obtain ⟨read, hread⟩ := exists_components_of_written hwritten hlong
    exact ⟨read, by rw [components_of_terms hfound, componentsOf_eq_ok_iff.2 hread], hread⟩

/-- A time, a call with gaps around its arguments and between their lexemes, and a string. -/
def spacedAnimation : Text :=
  "\t1.5S cubic-bezier( .4 ,a\n1%) \r\n'a b' ".toList

/-- The terms of it are read, with their components, and there are lexemes that they derive. -/
theorem terms_sound_and_complete_spaced :
    terms spacedAnimation = .ok [.time "1.5S".toList,
        .call "cubic-bezier".toList [[".4".toList], ["a".toList, "1%".toList]],
        .string "'a b'".toList] ∧
      (∃ read, components spacedAnimation = .ok read) ∧
      ∃ lexemes, Spaced lexemes spacedAnimation := by
  have htime : Kind.time.Spells "1.5S".toList := (Kind.spells_iff (by decide)).2 (by decide)
  have hnumber : Kind.number.Spells ".4".toList := (Kind.spells_iff (by decide)).2 (by decide)
  have hpercent : Kind.percent.Spells "1%".toList := (Kind.spells_iff (by decide)).2 (by decide)
  have hident : Kind.ident.Spells "a".toList := (Kind.spells_iff (by decide)).2 (by decide)
  have hstring : Kind.string.Spells "'a b'".toList := (Kind.spells_iff (by decide)).2 (by decide)
  have hgap (gap : Text) (h : gap.all isGap = true) : IsGaps gap := List.all_eq_true.1 h
  have hfirst : ArgumentWritten [⟨.number, ".4".toList⟩] " .4 ".toList :=
    ⟨by simpa [argumentKinds] using hnumber,
      .single (hgap [' '] (by decide)) (hgap [' '] (by decide))⟩
  have hsecond : ArgumentWritten [⟨.ident, "a".toList⟩, ⟨.percent, "1%".toList⟩]
      "a\n1%".toList :=
    ⟨by simpa [argumentKinds] using ⟨hident, hpercent⟩,
      .cons (hgap [] rfl) (hgap ['\n'] (by decide)) (by simp)
        (.single (hgap [] rfl) (hgap [] rfl))⟩
  have hcall := Term.Written.call
    (by decide : "cubic-bezier".toList ∈ functionNames) (by simp)
    (.cons hfirst (.cons hsecond .nil))
  have hgapped : Gapped ["1.5S".toList, "cubic-bezier( .4 ,a\n1%)".toList, "'a b'".toList]
      spacedAnimation :=
    .cons (hgap ['\t'] (by decide)) (hgap [' '] (by decide)) (by simp)
      (.cons (hgap [] rfl) (hgap " \r\n".toList (by decide)) (by decide)
        (.single (hgap [] rfl) (hgap [' '] (by decide))))
  obtain ⟨-, hsound, hcomplete⟩ := terms_sound_and_complete spacedAnimation
  obtain ⟨hterms, hcomponents⟩ := hcomplete _ _
    (.cons (.time htime) (.cons hcall (.cons (.string hstring) .nil))) hgapped
  obtain ⟨-, ⟨lexemes, -, hspaced⟩, -⟩ := hsound _ hterms
  obtain ⟨read, hread, -⟩ := hcomponents (by simp)
  exact ⟨hterms, ⟨read, hread⟩, lexemes, hspaced⟩

end NativeStyle.Animation
