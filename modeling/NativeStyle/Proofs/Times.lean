import NativeStyle.Animation.Shorthand
import NativeStyle.Proofs.Runs
import NativeStyle.Proofs.Spellings

/-!
# Times without a value

Every number of an animation has a value, and so has every time but those whose unit is an m
followed by a long s: lower case keeps the long s, so the unit is not recognised as milliseconds
and its m is taken for a digit. Nothing else can keep an animation from being spread.

Main results:
- `millis?_eq_none_iff` (which times have no value),
- `ofNumeral?_isSome_of_readNumber?` (every number has one),
- `exists_time_of_spread_eq_error` (what a value holds that cannot be spread).
-/

namespace NativeStyle

/-! ## Lower case of numerals -/

namespace Text

/-- Digits of every script stay in lower case. -/
theorem smallLetter_of_isDigit {c : Char} (h : isDigit c = true) : smallLetter c = c := by
  -- No capital stands among the digits of any script, and those below 128 are the ASCII ones.
  have hapart : ∀ r ∈ capitalTable, ∀ start ∈ zeroTable,
      r.last < start ∨ start + 10 ≤ r.first := by
    decide +kernel
  have hascii : ∀ start ∈ zeroTable, start < 0x80 → start = 0x30 := by decide
  obtain ⟨value, hvalue⟩ := Option.isSome_iff_exists.1 h
  obtain ⟨start, hstart, hrange⟩ := List.exists_of_findSome?_eq_some hvalue
  split at hrange
  · next hin =>
    unfold smallLetter
    split
    · next hlt =>
      have hzero := hascii start hstart (by omega)
      unfold Char.toLower
      rw [dif_neg]
      rintro ⟨hupper, -⟩
      have hlarge : 65 ≤ c.toNat := by simpa [UInt32.le_iff_toNat_le] using hupper
      omega
    · have hnone : capitalTable.find? (·.covers c.toNat) = none := by
        rw [List.find?_eq_none]
        intro r hr hcovers
        simp only [CapitalRun.covers, Bool.and_eq_true, decide_eq_true_eq] at hcovers
        have := hapart r hr start hstart
        omega
      rw [hnone]
  · cases hrange

end Text

namespace Animation

variable {s rest unit : Text} {n : Numeral}

/-- A numeral with anything behind it is lowered behind the numeral alone. -/
theorem Numeral.lower_append (h : Numeral.read? s = some (n, rest))
    (hunit : ∀ c ∈ unit, c ≠ 'Σ' ∧ c ≠ 'İ') :
    Text.lower (n.spelling ++ unit) = n.spelling ++ unit.map Text.smallLetter := by
  have hmarks : Text.smallLetter '-' = '-' ∧ Text.smallLetter '.' = '.' := by decide
  have hnumeral : ∀ c ∈ n.spelling, (c ≠ 'Σ' ∧ c ≠ 'İ') ∧ Text.smallLetter c = c := by
    intro c hc
    rcases Numeral.of_mem_spelling h c hc with rfl | rfl | hdigit
    · exact ⟨by decide, hmarks.1⟩
    · exact ⟨by decide, hmarks.2⟩
    · refine ⟨?_, Text.smallLetter_of_isDigit hdigit⟩
      constructor <;> rintro rfl <;> revert hdigit <;> decide
  rw [Text.lower_eq_map, List.map_append, List.map_congr_left fun c hc => (hnumeral c hc).2,
    List.map_id']
  intro c hc
  rcases List.mem_append.1 hc with hc | hc
  · exact (hnumeral c hc).1
  · exact hunit c hc

/-! ## Times -/

/-- The units that are no unit in lower case: an m of either case, and a long s. -/
def longUnits : List Text := [['m', 'ſ'], ['M', 'ſ']]

/-- Numerals have a value; with a letter behind them they are none. -/
theorem ofNumeral?_append_eq_none {c : Char} (hc : c ≠ '-' ∧ c ≠ '.' ∧ Text.isDigit c = false)
    (s : Text) : Decimal.ofNumeral? (s ++ [c]) = none := by
  have hunsigned (negative : Bool) {t : Text} (ht : c ∈ t) :
      Decimal.ofUnsigned? negative t = none := by
    unfold Decimal.ofUnsigned?
    split
    next whole places hcut =>
    -- The letter stands before the point or behind it, and is no digit.
    have hmem : c ∈ whole ++ places := by
      cases hpoint : Text.cut? '.' t with
      | none =>
        rw [hpoint] at hcut
        cases hcut
        simpa using ht
      | some parts =>
        rw [hpoint] at hcut
        cases hcut
        rw [(Text.cut?_eq_some_iff.1 hpoint).1] at ht
        simpa [hc.2.1] using ht
    rw [if_neg]
    rintro ⟨-, hall⟩
    rw [List.all_eq_true] at hall
    rw [hall c hmem] at hc
    exact absurd hc.2.2 (by decide)
  unfold Decimal.ofNumeral?
  split
  · next t ht =>
    apply hunsigned
    cases s with
    | nil => exact absurd (List.cons.inj ht).1 hc.1
    | cons d s =>
      rw [← (List.cons.inj ht).2]
      simp
  · exact hunsigned false (by simp)

private theorem of_pair_suffix {m c d : Char} {t : Text} (h : [m, c] <:+ t ++ [d]) :
    m ∈ t ∧ c = d := by
  obtain ⟨before, hbefore⟩ := h
  have hpair : before ++ [m, c] = (before ++ [m]) ++ [c] := by simp
  rw [hpair] at hbefore
  obtain ⟨rfl, hlast⟩ := List.append_inj' hbefore rfl
  exact ⟨by simp, by simpa using hlast⟩

/-- Behind a numeral, one letter or the letters ms make a time with a value. -/
private theorem millis?_isSome {t numeral : Text}
    (hvalue : (Decimal.ofNumeral? numeral).isSome = true) (hm : 'm' ∉ numeral)
    (h : Text.lower t = numeral ++ ['m', 's'] ∨ ∃ c, Text.lower t = numeral ++ [c]) :
    (millis? t).isSome = true := by
  unfold millis?
  rw [Option.isSome_map]
  rcases h with h | ⟨c, h⟩
  · have hends : Text.endsWith ['m', 's'] (numeral ++ ['m', 's']) = true := by
      simp [Text.endsWith]
    rw [h, if_pos hends, Option.isSome_map]
    simpa using hvalue
  · have hends : ¬Text.endsWith ['m', 's'] (numeral ++ [c]) = true := by
      rw [Text.endsWith, List.isSuffixOf_iff_suffix]
      exact fun hsuffix => hm (of_pair_suffix hsuffix).1
    rw [h, if_neg hends, Option.isSome_map]
    simpa using hvalue

private theorem millis?_eq_none {t numeral : Text}
    (h : Text.lower t = numeral ++ ['m', 'ſ']) : millis? t = none := by
  have hends : ¬Text.endsWith ['m', 's'] (numeral ++ ['m', 'ſ']) = true := by
    rw [Text.endsWith, List.isSuffixOf_iff_suffix]
    intro hsuffix
    have hsplit : numeral ++ ['m', 'ſ'] = (numeral ++ ['m']) ++ ['ſ'] := by simp
    rw [hsplit] at hsuffix
    exact absurd (of_pair_suffix hsuffix).2 (by decide)
  have hnone := ofNumeral?_append_eq_none (c := 'm') (by decide) numeral
  simp only [millis?, h, if_neg hends]
  simp [hnone]

private theorem smallLetter_unit : Text.smallLetter 'm' = 'm' ∧ Text.smallLetter 'M' = 'm' ∧
    Text.smallLetter 's' = 's' ∧ Text.smallLetter 'S' = 's' ∧ Text.smallLetter 'ſ' = 'ſ' := by
  decide +kernel

/-- Lower case makes every unit but the long ones a letter alone or the letters ms. -/
private theorem unit_cases {front : Text} {c : Char} (hfront : front ∈ unitFronts)
    (hc : c ∈ secondLetters) :
    (front ++ [c] ∈ longUnits ∧ (front ++ [c]).map Text.smallLetter = ['m', 'ſ']) ∨
      (front ++ [c] ∉ longUnits ∧ ((front ++ [c]).map Text.smallLetter = ['m', 's'] ∨
        ∃ d, (front ++ [c]).map Text.smallLetter = [d])) := by
  simp only [unitFronts, secondLetters, List.mem_cons, List.not_mem_nil, or_false] at hfront hc
  rcases hfront with rfl | rfl | rfl
  · simp [longUnits]
  · rcases hc with rfl | rfl | rfl <;> simp [longUnits, smallLetter_unit]
  · rcases hc with rfl | rfl | rfl <;> simp [longUnits, smallLetter_unit]

private theorem notMem_spelling {m : Char} (hm : m ∈ ['m', 'M'])
    (h : Numeral.read? s = some (n, rest)) : m ∉ n.spelling := by
  have hletter : ∀ m ∈ ['m', 'M'], m ≠ '-' ∧ m ≠ '.' ∧ Text.isDigit m = false := by decide
  obtain ⟨hminus, hpoint, hdigit⟩ := hletter m hm
  intro hmem
  rcases Numeral.of_mem_spelling h m hmem with heq | heq | htrue
  · exact hminus heq
  · exact hpoint heq
  · rw [hdigit] at htrue
    cases htrue

/-- Behind a numeral stands a long unit exactly if the unit itself is one: the m of it is no part
of the numeral. -/
private theorem exists_long_suffix_iff {front : Text} {c : Char} (hfront : front ∈ unitFronts)
    (h : Numeral.read? s = some (n, rest)) :
    (∃ long ∈ longUnits, long <:+ n.spelling ++ (front ++ [c])) ↔ front ++ [c] ∈ longUnits := by
  constructor
  · rintro ⟨long, hlong, hsuffix⟩
    obtain ⟨m, hm, rfl⟩ : ∃ m ∈ ['m', 'M'], long = [m, 'ſ'] := by simpa [longUnits] using hlong
    rw [← List.append_assoc] at hsuffix
    obtain ⟨hmem, rfl⟩ := of_pair_suffix hsuffix
    have hinFront : m ∈ front := by simpa [notMem_spelling hm h] using hmem
    have hsame : ∀ front ∈ unitFronts, ∀ m ∈ front, front = [m] := by simp [unitFronts]
    rw [hsame front hfront m hinFront]
    exact hlong
  · exact fun hlong => ⟨_, hlong, List.suffix_append _ _⟩

/-- A time has no value exactly if it ends in an m and a long s. -/
theorem millis?_eq_none_iff {t : Text} (h : readTime? s = some (t, rest)) :
    millis? t = none ↔ ∃ unit ∈ longUnits, unit <:+ t := by
  simp only [readTime?, Option.bind_eq_some_iff, Prod.exists] at h
  obtain ⟨n, tail, hn, unit, behind, hunit, h⟩ := h
  split at h <;> cases h
  obtain ⟨front, hfront, c, hc, rfl⟩ := exists_of_readTimeUnit? hunit
  have hplain : ∀ d ∈ front ++ [c], d ≠ 'Σ' ∧ d ≠ 'İ' := by
    clear hunit
    revert c
    revert front
    decide
  have hlower := Numeral.lower_append hn hplain
  rw [exists_long_suffix_iff hfront hn]
  rcases unit_cases hfront hc with ⟨hlong, hmap⟩ | ⟨hnot, hmap⟩
  · -- Lower case leaves the long s, and the m in front of it.
    rw [hmap] at hlower
    exact iff_of_true (millis?_eq_none hlower) hlong
  · refine iff_of_false ?_ hnot
    rw [← Option.not_isSome_iff_eq_none, not_not]
    apply millis?_isSome (ofNumeral?_isSome_of_read? hn) (notMem_spelling (by simp) hn)
    rcases hmap with hmap | ⟨d, hmap⟩
    · exact Or.inl (by rw [hlower, hmap])
    · exact Or.inr ⟨d, by rw [hlower, hmap]⟩

/-! ## Numbers -/

/-- Every number of an animation has a value, since it is spelled as a numeral. -/
theorem ofNumeral?_isSome_of_readNumber? {t : Text} (h : readNumber? s = some (t, rest)) :
    (Decimal.ofNumeral? t).isSome = true := by
  obtain ⟨hspells, -⟩ := Kind.spells_of_read? (k := .number) h
  cases hspells with
  | number hn => exact ofNumeral?_isSome_of_read? (Numeral.read?_spelling hn)

/-! ## Where terms come from -/

/-- The lexeme that a term is, unless it is a call. -/
def Term.lexeme? : Term → Option Lexeme
  | .time t => some ⟨.time, t⟩
  | .number t => some ⟨.number, t⟩
  | .keyword t => some ⟨.ident, t⟩
  | .string t => some ⟨.string, t⟩
  | .call _ _ => none

/-- Whether the term was read in the value, as a lexeme or as a call. -/
def Term.ReadIn (value : Text) (term : Term) : Prop :=
  ∀ l, term.lexeme? = some l → ∃ s rest, s <:+ value ∧ l.kind.read? s = some (l.text, rest)

/-- The terms that are complete. -/
def State.terms : State → List Term
  | .between terms | .named terms _ | .inCall terms _ _ _ => terms

/-- One lexeme completes at most one term: itself, or a call. -/
theorem State.terms_push (state : State) (l : Lexeme) :
    (state.push l).terms = state.terms ∨
      ∃ term, (state.push l).terms = state.terms ++ [term] ∧
        ∀ l', term.lexeme? = some l' → l' = l := by
  obtain ⟨kind, t⟩ := l
  cases state with
  | between terms =>
    cases kind with
    | time => exact Or.inr ⟨.time t, rfl, fun l' hl => (Option.some.inj hl).symm⟩
    | number => exact Or.inr ⟨.number t, rfl, fun l' hl => (Option.some.inj hl).symm⟩
    | ident => exact Or.inr ⟨.keyword t, rfl, fun l' hl => (Option.some.inj hl).symm⟩
    | string => exact Or.inr ⟨.string t, rfl, fun l' hl => (Option.some.inj hl).symm⟩
    | functionName | percent | opening | closing | comma => exact Or.inl rfl
  | named terms name => exact Or.inl rfl
  | inCall terms name arguments current =>
    cases kind with
    | closing => exact Or.inr ⟨.call name (arguments ++ [current]), rfl, fun l' hl => by cases hl⟩
    | functionName | time | number | percent | ident | string | opening | comma =>
      exact Or.inl rfl

theorem State.read?_eq_some {state : State} {l : Lexeme} (h : state.read? s = some (l, rest)) :
    l.kind.read? s = some (l.text, rest) := by
  obtain ⟨kind, -, h⟩ := List.exists_of_findSome?_eq_some h
  simp only [Option.map_eq_some_iff, Prod.exists, Prod.mk.injEq] at h
  obtain ⟨t, behind, hread, rfl, rfl⟩ := h
  exact hread

/-- Every term of a value that is no call was read as a lexeme of its kind. -/
theorem readIn_of_terms {value : Text} {read : List Term} (h : terms value = .ok read) :
    ∀ term ∈ read, term.ReadIn value := by
  have hpush : ∀ (state : State) s l rest,
      (∀ term ∈ state.terms, term.ReadIn value) ∧ s <:+ value →
      state.read? (s.dropWhile isGap) = some (l, rest) →
      (∀ term ∈ (state.push l).terms, term.ReadIn value) ∧ rest <:+ value := by
    rintro state s l rest ⟨hterms, hs⟩ hread
    have hs' := dropWhile_isGap_suffix hs
    refine ⟨?_, (State.wellRead_of_read? hs' hread).2⟩
    rcases State.terms_push state l with hsame | ⟨term, hmore, hterm⟩
    · rwa [hsame]
    · rw [hmore, List.forall_mem_append, List.forall_mem_singleton]
      refine ⟨hterms, ?_⟩
      intro l' hl'
      rw [hterm l' hl']
      exact ⟨_, rest, hs', State.read?_eq_some hread⟩
  have hstart : (∀ term ∈ (State.between []).terms, term.ReadIn value) ∧ value <:+ value :=
    ⟨by simp [State.terms], List.suffix_refl value⟩
  obtain ⟨rest, hread, -⟩ := readFrom_induction hpush hstart h
  exact hread.1

/-! ## Values that cannot be spread -/

private theorem parse_eq_unreadable {value : Text} {t : Term}
    (h : parse value = .error (.unreadable t)) :
    ∃ read, terms value = .ok read ∧ t ∈ read ∧ Component.ofTerm? t = none := by
  unfold parse at h
  cases hread : terms value with
  | error r =>
    rw [hread] at h
    cases h
  | ok read =>
    rw [hread] at h
    refine ⟨read, rfl, ?_⟩
    cases hcomponents : componentsOf read with
    | ok components =>
      -- Then only a conflict between the components is left.
      change componentsOf read >>= _ = _ at h
      rw [hcomponents] at h
      change (Fields.fillAll .empty components).mapError Fault.conflict = _ at h
      cases hfill : Fields.fillAll .empty components with
      | error c =>
        rw [hfill] at h
        cases h
      | ok fields =>
        rw [hfill] at h
        cases h
    | error fault =>
      change componentsOf read >>= _ = _ at h
      rw [hcomponents] at h
      cases h
      obtain ⟨term, hmem, hterm⟩ := exists_of_mapM_eq_error hcomponents
      split at hterm
      · cases hterm
      · next hnone =>
        cases hterm
        exact ⟨hmem, hnone⟩

/-- A value that cannot be spread holds a time that ends in an m and a long s. -/
theorem exists_time_of_spread_eq_error {value : Text} {t : Term} (h : spread value = .error t) :
    ∃ time, t = .time time ∧ time <:+: value ∧ ∃ unit ∈ longUnits, unit <:+ time := by
  have hparse : parse value = .error (.unreadable t) := by
    unfold spread at h
    split at h
    · split at h <;> cases h
    · next hparse => cases h; exact hparse
    · cases h
    · cases h
  obtain ⟨read, hread, hmem, hnone⟩ := parse_eq_unreadable hparse
  have hin := readIn_of_terms hread t hmem
  -- Of all components only times and numbers can be without a value, and numbers are not.
  cases t with
  | time time =>
    obtain ⟨s, rest, ⟨before, hvalue⟩, htime⟩ := hin _ rfl
    have hwhole := (Kind.read?_eq_some htime).1
    refine ⟨time, rfl, ⟨before, rest, ?_⟩, ?_⟩
    · rw [← hvalue, hwhole, List.append_assoc]
    · apply (millis?_eq_none_iff htime).1
      simpa [Component.ofTerm?] using hnone
  | number t =>
    obtain ⟨s, rest, -, hnumber⟩ := hin _ rfl
    have hsome := ofNumeral?_isSome_of_readNumber? hnumber
    simp only [Component.ofTerm?, Option.map_eq_none_iff] at hnone
    rw [hnone] at hsome
    cases hsome
  | keyword t => cases hnone
  | string t => cases hnone
  | call name arguments => cases hnone

end Animation

end NativeStyle
