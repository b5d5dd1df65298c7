import NativeStyle.Proofs.References
import NativeStyle.Proofs.Spellings

/-!
# Which lengths are converted

A relative length is told from the text around it by its spelling alone: digits end where something
else stands, and so do blanks, so there is one way at most to read a length at the front of a text
(`RelativeLength.read?_eq_some_iff`). A value is therefore divided into lengths and the texts
between them, from left to right, and in no such text does a length begin
(`RelativeLength.Divided`). A conversion puts pixels in the place of these lengths and leaves the
texts between them.

A character that stands in no length divides a value: what is in front of it and what is behind it
are converted each on its own.

Main results:
- `RelativeLength.read?_eq_some_iff` (a length is read exactly where one is spelled),
- `RelativeLength.convert_divided` (a conversion replaces all lengths and nothing else),
- `RelativeLength.convert_append_cons` (both sides of a foreign character).
-/

namespace NativeStyle

namespace RelativeLength

variable {l : RelativeLength} {s rest : Text}

/-! ## Reading what is spelled -/

private theorem isDigit_head_gap (h : l.WellFormed) (rest : Text) :
    ∀ c ∈ (l.gap ++ (l.unit.text ++ rest)).head?, Text.isDigit c = false ∧ c ≠ '.' := by
  intro c hc
  cases hgap : l.gap with
  | nil =>
    have hunit : ∀ unit : RelativeUnit, ∀ d ∈ unit.text.head?,
        Text.isDigit d = false ∧ d ≠ '.' := by
      intro unit d hd
      cases unit <;> cases hd <;> decide
    rw [hgap, List.nil_append, List.head?_append,
      Option.or_of_isSome (by cases l.unit <;> rfl)] at hc
    exact hunit l.unit c hc
  | cons d gap =>
    rw [hgap] at hc
    cases hc
    have hblank := h.gap c (by simp [hgap])
    refine ⟨?_, ?_⟩
    · rw [← Bool.not_eq_true]
      intro hdigit
      rw [Animation.isBlank_of_isInert (Animation.isInert_of_isDigit hdigit)] at hblank
      cases hblank
    · rintro rfl
      exact absurd hblank (by decide)

private theorem isBlank_head_unit (unit : RelativeUnit) (rest : Text) :
    ∀ c ∈ (unit.text ++ rest).head?, Text.isBlank c = false := by
  cases unit <;> simp [RelativeUnit.text] <;> decide

/-- The text of the number, without the blanks and the unit. -/
def numeral (l : RelativeLength) : Text :=
  l.whole ++ if l.places = [] then [] else '.' :: l.places

theorem spelling_eq (l : RelativeLength) : l.spelling = l.numeral ++ (l.gap ++ l.unit.text) := by
  rw [spelling, numeral, List.append_assoc]

/-- What is spelled as a length is read as it, whatever stands behind it. -/
theorem WellFormed.read?_spelling_append (h : l.WellFormed) (rest : Text) :
    read? (l.spelling ++ rest) = some (l, rest) := by
  have hhead := isDigit_head_gap h rest
  obtain ⟨whole, places, gap, unit⟩ := l
  have hgap := Animation.takeWhile_append_of_head h.gap (isBlank_head_unit unit rest)
  have hunit : readUnit? (unit.text ++ rest) = some (unit, rest) := by
    cases unit <;> rfl
  simp only [spelling, List.append_assoc] at hhead hgap ⊢
  by_cases hplaces : places = []
  · -- Without a point the digits go up to the gap or the unit, which begins with no point.
    subst hplaces
    have hnumber : whole ≠ [] := h.number.resolve_right (· rfl)
    obtain ⟨htake, hdrop⟩ := Animation.takeWhile_append_of_head h.whole fun c hc => (hhead c hc).1
    have hnoPlaces : readPlaces (gap ++ (unit.text ++ rest)) =
        ([], gap ++ (unit.text ++ rest)) := by
      unfold readPlaces
      split
      · next t ht =>
        rw [ht] at hhead
        exact absurd rfl (hhead '.' rfl).2
      · rfl
    simp only [if_true, List.nil_append, read?, htake, hdrop, hnoPlaces, hgap.1, hgap.2, hunit,
      Option.map_some, hnumber, false_and, if_false]
  · -- The point ends the digits in front of it, and the gap or the unit those behind it.
    have hpoint : ∀ c ∈ ('.' :: (places ++ (gap ++ (unit.text ++ rest)))).head?,
        Text.isDigit c = false := by
      simp only [List.head?_cons, Option.mem_some_iff, forall_eq']
      decide
    obtain ⟨htake, hdrop⟩ := Animation.takeWhile_append_of_head h.whole hpoint
    obtain ⟨htake', hdrop'⟩ :=
      Animation.takeWhile_append_of_head h.places fun c hc => (hhead c hc).1
    simp only [List.cons_append, read?, htake, hdrop, readPlaces, htake', hdrop',
      hgap.1, hgap.2, hunit, Option.map_some, hplaces, and_false, if_false]

/-- A length is read exactly where one is spelled, and as the one that is spelled there. -/
theorem read?_eq_some_iff : read? s = some (l, rest) ↔ l.WellFormed ∧ s = l.spelling ++ rest :=
  ⟨fun h => ⟨wellFormed_of_read? h, read?_eq_some h⟩,
    fun ⟨h, hs⟩ => hs ▸ h.read?_spelling_append rest⟩

/-- Nothing is read exactly where no length is spelled. -/
theorem read?_eq_none_iff :
    read? s = none ↔ ∀ l : RelativeLength, l.WellFormed → ¬l.spelling <+: s := by
  rw [Option.eq_none_iff_forall_ne_some]
  constructor
  · rintro h l hl ⟨rest, rfl⟩
    exact h (l, rest) (hl.read?_spelling_append rest)
  · rintro h ⟨l, rest⟩ hread
    exact h l (wellFormed_of_read? hread) ⟨rest, (read?_eq_some hread).symm⟩

/-! ## The value of a number -/

/-- The number of a length is read as the decimal of its digits. -/
theorem WellFormed.ofNumeral?_numeral (h : l.WellFormed) :
    Decimal.ofNumeral? l.numeral = some (.ofDigits false l.whole l.places) := by
  have hdigits : ∀ c ∈ l.whole ++ l.places, Text.isDigit c = true := by
    rw [List.forall_mem_append]
    exact ⟨h.whole, h.places⟩
  have hpoint : '.' ∉ l.whole := by
    intro hmem
    exact absurd (h.whole '.' hmem) (by decide)
  have hcut : (Text.cut? '.' l.numeral).getD (l.numeral, []) = (l.whole, l.places) := by
    by_cases hplaces : l.places = []
    · have hnone : Text.cut? '.' l.whole = none := Text.cut?_eq_none_iff.2 hpoint
      simp [numeral, hplaces, hnone]
    · have hsome : Text.cut? '.' (l.whole ++ '.' :: l.places) = some (l.whole, l.places) :=
        Text.cut?_eq_some_iff.2 ⟨rfl, hpoint⟩
      simp [numeral, hplaces, hsome]
  have hunsigned : Decimal.ofUnsigned? false l.numeral =
      some (.ofDigits false l.whole l.places) := by
    have hne : l.whole ++ l.places ≠ [] := by
      rw [ne_eq, List.append_eq_nil_iff, not_and_or]
      exact h.number
    simp only [Decimal.ofUnsigned?, hcut]
    rw [if_pos ⟨hne, List.all_eq_true.2 hdigits⟩]
  -- A numeral of a length has no sign.
  unfold Decimal.ofNumeral?
  split
  · next t ht =>
    have hminus : '-' ∈ l.numeral := by simp [ht]
    simp only [numeral, List.mem_append] at hminus
    rcases hminus with hmem | hmem
    · exact absurd (h.whole '-' hmem) (by decide)
    · split at hmem
      · cases hmem
      · exact absurd (h.places '-' (by simpa using hmem)) (by decide)
  · exact hunsigned

/-! ## A value and its lengths -/

/-- No length begins in the text, even if it could reach into what stands behind. -/
def NoneBegins (t behind : Text) : Prop :=
  ∀ s, s ≠ [] → s <:+ t → ∀ l : RelativeLength, l.WellFormed → ¬l.spelling <+: s ++ behind

/-- The lengths of a value from left to right, each with the text between it and the one before it,
and the text behind the last one. -/
inductive Divided : Text → List (Text × RelativeLength) → Text → Prop where
  | last {t : Text} : NoneBegins t [] → Divided t [] t
  | cons {t rest last : Text} {l : RelativeLength} {lengths : List (Text × RelativeLength)} :
      NoneBegins t (l.spelling ++ rest) → l.WellFormed → Divided rest lengths last →
      Divided (t ++ (l.spelling ++ rest)) ((t, l) :: lengths) last

/-- The texts and lengths one after the other, each length written in some way. -/
def written (write : RelativeLength → Text) (lengths : List (Text × RelativeLength))
    (last : Text) : Text :=
  lengths.flatMap (fun (t, l) => t ++ write l) ++ last

theorem written_cons (write : RelativeLength → Text) (t : Text) (l : RelativeLength)
    (lengths : List (Text × RelativeLength)) (last : Text) :
    written write ((t, l) :: lengths) last = t ++ (write l ++ written write lengths last) := by
  simp [written]

/-- Every value can be divided. -/
theorem exists_divided (value : Text) : ∃ lengths last, Divided value lengths last := by
  induction hn : value.length using Nat.strongRecOn generalizing value with
  | ind n ih =>
    cases hread : read? value with
    | some r =>
      obtain ⟨l, rest⟩ := r
      obtain ⟨hwell, rfl⟩ := read?_eq_some_iff.1 hread
      obtain ⟨lengths, last, hrest⟩ :=
        ih rest.length (hn ▸ pattern.length_rest_lt hread) rest rfl
      exact ⟨([], l) :: lengths, last, .cons (fun s hne hs => absurd (List.suffix_nil.1 hs) hne)
        hwell hrest⟩
    | none =>
      cases value with
      | nil => exact ⟨[], [], .last fun s hne hs => absurd (List.suffix_nil.1 hs) hne⟩
      | cons c value =>
        obtain ⟨lengths, last, hrest⟩ := ih value.length (by simp [← hn]) value rfl
        have hfirst {t behind : Text} (hvalue : c :: value = c :: t ++ behind)
            (h : NoneBegins t behind) : NoneBegins (c :: t) behind := by
          intro s hne hs
          rcases List.suffix_cons_iff.1 hs with rfl | hs
          · rw [← hvalue]
            exact read?_eq_none_iff.1 hread
          · exact h s hne hs
        cases hrest with
        | last hnone => exact ⟨[], c :: value, .last (hfirst (by simp) hnone)⟩
        | @cons t rest last l lengths hnone hwell hrest =>
          exact ⟨(c :: t, l) :: lengths, last, .cons (hfirst rfl hnone) hwell hrest⟩

section Divided

variable {value last : Text} {lengths : List (Text × RelativeLength)}

private theorem NoneBegins.read?_eq_none {t behind : Text} (h : NoneBegins t behind) :
    ∀ s, s ≠ [] → s <:+ t → pattern.read? (s ++ behind) = none :=
  fun s hne hs => read?_eq_none_iff.2 (h s hne hs)

/-- A text in which no length begins holds none. -/
theorem NoneBegins.not_infix {t behind : Text} (h : NoneBegins t behind) (hl : l.WellFormed) :
    ¬l.spelling <:+: t := by
  rintro ⟨before, rest, rfl⟩
  have hne : l.spelling ++ rest ≠ [] := by
    cases hunit : l.unit <;> simp [spelling, RelativeUnit.text, hunit]
  refine h (l.spelling ++ rest) hne ⟨before, by simp⟩ l hl ?_
  exact ⟨rest ++ behind, by simp⟩

/-- Nothing is lost when a value is divided. -/
theorem Divided.text_eq (h : Divided value lengths last) :
    value = written spelling lengths last := by
  induction h with
  | last => simp [written]
  | cons _ _ _ ih => rw [written_cons, ← ih]

theorem Divided.wellFormed (h : Divided value lengths last) : ∀ p ∈ lengths, p.2.WellFormed := by
  induction h with
  | last => simp
  | cons _ hwell _ ih => exact List.forall_mem_cons.2 ⟨hwell, ih⟩

/-- No length stands in the texts between the lengths. -/
theorem Divided.not_infix (h : Divided value lengths last) (hl : l.WellFormed) :
    ∀ t ∈ last :: lengths.map (·.1), ¬l.spelling <:+: t := by
  induction h with
  | last hnone => simpa using hnone.not_infix hl
  | cons hnone _ _ ih =>
    rw [List.forall_mem_cons] at ih ⊢
    exact ⟨ih.1, List.forall_mem_cons.2 ⟨hnone.not_infix hl, ih.2⟩⟩

/-- A conversion goes along the lengths of a value. -/
theorem Divided.convert_eq (h : Divided value lengths last) :
    convert value = written pixels lengths last := by
  induction h with
  | @last t hnone =>
    have hconvert := pattern.substitute_append pixels hnone.read?_eq_none
    simpa [written, convert, Pattern.substitute, pattern.cut_nil] using hconvert
  | @cons t rest last l lengths hnone hwell hrest ih =>
    rw [convert, pattern.substitute_append pixels hnone.read?_eq_none,
      pattern.substitute_of_read? pixels (hwell.read?_spelling_append rest), written_cons, ← ih,
      convert]

theorem Divided.found_eq (h : Divided value lengths last) : found value = lengths.map (·.2) := by
  induction h with
  | @last t hnone =>
    have hfound := pattern.found_append hnone.read?_eq_none
    simpa [found, Pattern.found, pattern.cut_nil] using hfound
  | @cons t rest last l lengths hnone hwell hrest ih =>
    rw [found, pattern.found_append hnone.read?_eq_none,
      pattern.found_of_read? (hwell.read?_spelling_append rest), List.map_cons, ← ih, found]

/-- Without the letters em there is no length. -/
theorem Divided.eq_nil (h : Divided value lengths last)
    (hem : Text.contains ['e', 'm'] value = false) : lengths = [] := by
  have hfound := convert_eq_self_iff.1 (convert_eq_self_of_no_unit hem)
  rwa [h.found_eq, List.map_eq_nil_iff] at hfound

end Divided

/-! ## Conversions -/

/-- A conversion has the converted value as its result, and reports the lengths in a debug run. -/
theorem step_convert_eq (options : Options) (value : Text) :
    Step.convert options value =
      ⟨if options.debug then (found value).map fun l => .converting l.spelling l.pixels else [],
        .ok (convert value)⟩ := by
  unfold Step.convert
  cases options.debug <;> simp [Bind.bind, Logged.bind, Pure.pure, Logged.log]

/-- **A conversion replaces all lengths of a value and nothing else.** A value is divided into
lengths and texts between them, from left to right, so that no length begins in these texts and none
stands in them. The converted value has the same texts, and in the place of each length sixteen
times its number, in the compact text. A debug run reports each of these replacements once, in
order. There is nothing to replace in a value without the letters em. -/
theorem convert_divided (options : Options) (value : Text) :
    ∃ lengths last, Divided value lengths last ∧
      value = written spelling lengths last ∧
      (∀ p ∈ lengths, p.2.WellFormed ∧ ∃ d, Decimal.ofNumeral? p.2.numeral = some d ∧
        p.2.pixels = ((Binary64.ofDecimal d).times 16).compact) ∧
      (∀ t ∈ last :: lengths.map (·.1), ∀ l : RelativeLength, l.WellFormed → ¬l.spelling <:+: t) ∧
      (Step.convert options value).result = .ok (written pixels lengths last) ∧
      (Step.convert options value).records = (if options.debug then
        lengths.map fun p => .converting p.2.spelling p.2.pixels else []) ∧
      (Text.contains ['e', 'm'] value = false → lengths = [] ∧ convert value = value) := by
  obtain ⟨lengths, last, h⟩ := exists_divided value
  refine ⟨lengths, last, h, h.text_eq, ?_, ?_, ?_, ?_, ?_⟩
  · intro p hp
    have hwell := h.wellFormed p hp
    exact ⟨hwell, _, hwell.ofNumeral?_numeral, rfl⟩
  · exact fun t ht l hl => h.not_infix hl t ht
  · rw [step_convert_eq, h.convert_eq]
  · rw [step_convert_eq, h.found_eq, List.map_map]
    rfl
  · exact fun hem => ⟨h.eq_nil hem, convert_eq_self_of_no_unit hem⟩

/-! ## Both sides of a foreign character -/

/-- A length does not reach across a character that no length has. -/
private theorem read?_append_cons {c : Char} (hdigit : Text.isDigit c = false)
    (hblank : Text.isBlank c = false) (hmark : c ∉ ['.', 'r', 'e', 'm']) (t s : Text) :
    read? (s ++ c :: t) = (read? s).map fun (l, rest) => (l, rest ++ c :: t) := by
  cases hs : read? s with
  | some r =>
    obtain ⟨l, rest⟩ := r
    obtain ⟨hwell, rfl⟩ := read?_eq_some_iff.1 hs
    rw [List.append_assoc, hwell.read?_spelling_append]
    rfl
  | none =>
    rw [Option.map_none, read?_eq_none_iff]
    intro l hwell hprefix
    have hborder : ∀ d ∈ (c :: t).head?, d ∉ l.spelling := by
      rintro d ⟨⟩
      exact hwell.notMem_spelling hdigit hblank hmark
    exact read?_eq_none_iff.1 hs l hwell (Text.prefix_of_prefix_append hborder hprefix)

/-- **Lengths are converted independently of each other.** Around a character that is no digit, no
point, no blank and no letter of a unit, the two sides of a value are converted on their own, and
what is reported of them comes one after the other. -/
theorem convert_append_cons (options : Options) (x y : Text) {c : Char}
    (hdigit : Text.isDigit c = false) (hblank : Text.isBlank c = false)
    (hmark : c ∉ ['.', 'r', 'e', 'm']) :
    convert (x ++ c :: y) = convert x ++ c :: convert y ∧
      Step.convert options (x ++ c :: y) =
        ⟨(Step.convert options x).records ++ (Step.convert options y).records,
          .ok (convert x ++ c :: convert y)⟩ := by
  have hread := fun s => read?_append_cons hdigit hblank hmark y s
  have hconvert : convert (x ++ c :: y) = convert x ++ c :: convert y :=
    Pattern.substitute_append_cons (p := pattern) pixels hread x
  have hfound : found (x ++ c :: y) = found x ++ found y :=
    Pattern.found_append_cons (p := pattern) hread x
  refine ⟨hconvert, ?_⟩
  simp only [step_convert_eq, hconvert, hfound]
  cases options.debug <;> simp

/-- Two lengths on either side of a plus sign, the first of them with a blank inside. -/
theorem convert_append_cons_sum :
    Text.isDigit '+' = false ∧ Text.isBlank '+' = false ∧ '+' ∉ ['.', 'r', 'e', 'm'] ∧
      Step.convert { debug := true } "calc(1.5 rem+.25em)".toList =
        ⟨[.converting "1.5 rem".toList "24".toList, .converting ".25em".toList "4".toList],
          .ok "calc(24+4)".toList⟩ := by
  have hdigit : Text.isDigit '+' = false := by decide
  have hblank : Text.isBlank '+' = false := by decide
  have hmark : '+' ∉ ['.', 'r', 'e', 'm'] := by decide
  have hfront : Step.convert { debug := true } "calc(1.5 rem".toList =
      ⟨[.converting "1.5 rem".toList "24".toList], .ok "calc(24".toList⟩ := by
    rw [step_convert_eq]
    exact Logged.ext (by decide +kernel) (congrArg Except.ok (by decide +kernel))
  have hbehind : Step.convert { debug := true } ".25em)".toList =
      ⟨[.converting ".25em".toList "4".toList], .ok "4)".toList⟩ := by
    rw [step_convert_eq]
    exact Logged.ext (by decide +kernel) (congrArg Except.ok (by decide +kernel))
  obtain ⟨hconvert, hlogged⟩ := convert_append_cons { debug := true } "calc(1.5 rem".toList
    ".25em)".toList hdigit hblank hmark
  have hresult : convert "calc(1.5 rem+.25em)".toList = "calc(24+4)".toList := by decide +kernel
  rw [← hconvert, hfront, hbehind] at hlogged
  refine ⟨hdigit, hblank, hmark, ?_⟩
  rw [← hresult]
  exact hlogged

end RelativeLength

end NativeStyle
