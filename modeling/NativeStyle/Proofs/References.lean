import NativeStyle.Proofs.Verdicts
import NativeStyle.Text.Word
import Mathlib.Data.List.Infix

/-!
# References to variables

A value refers to a variable by its name, and the declaration of the variable has this name as its
property. A conversion goes over values only, and it looks for relative lengths anywhere in them,
also inside a name: neither the number nor the unit has to end where a word does. So a name with a
digit right in front of a unit is changed where it is referred to, and not where it is declared;
every other name stays in both places.

Main results:
- `RelativeLength.wellFormed_of_read?` (what the parts of a length are made of),
- `Variable.not_infix_convert_reference` (a name with a length in it is lost),
- `Variable.infix_convert_of_infix` (every other name stays),
- `Variable.reference_survives_iff` (the two together, and what a policy keeps).
-/

namespace NativeStyle

/-- No character of a name is a blank. -/
theorem Text.isBlank_of_isNameChar {c : Char} (h : isNameChar c = true) : isBlank c = false := by
  -- Beyond ASCII, the table of blanks and that of word characters have nothing in common.
  have hapart : ∀ r ∈ blankTable, ∀ w ∈ wordTable, r.last < w.first ∨ w.last < r.first := by
    decide +kernel
  rw [isNameChar, isWord, Bool.or_eq_true, beq_iff_eq] at h
  rcases h with hword | rfl
  · split at hword
    · rw [Bool.or_eq_true, beq_iff_eq] at hword
      rcases hword with halphanum | rfl
      · exact isBlank_of_isAlphanum halphanum
      · decide
    · obtain ⟨w, hw, hfirst, hlast⟩ := CodeRange.holds_iff.1 hword
      rw [isBlank, ← Bool.not_eq_true, CodeRange.holds_iff]
      rintro ⟨r, hr, hfirst', hlast'⟩
      have := hapart r hr w hw
      omega
  · decide

/-! ## The parts of a length -/

namespace RelativeLength

/-- The parts hold what they are there for, and there is a digit in one of them. -/
structure WellFormed (l : RelativeLength) : Prop where
  whole : ∀ c ∈ l.whole, Text.isDigit c = true
  places : ∀ c ∈ l.places, Text.isDigit c = true
  gap : ∀ c ∈ l.gap, Text.isBlank c = true
  number : l.whole ≠ [] ∨ l.places ≠ []

private theorem isDigit_of_mem_places {s : Text} :
    ∀ c ∈ (readPlaces s).1, Text.isDigit c = true := by
  unfold readPlaces
  split
  · split
    · simp
    · exact List.all_eq_true.1 List.all_takeWhile
  · simp

theorem wellFormed_of_read? {s rest : Text} {l : RelativeLength} (h : read? s = some (l, rest)) :
    l.WellFormed := by
  simp only [read?] at h
  split at h
  · cases h
  · next hnumber =>
    simp only [Option.map_eq_some_iff, Prod.exists, Prod.mk.injEq] at h
    obtain ⟨unit, behind, -, rfl, rfl⟩ := h
    exact {
      whole := List.all_eq_true.1 List.all_takeWhile
      places := isDigit_of_mem_places
      gap := List.all_eq_true.1 List.all_takeWhile
      number := not_and_or.1 hnumber }

section WellFormed

variable {l : RelativeLength} (h : l.WellFormed)

include h

/-- Which characters cannot stand in a length. -/
theorem WellFormed.notMem_spelling {c : Char} (hdigit : Text.isDigit c = false)
    (hblank : Text.isBlank c = false) (hmark : c ∉ ['.', 'r', 'e', 'm']) : c ∉ l.spelling := by
  have hpart {p : Char → Bool} {t : Text} (ht : ∀ d ∈ t, p d = true) (hc : p c = false) :
      c ∉ t := by
    intro hmem
    rw [ht c hmem] at hc
    cases hc
  have hunit : c ∉ l.unit.text := by
    cases l.unit <;> simp_all [RelativeUnit.text]
  have hpoint : c ∉ (if l.places = [] then [] else '.' :: l.places) := by
    split
    · exact List.not_mem_nil
    · rw [List.mem_cons, not_or]
      exact ⟨fun heq => hmark (heq ▸ List.mem_cons_self), hpart h.places hdigit⟩
  simp only [spelling, List.mem_append, not_or]
  exact ⟨⟨⟨hpart h.whole hdigit, hpoint⟩, hpart h.gap hblank⟩, hunit⟩

/-- Without a point and without blanks, a digit stands right in front of the unit. -/
theorem WellFormed.digit_unit_infix (hpoint : '.' ∉ l.spelling)
    (hgap : ∀ c ∈ l.spelling, Text.isBlank c = false) :
    ∃ d, Text.isDigit d = true ∧ d :: l.unit.text <:+: l.spelling := by
  have hplaces : l.places = [] := by
    by_contra hne
    exact hpoint (by simp [spelling, hne])
  have hnoGap : l.gap = [] := by
    rw [List.eq_nil_iff_forall_not_mem]
    intro c hc
    have hblank := hgap c (by simp [spelling, hc])
    rw [h.gap c hc] at hblank
    cases hblank
  have hwhole : l.whole ≠ [] := h.number.resolve_right (· hplaces)
  obtain ⟨front, d, hfront⟩ := (List.eq_nil_or_concat l.whole).resolve_left hwhole
  rw [List.concat_eq_append] at hfront
  refine ⟨d, h.whole d (by simp [hfront]), front, [], ?_⟩
  simp [spelling, hplaces, hnoGap, hfront]

end WellFormed

/-- A digit right in front of a unit is read as a length, whatever stands around the two. -/
theorem read?_digit_unit {d : Char} (hd : Text.isDigit d = true) (unit : RelativeUnit)
    (rest : Text) : (read? (d :: (unit.text ++ rest))).isSome = true := by
  have he : Text.isDigit 'e' = false := by decide
  have hr : Text.isDigit 'r' = false := by decide
  have he' : Text.isBlank 'e' = false := by decide
  have hr' : Text.isBlank 'r' = false := by decide
  cases unit <;> simp [read?, RelativeUnit.text, readPlaces, readUnit?, hd, he, hr, he', hr']

theorem found_ne_nil_of_digit_unit {d : Char} (hd : Text.isDigit d = true) {unit : RelativeUnit}
    {value : Text} (h : d :: unit.text <:+: value) : found value ≠ [] := by
  intro hfound
  obtain ⟨front, rest, rfl⟩ := h
  have hsuffix : d :: (unit.text ++ rest) <:+ front ++ d :: unit.text ++ rest :=
    ⟨front, by simp⟩
  have hnone : read? (d :: (unit.text ++ rest)) = none :=
    pattern.read?_eq_none_of_found_eq_nil hfound hsuffix
  have hsome := read?_digit_unit hd unit rest
  rw [hnone] at hsome
  cases hsome

end RelativeLength

/-! ## Names and references -/

namespace Variable

open RelativeLength (convert)
open Stylesheet (Declaration)

/-- How a value refers to a variable. -/
def reference (name : Text) : Text :=
  "var(".toList ++ name ++ [')']

/-- The name of a variable is two hyphens, and then word characters and hyphens. -/
structure IsName (name : Text) : Prop where
  hyphens : ['-', '-'] <+: name
  nameChars : ∀ c ∈ name, Text.isNameChar c = true

instance (name : Text) : Decidable (IsName name) :=
  decidable_of_iff (['-', '-'] <+: name ∧ ∀ c ∈ name, Text.isNameChar c = true)
    ⟨fun ⟨hyphens, nameChars⟩ => ⟨hyphens, nameChars⟩, fun h => ⟨h.hyphens, h.nameChars⟩⟩

/-- A digit stands right in front of a unit. -/
def HoldsLength (name : Text) : Prop :=
  ∃ d, Text.isDigit d = true ∧ ∃ unit : RelativeUnit, d :: unit.text <:+: name

variable {name : Text}

/-- The units of its lengths are lost from a reference, and numbers do not bring them back. -/
theorem not_infix_convert_reference (h : HoldsLength name) :
    ¬reference name <:+: convert (reference name) := by
  obtain ⟨d, hd, unit, hin⟩ := h
  have hname : name <:+: reference name := ⟨"var(".toList, [')'], rfl⟩
  intro hsurvives
  have hkept := hsurvives.sublist.count_le 'm'
  exact RelativeLength.found_ne_nil_of_digit_unit hd (hin.trans hname)
    (RelativeLength.found_eq_nil_of_count_convert hkept)

/-- No length starts in a reference to a name without one: it could not reach across either of the
parentheses, and has no room in front of them. -/
private theorem read?_eq_none_of_suffix (hname : IsName name) (hlength : ¬HoldsLength name)
    {s : Text} (hne : s ≠ []) (hs : s <:+ reference name) (behind : Text) :
    RelativeLength.read? (s ++ behind) = none := by
  by_contra hsome
  obtain ⟨⟨l, rest⟩, hread⟩ := Option.ne_none_iff_exists'.1 hsome
  have hwell := RelativeLength.wellFormed_of_read? hread
  have hprefix : l.spelling <+: s ++ behind := ⟨rest, (RelativeLength.read?_eq_some hread).symm⟩
  -- The length ends in front of the closing parenthesis.
  obtain ⟨front, c, rfl⟩ := (List.eq_nil_or_concat s).resolve_left hne
  rw [List.concat_eq_append] at hs hprefix
  obtain ⟨before, hbefore⟩ := hs
  rw [reference, ← List.append_assoc] at hbefore
  obtain ⟨hbefore, hlast⟩ := List.append_inj' hbefore rfl
  rw [hlast, List.append_assoc] at hprefix
  have hclose : ∀ d ∈ ([')'] ++ behind).head?, d ∉ l.spelling := by
    rintro d ⟨⟩
    exact hwell.notMem_spelling (by decide) (by decide) (by decide)
  have hfront : l.spelling <:+: "var".toList ++ '(' :: name := by
    have hsuffix : front <:+ "var".toList ++ '(' :: name := ⟨before, hbefore⟩
    exact (Text.prefix_of_prefix_append hclose hprefix).isInfix.trans hsuffix.isInfix
  have hopen : '(' ∉ l.spelling := hwell.notMem_spelling (by decide) (by decide) (by decide)
  rcases Text.infix_or_infix_of_append_cons hopen hfront with hin | hin
  · -- There is no unit in front of the opening parenthesis.
    have hunit : 'm' ∈ l.spelling := by
      cases hu : l.unit <;> simp [RelativeLength.spelling, RelativeUnit.text, hu]
    exact absurd (hin.subset hunit) (by decide)
  · have hnames (c : Char) (hc : c ∈ l.spelling) := hname.nameChars c (hin.subset hc)
    have hpoint : '.' ∉ l.spelling := fun hmem => absurd (hnames '.' hmem) (by decide)
    obtain ⟨d, hd, hunit⟩ := hwell.digit_unit_infix hpoint fun c hc =>
      Text.isBlank_of_isNameChar (hnames c hc)
    exact hlength ⟨d, hd, l.unit, hunit.trans hin⟩

/-- A reference to a name without a length in it stays, wherever in a value it stands. -/
theorem infix_convert_of_infix (hname : IsName name) (hlength : ¬HoldsLength name) {value : Text}
    (h : reference name <:+: value) : reference name <:+: convert value := by
  obtain ⟨front, behind, rfl⟩ := h
  rw [List.append_assoc]
  refine RelativeLength.pattern.infix_substitute _ ?_ ?_ front
  · intro s l rest hread
    exact (RelativeLength.wellFormed_of_read? hread).notMem_spelling (by decide) (by decide)
      (by decide)
  · intro s hne hs
    exact read?_eq_none_of_suffix hname hlength hne hs behind

/-- **References.** The references to a variable survive every conversion exactly if no digit stands
right in front of a unit in its name. A declaration that a policy keeps always has its own name
afterwards, and refers to every such variable that it referred to before. -/
theorem reference_survives_iff (hname : IsName name) :
    ((∀ value, reference name <:+: value → reference name <:+: convert value) ↔
      ¬HoldsLength name) ∧
    ∀ (options : Options) (d : Declaration) (property value : Text),
      (Policy.verdict options .standard d).result = .ok (.keep property value) →
      property = d.property ∧
        (¬HoldsLength name → reference name <:+: d.value → reference name <:+: value) := by
  refine ⟨⟨?_, ?_⟩, ?_⟩
  · intro h hlength
    exact not_infix_convert_reference hlength (h (reference name) List.infix_rfl)
  · intro hlength value
    exact infix_convert_of_infix hname hlength
  · intro options d property value hverdict
    cases Policy.outcome_of_verdict hverdict with
    | kept => exact ⟨rfl, fun hlength => infix_convert_of_infix hname hlength⟩
    | replaced hmem =>
      refine ⟨rfl, fun _ hin => ?_⟩
      -- The values that are replaced refer to nothing.
      have hnone : ∀ r ∈ Policy.replacements, '(' ∉ r.2.1 := by decide
      have hopen : '(' ∈ reference name :=
        List.mem_append_left _ (List.mem_append_left _ (by decide))
      exact absurd (hin.subset hopen) (hnone _ hmem)

/-- A name may have digits and the letters of a unit, as long as they are apart. -/
theorem reference_survives_text2xl :
    IsName "--text-2xl-em".toList ∧
      ∀ value, reference "--text-2xl-em".toList <:+: value →
        reference "--text-2xl-em".toList <:+: convert value := by
  have hname : IsName "--text-2xl-em".toList := by decide +kernel
  have hdigit : ∀ d ∈ "--text-2xl-em".toList, Text.isDigit d = true → d = '2' := by decide +kernel
  refine ⟨hname, (reference_survives_iff hname).1.2 ?_⟩
  rintro ⟨d, hd, unit, hin⟩
  obtain rfl := hdigit d (hin.subset List.mem_cons_self) hd
  revert hin
  cases unit <;> decide

/-- The name of a gap of two em is changed where it is referred to. -/
theorem not_forall_reference_survives :
    ¬∀ name : Text, IsName name →
      ∀ value, reference name <:+: value → reference name <:+: convert value := by
  intro h
  have hname : IsName "--gap-2em".toList := by decide +kernel
  have hconvert : convert (reference "--gap-2em".toList) = "var(--gap-32)".toList := by
    decide +kernel
  have hlost := h "--gap-2em".toList hname (reference "--gap-2em".toList) List.infix_rfl
  rw [hconvert] at hlost
  have hunit : 'm' ∈ reference "--gap-2em".toList := by decide
  exact absurd (hlost.subset hunit) (by decide)

end Variable

end NativeStyle
