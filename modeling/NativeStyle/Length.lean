import NativeStyle.Number.Basic
import NativeStyle.Text.Blank
import NativeStyle.Text.Pattern

/-!
# Relative lengths

A relative length is a number with the unit em or rem, blanks between them allowed. The engine
measures in device pixels, sixteen to an em, so every relative length in a value is replaced by
its bare number of pixels.

Main statement: `convert_eq_self_of_no_unit` (a value without the letters em stays).
-/

namespace NativeStyle

/-- The device pixels of one em. -/
def pixelsPerEm : Nat := 16

/-- The units that are relative to a font size. -/
inductive RelativeUnit where
  | em
  | rem
deriving DecidableEq, Repr

/-- The letters of a unit. -/
def RelativeUnit.text : RelativeUnit → Text
  | .em => ['e', 'm']
  | .rem => ['r', 'e', 'm']

/-- A relative length as it was written. -/
structure RelativeLength where
  /-- The digits before the point. -/
  whole : Text
  /-- The digits after the point; without any there is no point. -/
  places : Text
  /-- The blanks before the unit. -/
  gap : Text
  unit : RelativeUnit
deriving DecidableEq, Repr

namespace RelativeLength

/-! ## Reading -/

/-- The text of a relative length. -/
def spelling (l : RelativeLength) : Text :=
  l.whole ++ (if l.places = [] then [] else '.' :: l.places) ++ l.gap ++ l.unit.text

/-- The unit at the front of a text. -/
def readUnit? : Text → Option (RelativeUnit × Text)
  | 'e' :: 'm' :: rest => some (.em, rest)
  | 'r' :: 'e' :: 'm' :: rest => some (.rem, rest)
  | _ => none

/-- The digits behind a point at the front of a text, if there are any. -/
def readPlaces : Text → Text × Text
  | '.' :: s =>
    if s.takeWhile Text.isDigit = [] then ([], '.' :: s)
    else (s.takeWhile Text.isDigit, s.dropWhile Text.isDigit)
  | s => ([], s)

/-- The relative length at the front of a text. -/
def read? (s : Text) : Option (RelativeLength × Text) :=
  let whole := s.takeWhile Text.isDigit
  let (places, behind) := readPlaces (s.dropWhile Text.isDigit)
  if whole = [] ∧ places = [] then none
  else
    (readUnit? (behind.dropWhile Text.isBlank)).map fun (unit, rest) =>
      (⟨whole, places, behind.takeWhile Text.isBlank, unit⟩, rest)

private theorem readUnit?_eq_some {s rest : Text} {u : RelativeUnit}
    (h : readUnit? s = some (u, rest)) : s = u.text ++ rest := by
  unfold readUnit? at h
  split at h <;> cases h <;> rfl

private theorem readPlaces_spelling (s : Text) :
    s = (if (readPlaces s).1 = [] then [] else '.' :: (readPlaces s).1) ++ (readPlaces s).2 := by
  unfold readPlaces
  split
  · split
    · simp
    · simp [List.takeWhile_append_dropWhile, *]
  · simp

theorem read?_eq_some {s rest : Text} {l : RelativeLength} (h : read? s = some (l, rest)) :
    s = l.spelling ++ rest := by
  simp only [read?] at h
  split at h
  · cases h
  · simp only [Option.map_eq_some_iff, Prod.exists, Prod.mk.injEq] at h
    obtain ⟨unit, tail, hunit, rfl, rfl⟩ := h
    have hplaces := readPlaces_spelling (s.dropWhile Text.isDigit)
    have hgap := List.takeWhile_append_dropWhile (p := Text.isBlank)
      (l := (readPlaces (s.dropWhile Text.isDigit)).2)
    rw [readUnit?_eq_some hunit] at hgap
    rw [← hgap] at hplaces
    have hwhole := List.takeWhile_append_dropWhile (p := Text.isDigit) (l := s)
    rw [hplaces] at hwhole
    simpa [spelling, List.append_assoc] using hwhole.symm

/-- Relative lengths as a pattern to look for. -/
def pattern : Pattern RelativeLength where
  read? := read?
  spelling := spelling
  read?_spelling := read?_eq_some
  spelling_ne_nil {_ l _} _ := by
    cases hu : l.unit <;> simp [spelling, hu, RelativeUnit.text]

/-! ## Converting -/

/-- The number of pixels of a relative length, in the compact text. -/
def pixels (l : RelativeLength) : Text :=
  ((Binary64.ofDecimal (.ofDigits false l.whole l.places)).times pixelsPerEm).compact

/-- The value with every relative length replaced by its pixels. -/
def convert (value : Text) : Text :=
  pattern.substitute pixels value

/-- The relative lengths of a value from left to right. -/
def found (value : Text) : List RelativeLength :=
  pattern.found value

/-- A value without the letters em stays. -/
theorem convert_eq_self_of_no_unit {value : Text} (h : Text.contains ['e', 'm'] value = false) :
    convert value = value := by
  refine pattern.substitute_eq_self fun t ht => ?_
  cases hr : pattern.read? t with
  | none => rfl
  | some r =>
    -- A match would hold the letters of its unit.
    have hspell := pattern.read?_spelling hr
    have hem : ['e', 'm'] <:+: r.1.unit.text := by
      cases r.1.unit
      · exact List.infix_refl _
      · exact ⟨['r'], [], rfl⟩
    have hinfix : ['e', 'm'] <:+: value := by
      refine hem.trans (List.IsInfix.trans ?_ ht.isInfix)
      rw [hspell]
      exact ⟨r.1.whole ++ (if r.1.places = [] then [] else '.' :: r.1.places) ++ r.1.gap, r.2, rfl⟩
    rw [← Text.contains_iff, h] at hinfix
    cases hinfix

end RelativeLength

end NativeStyle
