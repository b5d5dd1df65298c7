import NativeStyle.Animation.Term
import NativeStyle.Number.Basic
import NativeStyle.Text.Lowercase

/-!
# Components of an animation

A component is a term with its value: times count milliseconds, whole numbers are integers, and
the lexemes of an argument are joined by spaces.

Main statement: `ofNumeral?_isSome_of_read?` (every numeral has a value, so only a time can be
without one).
-/

namespace NativeStyle.Animation

/-- A call of an easing function with the texts of its arguments. -/
structure TimingFunction where
  name : Text
  arguments : List Text
deriving DecidableEq, Repr

/-- The text of a call, without blanks around its commas. -/
def TimingFunction.text (f : TimingFunction) : Text :=
  f.name ++ '(' :: Text.join [','] f.arguments ++ [')']

/-- A part of an animation that fills one of its fields. -/
inductive Component where
  | time (millis : Number)
  | number (n : Number)
  | keyword (t : Text)
  | string (t : Text)
  | function (f : TimingFunction)
deriving DecidableEq

/-- Times are kept to a nanosecond: six decimal places of a millisecond. -/
def millisPlaces : Nat := 6

/-- The milliseconds of a time. A time in milliseconds ends in the letters ms, in any letter case;
any other counts seconds before its last letter. There is none where a long s follows an m: that
is no ending in ms, and the m is no digit. -/
def millis? (time : Text) : Option Binary64 :=
  let lowered := Text.lower time
  let millis :=
    if Text.endsWith ['m', 's'] lowered then
      (Decimal.ofNumeral? lowered.dropLast.dropLast).map Binary64.ofDecimal
    else (Decimal.ofNumeral? lowered.dropLast).map fun d => (Binary64.ofDecimal d).times 1000
  millis.map (·.roundPlaces millisPlaces)

/-- The component of a term, if its number can be read. -/
def Component.ofTerm? : Term → Option Component
  | .time t => (millis? t).map fun millis => .time millis.toNumber
  | .number t => (Decimal.ofNumeral? t).map fun d => .number (Binary64.ofDecimal d).toNumber
  | .keyword t => some (.keyword t)
  | .string t => some (.string t)
  | .call name arguments => some (.function ⟨name, arguments.map (Text.join [' '])⟩)

/-! ## Every numeral has a value -/

private theorem not_mem_takeWhile {p : Char → Bool} {c : Char} (hc : p c = false) (s : Text) :
    c ∉ s.takeWhile p := fun hmem => by
  have hp := List.all_takeWhile (p := p) (l := s)
  rw [List.all_eq_true] at hp
  rw [hp c hmem] at hc
  cases hc

private theorem ofUnsigned?_isSome {negative : Bool} {s rest : Text} {n : Numeral}
    (h : Numeral.readUnsigned? negative s = some (n, rest)) (sign : Bool) :
    (Decimal.ofUnsigned? sign (n.whole ++ n.places.elim [] ('.' :: ·))).isSome = true := by
  have hpoint : Text.isDigit '.' = false := by decide
  have hdigits (t : Text) : (t.takeWhile Text.isDigit).all Text.isDigit = true := List.all_takeWhile
  simp only [Numeral.readUnsigned?] at h
  split at h
  · next tail _ =>
    split at h
    · cases h
    · next hne =>
      cases h
      have hcut : Text.cut? '.' (s.takeWhile Text.isDigit ++ '.' :: tail.takeWhile Text.isDigit) =
          some (s.takeWhile Text.isDigit, tail.takeWhile Text.isDigit) :=
        Text.cut?_eq_some_iff.2 ⟨rfl, not_mem_takeWhile hpoint s⟩
      have hne' : s.takeWhile Text.isDigit ++ tail.takeWhile Text.isDigit ≠ [] := by
        simpa using hne
      simp only [Decimal.ofUnsigned?, Option.elim_some, hcut, Option.getD_some, List.all_append,
        hdigits, Bool.and_self, and_true]
      rw [if_pos hne']
      rfl
  · split at h
    · cases h
    · next hne =>
      cases h
      have hcut : Text.cut? '.' (s.takeWhile Text.isDigit) = none := by
        cases hc : Text.cut? '.' (s.takeWhile Text.isDigit) with
        | none => rfl
        | some r =>
          have hmem : '.' ∈ s.takeWhile Text.isDigit := by
            rw [(Text.cut?_eq_some_iff.1 hc).1]; simp
          exact absurd hmem (not_mem_takeWhile hpoint s)
      simp only [Decimal.ofUnsigned?, Option.elim_none, List.append_nil, hcut, Option.getD_none,
        hdigits, and_true]
      rw [if_pos hne]
      rfl

/-- Every numeral has a value. -/
theorem ofNumeral?_isSome_of_read? {s rest : Text} {n : Numeral}
    (h : Numeral.read? s = some (n, rest)) : (Decimal.ofNumeral? n.spelling).isSome = true := by
  have hneg {sign : Bool} {t : Text} (h : Numeral.readUnsigned? sign t = some (n, rest)) :
      n.negative = sign := by
    simp only [Numeral.readUnsigned?] at h
    split at h <;> split at h <;> cases h <;> rfl
  unfold Numeral.read? at h
  split at h
  · rw [Numeral.spelling, Numeral.start, hneg h]
    exact ofUnsigned?_isSome h true
  · next hminus =>
    rw [Numeral.spelling, Numeral.start, hneg h]
    have hsome := ofUnsigned?_isSome h false
    -- Without a sign the numeral does not start with a minus.
    unfold Decimal.ofNumeral?
    split
    · next t ht =>
      have hhead : s.head? = some '-' := by
        have hs := Numeral.readUnsigned?_eq_some h
        simp only [Numeral.spelling, Numeral.start, hneg h] at hs ht
        simp only [Bool.false_eq_true, if_false, List.nil_append] at hs ht
        rw [hs, ht]
        rfl
      cases s with
      | nil => cases hhead
      | cons c s => cases hhead; exact absurd rfl (hminus s)
    · exact hsome

end NativeStyle.Animation
