import NativeStyle.Proofs.Substitution
import Mathlib.Data.List.Infix

/-!
# Groups without weight

A group without weight is replaced by what it holds, and the pattern ends it at the first closing
parenthesis. Where the group holds parentheses itself, this is the end of a pair inside it: that
parenthesis is taken out, and the one that ends the group stays.

In a selector with nothing else to replace, unwrapping a group around balanced text is right
exactly if taking out the one parenthesis or the other makes no difference, which is so if there is
nothing but closing parentheses from the first of them on.

Main results:
- `Text.forall_eq_of_trimRight_eq` (moving a character over a text shows),
- `Selector.adapt_of_plain` (where there is nothing to replace, adapting trims),
- `Selector.adapt_group_iff` (when a group is replaced by what it holds).
-/

namespace NativeStyle

/-! ## A character moved over a text -/

namespace Text

variable {s t : Text} {c : Char}

theorem append_singleton_eq_cons_iff : s ++ [c] = c :: s ↔ ∀ d ∈ s, d = c := by
  induction s with
  | nil => simp
  | cons d s ih =>
    rw [List.cons_append, List.cons.injEq, List.forall_mem_cons]
    constructor
    · rintro ⟨rfl, h⟩
      exact ⟨rfl, ih.1 h⟩
    · rintro ⟨rfl, h⟩
      exact ⟨rfl, ih.2 h⟩

/-- Moving a character over a text shows, also with the blanks at the end trimmed, unless there is
nothing else in the text. -/
theorem forall_eq_of_trimRight_eq (hc : isBlank c = false) (front : Text)
    (h : trimRight (front ++ (s ++ c :: t)) = trimRight (front ++ c :: (s ++ t))) :
    ∀ d ∈ s, d = c := by
  have hmoved : s ++ c :: trimRight t = c :: trimRight (s ++ t) := by
    rw [← List.append_assoc, trimRight_append_cons hc, trimRight_append_cons hc,
      List.append_assoc] at h
    exact (List.append_right_inj front).1 h
  -- As much is trimmed behind the text with the character as behind that without it.
  have hlength : (s ++ trimRight t).length = (trimRight (s ++ t)).length := by
    have := congrArg List.length hmoved
    simp only [List.length_append, List.length_cons] at this ⊢
    omega
  have hstart : s ++ trimRight t <+: s ++ t :=
    (List.prefix_append_right_inj s).2 (trimRight_isPrefix t)
  have hsame : s ++ trimRight t = trimRight (s ++ t) :=
    (List.prefix_of_prefix_length_le hstart (trimRight_isPrefix _) hlength.le).eq_of_length hlength
  rw [← hsame, ← List.singleton_append, ← List.append_assoc, ← List.cons_append] at hmoved
  exact append_singleton_eq_cons_iff.1 ((List.append_left_inj (trimRight t)).1 hmoved)

end Text

namespace Selector

/-! ## Plain selectors -/

/-- The texts that adapting replaces. -/
def replacedTexts : List Text :=
  [":root".toList, ":host".toList, whereStart, ":not(:last-child)".toList,
    ":not([hidden]) ~ :not([hidden])".toList, placeholder]

/-- The selector holds no text that adapting replaces. -/
def Plain (selector : Text) : Prop :=
  ∀ needle ∈ replacedTexts, ¬needle <:+: selector

instance (selector : Text) : Decidable (Plain selector) :=
  inferInstanceAs (Decidable (∀ needle ∈ replacedTexts, ¬needle <:+: selector))

theorem Plain.infix {s t : Text} (h : Plain s) (ht : t <:+: s) : Plain t :=
  fun needle hmem hneedle => h needle hmem (hneedle.trans ht)

/-- A group starts with the same text as every other. -/
private theorem read?_where_eq_none {s : Text} (h : ¬whereStart <+: s) :
    wherePattern.read? s = none := by
  by_contra hread
  obtain ⟨⟨inner, rest⟩, hread⟩ := Option.ne_none_iff_exists'.1 hread
  have hspelled : s = whereStart ++ inner ++ [')'] ++ rest := wherePattern.read?_spelling hread
  rw [List.append_assoc, List.append_assoc] at hspelled
  exact h ⟨_, hspelled.symm⟩

private theorem substitute_where_eq_self {s : Text} (h : ¬whereStart <:+: s) :
    wherePattern.substitute id s = s := by
  apply wherePattern.substitute_eq_self
  intro t ht
  exact read?_where_eq_none fun hstart => h (hstart.isInfix.trans ht.isInfix)

theorem Plain.adaptGaps {s : Text} (h : Plain s) : adaptGaps s = Text.trim s := by
  have hfound {needles : List Text} (hne : [] ∉ needles)
      (hsub : ∀ needle ∈ needles, needle ∈ replacedTexts) :
      (Pattern.literals needles hne).found s = [] :=
    Pattern.found_literals_eq_nil fun needle hmem => h needle (hsub needle hmem)
  exact adaptGaps_of_found_eq_nil (hfound _ (by decide)) (hfound _ (by decide))
    (hfound _ (by decide))

/-- Where there is nothing to replace, adapting trims. -/
theorem adapt_of_plain {s : Text} (h : Plain s) : adapt s = Text.trim s := by
  have hroot : rootPattern.found s = [] :=
    Pattern.found_literals_eq_nil fun needle hmem =>
      h needle (by revert needle; decide)
  rw [adapt_eq_adaptGaps, Pattern.substitute_of_found_eq_nil _ hroot,
    substitute_where_eq_self (h whereStart (by decide)), h.adaptGaps]

/-! ## Unwrapping -/

/-- As many closing as opening parentheses, and never more closed than opened on the way. -/
structure Balanced (s : Text) : Prop where
  neverBelow : ∀ t, t <+: s → t.count ')' ≤ t.count '('
  sameTotals : s.count ')' = s.count '('

instance (s : Text) : Decidable (Balanced s) :=
  decidable_of_iff ((∀ t ∈ s.inits, t.count ')' ≤ t.count '(') ∧ s.count ')' = s.count '(')
    ⟨fun ⟨hbelow, htotals⟩ => ⟨fun t ht => hbelow t ((List.mem_inits t s).2 ht), htotals⟩,
      fun h => ⟨fun t ht => h.neverBelow t ((List.mem_inits t s).1 ht), h.sameTotals⟩⟩

/-- Something is open where balanced text closes a parenthesis. -/
theorem Balanced.open_mem {front rest : Text} (h : Balanced (front ++ ')' :: rest))
    (hclose : ')' ∉ front) : '(' ∈ front := by
  have hcount := h.neverBelow (front ++ [')']) ⟨rest, by simp⟩
  rw [List.count_append, List.count_append, List.count_eq_zero.2 hclose] at hcount
  have hpos : 0 < front.count '(' := by simpa using hcount
  exact List.count_pos_iff.1 hpos

section Groups

variable {before inner behind rest : Text}

/-- Up to its first closing parenthesis, a group is replaced by what it holds. -/
theorem substitute_where (hne : inner ≠ []) (hclose : ')' ∉ inner)
    (hbefore : ¬whereStart <:+: before) (hrest : ¬whereStart <:+: rest) :
    wherePattern.substitute id (before ++ (whereStart ++ (inner ++ ')' :: rest))) =
      before ++ (inner ++ rest) := by
  have hread : wherePattern.read? (whereStart ++ (inner ++ ')' :: rest)) = some (inner, rest) := by
    simp [wherePattern, Text.after?_eq_some_iff.2 rfl, Text.cut?_eq_some_iff.2 ⟨rfl, hclose⟩, hne]
  rw [wherePattern.substitute_append, Pattern.substitute, wherePattern.cut_of_read? hread]
  · show before ++ (inner ++ wherePattern.substitute id rest) = _
    rw [substitute_where_eq_self hrest]
  · -- No group starts in front of this one: its start has a colon only as its first character.
    intro s hne hs
    apply read?_where_eq_none
    intro hstart
    have hborder : ∀ d ∈ (whereStart ++ (inner ++ ')' :: rest)).head?, d ∉ whereStart.tail := by
      rintro d ⟨⟩
      decide
    have hshort := Text.prefix_of_prefix_append_of_ne_nil hborder hne hstart
    exact hbefore (hshort.isInfix.trans hs.isInfix)

/-- The root stands in a group only if it stands in one of the parts. -/
private theorem substitute_root_group (hbefore : Plain before) (hinner : Plain inner)
    (hbehind : Plain behind) :
    rootPattern.substitute (fun _ => rootClasses)
      (before ++ (whereStart ++ (inner ++ ')' :: behind))) =
        before ++ (whereStart ++ (inner ++ ')' :: behind)) := by
  apply Pattern.substitute_of_found_eq_nil
  apply Pattern.found_literals_eq_nil
  intro needle hmem hin
  -- A colon only in front, no parenthesis, and not in the start of a group.
  have hneedles : ∀ needle ∈ [":root".toList, ":host".toList], ':' ∉ needle.tail ∧
      '(' ∉ needle ∧ ')' ∉ needle ∧ ¬needle <:+: ":where".toList ∧ needle ∈ replacedTexts := by
    decide
  obtain ⟨hcolon, hopen, hclose, hstart, hreplaced⟩ := hneedles needle hmem
  have hborder : ∀ d ∈ (whereStart ++ (inner ++ ')' :: behind)).head?, d ∉ needle.tail := by
    rintro d ⟨⟩
    exact hcolon
  have hwhere : whereStart ++ (inner ++ ')' :: behind) =
    ":where".toList ++ '(' :: (inner ++ ')' :: behind) := rfl
  rcases Text.infix_or_infix_of_append hborder hin with hin | hin
  · exact hbefore needle hreplaced hin
  rw [hwhere] at hin
  rcases Text.infix_or_infix_of_append_cons hopen hin with hin | hin
  · exact hstart hin
  rcases Text.infix_or_infix_of_append_cons hclose hin with hin | hin
  · exact hinner needle hreplaced hin
  · exact hbehind needle hreplaced hin

/-- Adapting a group goes on with the gaps in what its first closing parenthesis leaves. -/
private theorem adapt_group (hne : inner ≠ []) (hclose : ')' ∉ inner) (hbefore : Plain before)
    (hrest : ¬whereStart <:+: rest)
    (hroot : rootPattern.substitute (fun _ => rootClasses)
      (before ++ (whereStart ++ (inner ++ ')' :: rest))) =
        before ++ (whereStart ++ (inner ++ ')' :: rest))) :
    adapt (before ++ (whereStart ++ (inner ++ ')' :: rest))) =
      adaptGaps (before ++ (inner ++ rest)) := by
  rw [adapt_eq_adaptGaps, hroot,
    substitute_where hne hclose (hbefore whereStart (by decide)) hrest]

/-- Taking out the first closing parenthesis behind an opening one instead of a later one shows,
unless there is nothing else between the two. -/
private theorem adaptGaps_moved_iff (hopen : '(' ∈ inner)
    (hplain : Plain (before ++ (inner ++ ')' :: (rest ++ behind)))) :
    adaptGaps (before ++ (inner ++ (rest ++ ')' :: behind))) =
        Text.trim (before ++ (inner ++ ')' :: (rest ++ behind))) ↔
      ∀ c ∈ rest, c = ')' := by
  constructor
  · intro h
    -- Both texts have the same characters, so no gap and no placeholder was replaced.
    have hcount : (before ++ (inner ++ (rest ++ ')' :: behind))).count ':' =
        (adaptGaps (before ++ (inner ++ (rest ++ ')' :: behind)))).count ':' := by
      rw [h, Text.count_trim (by decide)]
      simp
    obtain ⟨hlast, hshown, hplaceholder⟩ := found_eq_nil_of_count_adaptGaps hcount.le
    rw [adaptGaps_of_found_eq_nil hlast hshown hplaceholder] at h
    -- The opening parenthesis keeps trimming on the left away from the place.
    obtain ⟨first, second, rfl⟩ := List.append_of_mem hopen
    have hsplit (t : Text) : before ++ (first ++ '(' :: second ++ t) =
        (before ++ first) ++ '(' :: (second ++ t) := by
      simp only [List.append_assoc, List.cons_append]
    rw [hsplit, hsplit, Text.trim_append_cons (by decide), Text.trim_append_cons (by decide),
      List.append_right_inj, List.cons.injEq] at h
    exact Text.forall_eq_of_trimRight_eq (by decide) second h.2
  · intro h
    have hmoved : rest ++ ')' :: behind = ')' :: (rest ++ behind) := by
      rw [← List.singleton_append, ← List.append_assoc, Text.append_singleton_eq_cons_iff.2 h]
      rfl
    rw [hmoved, hplain.adaptGaps]

/-- **Groups.** In a selector with nothing else to replace, a group around balanced text is
replaced by this text exactly if there is nothing but closing parentheses in the text from the
first of them on. -/
theorem adapt_group_iff (hne : inner ≠ []) (hbalanced : Balanced inner)
    (hplain : Plain (before ++ inner ++ behind)) :
    adapt (before ++ whereStart ++ inner ++ [')'] ++ behind) =
        Text.trim (before ++ inner ++ behind) ↔
      ∀ c ∈ inner.dropWhile (· ≠ ')'), c = ')' := by
  have hbefore : Plain before := hplain.infix ⟨[], inner ++ behind, by simp⟩
  have hinner : Plain inner := hplain.infix (List.infix_append _ _ _)
  have hbehind : Plain behind := hplain.infix (List.suffix_append _ _).isInfix
  have hroot := substitute_root_group hbefore hinner hbehind
  have hgroup : before ++ whereStart ++ inner ++ [')'] ++ behind =
      before ++ (whereStart ++ (inner ++ ')' :: behind)) := by
    simp only [List.append_assoc, List.singleton_append]
  have hdrop {s : Text} (hs : ')' ∉ s) : s.dropWhile (· ≠ ')') = [] := by
    rw [List.dropWhile_eq_nil_iff]
    intro c hc
    exact decide_eq_true fun heq => hs (heq ▸ hc)
  rw [hgroup]
  rw [List.append_assoc] at hplain ⊢
  cases hcut : Text.cut? ')' inner with
  | none =>
    -- The group ends at its own parenthesis.
    have hclose := Text.cut?_eq_none_iff.1 hcut
    rw [adapt_group hne hclose hbefore (hbehind whereStart (by decide)) hroot,
      hplain.adaptGaps, hdrop hclose]
    simp
  | some parts =>
    obtain ⟨front, inside⟩ := parts
    obtain ⟨rfl, hclose⟩ := Text.cut?_eq_some_iff.1 hcut
    have hopen := hbalanced.open_mem hclose
    have hrest : ¬whereStart <:+: inside ++ ')' :: behind := by
      intro hin
      rcases Text.infix_or_infix_of_append_cons (by decide) hin with hin | hin
      · have hsuffix : inside <:+ front ++ ')' :: inside := ⟨front ++ [')'], by simp⟩
        exact hinner whereStart (by decide) (hin.trans hsuffix.isInfix)
      · exact hbehind whereStart (by decide) hin
    have hfirst : (front ++ ')' :: inside).dropWhile (· ≠ ')') = ')' :: inside := by
      rw [Text.dropWhile_append_cons (by simp), hdrop hclose, List.nil_append]
    simp only [List.append_assoc, List.cons_append] at hplain hroot ⊢
    rw [adapt_group (List.ne_nil_of_mem hopen) hclose hbefore hrest hroot, hfirst,
      adaptGaps_moved_iff hopen hplain]
    simp

end Groups

/-- A list of classes at the end of the group closes right in front of it. -/
theorem adapt_group_isList :
    (".space-y-1 > :is(.a, .b)".toList ≠ [] ∧ Balanced ".space-y-1 > :is(.a, .b)".toList ∧
      Plain (".c ".toList ++ ".space-y-1 > :is(.a, .b)".toList ++ " > .d".toList)) ∧
    adapt (".c ".toList ++ whereStart ++ ".space-y-1 > :is(.a, .b)".toList ++ [')'] ++
        " > .d".toList) =
      Text.trim (".c ".toList ++ ".space-y-1 > :is(.a, .b)".toList ++ " > .d".toList) := by
  have hne : ".space-y-1 > :is(.a, .b)".toList ≠ [] := by decide
  have hbalanced : Balanced ".space-y-1 > :is(.a, .b)".toList := by decide
  have hplain :
      Plain (".c ".toList ++ ".space-y-1 > :is(.a, .b)".toList ++ " > .d".toList) := by decide
  exact ⟨⟨hne, hbalanced, hplain⟩, (adapt_group_iff hne hbalanced hplain).2 (by decide)⟩

/-- What stands behind a list of classes in the group moves into the list. -/
theorem not_forall_adapt_group :
    ¬∀ before inner behind : Text, inner ≠ [] → Balanced inner →
      Plain (before ++ inner ++ behind) →
      adapt (before ++ whereStart ++ inner ++ [')'] ++ behind) =
        Text.trim (before ++ inner ++ behind) := by
  intro h
  have hmoved := h [] ":is(.b) .c".toList [] (by decide) (by decide) (by decide)
  revert hmoved
  decide +kernel

end Selector

end NativeStyle
