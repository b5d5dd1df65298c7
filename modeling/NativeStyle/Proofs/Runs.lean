import NativeStyle.Adapt.Sheet
import Mathlib.Data.List.Forall2

/-!
# Runs one after the other

How results, records and joined texts of consecutive runs fit together.

The result of a `Logged` computation does not depend on the records, so it can be computed in
`Except` alone (`result_bind`, `result_mapM`, `result_joinFragments`). Fragments are never empty
(`adaptNode_noEmptyText`); hence joining the fragments of two runs is the same as joining the two
joined texts, the empty ones left out (`joinFragments_append`).
-/

namespace NativeStyle

open Stylesheet (Node split)

/-! ## Results without records -/

namespace Logged

variable {α β : Type}

@[simp] theorem result_pure (a : α) : (pure a : Logged α).result = .ok a := rfl

@[simp] theorem records_pure (a : α) : (pure a : Logged α).records = [] := rfl

theorem result_bind (x : Logged α) (f : α → Logged β) :
    (x >>= f).result = x.result >>= fun a => (f a).result := by
  cases h : x.result with
  | ok a => exact (records_bind_ok h).2
  | error e => exact (records_bind_error h).2

/-- The second step matters only at the result of the first. -/
theorem bind_congr_of_result {x : Logged α} {f g : α → Logged β}
    (h : ∀ a, x.result = .ok a → f a = g a) : x >>= f = x >>= g := by
  -- After a failure neither second step is run.
  cases hx : x.result with
  | ok a =>
    apply Logged.ext
    · rw [(records_bind_ok hx).1, (records_bind_ok hx).1, h a hx]
    · rw [(records_bind_ok hx).2, (records_bind_ok hx).2, h a hx]
  | error e =>
    apply Logged.ext
    · rw [(records_bind_error hx).1, (records_bind_error hx).1]
    · rw [(records_bind_error hx).2, (records_bind_error hx).2]

theorem result_mapM (f : α → Logged β) (xs : List α) :
    (xs.mapM f).result = xs.mapM fun a => (f a).result := by
  induction xs with
  | nil => rfl
  | cons a xs ih =>
    simp only [List.mapM_cons, result_bind, ih, result_pure]
    rfl

end Logged

/-- A list of runs gives a list of results exactly if every run gives its result. -/
theorem mapM_eq_ok_iff {ε α β : Type} {f : α → Except ε β} {xs : List α} {ys : List β} :
    xs.mapM f = .ok ys ↔ List.Forall₂ (fun x y => f x = .ok y) xs ys := by
  constructor
  · intro h
    induction xs generalizing ys with
    | nil =>
      cases h
      exact .nil
    | cons x xs ih =>
      rw [List.mapM_cons] at h
      -- The first run that fails would be the result of them all.
      cases hx : f x with
      | error e => rw [hx] at h; cases h
      | ok z =>
        cases hxs : xs.mapM f with
        | error e => rw [hx, hxs] at h; cases h
        | ok zs =>
          rw [hx, hxs] at h
          cases h
          exact .cons hx (ih hxs)
  · intro h
    induction h with
    | nil => rfl
    | cons hx _ ih =>
      rw [List.mapM_cons, hx, ih]
      rfl

/-- Whatever a list of runs gives, one of them gave. -/
theorem exists_of_mem_mapM {ε α β : Type} {f : α → Except ε β} {xs : List α} {ys : List β}
    (h : xs.mapM f = .ok ys) {y : β} (hy : y ∈ ys) : ∃ x ∈ xs, f x = .ok y := by
  induction mapM_eq_ok_iff.1 h with
  | nil => cases hy
  | @cons x z xs zs hx hrest ih =>
    rcases List.mem_cons.1 hy with rfl | hmem
    · exact ⟨x, List.mem_cons_self, hx⟩
    · obtain ⟨x', hx', hfx'⟩ := ih (mapM_eq_ok_iff.2 hrest) hmem
      exact ⟨x', List.mem_cons_of_mem _ hx', hfx'⟩

/-- A list of runs fails only where one of them does. -/
theorem exists_of_mapM_eq_error {ε α β : Type} {f : α → Except ε β} {xs : List α} {e : ε}
    (h : xs.mapM f = .error e) : ∃ x ∈ xs, f x = .error e := by
  induction xs with
  | nil => cases h
  | cons x xs ih =>
    rw [List.mapM_cons] at h
    cases hx : f x with
    | error e' =>
      rw [hx] at h
      cases h
      exact ⟨x, List.mem_cons_self, hx⟩
    | ok y =>
      -- The first run gave its result, so it is one of the others.
      cases hxs : xs.mapM f with
      | error e' =>
        rw [hx, hxs] at h
        cases h
        obtain ⟨x', hx', he⟩ := ih hxs
        exact ⟨x', List.mem_cons_of_mem _ hx', he⟩
      | ok ys =>
        rw [hx, hxs] at h
        cases h

/-! ## Joining texts -/

namespace Text

theorem join_cons_of_ne_nil (separator t : Text) {texts : List Text} (h : texts ≠ []) :
    join separator (t :: texts) = t ++ separator ++ join separator texts :=
  List.intercalate_cons_of_ne_nil h

theorem mem_join {separator : Text} {texts : List Text} {c : Char} (h : c ∈ join separator texts) :
    c ∈ separator ∨ ∃ t ∈ texts, c ∈ t := by
  induction texts with
  | nil => cases h
  | cons t texts ih =>
    -- A single text is joined without a separator.
    by_cases hrest : texts = []
    · subst hrest
      exact Or.inr ⟨t, List.mem_cons_self, by simpa [join] using h⟩
    · rw [join_cons_of_ne_nil _ _ hrest, List.mem_append, List.mem_append] at h
      rcases h with (ht | hseparator) | hrest
      · exact Or.inr ⟨t, List.mem_cons_self, ht⟩
      · exact Or.inl hseparator
      · rcases ih hrest with hseparator | ⟨u, hu, hc⟩
        · exact Or.inl hseparator
        · exact Or.inr ⟨u, List.mem_cons_of_mem _ hu, hc⟩

theorem join_ne_nil {separator : Text} {texts : List Text} (hne : texts ≠ [])
    (h : [] ∉ texts) : join separator texts ≠ [] := by
  cases texts with
  | nil => exact absurd rfl hne
  | cons t texts =>
    have ht : t ≠ [] := fun hnil => h (hnil ▸ List.mem_cons_self)
    by_cases hrest : texts = []
    · simpa [hrest, join] using ht
    · rw [join_cons_of_ne_nil _ _ hrest]
      simp [ht]

theorem join_append_of_ne_nil {separator : Text} {before behind : List Text}
    (hbefore : before ≠ []) (hbehind : behind ≠ []) :
    join separator (before ++ behind) =
      join separator before ++ separator ++ join separator behind := by
  induction before with
  | nil => exact absurd rfl hbefore
  | cons t before ih =>
    -- The separator between the two parts is the one behind the last text of the first.
    by_cases h : before = []
    · subst h
      rw [List.singleton_append, join_cons_of_ne_nil _ _ hbehind]
      simp [join]
    · rw [List.cons_append, join_cons_of_ne_nil _ _ (by simp [h]), ih h,
        join_cons_of_ne_nil _ _ h]
      simp only [List.append_assoc]

/-- Where no text is empty, two parts of a list can be joined each on its own. A part without
texts then gets no separator. -/
theorem join_append {separator : Text} {before behind : List Text} (hbefore : [] ∉ before)
    (hbehind : [] ∉ behind) :
    join separator (before ++ behind) =
      join separator ([join separator before, join separator behind].filter (· ≠ [])) := by
  -- Four cases: each part may be without texts, and is then filtered out.
  by_cases h : before = []
  · by_cases h' : behind = []
    · subst h; subst h'; rfl
    · have hne : join separator behind ≠ [] := join_ne_nil h' hbehind
      subst h
      simp [join] at hne ⊢
      simp [hne]
  · have hne : join separator before ≠ [] := join_ne_nil h hbefore
    by_cases h' : behind = []
    · subst h'
      simp [join] at hne ⊢
      simp [hne]
    · have hne' : join separator behind ≠ [] := join_ne_nil h' hbehind
      rw [join_append_of_ne_nil h h', List.filter_cons_of_pos (by simpa using hne),
        List.filter_cons_of_pos (by simpa using hne')]
      simp [join]

end Text

/-! ## Fragments -/

/-- What is left of a node is no empty text. -/
def NoEmptyText (fragment : Logged (Option Text)) : Prop :=
  fragment.result ≠ .ok (some [])

theorem renderRule_ne_nil (selector : Text) (lines : List Text) :
    renderRule selector lines ≠ [] := by
  intro h
  exact absurd (List.append_eq_nil_iff.1 h).2 (by decide)

theorem renderKeyframes_ne_nil (params body : Text) : renderKeyframes params body ≠ [] := by
  intro h
  exact absurd (List.append_eq_nil_iff.1 h).2 (by decide)

theorem adaptRule_noEmptyText (options : Options) (selector body : Text) :
    NoEmptyText (adaptRule options selector body) := by
  intro h
  unfold adaptRule at h
  split at h
  · cases h
  · rw [Logged.result_bind] at h
    cases hlines : (ruleLines options (ruleDeclarations selector body)).result with
    | error e => rw [hlines] at h; cases h
    | ok lines =>
      rw [hlines] at h
      -- The rule is written only where it has lines, and then it is not empty.
      change Except.ok _ = _ at h
      split at h
      · cases h
      · simp only [Except.ok.injEq, Option.some.injEq] at h
        exact renderRule_ne_nil _ _ h

theorem adaptAtRule_noEmptyText (options : Options) (depth : Int) (name params : Text)
    (body : Option Text) : NoEmptyText (adaptAtRule options depth name params body) := by
  intro h
  unfold adaptAtRule at h
  split at h
  · split at h
    · cases h
    · rw [Logged.result_bind] at h
      -- The text of a layer is left out where it is empty.
      rename_i inner _ _
      cases hinner : (adaptSheet options (depth + 1) inner).result with
      | error e => rw [hinner] at h; cases h
      | ok text =>
        rw [hinner] at h
        change Except.ok _ = _ at h
        split at h
        · cases h
        · next hne =>
          simp only [Except.ok.injEq, Option.some.injEq] at h
          exact hne h
  · simp only [Logged.result_pure, Except.ok.injEq, Option.some.injEq] at h
    exact renderKeyframes_ne_nil _ _ h
  · cases h
  · cases h
  · cases hdebug : options.debug <;> rw [hdebug] at h <;> cases h
  · cases h

/-- No node leaves an empty fragment. -/
theorem adaptNode_noEmptyText (options : Options) (depth : Int) (node : Node) :
    NoEmptyText (adaptNode options depth node) := by
  cases node with
  | rule selector body => exact adaptRule_noEmptyText options selector body
  | atRule name params body => exact adaptAtRule_noEmptyText options depth name params body

/-- Fragments that were kept stand in the joined text as they are. -/
theorem result_joinFragments (fragments : List (Logged (Option Text))) :
    (joinFragments fragments).result = (fragments.mapM fun x => x.result) >>= fun kept =>
      .ok (Text.join fragmentSeparator (kept.filterMap id)) := by
  rw [joinFragments, Logged.result_bind, Logged.result_mapM]
  rfl

private theorem nil_notMem_texts {fragments : List (Logged (Option Text))}
    (h : ∀ x ∈ fragments, NoEmptyText x) {texts : List (Option Text)}
    (htexts : (fragments.mapM id).result = .ok texts) : [] ∉ texts.filterMap id := by
  intro hmem
  rw [Logged.result_mapM] at htexts
  obtain ⟨text, htext, hnil⟩ := List.mem_filterMap.1 hmem
  obtain ⟨x, hx, hresult⟩ := exists_of_mem_mapM htexts htext
  exact h x hx (hresult.trans (congrArg Except.ok hnil))

/-- The fragments of two runs are joined like the texts of the two. -/
theorem joinFragments_append {before behind : List (Logged (Option Text))}
    (hbefore : ∀ x ∈ before, NoEmptyText x) (hbehind : ∀ x ∈ behind, NoEmptyText x) :
    joinFragments (before ++ behind) = (do
      let first ← joinFragments before
      let second ← joinFragments behind
      return Text.join fragmentSeparator ([first, second].filter (· ≠ []))) := by
  simp only [joinFragments, List.mapM_append, bind_assoc, pure_bind, List.filterMap_append]
  refine Logged.bind_congr_of_result fun first hfirst => ?_
  refine Logged.bind_congr_of_result fun second hsecond => ?_
  rw [Text.join_append (nil_notMem_texts hbefore hfirst) (nil_notMem_texts hbehind hsecond)]

theorem joinFragments_singleton (x : Logged (Option Text)) :
    joinFragments [x] = (do return (← x).getD []) := by
  simp only [joinFragments, List.mapM_cons, List.mapM_nil, bind_assoc, pure_bind, id_eq]
  refine Logged.bind_congr_of_result fun text _ => ?_
  cases text <;> simp [Text.join]

/-! ## One node after the other -/

/-- What stands behind a fragment: nothing, or a blank line and what is left of the rest. -/
def behind (rest : Text) : Text :=
  if rest = [] then [] else fragmentSeparator ++ rest

theorem behind_injective {rest rest' : Text} (h : behind rest = behind rest') : rest = rest' := by
  have hne (t : Text) : fragmentSeparator ++ t ≠ [] := by
    intro hnil
    exact absurd (List.append_eq_nil_iff.1 hnil).1 (by decide)
  unfold behind at h
  -- Where nothing stands behind a fragment, there is no blank line either.
  split at h
  · next hnil =>
    split at h
    · next hnil' => rw [hnil, hnil']
    · exact absurd h.symm (hne rest')
  · split at h
    · exact absurd h (hne rest)
    · exact List.append_cancel_left h

theorem count_behind {c : Char} (hc : c ≠ '\n') (rest : Text) :
    (behind rest).count c = rest.count c := by
  have hseparator : fragmentSeparator = ['\n', '\n'] := rfl
  unfold behind
  split
  · next hnil => rw [hnil]
  · rw [hseparator, List.count_append, List.count_cons_of_ne hc.symm, List.count_cons_of_ne hc.symm,
      List.count_nil, Nat.zero_add]

/-- A list of texts is its first text and what stands behind it. -/
theorem join_cons {texts : List Text} (h : [] ∉ texts) (t : Text) :
    Text.join fragmentSeparator (t :: texts) =
      t ++ behind (Text.join fragmentSeparator texts) := by
  by_cases hnil : texts = []
  · subst hnil
    simp [Text.join, behind]
  · rw [Text.join_cons_of_ne_nil _ _ hnil, behind, if_neg (Text.join_ne_nil hnil h),
      List.append_assoc]

/-- Where a stylesheet is one node and the nodes of a rest, what is left of the node stands in
front of what is left of the rest. -/
theorem adaptSheet_cons_eq_ok_iff {options : Options} {depth : Int} {css rest out : Text}
    {node : Node} (hsplit : split css = node :: split rest) :
    (adaptSheet options depth css).result = .ok out ↔
      ∃ fragment b, (adaptNode options depth node).result = .ok fragment ∧
        (adaptSheet options depth rest).result = .ok b ∧
        out = fragment.elim b fun a => a ++ behind b := by
  have hone : ∀ x ∈ [adaptNode options depth node], NoEmptyText x := by
    intro x hx
    rw [List.mem_singleton.1 hx]
    exact adaptNode_noEmptyText options depth node
  have hothers : ∀ x ∈ (split rest).map (adaptNode options depth), NoEmptyText x := by
    intro x hx
    obtain ⟨other, -, rfl⟩ := List.mem_map.1 hx
    exact adaptNode_noEmptyText options depth other
  -- An empty rest and a node that leaves nothing get no separator.
  have htwo (fragment : Option Text) (b : Text) (hfragment : fragment ≠ some []) :
      Text.join fragmentSeparator ([fragment.getD [], b].filter (· ≠ [])) =
        fragment.elim b fun a => a ++ behind b := by
    cases fragment with
    | none => by_cases hb : b = [] <;> simp [hb, Text.join]
    | some a =>
      have ha : a ≠ [] := fun hnil => hfragment (congrArg some hnil)
      by_cases hb : b = [] <;> simp [ha, hb, Text.join, behind]
  have hnode := adaptNode_noEmptyText options depth node
  rw [adaptSheet_eq, hsplit, List.map_cons, ← List.singleton_append,
    joinFragments_append hone hothers, joinFragments_singleton, adaptSheet_eq]
  simp only [Logged.result_bind, Logged.result_pure]
  unfold NoEmptyText at hnode
  -- If the node fails or the rest fails, both sides are impossible.
  cases hfragment : (adaptNode options depth node).result with
  | error e => simp [bind, Except.bind]
  | ok fragment =>
    rw [hfragment] at hnode
    have hsome : fragment ≠ some [] := fun hnil => hnode (congrArg Except.ok hnil)
    cases hrest : (joinFragments ((split rest).map (adaptNode options depth))).result with
    | error e => simp [bind, Except.bind]
    | ok b =>
      simp only [bind, Except.bind, htwo fragment b hsome, Except.ok.injEq]
      constructor
      · rintro rfl
        exact ⟨fragment, b, rfl, rfl, rfl⟩
      · rintro ⟨_, _, rfl, rfl, rfl⟩
        rfl

/-- What is adapted depends on the nodes alone. -/
theorem adaptSheet_congr {css css' : Text} (h : split css = split css') (options : Options)
    (depth : Int) : adaptSheet options depth css = adaptSheet options depth css' := by
  rw [adaptSheet_eq, adaptSheet_eq, h]

end NativeStyle
