import Mathlib.Data.List.Basic

/-!
# Words of a list

A list is split at a separator and joined again. `words` are the parts that are not
empty, `joined` is the list with one separator between two words: the normal form
of a list whose separators repeat or stand at an end.

Key results:
- `splitOn_ne_nil_iff`: no part is empty if and only if the separator neither stands
  at an end nor follows itself
- `joined_sublist`: joining only leaves separators out
- `joined_eq_self`, `splitOn_joined`: lists without empty parts are the normal forms
- `dropWhile_joined`: elements are left out in front before or after joining
- `length_joined`: how long the normal form is
-/

namespace List

variable {α : Type} {sep c : α} {cs : List α}

/-! ## Separators next to each other and at the end -/

theorem pair_infix_cons_iff : [sep, sep] <:+: c :: cs ↔
    (c = sep ∧ cs.head? = some sep) ∨ [sep, sep] <:+: cs := by
  rw [infix_cons_iff, cons_prefix_cons]
  cases cs with
  | nil => simp
  | cons d ds => simp [cons_prefix_cons, eq_comm]

theorem getLast?_cons_eq_some_iff : (c :: cs).getLast? = some sep ↔
    (cs = [] ∧ c = sep) ∨ cs.getLast? = some sep := by
  cases cs with
  | nil => simp
  | cons d ds => simp [getLast?_cons_cons]

/-! ## Joining -/

theorem intercalate_sublist {ls ls' : List (List α)} (h : ls <+ ls') :
    [sep].intercalate ls <+ [sep].intercalate ls' := by
  induction h with
  | slnil => exact .refl _
  | @cons ls ls' part h ih =>
    cases ls' with
    | nil => simp [sublist_nil.mp h]
    | cons part' ls' =>
      rw [intercalate_cons_cons]
      exact ih.trans (sublist_append_right _ _)
  | @cons_cons ls ls' part h ih =>
    cases ls' with
    | nil => simp [sublist_nil.mp h]
    | cons part' ls' =>
      cases ls with
      | nil => simp
      | cons part'' ls =>
        rw [intercalate_cons_cons, intercalate_cons_cons]
        exact ih.append_left _

theorem length_intercalate {ls : List (List α)} (h : ls ≠ []) :
    ([sep].intercalate ls).length + 1 = ls.flatten.length + ls.length := by
  induction ls with
  | nil => exact absurd rfl h
  | cons part ls ih =>
    cases ls with
    | nil => simp
    | cons part' ls =>
      have hrest := ih (cons_ne_nil _ _)
      simp only [intercalate_cons_cons, flatten_cons, length_append, length_cons,
        length_nil] at hrest ⊢
      omega

theorem dropWhile_flatMap {β : Type} {f : α → List β} {p : α → Bool} {q : β → Bool}
    (hskip : ∀ a, p a = true → ∀ b ∈ f a, q b = true)
    (hstop : ∀ a, p a = false → ∃ b bs, f a = b :: bs ∧ q b = false) (l : List α) :
    (l.flatMap f).dropWhile q = (l.dropWhile p).flatMap f := by
  induction l with
  | nil => rfl
  | cons a l ih =>
    cases h : p a with
    | true =>
      rw [dropWhile_cons_of_pos h, flatMap_cons, dropWhile_append_of_pos (hskip a h), ih]
    | false =>
      obtain ⟨b, bs, hb, hq⟩ := hstop a h
      rw [dropWhile_cons_of_neg (by simp [h]), flatMap_cons, hb, cons_append,
        dropWhile_cons_of_neg (by simp [hq])]

/-! ## Gaps -/

/-- How often an element with the property follows one without it. -/
def gaps (p : α → Bool) : List α → Nat
  | c :: d :: cs => (if p c = false ∧ p d = true then 1 else 0) + gaps p (d :: cs)
  | _ => 0

theorem gaps_map {β : Type} {f : β → α} {p : α → Bool} {l : List β} :
    (l.map f).gaps p = l.gaps (p ∘ f) := by
  induction l with
  | nil => rfl
  | cons b bs ih =>
    cases bs with
    | nil => rfl
    | cons d ds =>
      rw [map_cons, map_cons, gaps, gaps, ← map_cons, ih]
      rfl

theorem countP_add_gaps_le {p : α → Bool} : cs.countP p + cs.gaps p ≤ cs.length := by
  induction cs with
  | nil => simp [gaps]
  | cons c cs ih =>
    cases cs with
    | nil => cases h : p c <;> simp [h, gaps]
    | cons d ds =>
      rw [countP_cons, gaps, length_cons]
      cases p c <;> cases p d <;> simp only [Bool.false_eq_true, reduceCtorEq, and_true, and_false,
        and_self, if_true, if_false] <;> omega

/-! ## Parts -/

variable [DecidableEq α]

@[simp] theorem splitOn_cons_self : (sep :: cs).splitOn sep = [] :: cs.splitOn sep := by
  simp [splitOn_cons_eq_if_modifyHead]

theorem splitOn_cons_of_ne (h : c ≠ sep) :
    (c :: cs).splitOn sep = (cs.splitOn sep).modifyHead (c :: ·) := by
  simp [splitOn_cons_eq_if_modifyHead, h]

/-- The first part reaches to the first separator. -/
theorem splitOn_eq_takeWhile_cons :
    cs.splitOn sep = cs.takeWhile (· ≠ sep) :: (cs.splitOn sep).tail := by
  induction cs with
  | nil => rfl
  | cons c cs ih =>
    by_cases h : c = sep
    · rw [h, splitOn_cons_self]
      simp
    · rw [splitOn_cons_of_ne h, ih]
      simp [h]

/-- The elements of the parts are those of the list, without the separators. -/
theorem mem_splitOn_iff : (∃ part ∈ cs.splitOn sep, c ∈ part) ↔ c ∈ cs ∧ c ≠ sep := by
  induction cs with
  | nil => simp
  | cons d cs ih =>
    by_cases h : d = sep
    · rw [h, splitOn_cons_self]
      simp only [mem_cons, exists_eq_or_imp, not_mem_nil, false_or, ih]
      constructor
      · intro hc
        exact ⟨.inr hc.1, hc.2⟩
      · intro hc
        exact ⟨hc.1.resolve_left hc.2, hc.2⟩
    · rw [splitOn_cons_of_ne h]
      rw [splitOn_eq_takeWhile_cons] at ih ⊢
      simp only [modifyHead_cons, mem_cons, exists_eq_or_imp] at ih ⊢
      rw [or_assoc, ih]
      constructor
      · rintro (rfl | hc)
        · exact ⟨.inl rfl, h⟩
        · exact ⟨.inr hc.1, hc.2⟩
      · intro hc
        exact hc.1.imp id fun hmem => ⟨hmem, hc.2⟩

theorem not_mem_of_mem_splitOn {part : List α} (h : part ∈ cs.splitOn sep) : sep ∉ part := by
  intro hsep
  exact (mem_splitOn_iff.mp ⟨part, h, hsep⟩).2 rfl

/-! ## Empty parts -/

theorem takeWhile_ne_nil_iff : cs.takeWhile (· ≠ sep) ≠ [] ↔ cs ≠ [] ∧ cs.head? ≠ some sep := by
  cases cs with
  | nil => simp
  | cons d ds => by_cases h : d = sep <;> simp [h]

/-- Whether a part behind the first one is empty depends on the end of the list and on
    neighbouring separators. -/
theorem splitOn_tail_ne_nil_iff : (∀ part ∈ (cs.splitOn sep).tail, part ≠ []) ↔
    cs.getLast? ≠ some sep ∧ ¬ [sep, sep] <:+: cs := by
  induction cs with
  | nil => simp
  | cons c cs ih =>
    by_cases h : c = sep
    · -- the part behind this separator is the first one of the rest
      subst h
      rw [splitOn_cons_self, tail_cons, splitOn_eq_takeWhile_cons, forall_mem_cons, ih,
        takeWhile_ne_nil_iff]
      simp only [ne_eq, getLast?_cons_eq_some_iff, pair_infix_cons_iff]
      tauto
    · rw [splitOn_cons_of_ne h, tail_modifyHead, ih]
      simp only [ne_eq, getLast?_cons_eq_some_iff, pair_infix_cons_iff]
      tauto

/-- No part is empty. -/
theorem splitOn_ne_nil_iff : (∀ part ∈ cs.splitOn sep, part ≠ []) ↔
    cs ≠ [] ∧ cs.head? ≠ some sep ∧ cs.getLast? ≠ some sep ∧ ¬ [sep, sep] <:+: cs := by
  rw [splitOn_eq_takeWhile_cons, forall_mem_cons, takeWhile_ne_nil_iff, splitOn_tail_ne_nil_iff,
    and_assoc]

/-- There is more than one part if and only if there is a separator. -/
theorem one_lt_length_splitOn_iff : 1 < (cs.splitOn sep).length ↔ sep ∈ cs := by
  induction cs with
  | nil => simp
  | cons c cs ih =>
    by_cases h : c = sep
    · subst h
      simp [length_pos_iff]
    · rw [splitOn_cons_of_ne h, length_modifyHead, ih]
      simp [Ne.symm h]

/-! ## Words -/

/-- The parts that are not empty. -/
def words (sep : α) (cs : List α) : List (List α) := (cs.splitOn sep).filter (!·.isEmpty)

/-- The words with one separator between them. -/
def joined (sep : α) (cs : List α) : List α := [sep].intercalate (cs.words sep)

theorem joined_sublist : cs.joined sep <+ cs := by
  have h : [sep].intercalate (cs.words sep) <+ [sep].intercalate (cs.splitOn sep) :=
    intercalate_sublist filter_sublist
  rwa [intercalate_splitOn] at h

theorem mem_words_iff {part : List α} :
    part ∈ cs.words sep ↔ part ∈ cs.splitOn sep ∧ part ≠ [] := by
  simp [words]

/-- The elements of the words are those of the list, without the separators. -/
theorem exists_mem_words_iff : (∃ part ∈ cs.words sep, c ∈ part) ↔ c ∈ cs ∧ c ≠ sep := by
  rw [← mem_splitOn_iff]
  constructor
  · intro h
    obtain ⟨part, hpart, hc⟩ := h
    exact ⟨part, (mem_words_iff.mp hpart).1, hc⟩
  · intro h
    obtain ⟨part, hpart, hc⟩ := h
    exact ⟨part, mem_words_iff.mpr ⟨hpart, ne_nil_of_mem hc⟩, hc⟩

theorem words_ne_nil_iff : cs.words sep ≠ [] ↔ ∃ c ∈ cs, c ≠ sep := by
  constructor
  · intro h
    obtain ⟨part, hpart⟩ := exists_mem_of_ne_nil _ h
    obtain ⟨c, hc⟩ := exists_mem_of_ne_nil _ (mem_words_iff.mp hpart).2
    exact ⟨c, exists_mem_words_iff.mp ⟨part, hpart, hc⟩⟩
  · intro h
    obtain ⟨c, hc⟩ := h
    obtain ⟨part, hpart, _⟩ := exists_mem_words_iff.mpr hc
    exact ne_nil_of_mem hpart

theorem splitOn_joined (h : cs.words sep ≠ []) : (cs.joined sep).splitOn sep = cs.words sep := by
  refine splitOn_intercalate sep ?_ h
  intro part hpart
  exact not_mem_of_mem_splitOn (mem_words_iff.mp hpart).1

/-- A list without empty parts is its own normal form. -/
theorem joined_eq_self (h : ∀ part ∈ cs.splitOn sep, part ≠ []) : cs.joined sep = cs := by
  have hwords : cs.words sep = cs.splitOn sep := by
    rw [words, filter_eq_self]
    intro part hpart
    simpa using h part hpart
  rw [joined, hwords, intercalate_splitOn]

theorem words_cons_self : (sep :: cs).words sep = cs.words sep := by
  simp [words]

theorem joined_cons_self : (sep :: cs).joined sep = cs.joined sep := by
  rw [joined, words_cons_self, joined]

theorem words_singleton (h : c ≠ sep) : [c].words sep = [[c]] := by
  simp [words, splitOn_cons_of_ne h]

theorem words_cons_sep (h : c ≠ sep) : (c :: sep :: cs).words sep = [c] :: cs.words sep := by
  simp [words, splitOn_cons_of_ne h]

theorem words_cons_cons {d : α} (h : c ≠ sep) (hd : d ≠ sep) :
    (c :: d :: cs).words sep = ((d :: cs).words sep).modifyHead (c :: ·) := by
  rw [words, words, splitOn_cons_of_ne h, splitOn_cons_of_ne hd, splitOn_eq_takeWhile_cons]
  rfl

/-- An element in front either continues the first word, or is a word of its own. -/
theorem joined_cons_of_ne (h : c ≠ sep) : (c :: cs).joined sep =
    c :: if cs.head? = some sep ∧ cs.words sep ≠ [] then sep :: cs.joined sep
      else cs.joined sep := by
  cases cs with
  | nil =>
    rw [joined, words_singleton h]
    simp [joined, words]
  | cons d ds =>
    by_cases hd : d = sep
    · subst hd
      rw [joined, words_cons_sep h, joined_cons_self, words_cons_self, head?_cons]
      by_cases hds : ds.words d = []
      · simp [hds, joined]
      · rw [intercalate_cons_of_ne_nil hds, if_pos ⟨rfl, hds⟩]
        rfl
    · rw [if_neg (by simp [hd]), joined, words_cons_cons h hd, joined]
      have hne : (d :: ds).words sep ≠ [] := words_ne_nil_iff.mpr ⟨d, mem_cons_self, hd⟩
      cases hwords : (d :: ds).words sep with
      | nil => exact absurd hwords hne
      | cons part parts => rw [modifyHead_cons, intercalate_cons_cons_left]

theorem mem_joined_iff (h : c ≠ sep) : c ∈ cs.joined sep ↔ c ∈ cs := by
  by_cases hwords : cs.words sep = []
  · have hnone : c ∉ cs := by
      intro hc
      exact words_ne_nil_iff.mpr ⟨c, hc, h⟩ hwords
    simp [joined, hwords, hnone]
  · rw [← and_iff_left (a := c ∈ cs.joined sep) h, ← mem_splitOn_iff, splitOn_joined hwords,
      exists_mem_words_iff, and_iff_left h]

/-- Joining twice is joining once. -/
theorem joined_joined : (cs.joined sep).joined sep = cs.joined sep := by
  by_cases h : cs.words sep = []
  · have hnil : cs.joined sep = [] := by rw [joined, h, intercalate_nil]
    rw [hnil]
    simp [joined, words]
  · refine joined_eq_self ?_
    rw [splitOn_joined h]
    intro part hpart
    exact (mem_words_iff.mp hpart).2

/-- Leaving out elements in front, the separators among them, before or after joining. -/
theorem dropWhile_joined {p : α → Bool} (hsep : p sep = true) :
    (cs.joined sep).dropWhile p = (cs.dropWhile p).joined sep := by
  induction cs with
  | nil => rfl
  | cons c cs ih =>
    by_cases h : c = sep
    · subst h
      rw [joined_cons_self, ih, dropWhile_cons_of_pos hsep]
    · by_cases hp : p c = true
      · rw [joined_cons_of_ne h, dropWhile_cons_of_pos hp, dropWhile_cons_of_pos hp]
        split
        · rw [dropWhile_cons_of_pos hsep, ih]
        · exact ih
      · rw [dropWhile_cons_of_neg hp, joined_cons_of_ne h, dropWhile_cons_of_neg hp]

/-! ## Lengths -/

theorem flatten_splitOn : (cs.splitOn sep).flatten = cs.filter (· ≠ sep) := by
  induction cs with
  | nil => rfl
  | cons c cs ih =>
    by_cases h : c = sep
    · subst h
      simp [ih]
    · rw [splitOn_cons_of_ne h, filter_cons_of_pos (by simpa using h), ← ih,
        splitOn_eq_takeWhile_cons]
      rfl

theorem flatten_words : (cs.words sep).flatten = cs.filter (· ≠ sep) := by
  rw [words, flatten_filter_not_isEmpty, flatten_splitOn]

/-- A word starts at the front, or behind a gap. -/
theorem length_words : (cs.words sep).length =
    cs.gaps (· ≠ sep) + if cs.head?.any (· ≠ sep) = true then 1 else 0 := by
  induction cs with
  | nil => rfl
  | cons c cs ih =>
    cases cs with
    | nil =>
      by_cases h : c = sep
      · simp [h, words, gaps]
      · rw [words_singleton h]
        simp [h, gaps]
    | cons d ds =>
      by_cases h : c = sep
      · subst h
        rw [words_cons_self, ih, gaps]
        simp [Nat.add_comm]
      · by_cases hd : d = sep
        · subst hd
          rw [words_cons_self] at ih
          rw [words_cons_sep h, length_cons, ih, gaps]
          simp [h]
        · rw [words_cons_cons h hd, length_modifyHead, ih, gaps]
          simp [h, hd]

/-- The normal form of a list that starts with a word has the elements of the words, and one
    separator for every gap. -/
theorem length_joined (h : c ≠ sep) : ((c :: cs).joined sep).length =
    (c :: cs).countP (· ≠ sep) + (c :: cs).gaps (· ≠ sep) := by
  have hne : (c :: cs).words sep ≠ [] := words_ne_nil_iff.mpr ⟨c, mem_cons_self, h⟩
  have hlength : ([sep].intercalate ((c :: cs).words sep)).length + 1 =
      ((c :: cs).words sep).flatten.length + ((c :: cs).words sep).length :=
    length_intercalate hne
  rw [flatten_words, ← countP_eq_length_filter, length_words] at hlength
  have hhead : (c :: cs).head?.any (· ≠ sep) = true := by simp [h]
  rw [if_pos hhead] at hlength
  rw [joined]
  omega

end List
