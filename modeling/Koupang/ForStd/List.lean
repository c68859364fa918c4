import Mathlib.Algebra.BigOperators.Group.List.Basic
import Mathlib.Data.List.Sort

/-!
# List lemmas for the standard library

A selection and a stable sort commute; a prefix of a list is a prefix of every selection
that keeps it; and the values of a list add up key by key.
-/

namespace List

variable {α : Type*} {r : α → α → Prop} [DecidableRel r] {p : α → Bool}

/-- A sort depends on nothing but the relation. -/
theorem insertionSort_congr {s : α → α → Prop} [DecidableRel s] (h : ∀ a b, r a b ↔ s a b)
    (l : List α) : l.insertionSort r = l.insertionSort s := by
  have hrs : r = s := funext fun a => funext fun b => propext (h a b)
  subst hrs
  congr

theorem filter_orderedInsert [IsTrans α r] {l : List α} (a : α) (h : l.Pairwise r) :
    (l.orderedInsert r a).filter p =
      if p a then (l.filter p).orderedInsert r a else l.filter p := by
  induction l with
  | nil => cases ha : p a <;> simp [ha]
  | cons b l ih =>
    obtain ⟨hb, hl⟩ := pairwise_cons.mp h
    rw [orderedInsert_cons]
    by_cases hab : r a b
    · rw [if_pos hab, filter_cons]
      by_cases ha : p a = true
      · -- whatever is kept comes after `a`
        have hall : ∀ c ∈ (b :: l).filter p, r a c := by
          intro c hc
          rcases mem_cons.mp (mem_filter.mp hc).1 with rfl | hc
          · exact hab
          · exact IsTrans.trans _ _ _ hab (hb c hc)
        rw [if_pos ha, if_pos ha]
        cases hcs : (b :: l).filter p with
        | nil => rfl
        | cons c cs => rw [orderedInsert_cons, if_pos (hall c (by simp [hcs]))]
      · rw [if_neg ha, if_neg ha]
    · rw [if_neg hab, filter_cons, ih hl, filter_cons]
      by_cases ha : p a = true
      · by_cases hpb : p b = true
        · simp [ha, hpb, hab]
        · simp [ha, hpb]
      · simp [ha]

/-- A selection and a sort commute. -/
theorem filter_insertionSort [IsTrans α r] [Std.Total r] (l : List α) :
    (l.insertionSort r).filter p = (l.filter p).insertionSort r := by
  induction l with
  | nil => rfl
  | cons a l ih =>
    rw [insertionSort_cons, filter_orderedInsert a (pairwise_insertionSort r l), ih, filter_cons]
    by_cases ha : p a = true
    · rw [if_pos ha, if_pos ha, insertionSort_cons]
    · rw [if_neg ha, if_neg ha]

/-- A selection that keeps the first elements has them as its first ones. -/
theorem take_filter_of_forall {n : Nat} {l : List α} (h : ∀ a ∈ l.take n, p a = true) :
    (l.filter p).take n = l.take n := by
  induction n generalizing l with
  | zero => rfl
  | succ n ih =>
    cases l with
    | nil => rfl
    | cons a l =>
      rw [take_succ_cons] at h ⊢
      rw [filter_cons, if_pos (h a (mem_cons_self ..)), take_succ_cons,
        ih fun b hb => h b (mem_cons_of_mem _ hb)]

/-- One more element, related to the last one so far. -/
theorem pairwise_concat_of_getLast? {R : α → α → Prop} (htrans : ∀ a b c, R a b → R b c → R a c)
    {l : List α} {a b : α} (h : l.Pairwise R) (hlast : l.getLast? = some a) (hab : R a b) :
    (l ++ [b]).Pairwise R := by
  obtain ⟨init, rfl⟩ := getLast?_eq_some_iff.mp hlast
  rw [pairwise_append] at h ⊢
  refine ⟨pairwise_append.mpr h, pairwise_singleton R b, fun c hc d hd => ?_⟩
  rw [mem_singleton.mp hd]
  rcases mem_append.mp hc with hinit | ha
  · exact htrans c a b (h.2.2 c hinit a (mem_singleton_self a)) hab
  · rw [mem_singleton.mp ha]
    exact hab

/-! ## The sum of the values of a key -/

variable {κ M : Type*} [DecidableEq κ] [AddMonoid M] {key : α → κ} {val : α → M} {k : κ}

theorem sum_filter_key_cons (a : α) (l : List α) :
    (((a :: l).filter (key · = k)).map val).sum =
      (if key a = k then val a else 0) + ((l.filter (key · = k)).map val).sum := by
  rw [filter_cons]
  by_cases h : key a = k <;> simp [h]

theorem sum_filter_key_of_not_mem {l : List α} (h : k ∉ l.map key) :
    ((l.filter (key · = k)).map val).sum = 0 := by
  have hnil : l.filter (key · = k) = [] := by
    rw [filter_eq_nil_iff]
    intro a ha hk
    exact h (mem_map.mpr ⟨a, ha, by simpa using hk⟩)
  rw [hnil, map_nil, sum_nil]

/-- Where no two elements have one key, it is the value of the element with the key. -/
theorem sum_filter_key_of_nodup {l : List α} (h : (l.map key).Nodup) {a : α} (ha : a ∈ l) :
    ((l.filter (key · = key a)).map val).sum = val a := by
  induction l with
  | nil => cases ha
  | cons b l ih =>
    rw [map_cons, nodup_cons] at h
    rw [sum_filter_key_cons]
    cases mem_cons.mp ha with
    | inl heq => rw [heq, if_pos rfl, sum_filter_key_of_not_mem h.1, add_zero]
    | inr hmem =>
      have hne : key b ≠ key a := by
        intro heq
        exact h.1 (heq ▸ mem_map_of_mem hmem)
      rw [if_neg hne, zero_add]
      exact ih h.2 hmem

/-- One element less satisfies the stronger predicate. -/
theorem countP_lt_countP {q : α → Bool} {l : List α} {a : α}
    (h : ∀ b ∈ l, q b = true → p b = true) (ha : a ∈ l) (hp : p a = true) (hq : q a = false) :
    l.countP q < l.countP p := by
  obtain ⟨pre, post, rfl⟩ := append_of_mem ha
  have hpre : pre.countP q ≤ pre.countP p :=
    countP_mono_left fun b hb => h b (mem_append_left _ hb)
  have hpost : post.countP q ≤ post.countP p :=
    countP_mono_left fun b hb => h b (mem_append_right _ (mem_cons_of_mem _ hb))
  simp only [countP_append, countP_cons, hp, hq, if_true]
  simp only [Bool.false_eq_true, if_false]
  omega

end List
