import Mathlib.Data.List.Chain
import Koupang.ForStd.List

/-!
# Pages by key

A sorted list is read in pages: each begins after the key that the page before it
ends with, and one row more than the page holds tells whether there are others.

## Key results

- `filter_after`, `filter_before`: the rows after a key, and before it
- `exists_traversal`: the pages that are found so are those of the list, forwards and backwards
-/

namespace Keyset

variable {α κ : Type} [LinearOrder κ] (key : α → κ)

/-! ## Sorted rows -/

/-- No two rows have the same key, and the keys ascend. -/
def Ascending (l : List α) : Prop := l.Pairwise fun a b => key a < key b

/-- The rows in the order of their keys. -/
def sorted (l : List α) : List α := l.insertionSort fun a b => key a ≤ key b

variable {key}

theorem isTrans_key : IsTrans α fun a b => key a ≤ key b := ⟨fun _ _ _ => le_trans⟩

theorem total_key : Std.Total fun a b : α => key a ≤ key b :=
  ⟨fun a b => le_total (key a) (key b)⟩

theorem pairwise_sorted (l : List α) : (sorted key l).Pairwise fun a b => key a ≤ key b := by
  have htrans : IsTrans α fun a b => key a ≤ key b := isTrans_key
  have htotal : Std.Total fun a b : α => key a ≤ key b := total_key
  exact List.pairwise_insertionSort _ l

theorem filter_sorted (p : α → Bool) (l : List α) :
    (sorted key l).filter p = sorted key (l.filter p) := by
  have htrans : IsTrans α fun a b => key a ≤ key b := isTrans_key
  have htotal : Std.Total fun a b : α => key a ≤ key b := total_key
  exact List.filter_insertionSort l

theorem perm_sorted (l : List α) : (sorted key l).Perm l := List.perm_insertionSort _ l

theorem ascending_sorted {l : List α} (h : (l.map key).Nodup) : Ascending key (sorted key l) := by
  have hnodup : ((sorted key l).map key).Nodup := ((perm_sorted l).map key).nodup_iff.mpr h
  have hne : (sorted key l).Pairwise fun a b => key a ≠ key b := List.pairwise_map.mp hnodup
  exact (pairwise_sorted l).imp₂ (fun _ _ hle hne => lt_of_le_of_ne hle hne) hne

/-- Sorting the other way round is reading backwards. -/
theorem insertionSort_ge {l : List α} (h : (l.map key).Nodup) :
    l.insertionSort (fun a b => key b ≤ key a) = (sorted key l).reverse := by
  have htrans : IsTrans α fun a b => key b ≤ key a := ⟨fun _ _ _ hab hbc => le_trans hbc hab⟩
  have htotal : Std.Total fun a b : α => key b ≤ key a := ⟨fun a b => le_total (key b) (key a)⟩
  have hperm : (l.insertionSort fun a b => key b ≤ key a).Perm (sorted key l).reverse :=
    (List.perm_insertionSort _ l).trans ((perm_sorted l).symm.trans (List.reverse_perm _).symm)
  have hdescends : (l.insertionSort fun a b => key b ≤ key a).Pairwise fun a b => key b ≤ key a :=
    List.pairwise_insertionSort _ l
  refine hperm.eq_of_pairwise ?_ hdescends (List.pairwise_reverse.mpr (pairwise_sorted l))
  intro a b ha hb hba hab
  have ha' := (List.mem_insertionSort _).mp ha
  have hb' := (perm_sorted l).mem_iff.mp (List.mem_reverse.mp hb)
  exact List.inj_on_of_nodup_map h ha' hb' (le_antisymm hab hba)

/-- The rows after the last one that was read. -/
theorem filter_after {done rest : List α} {x : α} (h : Ascending key (done ++ x :: rest)) :
    (done ++ x :: rest).filter (key x < key ·) = rest := by
  obtain ⟨-, hright, hcross⟩ := List.pairwise_append.mp h
  obtain ⟨hx, -⟩ := List.pairwise_cons.mp hright
  have hdone : done.filter (key x < key ·) = [] := by
    refine List.filter_eq_nil_iff.mpr fun a ha => ?_
    have hlt := hcross a ha x (List.mem_cons_self ..)
    simpa using hlt.le
  have hrest : rest.filter (key x < key ·) = rest := by
    refine List.filter_eq_self.mpr fun b hb => ?_
    simpa using hx b hb
  rw [List.filter_append, hdone, List.filter_cons_of_neg (by simp), hrest, List.nil_append]

/-- The rows before the first one of a page. -/
theorem filter_before {done rest : List α} {y : α} (h : Ascending key (done ++ y :: rest)) :
    (done ++ y :: rest).filter (key · < key y) = done := by
  obtain ⟨-, hright, hcross⟩ := List.pairwise_append.mp h
  obtain ⟨hy, -⟩ := List.pairwise_cons.mp hright
  have hdone : done.filter (key · < key y) = done := by
    refine List.filter_eq_self.mpr fun a ha => ?_
    simpa using hcross a ha y (List.mem_cons_self ..)
  have hrest : rest.filter (key · < key y) = [] := by
    refine List.filter_eq_nil_iff.mpr fun b hb => ?_
    simpa using (hy b hb).le
  rw [List.filter_append, hdone, List.filter_cons_of_neg (by simp), hrest, List.append_nil]

/-! ## Pages -/

structure Page (α κ : Type) where
  items : List α
  next : Option κ
  prev : Option κ

variable (key)

/-- The rows after the cursor. -/
def after (l : List α) : Option κ → List α
  | none => l
  | some c => l.filter (c < key ·)

/-- The rows before the cursor. -/
def before (l : List α) : Option κ → List α
  | none => l
  | some c => l.filter (key · < c)

/-- The first rows after the cursor. -/
def forward (l : List α) (limit : Nat) (cursor : Option κ) : Page α κ :=
  let found := after key l cursor
  let items := found.take limit
  { items
    next := if limit < found.length then items.getLast?.map key else none
    prev := if cursor.isSome then items.head?.map key else none }

/-- The last rows before the cursor. -/
def backward (l : List α) (limit : Nat) (cursor : Option κ) : Page α κ :=
  let found := before key l cursor
  let items := found.drop (found.length - limit)
  { items
    next := items.getLast?.map key
    prev := if limit < found.length then items.head?.map key else none }

variable {key}

/-! ## Traversals -/

/-- The pages that are found from a cursor on, following the next cursor of each to the end. -/
inductive Traversal {P : Type} (get : Option κ → Option P) (next : P → Option κ) :
    Option κ → List P → Prop where
  | last {cursor : Option κ} {p : P} (found : get cursor = some p) (final : next p = none) :
      Traversal get next cursor [p]
  | step {cursor : Option κ} {p : P} {c : κ} {ps : List P} (found : get cursor = some p)
      (more : next p = some c) (rest : Traversal get next (some c) ps) :
      Traversal get next cursor (p :: ps)

variable {l done rest : List α} {limit : Nat}

/-- The cursor after the rows that were read. -/
def cursorAfter (key : α → κ) (done : List α) : Option κ := done.getLast?.map key

theorem after_cursorAfter (h : Ascending key (done ++ rest)) :
    after key (done ++ rest) (cursorAfter key done) = rest := by
  cases hlast : done.getLast? with
  | none =>
    rw [List.getLast?_eq_none_iff] at hlast
    subst hlast
    rfl
  | some x =>
    obtain ⟨init, rfl⟩ := List.getLast?_eq_some_iff.mp hlast
    rw [List.append_assoc, List.singleton_append] at h ⊢
    rw [cursorAfter, hlast]
    exact filter_after h

/-- The page before the row `y`. -/
theorem backward_items {before page : List α} {y : α} (hpage : page.length = limit)
    (h : Ascending key (before ++ page ++ y :: rest)) :
    (backward key (before ++ page ++ y :: rest) limit (some (key y))).items = page := by
  have hfound : Keyset.before key (before ++ page ++ y :: rest) (some (key y)) = before ++ page :=
    filter_before h
  have hlength : (before ++ page).length - limit = before.length := by
    rw [List.length_append]
    omega
  unfold backward
  simp only [hfound, hlength, List.drop_left]

/-- The pages from here on show the rows that are left, all but the last are full, and from each
    the one before it can be found. -/
structure Shows (key : α → κ) (l : List α) (limit : Nat) (rest : List α)
    (pages : List (Page α κ)) : Prop where
  items : pages.flatMap Page.items = rest
  full : ∀ page ∈ pages.dropLast, page.items.length = limit
  prev : pages.IsChain fun page page' => ∀ c, page'.prev = some c →
    (backward key l limit (some c)).items = page.items

/-- The page that begins after the rows that were read. -/
theorem forward_eq (h : Ascending key (done ++ rest)) (hlimit : 0 < limit) :
    forward key (done ++ rest) limit (cursorAfter key done) =
      { items := rest.take limit
        next := if limit < rest.length then cursorAfter key (rest.take limit) else none
        prev := if done = [] then none else rest.head?.map key } := by
  have hhead : (rest.take limit).head? = rest.head? := by
    rw [List.head?_take, if_neg hlimit.ne']
  have hcursor : (cursorAfter key done).isSome = true ↔ ¬ done = [] := by
    rw [cursorAfter, Option.isSome_map, List.getLast?_isSome]
  unfold forward
  simp only [after_cursorAfter h, hhead, hcursor, ite_not]
  rfl

omit [LinearOrder κ] in
theorem traversal_ne_nil {P : Type} {get : Option κ → Option P} {next : P → Option κ}
    {cursor : Option κ} {pages : List P} (h : Traversal get next cursor pages) : pages ≠ [] := by
  cases h with
  | last found final => exact List.cons_ne_nil _ _
  | step found more rest => exact List.cons_ne_nil _ _

/-- The pages of a sorted list, following the cursors from the first one on. -/
theorem exists_traversal (h : Ascending key (done ++ rest)) (hlimit : 0 < limit) :
    ∃ pages, Traversal (fun c => some (forward key (done ++ rest) limit c)) Page.next
        (cursorAfter key done) pages ∧
      Shows key (done ++ rest) limit rest pages ∧
      ∀ page ∈ pages.head?, page.prev = if done = [] then none else rest.head?.map key := by
  -- by induction on the number of rows that are left
  induction hn : rest.length using Nat.strong_induction_on generalizing done rest with
  | _ n ih =>
    have hpage := forward_eq h hlimit
    by_cases hmore : limit < rest.length
    · have hfirst : rest.take limit ≠ [] := by
        intro hnil
        have hlength := congrArg List.length hnil
        simp only [List.length_take, List.length_nil] at hlength
        omega
      have hsplit : done ++ rest.take limit ++ rest.drop limit = done ++ rest := by
        rw [List.append_assoc, List.take_append_drop]
      have hshorter : (rest.drop limit).length < n := by
        rw [List.length_drop]
        omega
      have hcursor : cursorAfter key (done ++ rest.take limit) =
          cursorAfter key (rest.take limit) := by
        rw [cursorAfter, cursorAfter, List.getLast?_append_of_ne_nil _ hfirst]
      obtain ⟨pages, htraversal, hshows, hhead⟩ := ih _ hshorter (hsplit ▸ h) rfl
      rw [hsplit, hcursor] at htraversal
      rw [hsplit] at hshows
      obtain ⟨c, hc⟩ : ∃ c, cursorAfter key (rest.take limit) = some c := by
        rw [← Option.isSome_iff_exists, cursorAfter, Option.isSome_map, List.getLast?_isSome]
        exact hfirst
      refine ⟨forward key (done ++ rest) limit (cursorAfter key done) :: pages, ?_, ?_, ?_⟩
      · refine .step rfl ?_ (hc ▸ htraversal)
        rw [hpage, if_pos hmore, hc]
      · refine ⟨?_, ?_, ?_⟩
        · rw [List.flatMap_cons, hshows.items, hpage, List.take_append_drop]
        · intro page hmem
          rw [List.dropLast_cons_of_ne_nil (traversal_ne_nil htraversal)] at hmem
          cases hmem with
          | head => rw [hpage, List.length_take_of_le hmore.le]
          | tail _ hmem => exact hshows.full page hmem
        · refine List.isChain_cons.mpr ⟨fun page hmem c hprev => ?_, hshows.prev⟩
          -- the page after this one begins with the first row that it leaves
          rw [hhead page hmem, if_neg (by simp [hfirst])] at hprev
          obtain ⟨y, hy, rfl⟩ := Option.map_eq_some_iff.mp hprev
          obtain ⟨others, hothers⟩ := List.head?_eq_some_iff.mp hy
          rw [hothers] at hsplit
          rw [hpage, ← hsplit]
          refine backward_items (List.length_take_of_le hmore.le) ?_
          rw [hsplit]
          exact h
      · intro page hmem
        cases hmem
        rw [hpage]
    · refine ⟨[forward key (done ++ rest) limit (cursorAfter key done)], ?_, ?_, ?_⟩
      · refine .last rfl ?_
        rw [hpage, if_neg hmore]
      · refine ⟨?_, ?_, .singleton _⟩
        · rw [List.flatMap_singleton, hpage, List.take_of_length_le (Nat.le_of_not_lt hmore)]
        · intro page hmem
          cases hmem
      · intro page hmem
        cases hmem
        rw [hpage]

end Keyset
