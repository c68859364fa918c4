import Mathlib.Data.List.Nodup
import Mathlib.Algebra.BigOperators.Group.List.Basic

/-!
# Tables with a primary key

A table is a list of rows, in the order of their insertion, no two of which
share their key. The invariant is a field, so a table with a duplicate key
cannot be built: `insert` refuses one, and `modify` takes the proof that the
update leaves the key alone.

## Key results

- `find?_eq_some_iff`: looking a key up finds the one row that has it
- `find?_modify`, `mem_modify`: what an update changes, and that it changes nothing else
- `insert_eq_some`: when an insert succeeds, and what it leaves
- `mem_set`, `find?_set`, `set_set`: putting a row in the place of the one with its key
- `exists_split`: the rows around the one with a given key, for sums and counts
- `sum_by_ref`: a sum over what refers to the rows, grouped by the row
-/

/-- Rows without two of the same key. -/
structure Table {α κ : Type} (key : α → κ) where
  rows : List α
  nodup : (rows.map key).Nodup

namespace Table

variable {α κ : Type} {key : α → κ}

@[ext] theorem ext {t u : Table key} (h : t.rows = u.rows) : t = u := by
  cases t; cases u; cases h; rfl

instance [DecidableEq α] : DecidableEq (Table key) := fun t u =>
  decidable_of_iff (t.rows = u.rows) ⟨Table.ext, fun h => h ▸ rfl⟩

/-- The table without rows. -/
def empty : Table key := ⟨[], List.nodup_nil⟩

@[simp] theorem rows_empty : (empty : Table key).rows = [] := rfl

/-- Two rows of a table with the same key are the same row. -/
theorem eq_of_key_eq (t : Table key) {a b : α} (ha : a ∈ t.rows) (hb : b ∈ t.rows)
    (h : key a = key b) : a = b :=
  List.inj_on_of_nodup_map t.nodup ha hb h

variable [DecidableEq κ]

/-- The row with the key `k`. -/
def find? (t : Table key) (k : κ) : Option α := t.rows.find? (key · = k)

theorem find?_eq_some_iff (t : Table key) (k : κ) (a : α) :
    t.find? k = some a ↔ a ∈ t.rows ∧ key a = k := by
  constructor
  · intro h
    exact ⟨List.mem_of_find?_eq_some h, by simpa using List.find?_some h⟩
  · rintro ⟨ha, rfl⟩
    cases h : t.find? (key a) with
    | none => exact absurd (List.find?_eq_none.mp h a ha) (by simp)
    | some b =>
      -- the row found has the same key, so it is the same row
      have hb : key b = key a := by simpa using List.find?_some h
      rw [t.eq_of_key_eq (List.mem_of_find?_eq_some h) ha hb]

theorem find?_eq_none_iff (t : Table key) (k : κ) :
    t.find? k = none ↔ ∀ a ∈ t.rows, key a ≠ k := by
  simp [find?, List.find?_eq_none]

/-- Insert a row, unless there is one with its key. -/
def insert (t : Table key) (a : α) : Option (Table key) :=
  if h : key a ∈ t.rows.map key then none
  else some ⟨t.rows ++ [a], by
    rw [List.map_append, List.map_singleton]
    exact List.nodup_append.mpr ⟨t.nodup, List.nodup_singleton _, fun x hx y hy hxy => by
      rw [List.mem_singleton] at hy
      exact h (by rwa [← hy, ← hxy])⟩⟩

theorem insert_eq_some (t u : Table key) (a : α) :
    t.insert a = some u ↔ t.find? (key a) = none ∧ u.rows = t.rows ++ [a] := by
  have hmem : t.find? (key a) = none ↔ key a ∉ t.rows.map key := by
    rw [find?_eq_none_iff]
    simp [List.mem_map]
  rw [hmem]
  unfold insert
  split
  · rename_i h
    simp [h]
  · rename_i h
    simp only [Option.some.injEq, h, not_false_eq_true, true_and]
    exact ⟨fun hu => hu ▸ rfl, fun hu => Table.ext hu.symm⟩

/-- Inserting a row with a new key succeeds. -/
theorem exists_insert (t : Table key) {a : α} (h : t.find? (key a) = none) :
    ∃ u, t.insert a = some u := by
  have hmem : key a ∉ t.rows.map key := by
    intro hmem
    obtain ⟨b, hb, hkey⟩ := List.mem_map.mp hmem
    exact (t.find?_eq_none_iff (key a)).mp h b hb hkey
  exact ⟨_, dif_neg hmem⟩

theorem insert_eq_none (t : Table key) (a : α) :
    t.insert a = none ↔ (t.find? (key a)).isSome = true := by
  cases hfind : t.find? (key a) with
  | none =>
    obtain ⟨u, hu⟩ := t.exists_insert hfind
    simp [hu]
  | some b =>
    obtain ⟨hb, hkey⟩ := (t.find?_eq_some_iff _ _).mp hfind
    simp only [Option.isSome_some, iff_true]
    exact dif_pos (hkey ▸ List.mem_map_of_mem hb)

theorem find?_of_insert {t u : Table key} {a : α} (h : t.insert a = some u) (k : κ) :
    u.find? k = if key a = k then some a else t.find? k := by
  obtain ⟨hnone, hrows⟩ := (insert_eq_some t u a).mp h
  simp only [find?, hrows, List.find?_append]
  split
  · rename_i hk
    subst hk
    have : t.rows.find? (key · = key a) = none := hnone
    simp [this]
  · rename_i hk
    simp [hk]

theorem find?_of_insert_of_isSome {t u : Table key} {a : α} (h : t.insert a = some u) {k : κ}
    (hk : (t.find? k).isSome) : u.find? k = t.find? k := by
  rw [find?_of_insert h, if_neg]
  rintro rfl
  rw [((insert_eq_some t u a).mp h).1] at hk
  exact nomatch hk

/-- Apply `f` to the row with the key `k`. -/
def modify (t : Table key) (k : κ) (f : α → α) (hf : ∀ a, key (f a) = key a) : Table key :=
  ⟨t.rows.map fun a => if key a = k then f a else a, by
    have : (key ∘ fun a => if key a = k then f a else a) = key := by
      funext a
      simp only [Function.comp_apply]
      split
      · exact hf a
      · rfl
    rw [List.map_map, this]
    exact t.nodup⟩

/-- An update of the row with the key `k` leaves other rows alone. -/
theorem map_ite_of_ne {rows : List α} {k : κ} (h : ∀ a ∈ rows, key a ≠ k) (f : α → α) :
    (rows.map fun a => if key a = k then f a else a) = rows := by
  conv_rhs => rw [← List.map_id rows]
  exact List.map_congr_left fun a ha => by simp [h a ha]

/-- An update of no row changes nothing. -/
theorem modify_of_none (t : Table key) {k : κ} (h : t.find? k = none) (f : α → α)
    (hf : ∀ a, key (f a) = key a) : t.modify k f hf = t :=
  Table.ext (map_ite_of_ne ((t.find?_eq_none_iff k).mp h) f)

/-- A selection without the row, before and after its update. -/
theorem filter_rows_modify (t : Table key) (k : κ) (f : α → α) (hf : ∀ a, key (f a) = key a)
    {p : α → Bool} (hp : ∀ a ∈ t.rows, key a = k → p a = false ∧ p (f a) = false) :
    (t.modify k f hf).rows.filter p = t.rows.filter p := by
  unfold modify
  dsimp only
  generalize t.rows = rows at hp
  induction rows with
  | nil => rfl
  | cons a as ih =>
    have htail := ih fun b hb => hp b (List.mem_cons_of_mem _ hb)
    rw [List.map_cons, List.filter_cons, List.filter_cons, htail]
    by_cases hk : key a = k
    · obtain ⟨hbefore, hafter⟩ := hp a (List.mem_cons_self ..) hk
      simp [hk, hbefore, hafter]
    · rw [if_neg hk]

theorem mem_modify (t : Table key) (k : κ) (f : α → α) (hf : ∀ a, key (f a) = key a) (b : α) :
    b ∈ (t.modify k f hf).rows ↔
      (b ∈ t.rows ∧ key b ≠ k) ∨ ∃ a ∈ t.rows, key a = k ∧ f a = b := by
  simp only [modify, List.mem_map]
  constructor
  · rintro ⟨a, ha, rfl⟩
    by_cases hk : key a = k
    · exact .inr ⟨a, ha, hk, by simp [hk]⟩
    · exact .inl (by simp [hk, ha])
  · rintro (⟨hb, hk⟩ | ⟨a, ha, hk, rfl⟩)
    · exact ⟨b, hb, by simp [hk]⟩
    · exact ⟨a, ha, by simp [hk]⟩

/-- The rows after an update of the row `a`. -/
theorem mem_modify_of_find? (t : Table key) {k : κ} {a : α} (h : t.find? k = some a) (f : α → α)
    (hf : ∀ a, key (f a) = key a) (b : α) :
    b ∈ (t.modify k f hf).rows ↔ (b ∈ t.rows ∧ key b ≠ k) ∨ b = f a := by
  obtain ⟨ha, rfl⟩ := (t.find?_eq_some_iff k a).mp h
  rw [mem_modify]
  refine or_congr_right ⟨?_, ?_⟩
  · rintro ⟨a', ha', hkey, rfl⟩
    rw [t.eq_of_key_eq ha' ha hkey]
  · rintro rfl
    exact ⟨a, ha, rfl, rfl⟩

/-- An update removes no key. -/
theorem exists_mem_modify (t : Table key) (k : κ) (f : α → α) (hf : ∀ a, key (f a) = key a)
    {a : α} (ha : a ∈ t.rows) : ∃ b ∈ (t.modify k f hf).rows, key b = key a := by
  by_cases hk : key a = k
  · exact ⟨f a, (mem_modify ..).mpr (.inr ⟨a, ha, hk, rfl⟩), hf a⟩
  · exact ⟨a, (mem_modify ..).mpr (.inl ⟨ha, hk⟩), rfl⟩

theorem find?_modify (t : Table key) (k k' : κ) (f : α → α) (hf : ∀ a, key (f a) = key a) :
    (t.modify k f hf).find? k' = if k' = k then (t.find? k).map f else t.find? k' := by
  simp only [find?, modify]
  -- by induction on the rows: is the first one updated, is it the one looked for?
  induction t.rows with
  | nil => simp
  | cons a as ih =>
    by_cases hk : key a = k
    · by_cases hk' : k' = k
      · subst hk'
        simp [hk, hf]
      · have : ¬ key a = k' := fun h => hk' (h ▸ hk)
        simp only [List.map_cons, List.find?_cons, hk, hf, if_true, hk', if_false] at ih ⊢
        simpa [Ne.symm hk'] using ih
    · by_cases hk' : k' = k
      · subst hk'
        simp only [List.map_cons, List.find?_cons, hk, if_false, if_true] at ih ⊢
        simpa using ih
      · simp only [List.map_cons, List.find?_cons, hk, if_false, hk'] at ih ⊢
        split
        · rfl
        · exact ih

/-- An update is not seen through what it leaves as it is. -/
theorem map_find?_modify {β : Type*} (t : Table key) (k k' : κ) (f : α → α)
    (hf : ∀ a, key (f a) = key a) {g : α → β}
    (h : ∀ a, t.find? k' = some a → k' = k → g (f a) = g a) :
    ((t.modify k f hf).find? k').map g = (t.find? k').map g := by
  rw [find?_modify]
  split
  · rename_i hk
    rw [hk] at h ⊢
    cases ha : t.find? k with
    | none => rfl
    | some a => exact congrArg some (h a ha rfl)
  · rfl

/-- An update neither adds a key nor removes one. -/
theorem isSome_find?_modify (t : Table key) (k k' : κ) (f : α → α) (hf : ∀ a, key (f a) = key a) :
    ((t.modify k f hf).find? k').isSome = (t.find? k').isSome := by
  rw [find?_modify]
  split
  · rename_i hk
    rw [Option.isSome_map, ← hk]
  · rfl

/-- Update every row. -/
def map (t : Table key) (f : α → α) (hf : ∀ a, key (f a) = key a) : Table key :=
  ⟨t.rows.map f, by
    rw [List.map_map, show key ∘ f = key from funext hf]
    exact t.nodup⟩

omit [DecidableEq κ] in
theorem mem_map (t : Table key) (f : α → α) (hf : ∀ a, key (f a) = key a) (b : α) :
    b ∈ (t.map f hf).rows ↔ ∃ a ∈ t.rows, f a = b :=
  List.mem_map

theorem find?_map (t : Table key) (f : α → α) (hf : ∀ a, key (f a) = key a) (k : κ) :
    (t.map f hf).find? k = (t.find? k).map f := by
  ext b
  simp only [find?_eq_some_iff, mem_map, Option.map_eq_some_iff]
  constructor
  · rintro ⟨⟨a, ha, rfl⟩, hk⟩
    exact ⟨a, ⟨ha, (hf a).symm.trans hk⟩, rfl⟩
  · rintro ⟨a, ⟨ha, hk⟩, rfl⟩
    exact ⟨⟨a, ha, rfl⟩, (hf a).trans hk⟩

/-- Show every row through `f`. -/
def view {β : Type} {key' : β → κ} (t : Table key) (f : α → β) (hf : ∀ a, key' (f a) = key a) :
    Table key' :=
  ⟨t.rows.map f, by
    rw [List.map_map, show key' ∘ f = key from funext hf]
    exact t.nodup⟩

theorem find?_view {β : Type} {key' : β → κ} (t : Table key) (f : α → β)
    (hf : ∀ a, key' (f a) = key a) (k : κ) : (t.view f hf).find? k = (t.find? k).map f := by
  ext b
  simp only [find?_eq_some_iff, view, List.mem_map, Option.map_eq_some_iff]
  constructor
  · rintro ⟨⟨a, ha, rfl⟩, hk⟩
    exact ⟨a, ⟨ha, (hf a).symm.trans hk⟩, rfl⟩
  · rintro ⟨a, ⟨ha, hk⟩, rfl⟩
    exact ⟨⟨a, ha, rfl⟩, (hf a).trans hk⟩

/-- The rows that satisfy `p`. -/
def filter (t : Table key) (p : α → Bool) : Table key :=
  ⟨t.rows.filter p, t.nodup.sublist ((List.filter_sublist ..).map key)⟩

omit [DecidableEq κ] in
theorem mem_filter (t : Table key) (p : α → Bool) (a : α) :
    a ∈ (t.filter p).rows ↔ a ∈ t.rows ∧ p a = true := by
  simp [filter]

omit [DecidableEq κ] in
theorem forall_mem_filter {P : α → Prop} {t : Table key} (h : ∀ a ∈ t.rows, P a) (p : α → Bool) :
    ∀ a ∈ (t.filter p).rows, P a := by
  intro a ha
  exact h a ((t.mem_filter p a).mp ha).1

theorem find?_filter (t : Table key) (p : α → Bool) (k : κ) :
    (t.filter p).find? k = (t.find? k).filter p := by
  ext b
  simp only [find?_eq_some_iff, mem_filter, Option.filter_eq_some_iff]
  tauto

/-- Removing a row leaves the other ones. -/
theorem find?_filter_ne (t : Table key) {k k' : κ} (hne : k' ≠ k) :
    (t.filter (key · ≠ k)).find? k' = t.find? k' := by
  rw [find?_filter]
  cases ha : t.find? k' with
  | none => rfl
  | some a =>
    have hkey := ((t.find?_eq_some_iff _ _).mp ha).2
    simp [hkey, hne]

/-- Put a row in the place of the one with its key, or at the end if there is none. -/
def set (t : Table key) (a : α) : Table key :=
  if h : key a ∈ t.rows.map key then
    ⟨t.rows.map fun b => if key b = key a then a else b, by
      have : (key ∘ fun b => if key b = key a then a else b) = key := by
        funext b
        simp only [Function.comp_apply]
        split
        · rename_i hb
          exact hb.symm
        · rfl
      rw [List.map_map, this]
      exact t.nodup⟩
  else ⟨t.rows ++ [a], by
    rw [List.map_append, List.map_singleton]
    exact List.nodup_append.mpr ⟨t.nodup, List.nodup_singleton _, fun x hx y hy hxy => by
      rw [List.mem_singleton] at hy
      exact h (by rwa [← hy, ← hxy])⟩⟩

theorem mem_set (t : Table key) (a b : α) :
    b ∈ (t.set a).rows ↔ b = a ∨ (b ∈ t.rows ∧ key b ≠ key a) := by
  unfold set
  split
  · rename_i h
    obtain ⟨c, hc, hkey⟩ := List.mem_map.mp h
    simp only [List.mem_map]
    constructor
    · rintro ⟨d, hd, rfl⟩
      by_cases hk : key d = key a
      · exact .inl (if_pos hk)
      · rw [if_neg hk]
        exact .inr ⟨hd, hk⟩
    · rintro (rfl | ⟨hb, hk⟩)
      · exact ⟨c, hc, if_pos hkey⟩
      · exact ⟨b, hb, if_neg hk⟩
  · rename_i h
    simp only [List.mem_append, List.mem_singleton]
    constructor
    · rintro (hb | rfl)
      · exact .inr ⟨hb, fun hk => h (hk ▸ List.mem_map_of_mem hb)⟩
      · exact .inl rfl
    · rintro (rfl | ⟨hb, -⟩)
      · exact .inr rfl
      · exact .inl hb

theorem forall_mem_set {P : α → Prop} {t : Table key} {a : α} (h : ∀ b ∈ t.rows, P b) (ha : P a) :
    ∀ b ∈ (t.set a).rows, P b := by
  intro b hb
  cases (t.mem_set a b).mp hb with
  | inl hnew => exact hnew ▸ ha
  | inr hold => exact h b hold.1

theorem find?_set (t : Table key) (a : α) (k : κ) :
    (t.set a).find? k = if key a = k then some a else t.find? k := by
  ext b
  rw [find?_eq_some_iff, mem_set]
  split
  · rename_i hk
    subst hk
    simp only [Option.some.injEq]
    constructor
    · rintro ⟨rfl | ⟨-, hne⟩, hb⟩
      · rfl
      · exact absurd hb hne
    · rintro rfl
      exact ⟨.inl rfl, rfl⟩
  · rename_i hk
    rw [find?_eq_some_iff]
    constructor
    · rintro ⟨rfl | ⟨hb, -⟩, hkey⟩
      · exact absurd hkey hk
      · exact ⟨hb, hkey⟩
    · rintro ⟨hb, rfl⟩
      exact ⟨.inr ⟨hb, Ne.symm hk⟩, rfl⟩

/-- Putting a row with a new key is inserting it. -/
theorem set_of_insert {t u : Table key} {a : α} (h : t.insert a = some u) : t.set a = u := by
  unfold insert at h
  split at h
  · exact nomatch h
  · rename_i hmem
    cases h
    exact dif_neg hmem

theorem rows_set_of_none (t : Table key) {a : α} (h : t.find? (key a) = none) :
    (t.set a).rows = t.rows ++ [a] := by
  obtain ⟨u, hu⟩ := t.exists_insert h
  rw [set_of_insert hu, ((insert_eq_some t u a).mp hu).2]

theorem rows_set_of_isSome (t : Table key) {a : α} (h : (t.find? (key a)).isSome) :
    (t.set a).rows = t.rows.map fun b => if key b = key a then a else b := by
  obtain ⟨b, hb⟩ := Option.isSome_iff_exists.mp h
  obtain ⟨hmem, hkey⟩ := (t.find?_eq_some_iff _ _).mp hb
  have hkeys : key a ∈ t.rows.map key := hkey ▸ List.mem_map_of_mem hmem
  rw [set, dif_pos hkeys]

/-- What is set comes beside the rows with other keys. -/
theorem perm_set (t : Table key) (a : α) :
    (t.set a).rows.Perm (a :: (t.filter (key · ≠ key a)).rows) := by
  have hnodup : ∀ u : Table key, u.rows.Nodup := fun u => u.nodup.of_map key
  have hnew : a ∉ (t.filter (key · ≠ key a)).rows := by
    simp [mem_filter]
  rw [List.perm_ext_iff_of_nodup (hnodup _) (List.nodup_cons.mpr ⟨hnew, hnodup _⟩)]
  intro b
  simp [mem_set, mem_filter]

theorem length_set (t : Table key) (a : α) :
    (t.set a).rows.length =
      if (t.find? (key a)).isSome then t.rows.length else t.rows.length + 1 := by
  split
  · rename_i h
    rw [t.rows_set_of_isSome h, List.length_map]
  · rename_i h
    rw [t.rows_set_of_none (by simpa using h), List.length_append, List.length_singleton]

/-- Of two rows with one key, put one after the other, the second one remains. -/
theorem set_set (t : Table key) {a b : α} (h : key a = key b) : (t.set a).set b = t.set b := by
  have hsome : ((t.set a).find? (key b)).isSome := by
    rw [find?_set, if_pos h]
    rfl
  refine Table.ext ?_
  rw [rows_set_of_isSome _ hsome]
  cases hfind : t.find? (key b) with
  | none =>
    have hne : ∀ c ∈ t.rows, key c ≠ key b := (t.find?_eq_none_iff _).mp hfind
    rw [t.rows_set_of_none (h ▸ hfind), t.rows_set_of_none hfind, List.map_append,
      List.map_singleton, if_pos h]
    rw [map_ite_of_ne hne fun _ => b]
  | some c =>
    have hb : (t.find? (key b)).isSome := by rw [hfind]; rfl
    rw [t.rows_set_of_isSome hb, t.rows_set_of_isSome (h ▸ hb), List.map_map]
    refine List.map_congr_left fun d _ => ?_
    by_cases hd : key d = key b
    · simp [h, hd]
    · simp [h, hd]

/-- An insert, with the test of the key before it. -/
theorem insert_eq_ite (t : Table key) (a : α) :
    t.insert a = if (t.find? (key a)).isSome then none else some (t.set a) := by
  cases hins : t.insert a with
  | none => rw [if_pos ((t.insert_eq_none a).mp hins)]
  | some u =>
    rw [if_neg (mt (t.insert_eq_none a).mpr (by rw [hins]; nofun)), set_of_insert hins]

/-- Updating a row is putting the updated row. -/
theorem modify_eq_set (t : Table key) {k : κ} {a : α} (h : t.find? k = some a) (f : α → α)
    (hf : ∀ a, key (f a) = key a) : t.modify k f hf = t.set (f a) := by
  obtain ⟨ha, rfl⟩ := (t.find?_eq_some_iff k a).mp h
  have hmem : key (f a) ∈ t.rows.map key := by
    rw [hf]
    exact List.mem_map_of_mem ha
  rw [set, dif_pos hmem]
  refine Table.ext (List.map_congr_left fun b hb => ?_)
  simp only [hf]
  by_cases hk : key b = key a
  · rw [if_pos hk, if_pos hk, t.eq_of_key_eq hb ha hk]
  · rw [if_neg hk, if_neg hk]

/-- The rows before and after the one with the key `k`; an update leaves them alone. -/
theorem exists_split (t : Table key) {k : κ} {a : α} (h : t.find? k = some a) :
    ∃ pre post, t.rows = pre ++ a :: post ∧
      ∀ (f : α → α) (hf : ∀ a, key (f a) = key a),
        (t.modify k f hf).rows = pre ++ f a :: post := by
  obtain ⟨ha, rfl⟩ := (t.find?_eq_some_iff k a).mp h
  obtain ⟨pre, post, hrows⟩ := List.append_of_mem ha
  refine ⟨pre, post, hrows, fun f hf => ?_⟩
  -- keys are unique, so no other row has the key of `a`
  have hnodup := t.nodup
  rw [hrows, List.map_append, List.map_cons, List.nodup_append] at hnodup
  obtain ⟨-, hpost, hdisj⟩ := hnodup
  have hpre : ∀ b ∈ pre, key b ≠ key a := fun b hb =>
    hdisj _ (List.mem_map_of_mem hb) _ (List.mem_cons_self ..)
  have hpost : ∀ b ∈ post, key b ≠ key a := fun b hb he =>
    (List.nodup_cons.mp hpost).1 (he ▸ List.mem_map_of_mem hb)
  simp only [modify, hrows, List.map_append, List.map_cons, if_true]
  rw [map_ite_of_ne hpre, map_ite_of_ne hpost]

/-- Updating a row that was just inserted. -/
theorem rows_modify_insert {t u : Table key} {a : α} (h : t.insert a = some u) (f : α → α)
    (hf : ∀ a, key (f a) = key a) : (u.modify (key a) f hf).rows = t.rows ++ [f a] := by
  obtain ⟨hnone, hrows⟩ := (insert_eq_some t u a).mp h
  have hother := (find?_eq_none_iff t (key a)).mp hnone
  simp only [modify, hrows, List.map_append, List.map_cons, List.map_nil, if_true]
  rw [map_ite_of_ne hother]

/-! ## Joins -/

/-- Of what the rows contribute to a join, only the part of the row `a` refers to it. -/
theorem filter_flatMap (t : Table key) {β : Type} {a : α} (ha : a ∈ t.rows) {f : α → List β}
    {ref : β → κ} (hf : ∀ a, ∀ b ∈ f a, ref b = key a) :
    (t.rows.flatMap f).filter (ref · = key a) = f a := by
  obtain ⟨rows, hnodup⟩ := t
  change a ∈ rows at ha
  change (rows.flatMap f).filter _ = f a
  have hown : (f a).filter (ref · = key a) = f a :=
    List.filter_eq_self.mpr fun b hb => decide_eq_true (hf a b hb)
  have hother : ∀ c, key c ≠ key a → (f c).filter (ref · = key a) = [] := by
    intro c hne
    refine List.filter_eq_nil_iff.mpr fun b hb => ?_
    simpa [hf c b hb] using hne
  induction rows with
  | nil => cases ha
  | cons c rows ih =>
    rw [List.map_cons, List.nodup_cons] at hnodup
    rw [List.flatMap_cons, List.filter_append]
    cases List.mem_cons.mp ha with
    | inl heq =>
      subst heq
      -- no later row has the key
      have hrest : (rows.flatMap f).filter (ref · = key a) = [] := by
        rw [List.filter_flatMap, List.flatMap_eq_nil_iff]
        intro c hc
        exact hother c fun heq => hnodup.1 (heq ▸ List.mem_map_of_mem hc)
      rw [hown, hrest, List.append_nil]
    | inr hmem =>
      have hne : key c ≠ key a := fun heq => hnodup.1 (heq ▸ List.mem_map_of_mem hmem)
      rw [hother c hne, ih hnodup.2 hmem, List.nil_append]

/-! ## Sums -/

section Sum

variable {β M : Type} [AddCommMonoid M]

/-- A sum over the rows to which only the row `a` contributes. -/
theorem sum_ite_key (t : Table key) {a : α} (ha : a ∈ t.rows) (c : M) :
    (t.rows.map fun b => if key a = key b then c else 0).sum = c := by
  obtain ⟨rows, hnodup⟩ := t
  change a ∈ rows at ha
  change (rows.map _).sum = c
  induction rows with
  | nil => exact nomatch ha
  | cons b rows ih =>
    rw [List.map_cons, List.nodup_cons] at hnodup
    rw [List.map_cons, List.sum_cons]
    rcases List.mem_cons.mp ha with rfl | ha
    · -- no later row has the key
      have hzero : rows.map (fun b => if key a = key b then c else 0) = rows.map fun _ => 0 := by
        refine List.map_congr_left fun b hb => ?_
        have hne : key a ≠ key b := fun heq => hnodup.1 (heq ▸ List.mem_map_of_mem hb)
        rw [if_neg hne]
      rw [hzero]
      simp
    · have hne : key a ≠ key b := fun heq => hnodup.1 (heq ▸ List.mem_map_of_mem ha)
      rw [if_neg hne, zero_add, ih hnodup.2 ha]

/-- A sum over elements that refer to rows of a table, grouped by the row. -/
theorem sum_by_ref (t : Table key) (ref : β → κ) (f : β → M) {es : List β}
    (h : ∀ e ∈ es, ∃ a ∈ t.rows, key a = ref e) :
    (es.map f).sum = (t.rows.map fun a => ((es.filter (ref · = key a)).map f).sum).sum := by
  induction es with
  | nil => simp
  | cons e es ih =>
    obtain ⟨a, ha, hkey⟩ := h e (List.mem_cons_self ..)
    have hgroup (b : α) : (((e :: es).filter (ref · = key b)).map f).sum =
        (if key a = key b then f e else 0) + ((es.filter (ref · = key b)).map f).sum := by
      by_cases hb : ref e = key b
      · simp [hb, hkey]
      · simp [hb, hkey]
    simp only [hgroup, List.sum_map_add]
    rw [List.map_cons, List.sum_cons, ih fun e' he' => h e' (List.mem_cons_of_mem _ he'),
      t.sum_ite_key ha]

/-- Elements that contribute nothing can be left out of a sum. -/
theorem sum_filter_of_zero {p : α → Bool} {g : α → M} {rows : List α}
    (h : ∀ a ∈ rows, p a = false → g a = 0) :
    (rows.map g).sum = ((rows.filter p).map g).sum := by
  induction rows with
  | nil => rfl
  | cons a rows ih =>
    have ih := ih fun b hb => h b (List.mem_cons_of_mem _ hb)
    cases hp : p a with
    | true => simp [hp, ih]
    | false => simp [hp, ih, h a (List.mem_cons_self ..) hp]

end Sum

end Table
