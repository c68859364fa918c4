import Mathlib.Data.List.Sort
import Mathlib.Logic.Relation

/-!
# Trees stored as parent links and as paths

Rows that form a forest, each with the key of its parent and with a path: the
labels from the root down to the row. Where the two agree and no two rows have
the same path, the ancestors of a row are the rows whose path is a prefix of its
path, and its descendants those whose path extends it.

## Key results

- `prefix_iff_descends`: prefixes of paths are chains of parent links
- `exists_chain`: every row has a chain of parents that begins at a root
- `chain_eq_insertionSort`: the rows with a prefix of a path, sorted by its length, are that chain
-/

namespace PathTree

variable {α κ β : Type} (parent : α → Option κ) (key : α → κ) (path : α → List β)

/-- The parent links and the paths of the rows agree; keys and paths are unique. -/
structure IsTree (rows : List α) : Prop where
  keys : ∀ a ∈ rows, ∀ b ∈ rows, key a = key b → a = b
  root : ∀ a ∈ rows, parent a = none → ∃ label, path a = [label]
  child : ∀ a ∈ rows, ∀ k, parent a = some k →
    ∃ b ∈ rows, key b = k ∧ ∃ label, path a = path b ++ [label]
  unique : ∀ a ∈ rows, ∀ b ∈ rows, path a = path b → a = b

/-- `b` is a child of `a`. -/
def IsChild (rows : List α) (a b : α) : Prop :=
  a ∈ rows ∧ b ∈ rows ∧ parent b = some (key a)

/-- `b` is `a`, or a child of a descendant of `a`. -/
abbrev Descends (rows : List α) : α → α → Prop := Relation.ReflTransGen (IsChild parent key rows)

/-- The chain of parents of a row, from a root down to the row itself. -/
inductive Chain (rows : List α) : α → List α → Prop
  | root {a} (mem : a ∈ rows) (hparent : parent a = none) : Chain rows a [a]
  | child {a b as} (chain : Chain rows a as) (hchild : IsChild parent key rows a b) :
      Chain rows b (as ++ [b])

variable {parent key path} {rows : List α}

theorem Descends.mem {a b : α} (h : Descends parent key rows a b) (ha : a ∈ rows) : b ∈ rows := by
  induction h with
  | refl => exact ha
  | tail _ hchild _ => exact hchild.2.1

namespace IsTree

variable (h : IsTree parent key path rows)
include h

theorem path_ne_nil {a : α} (ha : a ∈ rows) : path a ≠ [] := by
  cases hparent : parent a with
  | none =>
    obtain ⟨label, hpath⟩ := h.root a ha hparent
    simp [hpath]
  | some k =>
    obtain ⟨b, -, -, label, hpath⟩ := h.child a ha k hparent
    simp [hpath]

theorem path_of_isChild {a b : α} (hchild : IsChild parent key rows a b) :
    ∃ label, path b = path a ++ [label] := by
  obtain ⟨ha, hb, hparent⟩ := hchild
  obtain ⟨a', ha', hkeys, label, hpath⟩ := h.child b hb _ hparent
  obtain rfl := h.keys a' ha' a ha hkeys
  exact ⟨label, hpath⟩

/-- Nothing but a root itself has a prefix of its path. -/
theorem eq_of_prefix_root {a b : α} (ha : a ∈ rows) (hb : b ∈ rows) (hparent : parent b = none)
    (hpre : path a <+: path b) : a = b := by
  obtain ⟨label, hpath⟩ := h.root b hb hparent
  have hpos := List.length_pos_of_ne_nil (h.path_ne_nil ha)
  have hlength : (path a).length = (path b).length := by
    have hle := hpre.length_le
    simp only [hpath, List.length_singleton] at hle ⊢
    omega
  exact h.unique a ha b hb (hpre.eq_of_length hlength)

theorem prefix_of_descends {a b : α} (hdesc : Descends parent key rows a b) :
    path a <+: path b := by
  induction hdesc with
  | refl => exact List.prefix_refl _
  | tail _ hchild ih =>
    obtain ⟨label, hpath⟩ := h.path_of_isChild hchild
    rw [hpath]
    exact ih.trans (List.prefix_append _ _)

theorem descends_of_prefix {a b : α} (ha : a ∈ rows) (hb : b ∈ rows) (hpre : path a <+: path b) :
    Descends parent key rows a b := by
  -- by induction on the length of the longer path
  induction hlen : (path b).length generalizing b with
  | zero => exact absurd (List.eq_nil_of_length_eq_zero hlen) (h.path_ne_nil hb)
  | succ n ih =>
    cases hparent : parent b with
    | none => rw [h.eq_of_prefix_root ha hb hparent hpre]
    | some k =>
      obtain ⟨c, hc, hkey, label, hpath⟩ := h.child b hb k hparent
      rw [hpath] at hpre hlen
      rcases List.prefix_concat_iff.mp hpre with heq | hpre
      · rw [h.unique a ha b hb (heq.trans hpath.symm)]
      · have hlength : (path c).length = n := by simpa using hlen
        exact (ih hc hpre hlength).tail ⟨hc, hb, by rw [hparent, hkey]⟩

/-- A row's path extends the path of another one if and only if it is a descendant of it. -/
theorem prefix_iff_descends {a b : α} (ha : a ∈ rows) (hb : b ∈ rows) :
    path a <+: path b ↔ Descends parent key rows a b :=
  ⟨h.descends_of_prefix ha hb, h.prefix_of_descends⟩

/-- Every row has a chain of parents. -/
theorem exists_chain {a : α} (ha : a ∈ rows) : ∃ as, Chain parent key rows a as := by
  induction hlen : (path a).length generalizing a with
  | zero => exact absurd (List.eq_nil_of_length_eq_zero hlen) (h.path_ne_nil ha)
  | succ n ih =>
    cases hparent : parent a with
    | none => exact ⟨[a], .root ha hparent⟩
    | some k =>
      obtain ⟨b, hb, hkey, label, hpath⟩ := h.child a ha k hparent
      obtain ⟨as, has⟩ := ih hb (by simpa [hpath] using hlen)
      exact ⟨as ++ [a], .child has ⟨hb, ha, by rw [hparent, hkey]⟩⟩

/-- The chain of a row has the rows whose path is a prefix of its path. -/
theorem mem_chain_iff {a : α} {as : List α} (hchain : Chain parent key rows a as) (b : α) :
    b ∈ as ↔ b ∈ rows ∧ path b <+: path a := by
  induction hchain with
  | @root a mem hparent =>
    rw [List.mem_singleton]
    constructor
    · rintro rfl
      exact ⟨mem, List.prefix_refl _⟩
    · rintro ⟨hb, hpre⟩
      exact h.eq_of_prefix_root hb mem hparent hpre
  | @child a c as _ hchild ih =>
    obtain ⟨label, hpath⟩ := h.path_of_isChild hchild
    rw [List.mem_append, List.mem_singleton, ih, hpath]
    constructor
    · rintro (⟨hb, hpre⟩ | rfl)
      · exact ⟨hb, hpre.trans (List.prefix_append _ _)⟩
      · exact ⟨hchild.2.1, hpath ▸ List.prefix_refl _⟩
    · rintro ⟨hb, hpre⟩
      rcases List.prefix_concat_iff.mp hpre with heq | hpre
      · exact .inr (h.unique b hb c hchild.2.1 (heq.trans hpath.symm))
      · exact .inl ⟨hb, hpre⟩

/-- The paths grow along a chain. -/
theorem pairwise_chain {a : α} {as : List α} (hchain : Chain parent key rows a as) :
    as.Pairwise fun b c => (path b).length < (path c).length := by
  induction hchain with
  | root => exact List.pairwise_singleton _ _
  | child chain hchild ih =>
    obtain ⟨label, hpath⟩ := h.path_of_isChild hchild
    refine List.pairwise_append.mpr ⟨ih, List.pairwise_singleton _ _, fun b hb c hc => ?_⟩
    rw [List.mem_singleton.mp hc, hpath, List.length_append, List.length_singleton]
    have hle := ((h.mem_chain_iff chain b).mp hb).2.length_le
    omega

/-- A chain is as long as the path of its row. -/
theorem length_chain {a : α} {as : List α} (hchain : Chain parent key rows a as) :
    as.length = (path a).length := by
  induction hchain with
  | root mem hparent =>
    obtain ⟨label, hpath⟩ := h.root _ mem hparent
    simp [hpath]
  | child _ hchild ih =>
    obtain ⟨label, hpath⟩ := h.path_of_isChild hchild
    simp [hpath, ih]

/-- The rows with a prefix of the path of `a`, from the shortest path to the longest, are the
    chain of `a`. -/
theorem chain_eq_insertionSort {δ : Type} [LinearOrder δ] {depth : α → δ} {p : α → Bool}
    (hnodup : rows.Nodup)
    (hdepth : ∀ b ∈ rows, ∀ c ∈ rows, depth b ≤ depth c ↔ (path b).length ≤ (path c).length)
    {a : α} (hp : ∀ b ∈ rows, p b = true ↔ path b <+: path a) {as : List α}
    (hchain : Chain parent key rows a as) :
    (rows.filter p).insertionSort (fun b c => depth b ≤ depth c) = as := by
  have htotal : Std.Total fun b c => depth b ≤ depth c := ⟨fun b c => le_total _ _⟩
  have htrans : IsTrans α fun b c => depth b ≤ depth c := ⟨fun b c d => le_trans⟩
  have hmem : ∀ b, b ∈ (rows.filter p).insertionSort (fun b c => depth b ≤ depth c) ↔
      b ∈ rows ∧ path b <+: path a := by
    intro b
    rw [List.mem_insertionSort, List.mem_filter]
    exact and_congr_right fun hb => hp b hb
  have hgrow := h.pairwise_chain hchain
  have hperm : ((rows.filter p).insertionSort fun b c => depth b ≤ depth c).Perm as := by
    refine (List.perm_ext_iff_of_nodup ?_ ?_).mpr fun b => ?_
    · exact (List.perm_insertionSort _ _).nodup_iff.mpr (hnodup.filter p)
    · exact hgrow.imp fun hlt heq => absurd (heq ▸ hlt) (Nat.lt_irrefl _)
    · rw [hmem, h.mem_chain_iff hchain]
  refine List.Perm.eq_of_pairwise ?_ (List.pairwise_insertionSort _ _) ?_ hperm
  · -- two prefixes of one length are equal
    intro b c hb hc hbc hcb
    obtain ⟨hb, hpreb⟩ := (hmem b).mp hb
    obtain ⟨hc, hprec⟩ := (h.mem_chain_iff hchain c).mp hc
    have hlength : (path b).length = (path c).length :=
      Nat.le_antisymm ((hdepth b hb c hc).mp hbc) ((hdepth c hc b hb).mp hcb)
    have hpre := List.prefix_of_prefix_length_le hpreb hprec hlength.le
    exact h.unique b hb c hc (hpre.eq_of_length hlength)
  · refine hgrow.imp_of_mem fun hb hc hlt => ?_
    have hb := ((h.mem_chain_iff hchain _).mp hb).1
    have hc := ((h.mem_chain_iff hchain _).mp hc).1
    exact (hdepth _ hb _ hc).mpr hlt.le

end IsTree

end PathTree
