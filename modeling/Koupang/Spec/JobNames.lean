import Koupang.ForStd.Words
import Koupang.Model.Jobs

/-!
# The grammar of job names

`JobName::new` checks a name in six steps. Together they say that the name is a
`{namespace}.{name}`: two or more segments with dots between them.

Key results:
- `check_eq_none_iff`: the checks, as segments
- `jobName_new_iff`: a job name is what the grammar derives
-/

namespace Koupang.Jobs

/-- `[a-z0-9_-]` -/
def isSegmentChar (c : Char) : Bool := c.isLower || c.isDigit || c = '_' || c = '-'

/-- A segment of a job name. -/
structure IsSegment (segment : String) : Prop where
  ne_empty : segment ≠ ""
  chars : ∀ c ∈ segment.toList, isSegmentChar c = true

/-- The names that are two or more segments with dots between them. -/
def IsDotted (name : String) : Prop :=
  ∃ segments : List String, 2 ≤ segments.length ∧ (∀ segment ∈ segments, IsSegment segment) ∧
    name = ".".intercalate segments

theorem ite_some_eq_none {c : Prop} [Decidable c] {msg : String} {rest : Option String} :
    (if c then some msg else rest) = none ↔ ¬ c ∧ rest = none := by
  by_cases h : c <;> simp [h]

/-- The checks of `JobName::new`, as a condition on the parts between the dots. -/
theorem check_eq_none_iff {trimmed : String} : JobName.check trimmed = none ↔
    Text.len trimmed ≤ 255 ∧ (∀ c ∈ trimmed.toList, c = '.' ∨ isSegmentChar c = true) ∧
      '.' ∈ trimmed.toList ∧ ∀ part ∈ trimmed.toList.splitOn '.', part ≠ [] := by
  have hchars : (trimmed.toList.all fun c =>
      c.isLower || c.isDigit || c = '.' || c = '_' || c = '-') = true ↔
      ∀ c ∈ trimmed.toList, c = '.' ∨ isSegmentChar c = true := by
    rw [List.all_eq_true]
    refine forall₂_congr fun c _ => ?_
    simp only [isSegmentChar, Bool.or_eq_true, decide_eq_true_eq]
    tauto
  have hempty : trimmed = "" ↔ trimmed.toList = [] := String.toList_eq_nil_iff.symm
  rw [List.splitOn_ne_nil_iff, ← hchars]
  simp only [JobName.check, ite_some_eq_none, hempty, Bool.not_eq_true', Bool.not_eq_false,
    Bool.or_eq_true, decide_eq_true_eq, Nat.not_lt, gt_iff_lt]
  have hdot : '.' ∈ trimmed.toList → trimmed.toList ≠ [] := List.ne_nil_of_mem
  tauto

theorem isDotted_iff {name : String} : IsDotted name ↔
    (∀ c ∈ name.toList, c = '.' ∨ isSegmentChar c = true) ∧
      '.' ∈ name.toList ∧ ∀ part ∈ name.toList.splitOn '.', part ≠ [] := by
  constructor
  · intro h
    obtain ⟨segments, htwo, hsegments, rfl⟩ := h
    have hsplit : (".".intercalate segments).toList.splitOn '.' = segments.map String.toList := by
      rw [String.toList_intercalate]
      refine List.splitOn_intercalate '.' ?_ ?_
      · intro part hpart hdot
        obtain ⟨segment, hsegment, rfl⟩ := List.mem_map.mp hpart
        exact absurd ((hsegments segment hsegment).chars '.' hdot) (by decide)
      · intro hnil
        simp [List.map_eq_nil_iff.mp hnil] at htwo
    refine ⟨?_, ?_, ?_⟩
    · intro c hc
      by_cases hdot : c = '.'
      · exact .inl hdot
      · obtain ⟨part, hpart, hmem⟩ := List.mem_splitOn_iff.mpr ⟨hc, hdot⟩
        rw [hsplit] at hpart
        obtain ⟨segment, hsegment, rfl⟩ := List.mem_map.mp hpart
        exact .inr ((hsegments segment hsegment).chars c hmem)
    · rw [← List.one_lt_length_splitOn_iff, hsplit, List.length_map]
      omega
    · intro part hpart
      rw [hsplit] at hpart
      obtain ⟨segment, hsegment, rfl⟩ := List.mem_map.mp hpart
      simpa using (hsegments segment hsegment).ne_empty
  · intro h
    obtain ⟨hchars, hdot, hparts⟩ := h
    refine ⟨(name.toList.splitOn '.').map String.ofList, ?_, ?_, ?_⟩
    · rw [List.length_map]
      exact List.one_lt_length_splitOn_iff.mpr hdot
    · intro segment hsegment
      obtain ⟨part, hpart, rfl⟩ := List.mem_map.mp hsegment
      refine ⟨by simpa using hparts part hpart, ?_⟩
      intro c hc
      rw [String.toList_ofList] at hc
      have hmem := List.mem_splitOn_iff.mp ⟨part, hpart, hc⟩
      exact (hchars c hmem.1).resolve_left hmem.2
    · rw [← String.toList_inj, String.toList_intercalate, List.map_map]
      simp [Function.comp_def]

/-- `JobName::new` accepts exactly the names of the grammar, of 255 bytes at most. -/
theorem jobName_new_iff (s t : String) :
    (∃ name, JobName.new s = .ok name ∧ name.value = t) ↔
      t = Text.trim s ∧ Text.len t ≤ 255 ∧ IsDotted t := by
  rw [isDotted_iff, ← check_eq_none_iff]
  constructor
  · intro h
    obtain ⟨name, hname, rfl⟩ := h
    simp only [JobName.new] at hname
    split at hname
    · cases hname
    · cases hname
      rename_i hcheck
      exact ⟨rfl, hcheck⟩
  · intro h
    obtain ⟨rfl, hcheck⟩ := h
    refine ⟨⟨Text.trim s, hcheck⟩, ?_, rfl⟩
    simp only [JobName.new]
    split
    · rename_i msg hmsg
      rw [hcheck] at hmsg
      cases hmsg
    · rfl

end Koupang.Jobs
