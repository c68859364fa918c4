import Koupang.Model.Rules

/-!
# The two interpreters of a rule

`evaluate` gives the verdict on a rule tree, `evaluateDetailed` the verdict with a
tree of results, from which the failed checks are collected. Here the two are
compared on trees of any shape, and the failures that are reported are described
by the paths that lead to them.

Key results:
- `mem_collectFailures`: which leaf checks are reported, as paths in the rule tree
- `interpreters_agree`: both interpreters give one verdict, a rule that holds
  reports nothing, and a failing rule without negation reports what does not hold
- `rejection_explained_iff`: a rejection is explained if and only if a check is
  reached across at most one negation
-/

namespace Koupang.Rule

variable {α : Type} {p : α → Bool}

/-- Induction on a rule, with a hypothesis for every sub-rule of `all` and `any`. -/
@[elab_as_elim]
theorem induction {motive : Rule α → Prop} (check : ∀ a, motive (.check a))
    (all : ∀ rules, (∀ r ∈ rules, motive r) → motive (.all rules))
    (any : ∀ rules, (∀ r ∈ rules, motive r) → motive (.any rules))
    (not : ∀ rule, motive rule → motive (.not rule)) (rule : Rule α) : motive rule := by
  refine @Rule.rec α motive (fun rules => ∀ r ∈ rules, motive r) check all any not ?_ ?_ rule
  · intro r hr
    cases hr
  · intro r rs hr hrs s hs
    cases List.mem_cons.mp hs with
    | inl heq => exact heq ▸ hr
    | inr hmem => exact hrs s hmem

/-! ## The functions on lists of rules -/

@[simp] theorem evaluateAll_eq (rules : List (Rule α)) :
    evaluateAll p rules = rules.all (evaluate p) := by
  induction rules with
  | nil => rfl
  | cons r rs ih => simp [evaluateAll, ih]

@[simp] theorem evaluateAny_eq (rules : List (Rule α)) :
    evaluateAny p rules = rules.any (evaluate p) := by
  induction rules with
  | nil => rfl
  | cons r rs ih => simp [evaluateAny, ih]

@[simp] theorem collectChecksList_eq (rules : List (Rule α)) :
    collectChecksList rules = rules.flatMap collectChecks := by
  induction rules with
  | nil => rfl
  | cons r rs ih => simp [collectChecksList, ih]

@[simp] theorem evaluateDetailedList_eq (rules : List (Rule α)) :
    evaluateDetailedList p rules = rules.map (evaluateDetailed p) := by
  induction rules with
  | nil => rfl
  | cons r rs ih => simp [evaluateDetailedList, ih]

@[simp] theorem collectPassesList_eq (results : List (RuleResult α)) :
    RuleResult.collectPassesList results = results.flatMap RuleResult.collectPasses := by
  induction results with
  | nil => rfl
  | cons r rs ih => simp [RuleResult.collectPassesList, ih]

@[simp] theorem collectFailuresList_eq (results : List (RuleResult α)) :
    RuleResult.collectFailuresList results = results.flatMap RuleResult.collectFailures := by
  induction results with
  | nil => rfl
  | cons r rs ih => simp [RuleResult.collectFailuresList, ih]

/-! ## One verdict -/

@[simp] theorem evaluate_check (a : α) : evaluate p (.check a) = p a := by rw [evaluate]

@[simp] theorem evaluate_all (rules : List (Rule α)) :
    evaluate p (.all rules) = rules.all (evaluate p) := by
  rw [evaluate, evaluateAll_eq]

@[simp] theorem evaluate_any (rules : List (Rule α)) :
    evaluate p (.any rules) = rules.any (evaluate p) := by
  rw [evaluate, evaluateAny_eq]

@[simp] theorem evaluate_not (rule : Rule α) : evaluate p (.not rule) = !evaluate p rule := by
  rw [evaluate]

theorem evaluate_eq_passed (rule : Rule α) :
    rule.evaluate p = (rule.evaluateDetailed p).passed := by
  induction rule using Rule.induction with
  | check a => cases h : p a <;> simp [evaluateDetailed, RuleResult.passed, h]
  | all rules ih =>
    have hall : rules.all (evaluate p) = rules.all fun r => (evaluateDetailed p r).passed := by
      rw [Bool.eq_iff_iff, List.all_eq_true, List.all_eq_true]
      exact forall₂_congr fun r hr => by rw [ih r hr]
    simp [evaluateDetailed, RuleResult.passed, hall, Function.comp_def]
  | any rules ih =>
    have hany : rules.any (evaluate p) = rules.any fun r => (evaluateDetailed p r).passed := by
      rw [Bool.eq_iff_iff, List.any_eq_true, List.any_eq_true]
      exact exists_congr fun r => and_congr_right fun hr => by rw [ih r hr]
    simp [evaluateDetailed, RuleResult.passed, hany, Function.comp_def]
  | not rule ih => simp [evaluateDetailed, RuleResult.passed, ih]

theorem evaluate_and (r s : Rule α) : (r.and s).evaluate p = (r.evaluate p && s.evaluate p) := by
  cases r <;> simp [Rule.and]

theorem evaluate_or (r s : Rule α) : (r.or s).evaluate p = (r.evaluate p || s.evaluate p) := by
  cases r <;> simp [Rule.or]

/-! ## The rules below a rule -/

mutual

/-- Every node of the tree, the root first. -/
def subrules : Rule α → List (Rule α)
  | .check a => [.check a]
  | .all rules => .all rules :: subrulesList rules
  | .any rules => .any rules :: subrulesList rules
  | .not rule => .not rule :: subrules rule

def subrulesList : List (Rule α) → List (Rule α)
  | [] => []
  | r :: rs => subrules r ++ subrulesList rs

end

@[simp] theorem subrulesList_eq (rules : List (Rule α)) :
    subrulesList rules = rules.flatMap subrules := by
  induction rules with
  | nil => rfl
  | cons r rs ih => simp [subrulesList, ih]

/-- No node is a negation. -/
def NotFree (rule : Rule α) : Prop := ∀ inner, Rule.not inner ∉ rule.subrules

/-- No node is an `any` without sub-rules. -/
def NoEmptyAny (rule : Rule α) : Prop := Rule.any [] ∉ rule.subrules

/-- No node is an `all` or an `any` without sub-rules. -/
def NoEmptyNodes (rule : Rule α) : Prop := Rule.all [] ∉ rule.subrules ∧ rule.NoEmptyAny

theorem self_mem_subrules (rule : Rule α) : rule ∈ rule.subrules := by
  cases rule <;> simp [subrules]

theorem mem_subrules_all {rules : List (Rule α)} {r s : Rule α} (hr : r ∈ rules)
    (hs : s ∈ r.subrules) : s ∈ (Rule.all rules).subrules := by
  simp only [subrules, subrulesList_eq, List.mem_cons, List.mem_flatMap]
  exact .inr ⟨r, hr, hs⟩

theorem mem_subrules_any {rules : List (Rule α)} {r s : Rule α} (hr : r ∈ rules)
    (hs : s ∈ r.subrules) : s ∈ (Rule.any rules).subrules := by
  simp only [subrules, subrulesList_eq, List.mem_cons, List.mem_flatMap]
  exact .inr ⟨r, hr, hs⟩

theorem mem_subrules_not {rule s : Rule α} (hs : s ∈ rule.subrules) :
    s ∈ (Rule.not rule).subrules := by
  simp only [subrules, List.mem_cons]
  exact .inr hs

theorem mem_subrules_trans {r s t : Rule α} (hs : s ∈ r.subrules) (ht : t ∈ s.subrules) :
    t ∈ r.subrules := by
  induction r using Rule.induction with
  | check a =>
    have heq : s = .check a := by simpa [subrules] using hs
    exact heq ▸ ht
  | all rules ih =>
    simp only [subrules, subrulesList_eq, List.mem_cons, List.mem_flatMap] at hs
    rcases hs with rfl | ⟨r, hr, hs⟩
    · exact ht
    · exact mem_subrules_all hr (ih r hr hs)
  | any rules ih =>
    simp only [subrules, subrulesList_eq, List.mem_cons, List.mem_flatMap] at hs
    rcases hs with rfl | ⟨r, hr, hs⟩
    · exact ht
    · exact mem_subrules_any hr (ih r hr hs)
  | not rule ih =>
    simp only [subrules, List.mem_cons] at hs
    rcases hs with rfl | hs
    · exact ht
    · exact mem_subrules_not (ih hs)

/-- The leaf checks of a rule are the checks among its nodes. -/
theorem mem_collectChecks {rule : Rule α} {a : α} :
    a ∈ rule.collectChecks ↔ Rule.check a ∈ rule.subrules := by
  induction rule using Rule.induction with
  | check b => simp [collectChecks, subrules]
  | all rules ih =>
    simp only [collectChecks, collectChecksList_eq, subrules, subrulesList_eq, List.mem_flatMap,
      List.mem_cons, reduceCtorEq, false_or]
    exact exists_congr fun r => and_congr_right (ih r)
  | any rules ih =>
    simp only [collectChecks, collectChecksList_eq, subrules, subrulesList_eq, List.mem_flatMap,
      List.mem_cons, reduceCtorEq, false_or]
    exact exists_congr fun r => and_congr_right (ih r)
  | not rule ih => simp [collectChecks, subrules, ih]

/-! ## What is reported -/

/-- `s` is reached from a rule through `all` and `any` only, and every node on the way has the
    verdict `v`. -/
inductive Descends (p : α → Bool) (v : Bool) : Rule α → Rule α → Prop where
  | here {rule} : evaluate p rule = v → Descends p v rule rule
  | all {rules r s} : evaluate p (.all rules) = v → r ∈ rules → Descends p v r s →
      Descends p v (.all rules) s
  | any {rules r s} : evaluate p (.any rules) = v → r ∈ rules → Descends p v r s →
      Descends p v (.any rules) s

namespace Descends

variable {v : Bool} {r s : Rule α}

theorem verdict_left (h : Descends p v r s) : r.evaluate p = v := by
  cases h with
  | here hv => exact hv
  | all hv _ _ => exact hv
  | any hv _ _ => exact hv

theorem verdict_right (h : Descends p v r s) : s.evaluate p = v := by
  induction h with
  | here hv => exact hv
  | all _ _ _ ih => exact ih
  | any _ _ _ ih => exact ih

theorem mem_subrules (h : Descends p v r s) : s ∈ r.subrules := by
  induction h with
  | here _ => exact self_mem_subrules _
  | all _ hr _ ih => exact mem_subrules_all hr ih
  | any _ hr _ ih => exact mem_subrules_any hr ih

theorem check_iff {b : α} : Descends p v (.check b) s ↔ s = .check b ∧ p b = v := by
  constructor
  · intro h
    cases h with
    | here hv => exact ⟨rfl, by simpa using hv⟩
  · intro h
    rw [h.1]
    exact .here (by simpa using h.2)

theorem all_iff {rules : List (Rule α)} : Descends p v (.all rules) s ↔
    evaluate p (.all rules) = v ∧ (s = .all rules ∨ ∃ r ∈ rules, Descends p v r s) := by
  constructor
  · intro h
    cases h with
    | here hv => exact ⟨hv, .inl rfl⟩
    | all hv hr hs => exact ⟨hv, .inr ⟨_, hr, hs⟩⟩
  · intro h
    obtain ⟨hv, rfl | ⟨r, hr, hs⟩⟩ := h
    · exact .here hv
    · exact .all hv hr hs

theorem any_iff {rules : List (Rule α)} : Descends p v (.any rules) s ↔
    evaluate p (.any rules) = v ∧ (s = .any rules ∨ ∃ r ∈ rules, Descends p v r s) := by
  constructor
  · intro h
    cases h with
    | here hv => exact ⟨hv, .inl rfl⟩
    | any hv hr hs => exact ⟨hv, .inr ⟨_, hr, hs⟩⟩
  · intro h
    obtain ⟨hv, rfl | ⟨r, hr, hs⟩⟩ := h
    · exact .here hv
    · exact .any hv hr hs

theorem not_iff {rule : Rule α} : Descends p v (.not rule) s ↔
    s = .not rule ∧ evaluate p (.not rule) = v := by
  constructor
  · intro h
    cases h with
    | here hv => exact ⟨rfl, hv⟩
  · intro h
    rw [h.1]
    exact .here h.2

end Descends

/-- What the results of sub-rules list together. -/
theorem mem_flatMap_results {f : RuleResult α → List α} {rules : List (Rule α)} {a : α} :
    a ∈ (rules.map (evaluateDetailed p)).flatMap f ↔ ∃ r ∈ rules, a ∈ f (evaluateDetailed p r) := by
  rw [List.flatMap_map, List.mem_flatMap]

theorem mem_collectPasses {rule : Rule α} {a : α} :
    a ∈ (rule.evaluateDetailed p).collectPasses ↔ Descends p true rule (.check a) := by
  induction rule using Rule.induction with
  | check b =>
    rw [Descends.check_iff, evaluateDetailed]
    cases p b <;> simp [RuleResult.collectPasses]
  | all rules ih =>
    rw [Descends.all_iff, evaluate_eq_passed]
    simp only [evaluateDetailed, evaluateDetailedList_eq, RuleResult.passed,
      RuleResult.collectPasses, collectPassesList_eq, reduceCtorEq, false_or]
    rw [List.mem_ite_nil_right, mem_flatMap_results]
    exact and_congr_right fun _ => exists_congr fun r => and_congr_right (ih r)
  | any rules ih =>
    rw [Descends.any_iff, evaluate_eq_passed]
    simp only [evaluateDetailed, evaluateDetailedList_eq, RuleResult.passed,
      RuleResult.collectPasses, collectPassesList_eq, reduceCtorEq, false_or]
    rw [List.mem_ite_nil_right, mem_flatMap_results]
    exact and_congr_right fun _ => exists_congr fun r => and_congr_right (ih r)
  | not rule _ =>
    -- a passing negation has no passing leaves of its own
    rw [Descends.not_iff]
    simp [evaluateDetailed, RuleResult.collectPasses]

/-- The checks that explain a failing rule: one that does not hold and is reached through failing
    rules, or one that holds below a negation, when this is reached through failing rules
    and the check through rules that hold. -/
def Contributes (p : α → Bool) (rule : Rule α) (a : α) : Prop :=
  Descends p false rule (.check a) ∨
    ∃ inner, Descends p false rule (.not inner) ∧ Descends p true inner (.check a)

namespace Contributes

variable {a : α}

theorem check_iff {b : α} : Contributes p (.check b) a ↔ a = b ∧ p b = false := by
  simp [Contributes, Descends.check_iff]

theorem all_iff {rules : List (Rule α)} : Contributes p (.all rules) a ↔
    evaluate p (.all rules) = false ∧ ∃ r ∈ rules, Contributes p r a := by
  simp only [Contributes, Descends.all_iff, reduceCtorEq, false_or]
  grind

theorem any_iff {rules : List (Rule α)} : Contributes p (.any rules) a ↔
    evaluate p (.any rules) = false ∧ ∃ r ∈ rules, Contributes p r a := by
  simp only [Contributes, Descends.any_iff, reduceCtorEq, false_or]
  grind

theorem not_iff {rule : Rule α} : Contributes p (.not rule) a ↔
    evaluate p (.not rule) = false ∧ Descends p true rule (.check a) := by
  simp [Contributes, Descends.not_iff, and_assoc]

theorem verdict {rule : Rule α} (h : Contributes p rule a) : rule.evaluate p = false := by
  cases h with
  | inl hcheck => exact hcheck.verdict_left
  | inr hnot =>
    obtain ⟨_, hdown, _⟩ := hnot
    exact hdown.verdict_left

theorem mem_collectChecks {rule : Rule α} (h : Contributes p rule a) : a ∈ rule.collectChecks := by
  rw [Rule.mem_collectChecks]
  cases h with
  | inl hcheck => exact hcheck.mem_subrules
  | inr hnot =>
    obtain ⟨inner, hdown, hcheck⟩ := hnot
    exact mem_subrules_trans hdown.mem_subrules (mem_subrules_not hcheck.mem_subrules)

end Contributes

/-- The checks that are reported. -/
theorem mem_collectFailures {rule : Rule α} {a : α} :
    a ∈ (rule.evaluateDetailed p).collectFailures ↔ Contributes p rule a := by
  induction rule using Rule.induction with
  | check b =>
    rw [Contributes.check_iff, evaluateDetailed]
    cases p b <;> simp [RuleResult.collectFailures]
  | all rules ih =>
    rw [Contributes.all_iff, evaluate_eq_passed]
    simp only [evaluateDetailed, evaluateDetailedList_eq, RuleResult.passed,
      RuleResult.collectFailures, collectFailuresList_eq]
    rw [List.mem_ite_nil_left, mem_flatMap_results, Bool.not_eq_true]
    exact and_congr_right fun _ => exists_congr fun r => and_congr_right (ih r)
  | any rules ih =>
    rw [Contributes.any_iff, evaluate_eq_passed]
    simp only [evaluateDetailed, evaluateDetailedList_eq, RuleResult.passed,
      RuleResult.collectFailures, collectFailuresList_eq]
    rw [List.mem_ite_nil_left, mem_flatMap_results, Bool.not_eq_true]
    exact and_congr_right fun _ => exists_congr fun r => and_congr_right (ih r)
  | not rule _ =>
    rw [Contributes.not_iff, evaluate_eq_passed]
    simp only [evaluateDetailed, RuleResult.passed, RuleResult.collectFailures]
    rw [List.mem_ite_nil_left, mem_collectPasses, Bool.not_eq_true]

/-- An `all` with sub-rules shares its verdict with one of them. -/
theorem exists_of_all {v : Bool} {rules : List (Rule α)} (hne : rules ≠ [])
    (hv : evaluate p (.all rules) = v) : ∃ r ∈ rules, r.evaluate p = v := by
  cases v with
  | false => simpa using hv
  | true =>
    obtain ⟨r, hr⟩ := List.exists_mem_of_ne_nil rules hne
    exact ⟨r, hr, List.all_eq_true.mp (evaluate_all rules ▸ hv) r hr⟩

/-- An `any` with sub-rules shares its verdict with one of them. -/
theorem exists_of_any {v : Bool} {rules : List (Rule α)} (hne : rules ≠ [])
    (hv : evaluate p (.any rules) = v) : ∃ r ∈ rules, r.evaluate p = v := by
  cases v with
  | true => simpa using hv
  | false =>
    obtain ⟨r, hr⟩ := List.exists_mem_of_ne_nil rules hne
    exact ⟨r, hr, by simpa using List.any_eq_false.mp (evaluate_any rules ▸ hv) r hr⟩

/-- Without negations, and without empty nodes of its own verdict, a rule reaches a check. -/
theorem NotFree.exists_descends {v : Bool} {rule : Rule α} (hfree : rule.NotFree)
    (hempty : ∀ s ∈ rule.subrules, s.evaluate p = v → s ≠ .all [] ∧ s ≠ .any [])
    (hv : rule.evaluate p = v) : ∃ a, Descends p v rule (.check a) := by
  induction rule using Rule.induction with
  | check a => exact ⟨a, .here hv⟩
  | all rules ih =>
    have hne : rules ≠ [] := by
      intro hnil
      exact (hempty _ (self_mem_subrules _) hv).1 (by rw [hnil])
    obtain ⟨r, hr, hrv⟩ := exists_of_all hne hv
    obtain ⟨a, ha⟩ := ih r hr (fun inner hmem => hfree inner (mem_subrules_all hr hmem))
      (fun s hs => hempty s (mem_subrules_all hr hs)) hrv
    exact ⟨a, .all hv hr ha⟩
  | any rules ih =>
    have hne : rules ≠ [] := by
      intro hnil
      exact (hempty _ (self_mem_subrules _) hv).2 (by rw [hnil])
    obtain ⟨r, hr, hrv⟩ := exists_of_any hne hv
    obtain ⟨a, ha⟩ := ih r hr (fun inner hmem => hfree inner (mem_subrules_any hr hmem))
      (fun s hs => hempty s (mem_subrules_any hr hs)) hrv
    exact ⟨a, .any hv hr ha⟩
  | not rule _ => exact absurd (self_mem_subrules _) (hfree rule)

/-! ## The interpreters agree -/

theorem collectFailures_ne_nil {rule : Rule α} :
    (rule.evaluateDetailed p).collectFailures ≠ [] ↔ ∃ a, Contributes p rule a := by
  constructor
  · intro hne
    obtain ⟨a, ha⟩ := List.exists_mem_of_ne_nil _ hne
    exact ⟨a, mem_collectFailures.mp ha⟩
  · intro h
    obtain ⟨a, ha⟩ := h
    exact List.ne_nil_of_mem (mem_collectFailures.mpr ha)

theorem collectFailures_of_passed {rule : Rule α} (hpassed : rule.evaluate p = true) :
    (rule.evaluateDetailed p).collectFailures = [] := by
  by_contra hne
  obtain ⟨a, ha⟩ := collectFailures_ne_nil.mp hne
  have hfailed := ha.verdict
  simp [hpassed] at hfailed

theorem NotFree.descends {rule : Rule α} {a : α} (hfree : rule.NotFree)
    (h : Contributes p rule a) : Descends p false rule (.check a) := by
  cases h with
  | inl hcheck => exact hcheck
  | inr hnot =>
    obtain ⟨inner, hdown, _⟩ := hnot
    exact absurd hdown.mem_subrules (hfree inner)

theorem NoEmptyNodes.sub {rule s : Rule α} (h : rule.NoEmptyNodes) (hs : s ∈ rule.subrules) :
    s.NoEmptyNodes :=
  ⟨fun hmem => h.1 (mem_subrules_trans hs hmem), fun hmem => h.2 (mem_subrules_trans hs hmem)⟩

theorem NotFree.exists_contributes {rule : Rule α} (hfree : rule.NotFree)
    (hany : rule.NoEmptyAny) (hfailed : rule.evaluate p = false) :
    ∃ a, Contributes p rule a := by
  have hempty : ∀ s ∈ rule.subrules, s.evaluate p = false → s ≠ .all [] ∧ s ≠ .any [] := by
    intro s hs hv
    constructor
    · intro heq
      simp [heq] at hv
    · intro heq
      exact hany (heq ▸ hs)
  obtain ⟨a, ha⟩ := hfree.exists_descends hempty hfailed
  exact ⟨a, .inl ha⟩

theorem interpreters_agree (rule : Rule α) (predicate : α → Bool) :
    let result := rule.evaluateDetailed predicate
    rule.evaluate predicate = result.passed ∧
      (result.passed = true → result.collectFailures = []) ∧
      (∀ c ∈ result.collectFailures, c ∈ rule.collectChecks) ∧
      (rule.NotFree → ∀ c ∈ result.collectFailures, predicate c = false) ∧
      (rule.NotFree → rule.NoEmptyAny → result.passed = false → result.collectFailures ≠ []) ∧
      ∀ other : Rule α,
        (rule.and other).evaluate predicate =
          (rule.evaluate predicate && other.evaluate predicate) ∧
        (rule.or other).evaluate predicate =
          (rule.evaluate predicate || other.evaluate predicate) := by
  intro result
  have hverdict : rule.evaluate predicate = result.passed := evaluate_eq_passed rule
  refine ⟨hverdict, ?_, ?_, ?_, ?_, ?_⟩
  · intro hpassed
    exact collectFailures_of_passed (hverdict.trans hpassed)
  · intro c hc
    exact (mem_collectFailures.mp hc).mem_collectChecks
  · intro hfree c hc
    have hdown := hfree.descends (mem_collectFailures.mp hc)
    simpa using hdown.verdict_right
  · intro hfree hany hfailed
    exact collectFailures_ne_nil.mpr (hfree.exists_contributes hany (hverdict.trans hfailed))
  · intro other
    exact ⟨evaluate_and rule other, evaluate_or rule other⟩

/-! ## Rejections and their explanation -/

/-- What a rejected request is owed: the check that failed, and its text. -/
def RejectionExplained [ToString α] (predicate : α → Bool) (rule : Rule α) : Prop :=
  let result := rule.evaluateDetailed predicate
  rule.NoEmptyNodes → result.passed = false →
    result.collectFailures ≠ [] ∧ result.failureMessages ≠ []

/-- No negation stands below another one. -/
def NoNestedNot (rule : Rule α) : Prop := ∀ inner, Rule.not inner ∈ rule.subrules → inner.NotFree

theorem NoNestedNot.sub {rule s : Rule α} (h : rule.NoNestedNot) (hs : s ∈ rule.subrules) :
    s.NoNestedNot :=
  fun inner hmem => h inner (mem_subrules_trans hs hmem)

theorem NoNestedNot.exists_contributes {rule : Rule α} (hflat : rule.NoNestedNot)
    (hnodes : rule.NoEmptyNodes) (hfailed : rule.evaluate p = false) :
    ∃ a, Contributes p rule a := by
  induction rule using Rule.induction with
  | check a => exact ⟨a, .inl (.here hfailed)⟩
  | all rules ih =>
    have hne : rules ≠ [] := by
      intro hnil
      simp [hnil] at hfailed
    obtain ⟨r, hr, hrv⟩ := exists_of_all hne hfailed
    have hsub := mem_subrules_all hr (self_mem_subrules r)
    obtain ⟨a, ha⟩ := ih r hr (hflat.sub hsub) (hnodes.sub hsub) hrv
    exact ⟨a, Contributes.all_iff.mpr ⟨hfailed, r, hr, ha⟩⟩
  | any rules ih =>
    have hne : rules ≠ [] := by
      intro hnil
      exact hnodes.2 (hnil ▸ self_mem_subrules _)
    obtain ⟨r, hr, hrv⟩ := exists_of_any hne hfailed
    have hsub := mem_subrules_any hr (self_mem_subrules r)
    obtain ⟨a, ha⟩ := ih r hr (hflat.sub hsub) (hnodes.sub hsub) hrv
    exact ⟨a, Contributes.any_iff.mpr ⟨hfailed, r, hr, ha⟩⟩
  | not rule _ =>
    -- the rule below the negation holds, and no second negation hides its checks
    have hsub := mem_subrules_not (self_mem_subrules rule)
    have hholds : rule.evaluate p = true := by simpa using hfailed
    have hempty : ∀ s ∈ rule.subrules, s.evaluate p = true → s ≠ .all [] ∧ s ≠ .any [] := by
      intro s hs _
      have hs' := (hnodes.sub hsub).sub hs
      constructor
      · intro heq
        exact hs'.1 (heq ▸ self_mem_subrules _)
      · intro heq
        exact hs'.2 (heq ▸ self_mem_subrules _)
    have hfree : rule.NotFree := hflat rule (self_mem_subrules _)
    obtain ⟨a, ha⟩ := hfree.exists_descends hempty hholds
    exact ⟨a, Contributes.not_iff.mpr ⟨hfailed, ha⟩⟩

/-- A rejection is explained if and only if some check is reached across at most one negation. -/
theorem rejection_explained_iff [ToString α] (predicate : α → Bool) (rule : Rule α) :
    RejectionExplained predicate rule ↔
      (rule.NoEmptyNodes → rule.evaluate predicate = false →
        ∃ a, Contributes predicate rule a) := by
  have hmessages : (rule.evaluateDetailed predicate).failureMessages ≠ [] ↔
      (rule.evaluateDetailed predicate).collectFailures ≠ [] := by
    simp [RuleResult.failureMessages]
  simp only [RejectionExplained, hmessages, and_self, collectFailures_ne_nil, evaluate_eq_passed]

/-- The inner negation of two is a leaf without passes, so that nothing is left to report. -/
theorem double_negation_unexplained :
    ¬ RejectionExplained (fun _ => false) (.not (.not (.check "is admin"))) := by
  intro h
  have hnodes : (Rule.not (.not (.check "is admin"))).NoEmptyNodes := by
    simp [NoEmptyNodes, NoEmptyAny, subrules]
  exact (h hnodes rfl).1 rfl

end Koupang.Rule
