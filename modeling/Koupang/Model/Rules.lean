import Mathlib.Data.List.Basic

/-!
# Rule algebra

`shared/src/rules.rs`: rules as data, with an interpreter that says whether a
rule holds and one that says why it does not. `all(..)`, `any(..)` and
`flat_map(..)` over the sub-rules are written as a second function on the list
of sub-rules.
-/

namespace Koupang

/-- Composable rule tree; `α` is the domain-specific leaf check. -/
inductive Rule (α : Type) where
  | check (a : α)
  | all (rules : List (Rule α))
  | any (rules : List (Rule α))
  | not (rule : Rule α)

/-- Evaluation result that carries why a check passed or failed. -/
inductive RuleResult (α : Type) where
  | pass (check : α)
  | fail (check : α)
  | allOf (results : List (RuleResult α)) (passed : Bool)
  | anyOf (results : List (RuleResult α)) (passed : Bool)
  | negated (inner : RuleResult α) (passed : Bool)

variable {α : Type}

namespace RuleResult

def passed : RuleResult α → Bool
  | .pass _ => true
  | .fail _ => false
  | .allOf _ passed => passed
  | .anyOf _ passed => passed
  | .negated _ passed => passed

mutual

/-- Collect passing leaf checks from the result tree. -/
def collectPasses : RuleResult α → List α
  | .pass check => [check]
  | .fail _ => []
  | .allOf results passed => if passed then collectPassesList results else []
  | .anyOf results passed => if passed then collectPassesList results else []
  | .negated _ _ => []

def collectPassesList : List (RuleResult α) → List α
  | [] => []
  | r :: rs => collectPasses r ++ collectPassesList rs

end

mutual

/-- Collect the failed leaf checks that contribute to a failure. A failed negation
    reports the passing checks of its inner result. -/
def collectFailures : RuleResult α → List α
  | .pass _ => []
  | .fail check => [check]
  | .allOf results passed => if passed then [] else collectFailuresList results
  | .anyOf results passed => if passed then [] else collectFailuresList results
  | .negated inner passed => if passed then [] else collectPasses inner

def collectFailuresList : List (RuleResult α) → List α
  | [] => []
  | r :: rs => collectFailures r ++ collectFailuresList rs

end

def failureMessages [ToString α] (result : RuleResult α) : List String :=
  result.collectFailures.map toString

end RuleResult

namespace Rule

/-- Fluent AND: combines `self` with another rule. -/
def and (self other : Rule α) : Rule α :=
  match self with
  | .all rules => .all (rules ++ [other])
  | _ => .all [self, other]

/-- Fluent OR: combines `self` with another rule. -/
def or (self other : Rule α) : Rule α :=
  match self with
  | .any rules => .any (rules ++ [other])
  | _ => .any [self, other]

mutual

/-- Evaluate the rule tree against a predicate on leaf checks. -/
def evaluate (predicate : α → Bool) : Rule α → Bool
  | .check a => predicate a
  | .all rules => evaluateAll predicate rules
  | .any rules => evaluateAny predicate rules
  | .not rule => !evaluate predicate rule

def evaluateAll (predicate : α → Bool) : List (Rule α) → Bool
  | [] => true
  | r :: rs => evaluate predicate r && evaluateAll predicate rs

def evaluateAny (predicate : α → Bool) : List (Rule α) → Bool
  | [] => false
  | r :: rs => evaluate predicate r || evaluateAny predicate rs

end

mutual

/-- Collect all leaf checks from the tree (depth-first). -/
def collectChecks : Rule α → List α
  | .check a => [a]
  | .all rules => collectChecksList rules
  | .any rules => collectChecksList rules
  | .not rule => collectChecks rule

def collectChecksList : List (Rule α) → List α
  | [] => []
  | r :: rs => collectChecks r ++ collectChecksList rs

end

mutual

/-- Evaluate with the full result tree. -/
def evaluateDetailed (predicate : α → Bool) : Rule α → RuleResult α
  | .check a => if predicate a then .pass a else .fail a
  | .all rules =>
    let results := evaluateDetailedList predicate rules
    .allOf results (results.all RuleResult.passed)
  | .any rules =>
    let results := evaluateDetailedList predicate rules
    .anyOf results (results.any RuleResult.passed)
  | .not rule =>
    let inner := evaluateDetailed predicate rule
    .negated inner (!inner.passed)

def evaluateDetailedList (predicate : α → Bool) : List (Rule α) → List (RuleResult α)
  | [] => []
  | r :: rs => evaluateDetailed predicate r :: evaluateDetailedList predicate rs

end

/-- The verdict on a conjunction of leaf checks. -/
theorem passed_all_check (predicate : α → Bool) (checks : List α) :
    ((Rule.all (checks.map .check)).evaluateDetailed predicate).passed =
      checks.all predicate := by
  simp only [evaluateDetailed, RuleResult.passed]
  induction checks with
  | nil => rfl
  | cons a as ih =>
    simp only [List.map_cons, evaluateDetailedList, evaluateDetailed, List.all_cons, ih]
    cases h : predicate a <;> simp [RuleResult.passed]

end Rule

end Koupang
