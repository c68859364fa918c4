import Mathlib.Data.List.Sort

/-!
# Select statements

What a query builder makes of a `SELECT` statement, from its `WHERE` on: the
tokens of the text and the values bound to its placeholders. The text is parsed
and typed before the statement is executed; a statement that fails either is
rejected. `AND` joins whatever it stands between, comparisons bind tighter.

A condition can also be given as a whole, by the rows of which it is true.

## Key results

- `Filters.pushAnd`: a condition that is pushed behind the filter joins it
- `Filters.fetch_page`, `Filters.fetch_groups`: the rows of a page, and its groups
- `Filters.rejected`: a condition that is pushed behind `GROUP BY` joins the grouping
-/

namespace Sql

/-! ## Tokens -/

/-- The value of a column or of a placeholder; `κ` is the type of the keys. -/
inductive Value (κ : Type) where
  | key (k : κ)
  | number (n : Int)
  | text (s : String)
deriving DecidableEq

/-- Of the values; there are no truth values in columns. -/
inductive Ty where
  | key
  | number
  | text
deriving DecidableEq

structure Column where
  /-- the alias of the table -/
  table : Option String
  name : String
deriving DecidableEq

inductive Op where
  | eq
  | lt
  | gt
deriving DecidableEq

inductive Token (ρ : Type) where
  | column (c : Column)
  /-- `$1` and so on -/
  | placeholder (n : Nat)
  | number (n : Int)
  | op (o : Op)
  /-- a condition on the rows -/
  | cond (holds : ρ → Bool)
  | and
  | groupBy
  | orderBy
  | asc
  | desc
  | limit

variable {κ ρ : Type}

def Value.ty : Value κ → Ty
  | .key _ => .key
  | .number _ => .number
  | .text _ => .text

/-- The token begins a clause behind the filter. -/
def Token.isClause : Token ρ → Bool
  | .groupBy | .orderBy => true
  | _ => false

def Token.isAnd : Token ρ → Bool
  | .and => true
  | _ => false

/-- The text that was pushed and the values that were bound. -/
structure Builder (κ ρ : Type) where
  tokens : List (Token ρ)
  binds : List (Value κ)

namespace Builder

def push (qb : Builder κ ρ) (sql : List (Token ρ)) : Builder κ ρ :=
  { qb with tokens := qb.tokens ++ sql }

/-- Push the next placeholder. -/
def pushBind (qb : Builder κ ρ) (value : Value κ) : Builder κ ρ where
  tokens := qb.tokens ++ [.placeholder (qb.binds.length + 1)]
  binds := qb.binds ++ [value]

end Builder

/-! ## Syntax -/

inductive Operand where
  | column (c : Column)
  | placeholder (n : Nat)
  | number (n : Int)
deriving DecidableEq

/-- What `AND` joins. -/
inductive Test (ρ : Type) where
  | cond (holds : ρ → Bool)
  | operand (x : Operand)
  | compare (x : Operand) (o : Op) (y : Operand)

structure Select (ρ : Type) where
  filter : List (Test ρ)
  groupBy : Option (List (Test ρ))
  orderBy : Column
  descending : Bool
  limit : Operand

def Token.operand : Token ρ → Option Operand
  | .column c => some (.column c)
  | .placeholder n => some (.placeholder n)
  | .number n => some (.number n)
  | _ => none

def parseTest : List (Token ρ) → Option (Test ρ)
  | [.cond holds] => some (.cond holds)
  | [x] => x.operand.map .operand
  | [x, .op o, y] => do
    let x ← x.operand
    let y ← y.operand
    return .compare x o y
  | _ => none

def parseExpr (sql : List (Token ρ)) : Option (List (Test ρ)) :=
  (sql.splitOnP Token.isAnd).mapM parseTest

/-- Order and limit. -/
def parseTail : List (Token ρ) → Option (Column × Bool × Operand)
  | [.orderBy, .column c, .asc, .limit, x] => do return (c, false, ← x.operand)
  | [.orderBy, .column c, .desc, .limit, x] => do return (c, true, ← x.operand)
  | _ => none

/-- The clauses behind the filter. -/
def parseClauses (filter : List (Test ρ)) : List (Token ρ) → Option (Select ρ)
  | .groupBy :: sql => do
    let groupBy ← parseExpr (sql.takeWhile (!·.isClause))
    let (orderBy, descending, limit) ← parseTail (sql.dropWhile (!·.isClause))
    return { filter, groupBy := some groupBy, orderBy, descending, limit }
  | sql => do
    let (orderBy, descending, limit) ← parseTail sql
    return { filter, groupBy := none, orderBy, descending, limit }

def parse (sql : List (Token ρ)) : Option (Select ρ) := do
  let filter ← parseExpr (sql.takeWhile (!·.isClause))
  parseClauses filter (sql.dropWhile (!·.isClause))

/-! ## Types -/

structure Schema (κ ρ : Type) where
  ty : Column → Option Ty
  value : ρ → Column → Value κ

section Typing

variable (schema : Schema κ ρ) (binds : List (Value κ))

def Operand.ty : Operand → Option Ty
  | .column c => schema.ty c
  | .placeholder n => binds[n - 1]?.map Value.ty
  | .number _ => some .number

/-- The test is a condition, of operands of one type. -/
def Test.isCond : Test ρ → Bool
  | .cond _ => true
  | .operand _ => false
  | .compare x _ y => (x.ty schema binds).isSome && x.ty schema binds = y.ty schema binds

/-- An expression alone may be a value; what `AND` joins are conditions. -/
def exprTyped : List (Test ρ) → Bool
  | [.operand x] => (x.ty schema binds).isSome
  | ts => ts.all (·.isCond schema binds)

/-- What is ordered is what is grouped. -/
def Select.groupTyped (s : Select ρ) : Bool :=
  match s.groupBy with
  | none => true
  | some [.operand (.column c)] => c = s.orderBy
  | some _ => false

def Select.wellTyped (s : Select ρ) : Bool :=
  s.filter.all (·.isCond schema binds) && s.groupBy.all (exprTyped schema binds) &&
    s.groupTyped && (schema.ty s.orderBy).isSome && s.limit.ty schema binds = some .number

end Typing

/-! ## Execution -/

section Execution

variable [LinearOrder κ] (schema : Schema κ ρ) (binds : List (Value κ))

def Value.lt : Value κ → Value κ → Bool
  | .key a, .key b => a < b
  | .number a, .number b => a < b
  | .text a, .text b => a < b
  | _, _ => false

def Op.holds : Op → Value κ → Value κ → Bool
  | .eq, a, b => a = b
  | .lt, a, b => a.lt b
  | .gt, a, b => b.lt a

def Operand.value (row : ρ) : Operand → Option (Value κ)
  | .column c => some (schema.value row c)
  | .placeholder n => binds[n - 1]?
  | .number n => some (.number n)

def Test.holds (row : ρ) : Test ρ → Bool
  | .cond holds => holds row
  | .operand _ => false
  | .compare x o y =>
    match x.value schema binds row, y.value schema binds row with
    | some a, some b => o.holds a b
    | _, _ => false

/-- The order of the rows by a column. -/
def Schema.before (c : Column) (descending : Bool) (a b : ρ) : Bool :=
  if descending then !(schema.value a c).lt (schema.value b c)
  else !(schema.value b c).lt (schema.value a c)

/-- The rows with one value of the column each. -/
def Schema.groups (c : Column) (rows : List ρ) : List (List ρ) :=
  (rows.map (schema.value · c)).dedup.map fun v => rows.filter (schema.value · c = v)

def Select.limitOf (s : Select ρ) : Nat :=
  match s.limit with
  | .placeholder n =>
    match binds[n - 1]? with
    | some (.number n) => n.toNat
    | _ => 0
  | .number n => n.toNat
  | .column _ => 0

/-- The rows behind each row of the result. -/
def Select.exec (s : Select ρ) (rows : List ρ) : List (List ρ) :=
  let sorted := (rows.filter fun row => s.filter.all (·.holds schema binds row)).insertionSort
    fun a b => schema.before s.orderBy s.descending a b
  let groups := if s.groupBy.isSome then schema.groups s.orderBy sorted else sorted.map ([·])
  groups.take (s.limitOf binds)

/-- The result of the statement, unless it is rejected. -/
def Builder.fetch (qb : Builder κ ρ) (rows : List ρ) : Option (List (List ρ)) := do
  let s ← parse qb.tokens
  if s.wellTyped schema qb.binds then some (s.exec schema qb.binds rows) else none

end Execution

/-! ## Filters -/

section Parsing

variable {sql : List (Token ρ)}

/-- The filter ends where the first clause begins. -/
theorem parse_append {filter : List (Token ρ)} (h : ∀ t ∈ filter, t.isClause = false) {t : Token ρ}
    (ht : t.isClause = true) : parse (filter ++ t :: sql) =
      (parseExpr filter).bind fun tests => parseClauses tests (t :: sql) := by
  have hplain : ∀ t ∈ filter, (!t.isClause) = true := by
    intro t ht
    rw [h t ht]
    rfl
  have hstop : (!t.isClause) = false := by
    rw [ht]
    rfl
  unfold parse
  rw [List.takeWhile_append_of_pos hplain, List.dropWhile_append_of_pos hplain,
    List.takeWhile_cons_of_neg (by simp [ht]), List.dropWhile_cons_of_neg (by simp [ht]),
    List.append_nil]
  rfl

theorem parseExpr_column (c : Column) :
    parseExpr [(.column c : Token ρ)] = some [.operand (.column c)] := rfl

theorem parseExpr_compare (c : Column) (o : Op) (n : Nat) :
    parseExpr [(.column c : Token ρ), .op o, .placeholder n] =
      some [.compare (.column c) o (.placeholder n)] := rfl

/-- `AND` joins what stands before it and what stands behind it. -/
theorem parseExpr_and (left right : List (Token ρ)) :
    parseExpr (left ++ .and :: right) =
      (parseExpr left).bind fun tests => (parseExpr right).map (tests ++ ·) := by
  unfold parseExpr
  have hand : Token.isAnd (.and : Token ρ) = true := rfl
  rw [List.splitOnP_append_cons left right hand, List.mapM_append]
  cases (left.splitOnP Token.isAnd).mapM parseTest with
  | none => rfl
  | some tests =>
    cases (right.splitOnP Token.isAnd).mapM parseTest with
    | none => rfl
    | some tests' => rfl

end Parsing

section Binding

variable {schema : Schema κ ρ} {binds : List (Value κ)}

/-- A placeholder that has a value keeps it. -/
theorem getElem?_append_of_isSome {n : Nat} (h : (binds[n]?).isSome) (more : List (Value κ)) :
    (binds ++ more)[n]? = binds[n]? := by
  obtain ⟨v, hv⟩ := Option.isSome_iff_exists.mp h
  obtain ⟨hlt, -⟩ := List.getElem?_eq_some_iff.mp hv
  exact List.getElem?_append_left hlt

theorem Operand.ty_append {x : Operand} (h : (x.ty schema binds).isSome) (more : List (Value κ)) :
    x.ty schema (binds ++ more) = x.ty schema binds := by
  cases x with
  | column c => rfl
  | placeholder n =>
    have hbound : (binds[n - 1]?).isSome := by
      simpa [Operand.ty] using h
    rw [Operand.ty, Operand.ty, getElem?_append_of_isSome hbound]
  | number n => rfl

theorem Operand.value_append {x : Operand} (h : (x.ty schema binds).isSome)
    (more : List (Value κ)) (row : ρ) :
    x.value schema (binds ++ more) row = x.value schema binds row := by
  cases x with
  | column c => rfl
  | placeholder n =>
    have hbound : (binds[n - 1]?).isSome := by
      simpa [Operand.ty] using h
    exact getElem?_append_of_isSome hbound more
  | number n => rfl

theorem Test.isCond_compare {x y : Operand} {o : Op} :
    (Test.compare x o y : Test ρ).isCond schema binds = true ↔
      (x.ty schema binds).isSome ∧ x.ty schema binds = y.ty schema binds := by
  simp [Test.isCond]

theorem Test.isCond_append {t : Test ρ} (h : t.isCond schema binds = true)
    (more : List (Value κ)) : t.isCond schema (binds ++ more) = true := by
  cases t with
  | cond holds => rfl
  | operand x => cases h
  | compare x o y =>
    obtain ⟨hx, hxy⟩ := Test.isCond_compare.mp h
    refine Test.isCond_compare.mpr ?_
    rw [Operand.ty_append hx, Operand.ty_append (hxy ▸ hx)]
    exact ⟨hx, hxy⟩

theorem Test.holds_append [LinearOrder κ] {t : Test ρ} (h : t.isCond schema binds = true)
    (more : List (Value κ)) (row : ρ) :
    t.holds schema (binds ++ more) row = t.holds schema binds row := by
  cases t with
  | cond holds => rfl
  | operand x => rfl
  | compare x o y =>
    obtain ⟨hx, hxy⟩ := Test.isCond_compare.mp h
    simp only [Test.holds, Operand.value_append hx, Operand.value_append (hxy ▸ hx)]

end Binding

/-- The builder has written nothing but a filter behind its `WHERE`, of these conditions. -/
structure Filters (schema : Schema κ ρ) (qb : Builder κ ρ) (tests : List (Test ρ)) : Prop where
  plain : ∀ t ∈ qb.tokens, t.isClause = false
  parses : parseExpr qb.tokens = some tests
  conds : ∀ t ∈ tests, t.isCond schema qb.binds = true

namespace Filters

variable {schema : Schema κ ρ} {qb : Builder κ ρ} {tests : List (Test ρ)}

/-- A comparison with a value joins the filter. -/
theorem pushAnd (h : Filters schema qb tests) {c : Column} {v : Value κ}
    (hc : schema.ty c = some v.ty) (o : Op) :
    Filters schema ((qb.push [.and, .column c, .op o]).pushBind v)
      (tests ++ [.compare (.column c) o (.placeholder (qb.binds.length + 1))]) where
  plain := by
    intro t ht
    simp only [Builder.push, Builder.pushBind, List.mem_append, List.mem_cons, List.not_mem_nil,
      or_false] at ht
    rcases ht with (hold | rfl | rfl | rfl) | rfl
    · exact h.plain t hold
    · rfl
    · rfl
    · rfl
    · rfl
  parses := by
    have htokens : ((qb.push [.and, .column c, .op o]).pushBind v).tokens =
        qb.tokens ++ .and :: [.column c, .op o, .placeholder (qb.binds.length + 1)] := by
      simp [Builder.push, Builder.pushBind]
    rw [htokens, parseExpr_and, h.parses, parseExpr_compare]
    rfl
  conds := by
    intro t ht
    have hbinds : ((qb.push [.and, .column c, .op o]).pushBind v).binds = qb.binds ++ [v] := rfl
    rw [hbinds]
    cases List.mem_append.mp ht with
    | inl hold => exact Test.isCond_append (h.conds t hold) [v]
    | inr hnew =>
      rw [List.mem_singleton.mp hnew, Test.isCond_compare]
      simp [Operand.ty, hc]

/-- The conditions of the filter do not depend on what is bound later. -/
theorem all_append [LinearOrder κ] (h : Filters schema qb tests) (v : Value κ) (row : ρ) :
    tests.all (·.holds schema (qb.binds ++ [v]) row) = tests.all (·.holds schema qb.binds row) := by
  rw [Bool.eq_iff_iff, List.all_eq_true, List.all_eq_true]
  refine forall₂_congr fun t ht => ?_
  rw [Test.holds_append (h.conds t ht) [v] row]

/-- What a comparison that joins the filter leaves of its rows. -/
theorem all_pushAnd [LinearOrder κ] (h : Filters schema qb tests) (c : Column) (o : Op)
    (v : Value κ) (row : ρ) :
    (tests ++ [Test.compare (.column c) o (.placeholder (qb.binds.length + 1))]).all
        (·.holds schema (qb.binds ++ [v]) row) =
      (tests.all (·.holds schema qb.binds row) && o.holds (schema.value row c) v) := by
  have hnew : (Test.compare (.column c) o (.placeholder (qb.binds.length + 1)) : Test ρ).holds
      schema (qb.binds ++ [v]) row = o.holds (schema.value row c) v := by
    simp [Test.holds, Operand.value]
  rw [List.all_append, h.all_append, List.all_cons, hnew, List.all_nil, Bool.and_true]

theorem conds_append (h : Filters schema qb tests) (v : Value κ) :
    tests.all (·.isCond schema (qb.binds ++ [v])) = true := by
  refine List.all_eq_true.mpr fun t ht => ?_
  exact Test.isCond_append (h.conds t ht) [v]

/-- Order the rows, and bind how many are returned. -/
def paged (qb : Builder κ ρ) (c : Column) (descending : Bool) (n : Int) : Builder κ ρ :=
  (qb.push [.orderBy, .column c, if descending then .desc else .asc, .limit]).pushBind (.number n)

theorem parseTail_paged (c : Column) (descending : Bool) (n : Nat) :
    parseTail ([.orderBy, .column c, if descending then .desc else .asc, .limit,
      .placeholder n] : List (Token ρ)) = some (c, descending, .placeholder n) := by
  cases descending with
  | true => rfl
  | false => rfl

theorem fetch_parsed [LinearOrder κ] (h : Filters schema qb tests) {q : Builder κ ρ} {n : Int}
    {groupBy : Option (List (Test ρ))} {c : Column} {descending : Bool}
    (hparse : parse q.tokens = some { filter := tests, groupBy, orderBy := c, descending
                                      limit := .placeholder (qb.binds.length + 1) })
    (hbinds : q.binds = qb.binds ++ [.number n]) (hc : (schema.ty c).isSome)
    (hgroup : groupBy = none ∨ groupBy = some [.operand (.column c)]) (rows : List ρ) :
    q.fetch schema rows = some
      ((fun sorted => if groupBy.isSome then schema.groups c sorted else sorted.map ([·]))
        ((rows.filter fun row => tests.all (·.holds schema qb.binds row)).insertionSort
          fun a b => schema.before c descending a b) |>.take n.toNat) := by
  have htyped : ({ filter := tests, groupBy, orderBy := c, descending
                   limit := .placeholder (qb.binds.length + 1) } : Select ρ).wellTyped schema
      (qb.binds ++ [.number n]) = true := by
    have hlimit : (Operand.placeholder (qb.binds.length + 1)).ty schema
        (qb.binds ++ [.number n]) = some .number := by
      simp [Operand.ty, Value.ty]
    cases hgroup with
    | inl hnone =>
      subst hnone
      simp [Select.wellTyped, h.conds_append, Select.groupTyped, hc, hlimit]
    | inr hsome =>
      subst hsome
      simp [Select.wellTyped, h.conds_append, Select.groupTyped, exprTyped, hlimit, hc,
        show (Operand.column c).ty schema (qb.binds ++ [.number n]) = schema.ty c from rfl]
  unfold Builder.fetch
  rw [hparse, hbinds]
  simp only [Option.bind_eq_bind, Option.bind_some, htyped, if_true]
  simp [Select.exec, h.all_append, Select.limitOf]

/-- The rows of a page: a filter, an order and a limit. -/
theorem fetch_page [LinearOrder κ] (h : Filters schema qb tests) {c : Column}
    (hc : (schema.ty c).isSome) (descending : Bool) (n : Int) (rows : List ρ) :
    (paged qb c descending n).fetch schema rows =
      some ((((rows.filter fun row => tests.all (·.holds schema qb.binds row)).insertionSort
        fun a b => schema.before c descending a b).map ([·])).take n.toNat) := by
  have htokens : (paged qb c descending n).tokens = qb.tokens ++ ([.orderBy, .column c,
      if descending then .desc else .asc, .limit,
      .placeholder (qb.binds.length + 1)] : List (Token ρ)) := by
    simp [paged, Builder.push, Builder.pushBind]
  have htail := parseTail_paged (ρ := ρ) c descending (qb.binds.length + 1)
  have hparse : parse (paged qb c descending n).tokens =
      some { filter := tests, groupBy := none, orderBy := c, descending
             limit := .placeholder (qb.binds.length + 1) } := by
    rw [htokens, parse_append h.plain rfl, h.parses]
    simp only [Option.bind_some, parseClauses, htail]
    rfl
  exact h.fetch_parsed hparse rfl hc (.inl rfl) rows

/-- The groups of a page. -/
theorem fetch_groups [LinearOrder κ] (h : Filters schema qb tests) {c : Column}
    (hc : (schema.ty c).isSome) (descending : Bool) (n : Int) (rows : List ρ) :
    (paged (qb.push [.groupBy, .column c]) c descending n).fetch schema rows =
      some ((schema.groups c
        ((rows.filter fun row => tests.all (·.holds schema qb.binds row)).insertionSort
          fun a b => schema.before c descending a b)).take n.toNat) := by
  have htokens : (paged (qb.push [.groupBy, .column c]) c descending n).tokens =
      qb.tokens ++ ([.groupBy, .column c, .orderBy, .column c,
        if descending then .desc else .asc, .limit,
        .placeholder (qb.binds.length + 1)] : List (Token ρ)) := by
    simp [paged, Builder.push, Builder.pushBind]
  have htail := parseTail_paged (ρ := ρ) c descending (qb.binds.length + 1)
  have hparse : parse (paged (qb.push [.groupBy, .column c]) c descending n).tokens =
      some { filter := tests, groupBy := some [.operand (.column c)], orderBy := c, descending
             limit := .placeholder (qb.binds.length + 1) } := by
    rw [htokens, parse_append h.plain rfl, h.parses]
    simp [parseClauses, Token.isClause, htail, parseExpr_column]
  exact h.fetch_parsed hparse rfl hc (.inr rfl) rows

/-- A comparison that is pushed behind `GROUP BY` joins the grouping, and the statement is
    rejected. -/
theorem rejected [LinearOrder κ] (h : Filters schema qb tests) (c c' c'' : Column) (o : Op)
    (v : Value κ) (descending : Bool) (n : Int) (rows : List ρ) :
    (paged (((qb.push [.groupBy, .column c]).push [.and, .column c', .op o]).pushBind v)
      c'' descending n).fetch schema rows = none := by
  have htokens : (paged (((qb.push [.groupBy, .column c]).push [.and, .column c', .op o]).pushBind
      v) c'' descending n).tokens = qb.tokens ++ ([.groupBy, .column c, .and, .column c', .op o,
        .placeholder (qb.binds.length + 1), .orderBy, .column c'',
        if descending then .desc else .asc, .limit,
        .placeholder (qb.binds.length + 2)] : List (Token ρ)) := by
    simp [paged, Builder.push, Builder.pushBind]
  have htail := parseTail_paged (ρ := ρ) c'' descending (qb.binds.length + 2)
  have hgroup : parseExpr [(.column c : Token ρ), .and, .column c', .op o,
      .placeholder (qb.binds.length + 1)] = some [.operand (.column c),
        .compare (.column c') o (.placeholder (qb.binds.length + 1))] := by
    have hand := parseExpr_and [(.column c : Token ρ)]
      [.column c', .op o, .placeholder (qb.binds.length + 1)]
    rw [parseExpr_column, parseExpr_compare] at hand
    exact hand
  unfold Builder.fetch
  rw [htokens, parse_append h.plain rfl, h.parses]
  -- the column alone is not a condition
  simp [parseClauses, Token.isClause, htail, hgroup, Select.wellTyped, Select.groupTyped]

end Filters

end Sql
