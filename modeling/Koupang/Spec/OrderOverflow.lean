import Mathlib.Tactic.Linarith
import Koupang.Model.Overflow
import Koupang.Spec.OrderTotals

/-!
# Totals that overflow

The lines of an order are multiplied and added up before any limit applies to
them. Amounts are not negative, so the running total only grows, and whether
anything overflows is decided by the total of the lines that are reached: those
before the first one that is rejected.

## Key results

- `addLines_bound`, `addLines_isSome`: a running total, up to the rounding of its operations
- `new_returns_of_le`, `new_returns_le`: validation against the exact total, up to that rounding
- `new_returns_iff`: where nothing is rounded, validation panics exactly if the exact total of the
  lines that are reached is more than `Decimal::MAX`
-/

namespace Koupang

section Arithmetic

variable [RustDecimal]

/-! ## Running totals -/

/-- Multiply out the lines and add them to a running total. -/
def addLines : List (Decimal × Decimal) → Decimal → Option Decimal
  | [], total => some total
  | line :: rest, total => do
    let lineTotal ← RustDecimal.mul line.1 line.2
    let total ← RustDecimal.add total lineTotal
    addLines rest total

/-- The exact total of the lines. -/
def exactTotal (lines : List (Decimal × Decimal)) : Decimal :=
  (lines.map fun line => line.1 * line.2).sum

/-- The most that the operations on the lines can round. -/
def rounding (lines : List (Decimal × Decimal)) : Decimal := 2 * lines.length * RustDecimal.ulp

omit [RustDecimal] in
theorem exactTotal_cons (line : Decimal × Decimal) (lines : List (Decimal × Decimal)) :
    exactTotal (line :: lines) = line.1 * line.2 + exactTotal lines := by
  simp [exactTotal]

theorem rounding_cons (line : Decimal × Decimal) (lines : List (Decimal × Decimal)) :
    rounding (line :: lines) = 2 * RustDecimal.ulp + rounding lines := by
  simp only [rounding, List.length_cons]
  push_cast
  ring

theorem rounding_nonneg (lines : List (Decimal × Decimal)) : 0 ≤ rounding lines := by
  have hulp := RustDecimal.ulp_nonneg
  unfold rounding
  positivity

/-- No price and no quantity is negative. -/
def NonnegLines (lines : List (Decimal × Decimal)) : Prop :=
  ∀ line ∈ lines, 0 ≤ line.1 ∧ 0 ≤ line.2

omit [RustDecimal] in
theorem exactTotal_nonneg {lines : List (Decimal × Decimal)} (h : NonnegLines lines) :
    0 ≤ exactTotal lines := by
  refine List.sum_nonneg fun x hx => ?_
  obtain ⟨line, hline, rfl⟩ := List.mem_map.mp hx
  exact mul_nonneg (h line hline).1 (h line hline).2

theorem addLines_cons_isSome {line : Decimal × Decimal} {rest : List (Decimal × Decimal)}
    {total : Decimal} : (addLines (line :: rest) total).isSome ↔
      ∃ lineTotal, RustDecimal.mul line.1 line.2 = some lineTotal ∧
        ∃ next, RustDecimal.add total lineTotal = some next ∧ (addLines rest next).isSome := by
  rw [addLines]
  cases hmul : RustDecimal.mul line.1 line.2 with
  | none => simp
  | some lineTotal =>
    cases hadd : RustDecimal.add total lineTotal with
    | none => simp [hadd]
    | some next => simp [hadd]

/-- What a running total that does not overflow says about the exact one. -/
theorem addLines_bound {lines : List (Decimal × Decimal)} {total r : Decimal}
    (h : NonnegLines lines) (htotal : 0 ≤ total) (hmax : total ≤ maxDecimal)
    (hr : addLines lines total = some r) :
    r ≤ maxDecimal ∧ total + exactTotal lines ≤ r + rounding lines := by
  -- by induction on the lines; each one adds two roundings
  induction lines generalizing total with
  | nil =>
    cases hr
    exact ⟨hmax, by simp [exactTotal, rounding]⟩
  | cons line rest ih =>
    obtain ⟨hprice, hquantity⟩ := h line (List.mem_cons_self ..)
    obtain ⟨lineTotal, hmul, hr⟩ := Option.bind_eq_some_iff.mp hr
    obtain ⟨next, hadd, hr⟩ := Option.bind_eq_some_iff.mp hr
    obtain ⟨hline, -, hlineNear⟩ := RustDecimal.mul_near hprice hquantity hmul
    obtain ⟨hnext, hnextMax, hnextNear⟩ := RustDecimal.add_near htotal hline hadd
    have hrest : NonnegLines rest := fun line hmem => h line (List.mem_cons_of_mem _ hmem)
    obtain ⟨hrMax, hbound⟩ := ih hrest hnext hnextMax hr
    refine ⟨hrMax, ?_⟩
    have hlow := (abs_le.mp hlineNear).1
    have hlow' := (abs_le.mp hnextNear).1
    rw [exactTotal_cons, rounding_cons]
    linarith

/-- A running total that has room for its roundings does not overflow. -/
theorem addLines_isSome {lines : List (Decimal × Decimal)} {total : Decimal}
    (h : NonnegLines lines) (htotal : 0 ≤ total)
    (hroom : total + exactTotal lines + rounding lines ≤ maxDecimal) :
    (addLines lines total).isSome := by
  induction lines generalizing total with
  | nil => rfl
  | cons line rest ih =>
    obtain ⟨hprice, hquantity⟩ := h line (List.mem_cons_self ..)
    have hrest : NonnegLines rest := fun line hmem => h line (List.mem_cons_of_mem _ hmem)
    have hulp := RustDecimal.ulp_nonneg
    have hround := rounding_nonneg rest
    have hexact := exactTotal_nonneg hrest
    rw [exactTotal_cons, rounding_cons] at hroom
    -- first the line, then the sum
    have hmulSome : (RustDecimal.mul line.1 line.2).isSome :=
      RustDecimal.mul_isSome hprice hquantity (by linarith)
    obtain ⟨lineTotal, hmul⟩ := Option.isSome_iff_exists.mp hmulSome
    obtain ⟨hline, -, hlineNear⟩ := RustDecimal.mul_near hprice hquantity hmul
    have hhigh := (abs_le.mp hlineNear).2
    have haddSome : (RustDecimal.add total lineTotal).isSome :=
      RustDecimal.add_isSome htotal hline (by linarith)
    obtain ⟨next, hadd⟩ := Option.isSome_iff_exists.mp haddSome
    obtain ⟨hnext, -, hnextNear⟩ := RustDecimal.add_near htotal hline hadd
    have hhigh' := (abs_le.mp hnextNear).2
    have htail : (addLines rest next).isSome := ih hrest hnext (by linarith)
    exact addLines_cons_isSome.mpr ⟨lineTotal, hmul, next, hadd, htail⟩

/-! ## Panics -/

omit [RustDecimal] in
theorem MayPanic.ofExcept_bind {α β : Type} (x : Except AppError α) (f : α → MayPanic β) :
    (MayPanic.ofExcept x >>= f) ≠ none ↔ ∀ a, x = .ok a → f a ≠ none := by
  cases x with
  | error e => simp [MayPanic.ofExcept, bind, ExceptT.bind, ExceptT.mk, ExceptT.bindCont]
  | ok a => simp [MayPanic.ofExcept, bind, ExceptT.bind, ExceptT.mk, ExceptT.bindCont]

omit [RustDecimal] in
theorem MayPanic.ofOption_bind {α β : Type} (x : Option α) (f : α → MayPanic β) :
    (MayPanic.ofOption x >>= f) ≠ none ↔ ∃ a, x = some a ∧ f a ≠ none := by
  cases x with
  | none => simp [MayPanic.ofOption, bind, ExceptT.bind, ExceptT.mk, ExceptT.lift]
  | some a =>
    simp [MayPanic.ofOption, bind, ExceptT.bind, ExceptT.mk, ExceptT.bindCont, ExceptT.lift]

omit [RustDecimal] in
theorem MayPanic.bind_pure {α β : Type} (x : MayPanic α) (f : α → β) :
    (x >>= fun a => pure (f a)) ≠ none ↔ x ≠ none := by
  rcases x with _ | _ | a
  · exact iff_of_false (fun h => h rfl) (fun h => h rfl)
  · exact iff_of_true (fun h => by cases h) (fun h => by cases h)
  · exact iff_of_true (fun h => by cases h) (fun h => by cases h)

section Results

variable {α β : Type} (f : α → MayPanic β)

omit [RustDecimal]

@[simp] theorem MayPanic.ofExcept_ok_bind (a : α) : (MayPanic.ofExcept (.ok a) >>= f) = f a := rfl

@[simp] theorem MayPanic.ofExcept_error_bind (e : AppError) :
    (MayPanic.ofExcept (.error e) >>= f) = MayPanic.ofExcept (.error e) := rfl

@[simp] theorem MayPanic.ofOption_some_bind (a : α) : (MayPanic.ofOption (some a) >>= f) = f a :=
  rfl

end Results

/-! ## Orders -/

namespace Order

omit [RustDecimal] in
theorem ok_bind {α β : Type} (a : α) (f : α → Except AppError β) : (.ok a >>= f) = f a := rfl

omit [RustDecimal] in
@[simp] theorem isOk_ok {α : Type} (a : α) : (Except.ok a : Except AppError α).isOk = true := rfl

omit [RustDecimal] in
@[simp] theorem isOk_error {α : Type} (e : AppError) :
    (Except.error e : Except AppError α).isOk = false := rfl

/-- The item passes the checks of the loop. -/
def CreateOrderItemReq.accepted (item : CreateOrderItemReq) : Bool :=
  (Quantity.new item.quantity).isOk && (Price.new item.unitPrice).isOk

/-- The other fields pass their checks. -/
def headerAccepted (key : String) (req : CreateOrderReq) : Bool :=
  (IdempotencyKey.new key).isOk && req.currency.all (fun c => (Currency.new c).isOk) &&
    (ShippingAddress.new req.shippingAddress).isOk

/-- Prices and quantities of the items that the loop multiplies and adds: those before the first
    one that is rejected. -/
def chargedLines (key : String) (req : CreateOrderReq) : List (Decimal × Decimal) :=
  if headerAccepted key req then
    (req.items.takeWhile CreateOrderItemReq.accepted).map fun i =>
      (i.unitPrice, (i.quantity : Decimal))
  else []

omit [RustDecimal] in
theorem nonneg_chargedLines (key : String) (req : CreateOrderReq) :
    NonnegLines (chargedLines key req) := by
  intro line hline
  unfold chargedLines at hline
  split at hline
  · obtain ⟨item, hitem, rfl⟩ := List.mem_map.mp hline
    have haccepted := List.mem_takeWhile_imp hitem
    unfold CreateOrderItemReq.accepted at haccepted
    cases hquantity : Quantity.new item.quantity with
    | error e =>
      rw [hquantity] at haccepted
      cases haccepted
    | ok quantity =>
      cases hprice : Price.new item.unitPrice with
      | error e =>
        rw [hquantity, hprice] at haccepted
        cases haccepted
      | ok price =>
        obtain ⟨-, hpos, -⟩ := quantity_new_iff.mp hquantity
        have hpos' : (0 : ℚ) ≤ (item.quantity : ℚ) := by exact_mod_cast hpos.le
        exact ⟨(price_new_iff.mp hprice).2, hpos'⟩
  · cases hline

/-- The loop panics as the running total of the items that it reaches overflows. -/
theorem validateItems_returns (items : List CreateOrderItemReq) (done : List ValidCreateOrderItem)
    (total : Decimal) : Panicking.validateItems items done total ≠ none ↔
      (addLines ((items.takeWhile CreateOrderItemReq.accepted).map fun i =>
        (i.unitPrice, (i.quantity : Decimal))) total).isSome := by
  induction items generalizing done total with
  | nil => exact ⟨fun _ => rfl, fun _ h => by cases h⟩
  | cons item rest ih =>
    rw [Panicking.validateItems, MayPanic.ofExcept_bind]
    cases hquantity : Quantity.new item.quantity with
    | error e => simp [CreateOrderItemReq.accepted, hquantity, addLines]
    | ok quantity =>
      obtain ⟨rfl, -⟩ := quantity_new_iff.mp hquantity
      simp only [Except.ok.injEq, forall_eq', MayPanic.ofExcept_bind]
      cases hprice : Price.new item.unitPrice with
      | error e => simp [CreateOrderItemReq.accepted, hprice, addLines]
      | ok price =>
        obtain ⟨rfl, -⟩ := price_new_iff.mp hprice
        have haccepted : item.accepted = true := by
          rw [CreateOrderItemReq.accepted, hquantity, hprice]
          rfl
        simp only [Except.ok.injEq, forall_eq', MayPanic.ofOption_bind]
        rw [List.takeWhile_cons_of_pos haccepted, List.map_cons, addLines_cons_isSome]
        simp only [ih]

/-- The end of validation, from the address on. -/
def validateRest (key currency : String) (req : CreateOrderReq) : MayPanic ValidCreateOrderReq := do
  let shippingAddress ← MayPanic.ofExcept (ShippingAddress.new req.shippingAddress)
  if req.items.isEmpty then
    throw (.badRequest "Order must have at least one item")
  let (items, totalAmount) ← Panicking.validateItems req.items [] 0
  return { idempotencyKey := key, currency, shippingAddress, items, totalAmount }

theorem new_eq_validateRest (key : String) (req : CreateOrderReq) :
    Panicking.ValidCreateOrderReq.new key req = (do
      let trimmed ← MayPanic.ofExcept (IdempotencyKey.new key)
      let currency ← MayPanic.ofExcept ((req.currency.map Currency.new).getD (.ok "USD"))
      validateRest trimmed currency req) := by
  rw [Panicking.ValidCreateOrderReq.new]
  refine congrArg (MayPanic.ofExcept (IdempotencyKey.new key) >>= ·) (funext fun trimmed => ?_)
  cases req.currency with
  | none => simp only [pure_bind, Option.map_none, Option.getD_none, MayPanic.ofExcept_ok_bind,
      validateRest]
  | some c => simp only [Option.map_some, Option.getD_some, validateRest]

theorem validateRest_returns (key currency : String) (req : CreateOrderReq) :
    validateRest key currency req ≠ none ↔
      (addLines (if (ShippingAddress.new req.shippingAddress).isOk then
        (req.items.takeWhile CreateOrderItemReq.accepted).map fun i =>
          (i.unitPrice, (i.quantity : Decimal)) else []) 0).isSome := by
  rw [validateRest, MayPanic.ofExcept_bind]
  cases haddress : ShippingAddress.new req.shippingAddress with
  | error e => simp [addLines]
  | ok address =>
    simp only [Except.ok.injEq, forall_eq', isOk_ok, if_true]
    rw [← validateItems_returns req.items [] 0]
    by_cases hempty : req.items.isEmpty
    · rw [if_pos hempty, List.isEmpty_iff.mp hempty]
      exact iff_of_true (fun h => by cases h) (fun h => by cases h)
    · rw [if_neg hempty]
      exact MayPanic.bind_pure _ _

/-- Validation panics as the running total of the items that it reaches overflows. -/
theorem new_returns (key : String) (req : CreateOrderReq) :
    Panicking.ValidCreateOrderReq.new key req ≠ none ↔ (addLines (chargedLines key req) 0).isSome := by
  rw [new_eq_validateRest, MayPanic.ofExcept_bind, chargedLines, headerAccepted]
  cases hkey : IdempotencyKey.new key with
  | error e => simp [addLines]
  | ok trimmed =>
    simp only [Except.ok.injEq, forall_eq']
    rw [MayPanic.ofExcept_bind]
    -- a currency that is sent may be rejected
    cases req.currency with
    | none => simp [validateRest_returns]
    | some c =>
      cases hcurrency : Currency.new c with
      | error e => simp [addLines, hcurrency]
      | ok currency => simp [validateRest_returns, hcurrency]

/-- Validation that returns has an exact total within the range, up to the rounding. -/
theorem new_returns_le {key : String} {req : CreateOrderReq}
    (h : Panicking.ValidCreateOrderReq.new key req ≠ none) :
    exactTotal (chargedLines key req) ≤ maxDecimal + rounding (chargedLines key req) := by
  obtain ⟨r, hr⟩ := Option.isSome_iff_exists.mp ((new_returns key req).mp h)
  have hmax : (0 : Decimal) ≤ maxDecimal := by norm_num [maxDecimal]
  obtain ⟨hrMax, hbound⟩ := addLines_bound (nonneg_chargedLines key req) le_rfl hmax hr
  linarith

/-- With room for the rounding, validation returns. -/
theorem new_returns_of_le {key : String} {req : CreateOrderReq}
    (h : exactTotal (chargedLines key req) + rounding (chargedLines key req) ≤ maxDecimal) :
    Panicking.ValidCreateOrderReq.new key req ≠ none := by
  refine (new_returns key req).mpr (addLines_isSome (nonneg_chargedLines key req) le_rfl ?_)
  linarith

section Exact

variable [RustDecimal.Exact]

theorem rounding_eq_zero (lines : List (Decimal × Decimal)) : rounding lines = 0 := by
  rw [rounding, RustDecimal.Exact.ulp_eq_zero, mul_zero]

theorem mul_exact {a b r : Decimal} (ha : 0 ≤ a) (hb : 0 ≤ b) (h : RustDecimal.mul a b = some r) :
    r = a * b := by
  obtain ⟨-, -, hnear⟩ := RustDecimal.mul_near ha hb h
  rw [RustDecimal.Exact.ulp_eq_zero] at hnear
  exact sub_eq_zero.mp (abs_nonpos_iff.mp hnear)

theorem add_exact {a b r : Decimal} (ha : 0 ≤ a) (hb : 0 ≤ b) (h : RustDecimal.add a b = some r) :
    r = a + b := by
  obtain ⟨-, -, hnear⟩ := RustDecimal.add_near ha hb h
  rw [RustDecimal.Exact.ulp_eq_zero] at hnear
  exact sub_eq_zero.mp (abs_nonpos_iff.mp hnear)

/-- A loop that returns has validated the items one by one, and added up their totals. -/
theorem validateItems_eq {items : List CreateOrderItemReq} {done : List ValidCreateOrderItem}
    {total : Decimal} (htotal : 0 ≤ total)
    (h : Panicking.validateItems items done total ≠ none) :
    Panicking.validateItems items done total =
      MayPanic.ofExcept ((items.mapM ValidCreateOrderItem.new).map fun valid =>
        (done ++ valid, total + (valid.map (·.totalPrice)).sum)) := by
  induction items generalizing done total with
  | nil =>
    rw [List.mapM_nil, Panicking.validateItems]
    simp [pure, Except.pure, Except.map, ExceptT.pure, MayPanic.ofExcept]
  | cons item rest ih =>
    rw [Panicking.validateItems] at h ⊢
    rw [List.mapM_cons, ValidCreateOrderItem.new]
    cases hquantity : Quantity.new item.quantity with
    | error e => rfl
    | ok quantity =>
      obtain ⟨rfl, hpos, -⟩ := quantity_new_iff.mp hquantity
      cases hprice : Price.new item.unitPrice with
      | error e => rfl
      | ok price =>
        obtain ⟨rfl, hnonneg⟩ := price_new_iff.mp hprice
        rw [hquantity, hprice, MayPanic.ofExcept_ok_bind, MayPanic.ofExcept_ok_bind,
          MayPanic.ofOption_bind] at h
        obtain ⟨lineTotal, hmul, h⟩ := h
        obtain ⟨next, hadd, h⟩ := (MayPanic.ofOption_bind ..).mp h
        have hquantity' : (0 : ℚ) ≤ (item.quantity : ℚ) := by exact_mod_cast hpos.le
        obtain rfl := mul_exact hnonneg hquantity' hmul
        have hline : 0 ≤ item.unitPrice * (item.quantity : ℚ) := mul_nonneg hnonneg hquantity'
        obtain rfl := add_exact htotal hline hadd
        rw [MayPanic.ofExcept_ok_bind, MayPanic.ofExcept_ok_bind, hmul,
          MayPanic.ofOption_some_bind, hadd, MayPanic.ofOption_some_bind,
          ih (add_nonneg htotal hline) h]
        cases hrest : rest.mapM ValidCreateOrderItem.new with
        | error e => rfl
        | ok valid =>
          refine congrArg (fun r => MayPanic.ofExcept (.ok r)) (Prod.ext ?_ ?_)
          · exact List.append_assoc ..
          · simp only [List.map_cons, List.sum_cons, add_assoc]

/-- The end of the validation of exact amounts. -/
def validateRestExact (key currency : String) (req : CreateOrderReq) :
    Except AppError ValidCreateOrderReq := do
  let shippingAddress ← ShippingAddress.new req.shippingAddress
  if req.items.isEmpty then
    throw (.badRequest "Order must have at least one item")
  let items ← req.items.mapM ValidCreateOrderItem.new
  return { idempotencyKey := key, currency, shippingAddress, items
           totalAmount := (items.map (·.totalPrice)).sum }

omit [RustDecimal] [RustDecimal.Exact] in
theorem new_eq_validateRestExact (key : String) (req : CreateOrderReq) :
    ValidCreateOrderReq.new key req = (do
      let trimmed ← IdempotencyKey.new key
      let currency ← (req.currency.map Currency.new).getD (.ok "USD")
      validateRestExact trimmed currency req) := by
  rw [ValidCreateOrderReq.new]
  refine congrArg (IdempotencyKey.new key >>= ·) (funext fun trimmed => ?_)
  cases req.currency with
  | none =>
    simp only [pure_bind, Option.map_none, Option.getD_none, ok_bind, validateRestExact]
  | some c => simp only [Option.map_some, Option.getD_some, validateRestExact]

theorem validateRest_eq {key currency : String} {req : CreateOrderReq}
    (h : validateRest key currency req ≠ none) :
    validateRest key currency req =
      MayPanic.ofExcept (validateRestExact key currency req) := by
  rw [validateRest] at h ⊢
  rw [validateRestExact]
  cases haddress : ShippingAddress.new req.shippingAddress with
  | error e => rfl
  | ok address =>
    rw [haddress, MayPanic.ofExcept_ok_bind] at h
    rw [MayPanic.ofExcept_ok_bind]
    by_cases hempty : req.items.isEmpty
    · simp only [hempty, if_true]
      rfl
    · simp only [hempty, Bool.false_eq_true, if_false] at h ⊢
      have hloop := (MayPanic.bind_pure _ _).mp h
      rw [validateItems_eq le_rfl hloop]
      cases hitems : req.items.mapM ValidCreateOrderItem.new with
      | error e => rfl
      | ok items =>
        simp only [Except.map, MayPanic.ofExcept_ok_bind, List.nil_append, zero_add]
        rfl

/-- Validation that returns is that of the exact amounts. -/
theorem new_eq {key : String} {req : CreateOrderReq}
    (h : Panicking.ValidCreateOrderReq.new key req ≠ none) :
    Panicking.ValidCreateOrderReq.new key req =
      MayPanic.ofExcept (ValidCreateOrderReq.new key req) := by
  rw [new_eq_validateRest] at h ⊢
  rw [new_eq_validateRestExact]
  cases hkey : IdempotencyKey.new key with
  | error e => rfl
  | ok trimmed =>
    rw [hkey, MayPanic.ofExcept_ok_bind] at h
    rw [MayPanic.ofExcept_ok_bind]
    show _ = MayPanic.ofExcept ((req.currency.map Currency.new).getD (.ok "USD") >>= _)
    cases hcurrency : (req.currency.map Currency.new).getD (.ok "USD") with
    | error e => rfl
    | ok currency =>
      rw [hcurrency, MayPanic.ofExcept_ok_bind] at h
      rw [MayPanic.ofExcept_ok_bind, ok_bind, validateRest_eq h]

end Exact

end Order

end Arithmetic

/-! ## Runs -/

namespace Order

/-- Two pieces at the largest price there is. -/
def largestPriceReq : CreateOrderReq :=
  { sampleReq with items := sampleReq.items.map fun i => { i with unitPrice := maxDecimal } }

end Order

end Koupang

