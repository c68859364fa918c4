import Koupang.Spec.CatalogInterleaving

/-!
# A reservation is settled once

`release_reservation` and `confirm_reservation` find the reservation open, and
later take its quantity off the SKU and close the row, without looking at the
status again. So the quantity is subtracted at most once, and the row says how,
as long as no transaction commits over a reservation that was settled since.

## Key results

- `settles_exec`: a transaction by itself settles no reservation twice
- `settledOnce_run`: no reservation is settled twice while commits settle open ones
- `settled_twice`: a release and a confirmation of the same reservation
-/

namespace Koupang.Catalog.Interleaving

open ReadCommitted

section Service

variable [SerdeJson]

/-- The reservations taken off a SKU by some writes, each with how it was settled. -/
def settlements (ws : List (Write ⊕ Consumer.ProcessedKey)) : List (Uuid × ReservationStatus) :=
  ws.filterMap fun
    | .inl (.sku _ settles) => settles
    | _ => none

/-- How often, and how, the reservation `id` is among the settlements. -/
def settlementsOf (id : Uuid) (ps : List (Uuid × ReservationStatus)) : List ReservationStatus :=
  (ps.filter (·.1 = id)).map (·.2)

/-- The committed subtractions of the quantity of reservation `id`. -/
def subtractions (s : State) (id : Uuid) : List ReservationStatus :=
  settlementsOf id (s.history.flatMap fun c => settlements c.writes)

/-- The quantity of every reservation was subtracted at most once, and if so the row says how. -/
def SettledOnce (s : State) : Prop :=
  ∀ id, subtractions s id = [] ∨ ∃ r ∈ s.committed.tables.inventoryReservations.rows,
    r.id = id ∧ r.status ≠ .reserved ∧ subtractions s id = [r.status]

/-- The rows of the reservations that a transaction has closed. -/
def closedRows (ws : List (Write ⊕ Consumer.ProcessedKey)) : List InventoryReservationEntity :=
  ws.filterMap fun
    | .inl (.reservation row) => if row.status = .reserved then none else some row
    | _ => none

/-- A transaction is committed only while the reservations it has closed are still open. -/
def SettlesOpen (s : State) : Label → Prop
  | .commit i => ∀ se ∈ s.sessions.rows, se.id = i → se.aborted = false →
    ∀ row ∈ closedRows se.writes, ∃ r ∈ s.committed.tables.inventoryReservations.rows,
      r.id = row.id ∧ r.status = .reserved
  | _ => True

instance (s : State) : ∀ a, Decidable (SettlesOpen s a)
  | .commit _ => inferInstanceAs (Decidable (∀ se ∈ s.sessions.rows, _))
  | .start .. | .exec .. | .fault .. | .rollback _ => .isTrue trivial

omit [SerdeJson] in
theorem settlements_append (ws ws' : List (Write ⊕ Consumer.ProcessedKey)) :
    settlements (ws ++ ws') = settlements ws ++ settlements ws' := by
  simp [settlements]

omit [SerdeJson] in
theorem settlementsOf_append (id : Uuid) (ps ps' : List (Uuid × ReservationStatus)) :
    settlementsOf id (ps ++ ps') = settlementsOf id ps ++ settlementsOf id ps' := by
  simp [settlementsOf]

/-- The row of reservation `id` after a write. -/
def rowAfter (id : Uuid) (row? : Option InventoryReservationEntity) :
    Write ⊕ Consumer.ProcessedKey → Option InventoryReservationEntity
  | .inl (.reservation row) => if row.id = id then some row else row?
  | _ => row?

/-- The last row of reservation `id` that was written. -/
def lastRow (ws : List (Write ⊕ Consumer.ProcessedKey)) (id : Uuid) :
    Option InventoryReservationEntity :=
  ws.foldl (rowAfter id) none

omit [SerdeJson] in
theorem foldl_rowAfter (ws : List (Write ⊕ Consumer.ProcessedKey)) (id : Uuid)
    (row? : Option InventoryReservationEntity) :
    ws.foldl (rowAfter id) row? = (lastRow ws id).or row? := by
  unfold lastRow
  induction ws generalizing row? with
  | nil => rfl
  | cons w ws ih =>
    rw [List.foldl_cons, List.foldl_cons, ih, ih (rowAfter id none w), Option.or_assoc]
    congr 1
    rcases w with (_ | row | _ | _ | _) | _
    case inl.reservation =>
      simp only [rowAfter]
      split <;> rfl
    all_goals rfl

omit [SerdeJson] in
theorem lastRow_append (ws ws' : List (Write ⊕ Consumer.ProcessedKey)) (id : Uuid) :
    lastRow (ws ++ ws') id = (lastRow ws' id).or (lastRow ws id) := by
  rw [lastRow, List.foldl_append, foldl_rowAfter]
  rfl

omit [SerdeJson] in
theorem mem_of_lastRow {ws : List (Write ⊕ Consumer.ProcessedKey)} {id : Uuid}
    {row : InventoryReservationEntity} (h : lastRow ws id = some row) :
    .inl (.reservation row) ∈ ws ∧ row.id = id := by
  induction ws with
  | nil => exact nomatch h
  | cons w ws ih =>
    rw [lastRow, List.foldl_cons, foldl_rowAfter] at h
    cases hrest : lastRow ws id with
    | some row' =>
      rw [hrest] at h
      cases h
      exact ⟨List.mem_cons_of_mem _ (ih hrest).1, (ih hrest).2⟩
    | none =>
      rw [hrest] at h
      rcases w with (_ | row' | _ | _ | _) | _
      case inl.reservation =>
        simp only [rowAfter, Option.none_or] at h
        split at h
        · rename_i hid
          cases h
          exact ⟨List.mem_cons_self .., hid⟩
        · exact nomatch h
      all_goals exact nomatch h

/-- The row of a reservation as a transaction sees it. -/
theorem find?_view (ws : List (Write ⊕ Consumer.ProcessedKey)) (db : Consumer.Tables CatalogDb)
    (id : Uuid) :
    (view consumerSql ws db).tables.inventoryReservations.find? id =
      (lastRow ws id).or (db.tables.inventoryReservations.find? id) := by
  rw [← foldl_rowAfter]
  induction ws generalizing db with
  | nil => rfl
  | cons w ws ih =>
    refine (ih _).trans ?_
    rw [List.foldl_cons]
    congr 1
    rcases w with (_ | row | _ | _ | _) | _
    case inl.reservation => exact Table.find?_set ..
    all_goals rfl

/-! ## Within a transaction -/

/-- In the tables `rows` and the transaction's own writes, reservation `id` is there and has not
    been closed by the transaction. -/
structure StillOpen (rows : Table InventoryReservationEntity.id)
    (ws : List (Write ⊕ Consumer.ProcessedKey)) (id : Uuid) : Prop where
  unclosed : ∀ row, lastRow ws id = some row → row.status = .reserved
  present : ((lastRow ws id).or (rows.find? id)).isSome

/-- What a transaction in the phase `g` has settled. -/
structure Settles (rows : Table InventoryReservationEntity.id) (g : Phase)
    (ws : List (Write ⊕ Consumer.ProcessedKey)) : Prop where
  kinds : ∀ p ∈ settlements ws, p.2 ≠ .reserved
  /-- what was taken off a SKU is closed, or about to be -/
  once : ∀ id, settlementsOf id (settlements ws) = [] ∨
    ∃ status, settlementsOf id (settlements ws) = [status] ∧
      ((∃ row, lastRow ws id = some row ∧ row.status = status) ∨
        ∃ r, g = .subtracted r status ∧ r.id = id)
  found : ∀ r, g = .found r → settlementsOf r.id (settlements ws) = [] ∧ StillOpen rows ws r.id
  subtracted : ∀ r status, g = .subtracted r status →
    status ≠ .reserved ∧ StillOpen rows ws r.id
  /-- an open row that was written is one that was inserted -/
  inserted : ∀ id row, lastRow ws id = some row → row.status = .reserved → rows.find? id = none

section Settles

variable {rows : Table InventoryReservationEntity.id} {g : Phase}
  {ws ws' : List (Write ⊕ Consumer.ProcessedKey)}

omit [SerdeJson] in
theorem StillOpen.congr {id : Uuid} (h : StillOpen rows ws id)
    (hlast : lastRow ws' id = lastRow ws id) : StillOpen rows ws' id :=
  ⟨hlast ▸ h.unclosed, hlast ▸ h.present⟩

omit [SerdeJson] in
theorem Settles.settled_ne (h : Settles rows g ws) {id : Uuid} {status : ReservationStatus}
    (hsub : settlementsOf id (settlements ws) = [status]) : status ≠ .reserved := by
  have hmem : status ∈ settlementsOf id (settlements ws) := by simp [hsub]
  exact h.kinds (id, status) (by simpa [settlementsOf] using hmem)

omit [SerdeJson] in
theorem settles_nil : Settles rows .idle [] :=
  ⟨nofun, fun _ => .inl rfl, nofun, nofun, nofun⟩

omit [SerdeJson] in
/-- Writes that have nothing to do with reservations. -/
theorem Settles.append (h : Settles rows g ws) (hsettles : settlements ws' = [])
    (hrows : ∀ id, lastRow ws' id = none) : Settles rows g (ws ++ ws') := by
  have hlast (id : Uuid) : lastRow (ws ++ ws') id = lastRow ws id := by
    rw [lastRow_append, hrows, Option.none_or]
  have hsett : settlements (ws ++ ws') = settlements ws := by
    rw [settlements_append, hsettles, List.append_nil]
  refine ⟨hsett ▸ h.kinds, fun id => ?_, fun r hr => ?_, fun r st hr => ?_, fun id => ?_⟩
  · rw [hsett, hlast]
    exact h.once id
  · rw [hsett]
    exact ⟨(h.found r hr).1, (h.found r hr).2.congr (hlast r.id)⟩
  · exact ⟨(h.subtracted r st hr).1, (h.subtracted r st hr).2.congr (hlast r.id)⟩
  · rw [hlast]
    exact h.inserted id

omit [SerdeJson] in
/-- A reservation that the transaction sees open has not been touched by it. -/
theorem Settles.find (h : Settles rows .idle ws) {r : InventoryReservationEntity}
    (hview : (lastRow ws r.id).or (rows.find? r.id) = some r) (hopen : r.status = .reserved) :
    Settles rows (.found r) ws := by
  have hunclosed : ∀ row, lastRow ws r.id = some row → row.status = .reserved := by
    intro row hrow
    rw [hrow] at hview
    cases hview
    exact hopen
  refine ⟨h.kinds, fun id => ?_, ?_, nofun, h.inserted⟩
  · rcases h.once id with hnil | ⟨status, heq, hrow | ⟨r, hr, -⟩⟩
    · exact .inl hnil
    · exact .inr ⟨status, heq, .inl hrow⟩
    · exact nomatch hr
  · rintro r' ⟨⟩
    refine ⟨?_, hunclosed, by rw [hview]; rfl⟩
    rcases h.once r.id with hnil | ⟨status, heq, ⟨row, hrow, rfl⟩ | ⟨_, hr, -⟩⟩
    · exact hnil
    · -- it would have been closed
      exact absurd (hunclosed row hrow) (h.settled_ne heq)
    · exact nomatch hr

omit [SerdeJson] in
/-- The quantity of a reservation that was found is taken off its SKU, if the SKU is there. -/
theorem Settles.subtract {r : InventoryReservationEntity} (h : Settles rows (.found r) ws)
    {status : ReservationStatus} (hstatus : status ≠ .reserved)
    (hsettles : settlements ws' = [] ∨ settlements ws' = [(r.id, status)])
    (hrows : ∀ id, lastRow ws' id = none) : Settles rows (.subtracted r status) (ws ++ ws') := by
  obtain ⟨hnone, hopen⟩ := h.found r rfl
  have hlast (id : Uuid) : lastRow (ws ++ ws') id = lastRow ws id := by
    rw [lastRow_append, hrows, Option.none_or]
  refine ⟨fun p hp => ?_, fun id => ?_, nofun, ?_, fun id => by rw [hlast]; exact h.inserted id⟩
  · rw [settlements_append, List.mem_append] at hp
    rcases hp with hp | hp
    · exact h.kinds p hp
    · rcases hsettles with hs | hs
      · rw [hs] at hp
        exact nomatch hp
      · rw [hs, List.mem_singleton] at hp
        exact hp ▸ hstatus
  · rw [settlements_append, settlementsOf_append, hlast]
    by_cases hid : r.id = id
    · subst hid
      rw [hnone, List.nil_append]
      rcases hsettles with hs | hs
      · exact .inl (by rw [hs]; rfl)
      · exact .inr ⟨status, by simp [hs, settlementsOf], .inr ⟨r, rfl, rfl⟩⟩
    · have hnil : settlementsOf id (settlements ws') = [] := by
        rcases hsettles with hs | hs <;> simp [hs, settlementsOf, hid]
      rw [hnil, List.append_nil]
      rcases h.once id with hnil | ⟨status', heq, hrow | ⟨_, hr, -⟩⟩
      · exact .inl hnil
      · exact .inr ⟨status', heq, .inl hrow⟩
      · exact nomatch hr
  · rintro r' status' ⟨⟩
    exact ⟨hstatus, hopen.congr (hlast r.id)⟩

omit [SerdeJson] in
/-- A reservation taken off its SKU is closed. -/
theorem Settles.close {r row : InventoryReservationEntity} {status : ReservationStatus}
    (h : Settles rows (.subtracted r status) ws) (hid : row.id = r.id)
    (hstatus : row.status = status) (hsettles : settlements ws' = [])
    (hrows : ∀ id, lastRow ws' id = if row.id = id then some row else none) :
    Settles rows .idle (ws ++ ws') := by
  obtain ⟨hne, hopen⟩ := h.subtracted r status rfl
  have hsett : settlements (ws ++ ws') = settlements ws := by
    rw [settlements_append, hsettles, List.append_nil]
  refine ⟨hsett ▸ h.kinds, fun id => ?_, nofun, nofun, fun id row' hrow' hopen' => ?_⟩
  · rw [hsett, lastRow_append, hrows]
    split
    · rename_i heq
      rcases h.once id with hnil | ⟨status', hsub, ⟨row', hrow', rfl⟩ | ⟨r', hr', -⟩⟩
      · exact .inl hnil
      · -- it is still open, so it was not settled before
        rw [← heq, hid] at hrow'
        exact absurd (hopen.unclosed row' hrow') (h.settled_ne hsub)
      · cases hr'
        exact .inr ⟨status, hsub, .inl ⟨row, rfl, hstatus⟩⟩
    · rename_i hne'
      rw [Option.none_or]
      rcases h.once id with hnil | ⟨status', hsub, hrow | ⟨r', hr', rfl⟩⟩
      · exact .inl hnil
      · exact .inr ⟨status', hsub, .inl hrow⟩
      · cases hr'
        exact absurd hid hne'
  · rw [lastRow_append, hrows] at hrow'
    split at hrow'
    · cases hrow'
      exact absurd (hopen'.symm.trans hstatus) (Ne.symm hne)
    · exact h.inserted id row' (by simpa using hrow') hopen'

omit [SerdeJson] in
/-- A reservation is inserted under an id that the transaction does not see. -/
theorem Settles.insert (h : Settles rows .idle ws) {row : InventoryReservationEntity}
    (hview : (lastRow ws row.id).or (rows.find? row.id) = none)
    (hsettles : settlements ws' = [])
    (hrows : ∀ id, lastRow ws' id = if row.id = id then some row else none) :
    Settles rows .idle (ws ++ ws') := by
  obtain ⟨hlast, hnone⟩ := Option.or_eq_none_iff.mp hview
  have hsett : settlements (ws ++ ws') = settlements ws := by
    rw [settlements_append, hsettles, List.append_nil]
  refine ⟨hsett ▸ h.kinds, fun id => ?_, nofun, nofun, fun id row' hrow' hopen' => ?_⟩
  · rw [hsett, lastRow_append, hrows]
    rcases h.once id with hnil | ⟨status, hsub, ⟨row', hrow', rfl⟩ | ⟨_, hr, -⟩⟩
    · exact .inl hnil
    · have hne : row.id ≠ id := by
        rintro rfl
        exact nomatch hlast.symm.trans hrow'
      rw [if_neg hne, Option.none_or]
      exact .inr ⟨_, hsub, .inl ⟨row', hrow', rfl⟩⟩
    · exact nomatch hr
  · rw [lastRow_append, hrows] at hrow'
    split at hrow'
    · rename_i hid
      exact hid ▸ hnone
    · exact h.inserted id row' (by simpa using hrow') hopen'

/-- The writes of a statement on the catalog's tables that its transaction keeps. -/
abbrev kept (cw : List Write) : List (Write ⊕ Consumer.ProcessedKey) :=
  transactional consumerSql (cw.map .inl)

/-- An `UPDATE skus ..` that settles nothing. -/
theorem Settles.updateSku (h : Settles rows .idle ws) {id : Uuid} {cond : Sku → Bool}
    {set : Sku → Sku} {db : CatalogDb} {n : Nat} {cw : List Write}
    (hexec : execUpdateSku id cond set none db = .ok (n, cw)) :
    Settles rows .idle (ws ++ kept cw) := by
  rcases execUpdateSku_ok hexec with rfl | ⟨row, rfl⟩
  · exact h.append rfl fun _ => rfl
  · exact h.append rfl fun _ => rfl

/-- The `UPDATE skus ..` of a release or a confirmation. -/
theorem Settles.subtractSku {r : InventoryReservationEntity} (h : Settles rows (.found r) ws)
    {status : ReservationStatus} (hstatus : status ≠ .reserved) {id : Uuid} {cond : Sku → Bool}
    {set : Sku → Sku} {db : CatalogDb} {n : Nat} {cw : List Write}
    (hexec : execUpdateSku id cond set (some (r.id, status)) db = .ok (n, cw)) :
    Settles rows (.subtracted r status) (ws ++ kept cw) := by
  rcases execUpdateSku_ok hexec with rfl | ⟨row, rfl⟩
  · exact h.subtract hstatus (.inl rfl) fun _ => rfl
  · exact h.subtract hstatus (.inr rfl) fun _ => rfl

/-- A statement of a transaction leads to the phase of the protocol. -/
theorem settles_exec {db : Consumer.Tables CatalogDb}
    (h : Settles db.tables.inventoryReservations g ws) {st : Stmt}
    (hpre : settleProtocol.pre g .tx st) {a : st.Result} {cw : List Write}
    (hexec : st.exec () (view consumerSql ws db).tables = .ok (a, cw)) :
    Settles db.tables.inventoryReservations (st.phase (.ok a)) (ws ++ kept cw) := by
  have hview := find?_view ws db
  cases st with
  | reserveSku skuId q =>
    obtain ⟨-, rfl⟩ := hpre
    exact h.updateSku hexec
  | updateSku skuId q =>
    obtain ⟨-, rfl⟩ := hpre
    exact h.updateSku hexec
  | deleteSku skuId =>
    obtain ⟨-, rfl⟩ := hpre
    exact h.updateSku hexec
  | adjustStock skuId delta =>
    obtain ⟨-, rfl⟩ := hpre
    exact h.updateSku hexec
  | releaseSku skuId r =>
    obtain ⟨-, rfl⟩ := hpre
    exact h.subtractSku (by decide) hexec
  | confirmSku skuId r =>
    obtain ⟨-, rfl⟩ := hpre
    exact h.subtractSku (by decide) hexec
  | findAllReserved o =>
    obtain ⟨-, rfl⟩ := hpre
    cases hexec
    exact h.append rfl fun _ => rfl
  | insertOutboxRow insert =>
    obtain ⟨-, rfl⟩ := hpre
    cases hexec
    exact h.append rfl fun _ => rfl
  | nowV7 =>
    cases (hpre : g = .idle)
    cases hexec
    exact h.append rfl fun _ => rfl
  | writeReservationFailed o reason =>
    cases (hpre : g = .idle)
    simp only [Stmt.exec, execWriteReservationFailed] at hexec
    split at hexec
    · cases hexec
    · cases hexec
      exact h.append rfl fun _ => rfl
  | createSku q =>
    obtain ⟨-, rfl⟩ := hpre
    simp only [Stmt.exec, execCreateSku, Except.bind_eq_ok] at hexec
    obtain ⟨row, -, hexec⟩ := hexec
    split at hexec
    · exact absurd hexec Except.throw_ne_ok
    · cases hexec
      exact h.append rfl fun _ => rfl
  | findReserved o skuId =>
    obtain ⟨-, rfl⟩ := hpre
    cases hexec
    cases hfind : Repository.findReserved o skuId (view consumerSql ws db).tables with
    | none => exact h.append rfl fun _ => rfl
    | some r =>
      obtain ⟨hr, -, -, hopen⟩ := findReserved_some hfind
      refine (h.find ?_ hopen).append rfl fun _ => rfl
      rw [← hview]
      exact (Table.find?_eq_some_iff ..).mpr ⟨hr, rfl⟩
  | insertReservation o skuId q =>
    obtain ⟨-, rfl⟩ := hpre
    simp only [Stmt.exec, execInsertReservation, Except.bind_eq_ok] at hexec
    obtain ⟨q', -, hexec⟩ := hexec
    split at hexec
    · exact absurd hexec Except.throw_ne_ok
    split at hexec
    · exact absurd hexec Except.throw_ne_ok
    split at hexec
    · exact absurd hexec Except.throw_ne_ok
    split at hexec
    · exact absurd hexec Except.throw_ne_ok
    rename_i hfresh
    cases hexec
    have hnone := (hview (nowV7 (view consumerSql ws db).tables).1).symm.trans
      (by simpa using hfresh)
    let row : InventoryReservationEntity :=
      ⟨(nowV7 (view consumerSql ws db).tables).1, o, skuId, q', .reserved⟩
    exact h.insert (hnone : (lastRow ws row.id).or _ = none) rfl fun id => rfl
  | setReservationStatus id status =>
    obtain ⟨-, r, rfl, rfl⟩ := hpre
    cases hexec
    -- the row is there, as it was found before
    have hpresent := (h.subtracted r status rfl).2.present
    rw [← hview] at hpresent
    obtain ⟨row, hrow⟩ := Option.isSome_iff_exists.mp hpresent
    have hid := ((Table.find?_eq_some_iff ..).mp hrow).2
    have hclosed : ({ row with status } : InventoryReservationEntity).id = r.id := hid
    simp only [execSetReservationStatus, hrow]
    exact h.close hclosed rfl rfl fun id => rfl

omit [SerdeJson] in
/-- Another transaction was committed, with no row that this one has written. -/
theorem Settles.mono {rows' : Table InventoryReservationEntity.id} (h : Settles rows g ws)
    (hpresent : ∀ id, (rows.find? id).isSome → (rows'.find? id).isSome)
    (hfresh : ∀ id, (lastRow ws id).isSome → rows.find? id = none → rows'.find? id = none) :
    Settles rows' g ws := by
  have hopen {id : Uuid} (ho : StillOpen rows ws id) : StillOpen rows' ws id := by
    refine ⟨ho.unclosed, ?_⟩
    have hsome := ho.present
    simp only [Option.isSome_or, Bool.or_eq_true] at hsome ⊢
    exact hsome.imp_right (hpresent id)
  refine ⟨h.kinds, h.once, fun r hr => ?_, fun r st hr => ?_, fun id row hrow hreserved => ?_⟩
  · exact ⟨(h.found r hr).1, hopen (h.found r hr).2⟩
  · exact ⟨(h.subtracted r st hr).1, hopen (h.subtracted r st hr).2⟩
  · exact hfresh id (by rw [hrow]; rfl) (h.inserted id row hrow hreserved)

end Settles

/-! ## Over every interleaving -/

/-- Every reservation was settled at most once, and what a transaction has settled so far it
    has settled once. -/
abbrev SettledInv : State → Prop :=
  Inv (Consumer.liftProtocol settleProtocol) EndsIdle SettledOnce fun s g se =>
    se.aborted = false → Settles s.committed.tables.inventoryReservations g se.writes

/-- Statements on another connection are sent between reservations. -/
theorem idle_of_pool {g : Phase} {c : Conn} (hc : c ≠ .tx) {st : Consumer.Stmt catalogSql}
    (hpre : (Consumer.liftProtocol settleProtocol).pre g c st) : g = .idle := by
  cases st with
  | isEventProcessed k => exact absurd hpre hc
  | markEventProcessed k => exact absurd hpre hc
  | handler st =>
    cases st with
    | nowV7 => exact hpre
    | writeReservationFailed o reason => exact hpre
    | _ => exact absurd hpre.1 hc

/-- Statements on another connection leave the reservations alone. -/
theorem inventoryReservations_pool {g : Phase} {c : Conn} (hc : c ≠ .tx)
    {st : Consumer.Stmt catalogSql} (hpre : (Consumer.liftProtocol settleProtocol).pre g c st)
    {db : Consumer.Tables CatalogDb} {input : Unit} {a : consumerSql.Result st}
    {ws : List (Write ⊕ Consumer.ProcessedKey)}
    (hexec : consumerSql.exec st input db = .ok (a, ws)) :
    (view consumerSql ws db).tables.inventoryReservations = db.tables.inventoryReservations ∧
      (Consumer.liftProtocol settleProtocol).next g c st (.ok a) g := by
  cases idle_of_pool hc hpre
  cases st with
  | isEventProcessed k => exact absurd hpre hc
  | markEventProcessed k => exact absurd hpre hc
  | handler st =>
    cases st with
    | nowV7 =>
      cases hexec
      exact ⟨rfl, rfl⟩
    | writeReservationFailed o reason =>
      refine ⟨?_, rfl⟩
      obtain ⟨cw, hst, rfl⟩ := Consumer.exec_handler_ok hexec
      simp only [Stmt.exec, execWriteReservationFailed] at hst
      split at hst
      · cases hst
      · cases hst
        rfl
    | _ => exact absurd hpre.1 hc

omit [SerdeJson] in
theorem mem_closedRows {ws : List (Write ⊕ Consumer.ProcessedKey)}
    {row : InventoryReservationEntity} :
    row ∈ closedRows ws ↔ .inl (.reservation row) ∈ ws ∧ row.status ≠ .reserved := by
  simp only [closedRows, List.mem_filterMap]
  constructor
  · rintro ⟨(_ | row' | _ | _ | _) | _, hw, hrow⟩
    case inl.reservation =>
      change (if row'.status = .reserved then none else some row') = some row at hrow
      split at hrow
      · exact nomatch hrow
      · rename_i hne
        cases hrow
        exact ⟨hw, hne⟩
    all_goals exact nomatch hrow
  · rintro ⟨hw, hne⟩
    exact ⟨_, hw, if_neg hne⟩

/-- A statement of a transaction leads to a phase of the protocol. -/
theorem settles_exec_attempt {db : Consumer.Tables CatalogDb} {g : Phase}
    {ws : List (Write ⊕ Consumer.ProcessedKey)}
    (h : Settles db.tables.inventoryReservations g ws) {st : Consumer.Stmt catalogSql}
    (hpre : (Consumer.liftProtocol settleProtocol).pre g .tx st) {input : Unit}
    {a : consumerSql.Result st} {new : List (Write ⊕ Consumer.ProcessedKey)}
    (hexec : consumerSql.exec st input (view consumerSql ws db) = .ok (a, new)) :
    ∃ g', (Consumer.liftProtocol settleProtocol).next g .tx st (.ok a) g' ∧
      Settles db.tables.inventoryReservations g' (ws ++ transactional consumerSql new) := by
  cases st with
  | handler st =>
    obtain ⟨cw, hst, rfl⟩ := Consumer.exec_handler_ok hexec
    exact ⟨_, rfl, settles_exec h hpre hst⟩
  | isEventProcessed k =>
    cases hexec
    exact ⟨g, rfl, h.append rfl fun _ => rfl⟩
  | markEventProcessed k =>
    cases hexec
    refine ⟨g, rfl, ?_⟩
    split
    · exact h.append rfl fun _ => rfl
    · exact h.append rfl fun _ => rfl

/-- Drawing a UUID leaves the reservations alone. -/
theorem inventoryReservations_immediate (ws : List (Write ⊕ Consumer.ProcessedKey))
    (db : Consumer.Tables CatalogDb) :
    (view consumerSql (immediate consumerSql ws) db).tables.inventoryReservations =
      db.tables.inventoryReservations := by
  induction ws generalizing db with
  | nil => rfl
  | cons w ws ih =>
    rcases w with (_ | _ | _ | _ | _) | _
    all_goals exact ih _

section Commit

variable {s : State} {se : Session consumerSql Request Consumer.AttemptResult
  Consumer.AttemptResult}

/-- The subtractions after the commit of `se`. -/
theorem subtractions_commit {t : State} {c : Commit consumerSql Request Consumer.AttemptResult}
    (hhistory : t.history = s.history ++ [c]) (id : Uuid) :
    subtractions t id = subtractions s id ++ settlementsOf id (settlements c.writes) := by
  simp [subtractions, hhistory, settlementsOf_append]

/-- A transaction that has settled what is still open leaves every reservation settled once. -/
theorem settledOnce_commit {t : State} {result : Consumer.AttemptResult} (h : SettledOnce s)
    (hsettles : Settles s.committed.tables.inventoryReservations .idle se.writes)
    (hopen : ∀ row ∈ closedRows se.writes, ∃ r ∈ s.committed.tables.inventoryReservations.rows,
      r.id = row.id ∧ r.status = .reserved)
    (hhistory : t.history = s.history ++ [⟨se.request, result, se.writes⟩])
    (hcommitted : t.committed = view consumerSql se.writes s.committed) : SettledOnce t := by
  intro id
  rw [subtractions_commit hhistory]
  have hfind := find?_view se.writes s.committed id
  rw [← hcommitted] at hfind
  -- a reservation closed by the transaction was not settled before
  have hunsettled (row : InventoryReservationEntity) (hrow : lastRow se.writes id = some row)
      (hclosed : row.status ≠ .reserved) : subtractions s id = [] := by
    obtain ⟨hmem, rfl⟩ := mem_of_lastRow hrow
    obtain ⟨r, hr, hid, hreserved⟩ := hopen row (mem_closedRows.mpr ⟨hmem, hclosed⟩)
    rcases h row.id with hnil | ⟨r', hr', hid', hclosed', -⟩
    · exact hnil
    · cases Table.eq_of_key_eq _ hr hr' (hid.trans hid'.symm)
      exact absurd hreserved hclosed'
  rcases hsettles.once id with hnil | ⟨status, hsub, ⟨row, hrow, rfl⟩ | ⟨_, hg, -⟩⟩
  · rw [hnil, List.append_nil]
    rcases h id with hnone | ⟨r, hr, hid, hclosed, hsubs⟩
    · exact .inl hnone
    · refine .inr ⟨r, ?_, hid, hclosed, hsubs⟩
      have hr' := (Table.find?_eq_some_iff _ id r).mpr ⟨hr, hid⟩
      cases hlast : lastRow se.writes id with
      | none =>
        rw [hlast, Option.none_or, hr'] at hfind
        exact ((Table.find?_eq_some_iff ..).mp hfind).1
      | some row =>
        by_cases hrow : row.status = .reserved
        · exact nomatch hr'.symm.trans (hsettles.inserted id row hlast hrow)
        · exact nomatch hsubs.symm.trans (hunsettled row hlast hrow)
  · have hclosed := hsettles.settled_ne hsub
    rw [hunsettled row hrow hclosed, hsub, List.nil_append]
    rw [hrow] at hfind
    obtain ⟨hin, hid⟩ := (Table.find?_eq_some_iff ..).mp hfind
    exact .inr ⟨row, hin, hid, hclosed, rfl⟩
  · exact nomatch hg

/-- What another transaction has settled is not touched by the commit of `se`. -/
theorem Settles.commit {x : Session consumerSql Request Consumer.AttemptResult
    Consumer.AttemptResult} {g : Phase}
    (h : Settles s.committed.tables.inventoryReservations g x.writes) (hexcl : Exclusive s)
    (hse : se ∈ s.sessions.rows) (hx : x ∈ s.sessions.rows) (hne : x.id ≠ se.id) :
    Settles (view consumerSql se.writes s.committed).tables.inventoryReservations g x.writes := by
  refine h.mono (fun id hsome => ?_) fun id hlast hnone => ?_
  · rw [find?_view, Option.isSome_or, hsome, Bool.or_true]
  · rw [find?_view, hnone, Option.or_none]
    obtain ⟨row, hrow⟩ := Option.isSome_iff_exists.mp hlast
    obtain ⟨hw, rfl⟩ := mem_of_lastRow hrow
    -- both would hold the lock of the reservation
    cases hlast' : lastRow se.writes row.id with
    | none => rfl
    | some row' =>
      obtain ⟨hw', hid⟩ := mem_of_lastRow hlast'
      refine absurd ?_ (hexcl x hx se hse hne _ hw _ hw' rfl)
      exact congrArg (fun id => some (Sum.inl (Key.reservation id))) hid.symm

end Commit

theorem settledInv_step {s t : State} {a : Label} (h : SettledInv s) (hopen : SettlesOpen s a)
    (hstep : step s a = some t) : SettledInv t := by
  have hcases := step_cases hstep
  have hexcl := exclusive_step h.exclusive hcases
  -- nothing but a commit changes the reservations
  have hput {u : State} {se : Session consumerSql Request Consumer.AttemptResult
      Consumer.AttemptResult} (hexcl : Exclusive (u.put se)) (hsessions : u.sessions = s.sessions)
      (hhistory : u.history = s.history)
      (hrows : u.committed.tables.inventoryReservations =
        s.committed.tables.inventoryReservations)
      (hse : ∃ g, (se.aborted = false →
          Settles s.committed.tables.inventoryReservations g se.writes) ∧
        se.prog.wp (Consumer.liftProtocol settleProtocol) EndsIdle g) : SettledInv (u.put se) := by
    have hrows' : (u.put se).committed.tables.inventoryReservations =
        s.committed.tables.inventoryReservations := hrows
    refine h.put hexcl hsessions ?_ (by rwa [hrows']) fun x _ _ g hx => by rwa [hrows']
    intro id
    have hsame : subtractions (u.put se) id = subtractions s id := by
      simp only [subtractions, State.put, hhistory]
    rw [hsame, hrows']
    exact h.state id
  cases hcases with
  | @start i request hfree =>
    exact hput hexcl rfl rfl rfl ⟨.idle, fun _ => settles_nil, wp_program request⟩
  | @exec se st k input a ws hse hprog hab hexec hfree =>
    obtain ⟨g, hsettles, hpre, hwp⟩ := h.stmt hse hprog
    obtain ⟨g', hnext, hsettles'⟩ := settles_exec_attempt (hsettles hab) hpre hexec
    exact hput hexcl rfl rfl (inventoryReservations_immediate ws s.committed)
      ⟨g', fun _ => hsettles', hwp _ _ hnext⟩
  | abort hlabel hse hprog =>
    obtain ⟨g, -, -, hwp⟩ := h.stmt hse hprog
    obtain ⟨g', hnext, -⟩ := next_error g .tx _ _
    exact hput hexcl rfl rfl rfl ⟨g', fun hab => Bool.noConfusion hab, hwp _ _ hnext⟩
  | pool hse hprog hc hexec hfree =>
    obtain ⟨g, hsettles, hpre, hwp⟩ := h.stmt hse hprog
    obtain ⟨hrows, hnext⟩ := inventoryReservations_pool hc hpre hexec
    exact hput hexcl rfl rfl hrows ⟨g, hsettles, hwp _ _ hnext⟩
  | poolError hlabel hse hprog hc =>
    obtain ⟨g, hsettles, hpre, hwp⟩ := h.stmt hse hprog
    cases idle_of_pool hc hpre
    obtain ⟨g', hnext, rfl | rfl⟩ := next_error .idle _ _ _
    all_goals exact hput hexcl rfl rfl rfl ⟨.idle, hsettles, hwp _ _ hnext⟩
  | commit hse hprog hab =>
    obtain ⟨g, hsettles, rfl⟩ := h.done hse hprog
    refine h.drop hexcl rfl ?_ fun x hx hne gx hxs hab' => ?_
    · exact settledOnce_commit h.state (hsettles hab) (hopen _ hse rfl hab) rfl rfl
    · exact (hxs hab').commit h.exclusive hse hx hne
  | drop hse hlabel => exact h.drop hexcl rfl h.state fun _ _ _ _ hx => hx

/-- In every interleaving of any requests, from any tables: the quantity of a reservation is
    subtracted at most once, and its row says how, as long as no transaction is committed that
    has closed a reservation which is not open any more. -/
theorem settledOnce_run {db : Consumer.Tables CatalogDb} {as : List Label}
    (hopen : Run.Meets step SettlesOpen { committed := db } as) {s : State}
    (hrun : Run.run step { committed := db } as = some s) : SettledOnce s := by
  have hinit : SettledInv { committed := db } := .init fun _ => .inl rfl
  exact (Run.run_invariant_of_meets (fun _ _ _ h hopen hstep => settledInv_step h hopen hstep)
    hinit hopen hrun).state

end Service

/-! ## A release and a confirmation -/

/-- The order is released; a confirmation of it finds nothing, and the other order that has
    reserved the SKU is confirmed. -/
def releasedThenConfirmed : List Label :=
  [.start 0 (.releaseForOrder ⟨0, 0⟩), .exec 0 (), .exec 0 (),
   .start 1 (.confirmForOrder ⟨0, 0⟩ [(⟨1, 0⟩, 2)]), .exec 0 (), .exec 0 (), .commit 0, .exec 1 (),
   .rollback 1, .start 2 (.confirmForOrder ⟨0, 1⟩ [(⟨1, 0⟩, 3)]), .exec 2 (), .exec 2 (),
   .exec 2 (), .commit 2]

theorem settledOnce_releasedThenConfirmed :
    ∃ s, Run.run step { committed := { tables := Consumer.sampleTables } } releasedThenConfirmed =
        some s ∧ subtractions s ⟨1, 1⟩ = [.released] ∧ subtractions s ⟨1, 2⟩ = [.confirmed] ∧
      SettledOnce s := by
  have hrun : (Run.run step { committed := { tables := Consumer.sampleTables } }
      releasedThenConfirmed).map (fun s => decide (subtractions s ⟨1, 1⟩ = [.released] ∧
        subtractions s ⟨1, 2⟩ = [.confirmed])) = some true := by decide
  obtain ⟨s, hs, hreleased, hconfirmed⟩ := Run.run_decide hrun
  exact ⟨s, hs, hreleased, hconfirmed, settledOnce_run (by decide) hs⟩

/-- Both find the reservation open; the confirmation goes on after the release is committed. -/
def releasedAndConfirmed : List Label :=
  [.start 0 (.releaseForOrder ⟨0, 0⟩), .start 1 (.confirmForOrder ⟨0, 0⟩ [(⟨1, 0⟩, 2)]),
   .exec 0 (), .exec 0 (), .exec 1 (), .exec 0 (), .exec 0 (), .commit 0, .exec 1 (), .exec 1 (),
   .commit 1]

/-- The 2 that the order has reserved are subtracted twice, from 5. -/
theorem settled_twice :
    ∃ s, Run.run step { committed := { tables := Consumer.sampleTables } } releasedAndConfirmed =
        some s ∧ subtractions s ⟨1, 1⟩ = [.released, .confirmed] ∧
      s.committed.tables.skus.rows.map (·.reservedQuantity) = [1] ∧ ¬SettledOnce s := by
  have hrun : (Run.run step { committed := { tables := Consumer.sampleTables } }
      releasedAndConfirmed).map (fun s => decide (subtractions s ⟨1, 1⟩ = [.released, .confirmed] ∧
        s.committed.tables.skus.rows.map (·.reservedQuantity) = [1])) = some true := by decide
  obtain ⟨s, hs, htwice, hreserved⟩ := Run.run_decide hrun
  refine ⟨s, hs, htwice, hreserved, fun h => ?_⟩
  rcases h ⟨1, 1⟩ with hnil | ⟨r, -, -, -, hone⟩
  · exact nomatch htwice.symm.trans hnil
  · simp [htwice] at hone

end Koupang.Catalog.Interleaving
