import Mathlib.Data.Prod.Lex
import Koupang.ForStd.Sql
import Koupang.Model.Shared

/-!
# Pagination

The model of `shared/src/db/pagination_support.rs`. A repository writes a `SELECT`
with its filter, `keyset_paginate` adds the cursor, the order and the limit, and
the service makes the cursors of the response out of what was found.
-/

namespace Koupang

/-- The two parts of an identifier, the first one being the more significant. -/
def Uuid.parts (u : Uuid) : Nat ×ₗ Nat := toLex (u.node, u.serial)

theorem Uuid.parts_injective : Function.Injective Uuid.parts := by
  intro u v h
  obtain ⟨hnode, hserial⟩ := Prod.mk.inj (toLex.injective h)
  cases u
  cases v
  cases hnode
  cases hserial
  rfl

/-- PostgreSQL compares UUIDs as 128-bit numbers. -/
instance : LinearOrder Uuid where
  le u v := u.parts ≤ v.parts
  lt u v := u.parts < v.parts
  le_refl u := le_refl u.parts
  le_trans _ _ _ := le_trans
  lt_iff_le_not_ge _ _ := lt_iff_le_not_ge
  le_antisymm _ _ huv hvu := Uuid.parts_injective (le_antisymm huv hvu)
  le_total u v := le_total u.parts v.parts
  toDecidableLE u v := inferInstanceAs (Decidable (u.parts ≤ v.parts))
  toDecidableLT u v := inferInstanceAs (Decidable (u.parts < v.parts))
  toDecidableEq := inferInstance

namespace Pagination

inductive PaginationDirection where
  | forward
  | backward
deriving DecidableEq

/-- The query parameters of a list route; `limit` is a `u32`. -/
structure PaginationQuery where
  limit : Option Nat
  cursor : Option Uuid
  direction : Option PaginationDirection

structure PaginationParams where
  limit : Nat
  cursor : Option Uuid
  direction : PaginationDirection

def PaginationQuery.intoParams (query : PaginationQuery) : PaginationParams where
  limit := min (query.limit.getD 20) 100
  cursor := query.cursor
  direction := query.direction.getD .forward

class HasId (α : Type) where
  id : α → Uuid

structure NextAndPrevCursor where
  nextCursor : Option Uuid
  prevCursor : Option Uuid

structure PaginationRes (α : Type) where
  items : List α
  nextCursor : Option Uuid
  prevCursor : Option Uuid

def PaginationRes.new {α : Type} (items : List α) (cursors : NextAndPrevCursor) :
    PaginationRes α where
  items := items
  nextCursor := cursors.nextCursor
  prevCursor := cursors.prevCursor

def idColumn (table : Option String) : Sql.Column := { table, name := "id" }

/-- `params.limit + 1` is a `u32`, and wraps. -/
def keysetPaginate {ρ : Type} (params : PaginationParams) (table : Option String)
    (qb : Sql.Builder Uuid ρ) : Sql.Builder Uuid ρ :=
  let qb := match params.direction with
    | .forward =>
      let qb := match params.cursor with
        | some lastId => (qb.push [.and, .column (idColumn table), .op .gt]).pushBind (.key lastId)
        | none => qb
      qb.push [.orderBy, .column (idColumn table), .asc, .limit]
    | .backward =>
      let qb := match params.cursor with
        | some firstId => (qb.push [.and, .column (idColumn table), .op .lt]).pushBind (.key firstId)
        | none => qb
      qb.push [.orderBy, .column (idColumn table), .desc, .limit]
  qb.pushBind (.number (asU32 (params.limit + 1) : Nat))

/-- The cursors, and what is left of the rows. -/
def getCursors {α : Type} [HasId α] (params : PaginationParams) (rows : List α) :
    NextAndPrevCursor × List α :=
  let hasMore := rows.length > params.limit
  let rows := if hasMore then rows.dropLast else rows
  let rows := match params.direction with
    | .backward => rows.reverse
    | .forward => rows
  let startId := rows.head?.map HasId.id
  let endId := rows.getLast?.map HasId.id
  let cursors : NextAndPrevCursor := match params.direction with
    | .forward =>
      { nextCursor := if hasMore then endId else none
        prevCursor := if params.cursor.isSome then startId else none }
    | .backward =>
      { nextCursor := endId
        prevCursor := if hasMore then startId else none }
  (cursors, rows)

/-- What the database reports of a statement that it rejects. -/
def rejected : String := "the statement has a syntax or a type error"

/-- A list function of a service and its repository: the page of the rows that the repository's
    filter selects. -/
def listPage {α : Type} [HasId α] (schema : Sql.Schema Uuid α) (table : Option String)
    (qb : Sql.Builder Uuid α) (failed : String) (params : PaginationParams) (rows : List α) :
    Except AppError (PaginationRes α) :=
  match (keysetPaginate params table qb).fetch schema rows with
  | none => .error (.internalServerError s!"{failed}: {rejected}")
  | some found =>
    let (cursors, items) := getCursors params (found.filterMap List.head?)
    .ok (PaginationRes.new items cursors)

end Pagination

end Koupang
