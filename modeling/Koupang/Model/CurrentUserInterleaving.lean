import Koupang.Model.Identity

/-!
# Reading the current user while accounts change

`get_by_id` reads the cache, then the row, and then writes the cache.
`update_user_account` and `delete_user_account` commit their transaction and
then evict the user. Here any number of these calls interleave, and entries of
the cache may expire at any time. Redis does not fail.

The versions of the tables are kept, too, and with each call which version it
has committed, or which one was visible when it began. The calls do not read
these.
-/

namespace Koupang.Identity.CurrentUserRead

/-- How far a call has come. -/
inductive CallState where
  /-- `get_by_id` has not found the user in the cache -/
  | missed (id : Uuid) (since : Nat)
  /-- `get_by_id` has read the row -/
  | fetched (id : Uuid) (since : Nat) (currentUser : CurrentUser)
  /-- `get_by_id` has returned -/
  | got (id : Uuid) (since : Nat) (result : Except AppError CurrentUser)
  /-- `update_user_account` or `delete_user_account` has committed -/
  | committed (id : Uuid) (version : Nat)
  /-- `update_user_account` or `delete_user_account` has returned -/
  | returned (result : Except AppError Unit)
deriving DecidableEq

structure State where
  app : AppState
  /-- the committed tables, from the first ones to those of now -/
  versions : List Db
  /-- for each user the latest version committed by a call that has returned -/
  floor : Uuid → Nat := fun _ => 0
  calls : Nat → Option CallState := fun _ => none

inductive Label where
  /-- call `i` of `get_by_id` begins: it reads the cache -/
  | getById (i : Nat) (id : Uuid)
  /-- call `i` reads the row -/
  | fetch (i : Nat)
  /-- call `i` writes the cache and returns -/
  | store (i : Nat)
  /-- call `i` begins, and its transaction ends -/
  | updateUserAccount (i : Nat) (id : Uuid) (req : UserUpdateReq)
  | deleteUserAccount (i : Nat) (id : Uuid)
  /-- call `i` evicts the user and returns -/
  | evict (i : Nat)
  /-- an entry of the cache expires -/
  | expire (id : Uuid)
deriving DecidableEq

namespace State

def setCall (s : State) (i : Nat) (c : CallState) : State :=
  { s with calls := Function.update s.calls i (some c) }

/-- The transaction of call `i`, on the account `id`. -/
def transaction (s : State) (i : Nat) (id : Uuid) (x : Call AppError AppState Unit) : State :=
  match x s.app with
  | .ok _ app =>
    { s with app, versions := s.versions ++ [app.pool] }.setCall i
      (.committed id s.versions.length)
  | .error e app => { s with app }.setCall i (.returned (.error e))

/-- No call has begun. -/
def start (app : AppState) : State := { app, versions := [app.pool] }

end State

def step (s : State) : Label → Option State
  | .getById i id =>
    match s.calls i with
    | some _ => none
    | none =>
      match s.app.cache.get id with
      | some cached => some (s.setCall i (.got id (s.floor id) (.ok cached)))
      | none => some (s.setCall i (.missed id (s.floor id)))
  | .fetch i =>
    match s.calls i with
    | some (.missed id since) =>
      match Repository.getUserById id s.app.pool with
      | .ok user => some (s.setCall i (.fetched id since { id := user.id, role := user.role }))
      | .error e => some (s.setCall i (.got id since (.error e)))
    | _ => none
  | .store i =>
    match s.calls i with
    | some (.fetched id since currentUser) =>
      let app := { s.app with cache := s.app.cache.set id currentUser }
      some ({ s with app }.setCall i (.got id since (.ok currentUser)))
    | _ => none
  | .updateUserAccount i id req =>
    match s.calls i with
    | some _ => none
    | none =>
      match ValidUserUpdateReq.tryFrom req with
      | .error e => some (s.setCall i (.returned (.error e)))
      | .ok validated => some (s.transaction i id
          (inTransaction "Failed to update user" (Repository.updateUser id validated)))
  | .deleteUserAccount i id =>
    match s.calls i with
    | some _ => none
    | none =>
      some (s.transaction i id (inTransaction "Failed to delete user" (Repository.deleteUser id)))
  | .evict i =>
    match s.calls i with
    | some (.committed id version) =>
      let app := { s.app with cache := s.app.cache.evict id }
      let floor := Function.update s.floor id (max (s.floor id) version)
      some ({ s with app, floor }.setCall i (.returned (.ok ())))
    | _ => none
  | .expire id => some { s with app := { s.app with cache := s.app.cache.evict id } }

end Koupang.Identity.CurrentUserRead
