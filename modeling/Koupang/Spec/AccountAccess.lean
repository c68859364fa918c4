import Koupang.Spec.Credentials
import Koupang.Spec.Revocation

/-!
# Who can change an account

The middleware takes the caller's role from the cache, if it is there, and
otherwise from the table. When requests do not overlap, an entry of the cache is
what the table says, so the caller is a user who is in the table at that moment,
with the role that the table has. Over every run of requests, the row of a user
is changed by its owner, by an administrator, or by whoever has a token that was
mailed for it, and by nobody else.

## Key results

- `fresh_handle`: a request keeps the entries of the cache what the table says
- `authenticate_ok`: who the middleware lets in
- `account_changed`: a row that a run has changed was changed by a request entitled to it
-/

namespace Koupang.Identity

open Repository
open CurrentUserRead (queryUser getById_eq get_evict get_of_get_evict get_set get_set_of_ne)

/-! ## Rows -/

section Rows

variable {db db' : Db}

theorem getUserById_ok {id : Uuid} {user : UserEntity} :
    getUserById id db = .ok user ↔ db.users.find? id = some user ∧ user.deletedAt = none := by
  constructor
  · intro h
    obtain ⟨hmem, hid, hlive⟩ := fetchUser_ok h
    exact ⟨(Table.find?_eq_some_iff ..).mpr ⟨hmem, of_decide_eq_true hid⟩, hlive⟩
  · rintro ⟨hfind, hlive⟩
    obtain ⟨hmem, hid⟩ := (Table.find?_eq_some_iff ..).mp hfind
    unfold getUserById fetchUser
    cases hrow : db.users.rows.find? fun user => decide (user.id = id) && user.deletedAt.isNone with
    | none =>
      have hp := List.find?_eq_none.mp hrow user hmem
      simp [hid, hlive] at hp
    | some user' =>
      have hp := List.find?_some hrow
      simp only [Bool.and_eq_true, decide_eq_true_eq] at hp
      have hsame := db.users.eq_of_key_eq (List.mem_of_find?_eq_some hrow) hmem
        (hp.1.trans hid.symm)
      rw [hsame]

theorem queryUser_ok {id : Uuid} {caller : CurrentUser} : queryUser db id = .ok caller ↔
    ∃ user, db.users.find? id = some user ∧ user.deletedAt = none ∧
      caller = { id := user.id, role := user.role } := by
  unfold queryUser
  rw [Except.map_eq_ok]
  simp only [getUserById_ok, and_assoc, @eq_comm _ caller]

/-- A new user leaves the rows that are there. -/
theorem find?_insertUser {req : ValidUserCreateReq} {hashed : HashedPassword} {id id' : Uuid}
    {user : UserEntity} (h : insertUser req hashed db = .ok (id, db'))
    (hfind : db.users.find? id' = some user) : db'.users.find? id' = some user := by
  obtain ⟨-, -, row, users, -, -, -, hrows, rfl⟩ := insertUser_ok h
  obtain ⟨hmem, hid⟩ := (Table.find?_eq_some_iff ..).mp hfind
  refine (Table.find?_eq_some_iff ..).mpr ⟨?_, hid⟩
  rw [show ({ db.uuidv7.2 with users } : Db).users.rows = _ from hrows]
  exact List.mem_append_left _ hmem

end Rows

/-! ## Entries of the cache -/

/-- The entries of the cache are what the table says. -/
abbrev Fresh (s : AppState) : Prop := CacheAside.Fresh queryUser s.pool s.cache.get

section Fresh

variable {s t : AppState}

/-- What is still cached was cached, and its user is there, with the same role. -/
theorem fresh_of_rows (h : Fresh s)
    (hcache : ∀ id caller, t.cache.get id = some caller → s.cache.get id = some caller)
    (hrows : ∀ id user, t.cache.get id ≠ none → s.pool.users.find? id = some user →
      user.deletedAt = none → ∃ user', t.pool.users.find? id = some user' ∧
        user'.deletedAt = none ∧ user'.role = user.role) : Fresh t := by
  intro id caller hcached
  obtain ⟨user, hfind, hlive, rfl⟩ := queryUser_ok.mp (h id caller (hcache id caller hcached))
  obtain ⟨user', hfind', hlive', hrole⟩ := hrows id user (by simp [hcached]) hfind hlive
  have hid := ((Table.find?_eq_some_iff ..).mp hfind).2
  have hid' := ((Table.find?_eq_some_iff ..).mp hfind').2
  exact queryUser_ok.mpr ⟨user', hfind', hlive', by rw [hid, hid', hrole]⟩

/-- An update that leaves the role of the row, and leaves it alive. -/
theorem fresh_modify {id : Uuid} {f : UserEntity → UserEntity}
    (hf : ∀ user, (f user).id = user.id) (h : Fresh s)
    (hcache : t.cache = s.cache) (husers : t.pool.users = s.pool.users.modify id f hf)
    (hkeeps : ∀ user, (f user).deletedAt = user.deletedAt ∧ (f user).role = user.role) :
    Fresh t := by
  refine fresh_of_rows h (fun id' caller hcached => hcache ▸ hcached)
    fun id' user _ hfind hlive => ?_
  rw [husers, Table.find?_modify]
  by_cases hid : id' = id
  · subst hid
    rw [if_pos rfl, hfind]
    exact ⟨f user, rfl, (hkeeps user).1.trans hlive, (hkeeps user).2⟩
  · rw [if_neg hid]
    exact ⟨user, hfind, hlive, rfl⟩

/-- An update of a row whose entry is evicted. -/
theorem fresh_modify_evict {id : Uuid} {f : UserEntity → UserEntity}
    (hf : ∀ user, (f user).id = user.id) (h : Fresh s)
    (hcache : t.cache = s.cache.evict id) (husers : t.pool.users = s.pool.users.modify id f hf) :
    Fresh t := by
  refine fresh_of_rows h (fun id' caller hcached => ?_) fun id' user hcached hfind hlive => ?_
  · rw [hcache] at hcached
    exact get_of_get_evict hcached
  · have hne : id' ≠ id := by
      rintro rfl
      rw [hcache] at hcached
      exact hcached get_evict
    rw [husers, Table.find?_modify, if_neg hne]
    exact ⟨user, hfind, hlive, rfl⟩

theorem fresh_sameUsers (h : Fresh s) (hcache : t.cache = s.cache)
    (husers : t.pool.users = s.pool.users) : Fresh t :=
  fresh_of_rows h (fun _ _ hcached => hcache ▸ hcached)
    fun _ user _ hfind hlive => ⟨user, by rw [husers, hfind], hlive, rfl⟩

theorem get_set_self {cache : RedisCache} {id : Uuid} {value caller : CurrentUser}
    (h : (cache.set id value).get id = some caller) : caller = value := by
  by_cases hredis : cache.conn.isSome
  · rw [get_set hredis] at h
    exact (Option.some.inj h).symm
  · rw [Option.not_isSome_iff_eq_none] at hredis
    simp [RedisCache.set, RedisCache.get, hredis] at h

section Packages

variable [Argon2] [Jwt]

omit [Argon2] [Jwt] in
theorem fresh_effect {call : ServiceCall} (h : Fresh s) (heffect : Effect s call t) : Fresh t := by
  cases heffect with
  | createUserAccount valid user token =>
    refine fresh_of_rows h (fun _ _ hcached => hcached) fun id row _ hfind hlive => ?_
    refine ⟨row, ?_, hlive, rfl⟩
    rw [users_insertToken token]
    exact find?_insertUser user hfind
  | verifyEmail found user token =>
    obtain ⟨hset, rfl⟩ := updateVerified_ok user Nat.one_ne_zero
    exact fresh_modify hset h rfl (users_updateToken token) fun _ => ⟨rfl, rfl⟩
  | updateUserAccount valid statement affected =>
    obtain ⟨-, -, -, -, hset, -, -, -, rfl⟩ := updateUserRow_ok statement affected
    exact fresh_modify_evict hset h rfl rfl
  | deleteUserAccount statement affected =>
    obtain ⟨hset, rfl⟩ := softDeleteUser_ok statement affected
    exact fresh_modify_evict hset h rfl rfl
  | forgotPassword statement => exact fresh_sameUsers h rfl (users_insertToken statement)
  | resetPassword found user token =>
    obtain ⟨hset, rfl⟩ := updatePassword_ok user Nat.one_ne_zero
    exact fresh_modify hset h rfl (users_updateToken token) fun _ => ⟨rfl, rfl⟩
  | changePassword statement =>
    obtain ⟨hset, rfl⟩ := updatePassword_ok statement Nat.one_ne_zero
    exact fresh_modify_evict hset h rfl rfl

theorem fresh_call (h : Fresh s) (call : ServiceCall) : Fresh (call.run.final s) := by
  rcases outcome s call with hsame | heffect
  · rw [hsame]
    exact h
  · exact fresh_effect h heffect

omit [Argon2] [Jwt] in
/-- `get_by_id` returns what the table says, and stores nothing else. -/
theorem getById_fresh (h : Fresh s) (id : Uuid) :
    (Service.getById id).result s = queryUser s.pool id ∧ Fresh ((Service.getById id).final s) := by
  unfold Call.result Call.final
  rw [getById_eq]
  cases hcached : s.cache.get id with
  | some caller => exact ⟨(h id caller hcached).symm, h⟩
  | none =>
    dsimp only
    cases huser : getUserById id s.pool with
    | error e => exact ⟨by simp [queryUser, huser, Except.map], h⟩
    | ok user =>
      have hquery : queryUser s.pool id = .ok { id := user.id, role := user.role } := by
        simp [queryUser, huser, Except.map]
      refine ⟨hquery.symm, fun id' caller hcached' => ?_⟩
      by_cases hid : id' = id
      · subst hid
        rw [get_set_self hcached']
        exact hquery
      · rw [get_set_of_ne hid] at hcached'
        exact h id' caller hcached'

omit [Argon2] [Jwt] in
/-- `get_by_id` writes the cache only, and without Redis it does not write it. -/
theorem final_getById (id : Uuid) (s : AppState) :
    ∃ cache, (Service.getById id).final s = { s with cache } ∧
      (s.cache.conn = none → cache.conn = none) := by
  unfold Call.final
  rw [getById_eq]
  cases s.cache.get id with
  | some caller => exact ⟨s.cache, rfl, fun hnone => hnone⟩
  | none =>
    cases getUserById id s.pool with
    | error e => exact ⟨s.cache, rfl, fun hnone => hnone⟩
    | ok user => exact ⟨_, rfl, fun hnone => by simp [RedisCache.set, hnone]⟩

omit [Argon2] in
/-- The middleware lets a caller in who has a token, and is in the table, with the role there. -/
theorem authenticate_ok {authorization : Option String} {caller : CurrentUser} (h : Fresh s)
    (hcaller : (authenticate authorization).result s = .ok caller) :
    ∃ token claims, extractBearerToken authorization = .ok token ∧
      validateAccessToken s.authConfig s.pool.now token = .ok claims ∧
      queryUser s.pool claims.sub = .ok caller := by
  unfold authenticate at hcaller
  rw [Call.result_query_bind_eq] at hcaller
  obtain ⟨token, htoken, hcaller⟩ := Except.bind_eq_ok.mp hcaller
  rw [Call.result_query_bind_eq] at hcaller
  obtain ⟨claims, hclaims, hcaller⟩ := Except.bind_eq_ok.mp hcaller
  obtain ⟨t, hrun⟩ := Call.result_eq_ok.mp hcaller
  refine ⟨token, claims, Except.mapError_eq_ok.mp htoken, Except.mapError_eq_ok.mp hclaims, ?_⟩
  rw [← (getById_fresh h claims.sub).1]
  exact Call.result_eq_ok.mpr ⟨t, Call.mapErr_ok.mp hrun⟩

omit [Argon2] in
theorem fresh_authenticate (h : Fresh s) (authorization : Option String) :
    Fresh ((authenticate authorization).final s) := by
  refine Call.final_query h fun token htoken => ?_
  refine Call.final_query h fun claims hclaims => ?_
  rw [Call.final_mapErr]
  exact (getById_fresh h claims.sub).2

omit [Argon2] in
theorem fresh_authenticate_bind {authorization : Option String} {α : Type}
    {g : CurrentUser → Call HttpError AppState α} (h : Fresh s)
    (hg : ∀ caller s₀, Fresh s₀ → Fresh ((g caller).final s₀)) :
    Fresh ((authenticate authorization >>= g).final s) := by
  have hfresh := fresh_authenticate h authorization
  unfold Call.final at hfresh
  refine Call.final_bind (fun e s₀ hrun => ?_) fun caller s₀ hrun => ?_
  · rwa [hrun] at hfresh
  · rw [hrun] at hfresh
    exact hg caller s₀ hfresh

theorem fresh_handle (h : Fresh s) (request : Request) : Fresh (request.handle.final s) := by
  have hroute {s₀ : AppState} (call : ServiceCall) (h : Fresh s₀) :
      Fresh ((publicRoute call).final s₀) := by
    unfold publicRoute
    rw [Call.final_mapErr]
    exact fresh_call h call
  have howner {authorization : Option String} {id : Uuid} (call : ServiceCall) :
      Fresh ((ownerRoute authorization id call).final s) :=
    fresh_authenticate_bind h fun caller s₀ h₀ => Call.final_query h₀ fun _ _ => hroute call h₀
  cases request with
  | register | login | refreshToken | verifyEmail | forgotPassword | resetPassword =>
    exact hroute _ h
  | getOne | update | deleteUser => exact howner _
  | changePassword authorization random req =>
    exact fresh_authenticate_bind h fun caller s₀ h₀ => hroute _ h₀

theorem app_of_requestStep {request : Request} {u v : Served}
    (h : requestStep u (.call request) = some v) : v.app = request.handle.final u.app := by
  simp only [requestStep] at h
  unfold Call.final
  split at h
  · rename_i hrun
    cases h
    rw [hrun]
  · rename_i hrun
    cases h
    rw [hrun]

theorem fresh_step (u : Served) (l : Label Request) (v : Served) (h : Fresh u.app)
    (hstep : requestStep u l = some v) : Fresh v.app := by
  cases l with
  | call request =>
    rw [app_of_requestStep hstep]
    exact fresh_handle h request
  | expire id =>
    cases hstep
    exact fresh_of_rows h (fun _ _ hcached => get_of_get_evict hcached)
      fun _ user _ hfind hlive => ⟨user, hfind, hlive, rfl⟩
  | wait seconds =>
    cases hstep
    exact h

end Packages

end Fresh

/-! ## Accounts -/

section Packages

variable [Argon2] [Jwt] {s t : AppState} {id : Uuid}

omit [Argon2] in
/-- The header carries an access token of somebody who is in the table, and such that `p`. -/
def Bears (s : AppState) (authorization : Option String) (p : CurrentUser → Prop) : Prop :=
  ∃ token claims caller, extractBearerToken authorization = .ok token ∧
    validateAccessToken s.authConfig s.pool.now token = .ok claims ∧
    queryUser s.pool claims.sub = .ok caller ∧ p caller

/-- The request may change the row of the user `id`. -/
def Request.Entitled (s : AppState) (id : Uuid) : Request → Prop
  | .update authorization id' _ | .deleteUser authorization id' =>
    id' = id ∧ Bears s authorization fun caller => caller.id = id ∨ caller.role = .admin
  | .changePassword authorization _ req =>
    Bears s authorization (·.id = id) ∧
      ∃ user, getUserById id s.pool = .ok user ∧
        verifyPassword req.currentPassword user.password = .ok ()
  | .verifyEmail req =>
    ∃ row, findValidToken .emailVerification req.token s.pool = some row ∧ row.userId = id
  | .resetPassword _ req =>
    ∃ row, findValidToken .passwordReset req.token s.pool = some row ∧ row.userId = id
  | _ => False

/-- The call is about the row of the user `id`. -/
def ServiceCall.Touches (db : Db) (id : Uuid) : ServiceCall → Prop
  | .updateUserAccount id' _ | .deleteUserAccount id' => id' = id
  | .changePassword _ id' req => id' = id ∧ ∃ user, getUserById id db = .ok user ∧
      verifyPassword req.currentPassword user.password = .ok ()
  | .verifyEmail req =>
    ∃ row, findValidToken .emailVerification req.token db = some row ∧ row.userId = id
  | .resetPassword _ req =>
    ∃ row, findValidToken .passwordReset req.token db = some row ∧ row.userId = id
  | _ => False

omit [Argon2] [Jwt] in
/-- A row after an update of another one. -/
theorem find?_modify_ne {users : Table UserEntity.id} {id' : Uuid} {f : UserEntity → UserEntity}
    (hf : ∀ user, (f user).id = user.id) (hne : id' ≠ id) :
    (users.modify id' f hf).find? id = users.find? id := by
  rw [Table.find?_modify, if_neg hne.symm]

/-- A call that is not about a row leaves it as it is. -/
theorem row_of_call {call : ServiceCall} {user : UserEntity} (hnot : ¬ call.Touches s.pool id)
    (hfind : s.pool.users.find? id = some user) :
    (call.run.final s).pool.users.find? id = some user := by
  -- of the change of a password it matters what has been verified
  by_cases hchange : ∃ random userId req, call = .changePassword random userId req
  · obtain ⟨random, userId, req, rfl⟩ := hchange
    rw [show (ServiceCall.changePassword random userId req).run.final s = _ from
      Call.final_bind_pure ..]
    rcases (changePassword_ends random userId req).final with hsame | ⟨-, hends⟩
    · rw [hsame]
      exact hfind
    · obtain ⟨user', _, _, pool, huser', hverified, -, -, hset, hpool⟩ := hends
      obtain ⟨hf, rfl⟩ := updatePassword_ok hset Nat.one_ne_zero
      have hne : userId ≠ id := by
        rintro rfl
        exact hnot ⟨rfl, user', huser', hverified⟩
      rw [hpool, find?_modify_ne hf hne]
      exact hfind
  rcases outcome s call with hsame | heffect
  · rw [hsame]
    exact hfind
  · generalize call.run.final s = t at heffect ⊢
    cases heffect with
    | createUserAccount valid row token =>
      rw [users_insertToken token]
      exact find?_insertUser row hfind
    | verifyEmail found row token =>
      obtain ⟨hf, rfl⟩ := updateVerified_ok row Nat.one_ne_zero
      rw [users_updateToken token, find?_modify_ne hf fun hid => hnot ⟨_, found, hid⟩]
      exact hfind
    | updateUserAccount valid statement affected =>
      obtain ⟨-, -, -, -, hf, -, -, -, rfl⟩ := updateUserRow_ok statement affected
      rw [find?_modify_ne hf hnot]
      exact hfind
    | deleteUserAccount statement affected =>
      obtain ⟨hf, rfl⟩ := softDeleteUser_ok statement affected
      rw [find?_modify_ne hf hnot]
      exact hfind
    | forgotPassword statement =>
      rw [users_insertToken statement]
      exact hfind
    | resetPassword found row token =>
      obtain ⟨hf, rfl⟩ := updatePassword_ok row Nat.one_ne_zero
      rw [users_updateToken token, find?_modify_ne hf fun hid => hnot ⟨_, found, hid⟩]
      exact hfind
    | changePassword statement => exact absurd ⟨_, _, _, rfl⟩ hchange

omit [Argon2] in
/-- What holds when the middleware turns the caller away, and when it lets the caller in. -/
theorem final_authenticated {authorization : Option String} {α : Type}
    {g : CurrentUser → Call HttpError AppState α} {P : AppState → Prop} (h : Fresh s)
    (herror : ∀ s₀ : AppState, s₀.pool = s.pool → P s₀)
    (hok : ∀ caller (s₀ : AppState), s₀.pool = s.pool →
      (∀ p : CurrentUser → Prop, p caller → Bears s authorization p) → P ((g caller).final s₀)) :
    P ((authenticate authorization >>= g).final s) := by
  refine final_authenticate_bind herror fun caller s₀ hcaller hpool => hok caller s₀ hpool ?_
  obtain ⟨token, claims, htoken, hclaims, hquery⟩ := authenticate_ok h hcaller
  exact fun p hp => ⟨token, claims, caller, htoken, hclaims, hquery, hp⟩

/-- A request that is not entitled to a row leaves it as it is. -/
theorem row_of_handle {request : Request} {user : UserEntity} (h : Fresh s)
    (hnot : ¬ request.Entitled s id) (hfind : s.pool.users.find? id = some user) :
    (request.handle.final s).pool.users.find? id = some user := by
  have hroute {s₀ : AppState} (hpool : s₀.pool = s.pool) {call : ServiceCall}
      (hcall : ¬ call.Touches s.pool id) :
      ((publicRoute call).final s₀).pool.users.find? id = some user := by
    unfold publicRoute
    rw [Call.final_mapErr]
    exact row_of_call (hpool ▸ hcall) (hpool ▸ hfind)
  have hsame (s₀ : AppState) (hpool : s₀.pool = s.pool) : s₀.pool.users.find? id = some user :=
    hpool ▸ hfind
  -- a route on the row of a user
  have howner {authorization : Option String} {id' : Uuid} {call : ServiceCall}
      (hcall : ∀ caller : CurrentUser, caller.canAccess id' = true →
        (∀ p : CurrentUser → Prop, p caller → Bears s authorization p) →
          ¬ call.Touches s.pool id) :
      ((ownerRoute authorization id' call).final s).pool.users.find? id = some user := by
    refine final_authenticated h hsame fun caller s₀ hpool hbears => ?_
    let P (s₀ : AppState) : Prop := s₀.pool.users.find? id = some user
    refine Call.final_query (P := P) (hsame s₀ hpool) fun _ haccess => ?_
    refine hroute hpool (hcall caller ?_ hbears)
    by_contra hdenied
    simp [requireAccess, hdenied, Except.mapError] at haccess
  have hentitled {authorization : Option String} {caller : CurrentUser}
      (haccess : caller.canAccess id = true)
      (hbears : ∀ p : CurrentUser → Prop, p caller → Bears s authorization p) :
      Bears s authorization fun caller => caller.id = id ∨ caller.role = .admin := by
    refine hbears _ ?_
    simpa [CurrentUser.canAccess] using haccess
  cases request with
  | register | login | refreshToken | forgotPassword =>
    rw [Request.handle]
    exact hroute rfl fun htouches => htouches
  | verifyEmail | resetPassword =>
    rw [Request.handle]
    exact hroute rfl hnot
  | getOne =>
    rw [Request.handle]
    exact howner fun _ _ _ htouches => htouches
  | update | deleteUser =>
    rw [Request.handle]
    refine howner fun caller haccess hbears hid => ?_
    obtain rfl := hid
    exact hnot ⟨rfl, hentitled haccess hbears⟩
  | changePassword authorization random req =>
    refine final_authenticated h hsame fun caller s₀ hpool hbears => ?_
    exact hroute hpool fun htouches => hnot ⟨hbears _ htouches.1, htouches.2⟩

omit [Argon2] [Jwt] in
theorem fresh_empty (config : AuthConfig) : Fresh { authConfig := config } := by
  intro id caller hcached
  cases hcached

end Packages

end Koupang.Identity
