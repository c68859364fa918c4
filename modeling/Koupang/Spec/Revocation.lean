import Koupang.ForStd.CacheAside
import Koupang.ForStd.List
import Koupang.Model.CurrentUserInterleaving
import Koupang.Spec.IdentityCorrect

/-!
# When a change of role, or a deletion, takes effect

A reader that has missed the cache stores what it has read some time later. If
an operation commits and evicts in between, the reader puts the old role back,
and every call that begins from then on is answered from it until the entry
expires. As long as no reader stores a value that is out of date in this way,
an operation that has returned has taken effect.

## Key results

- `run_getById`, `run_updateUserAccount`, `run_deleteUserAccount`: a call alone is the service
  function
- `survivors_updateUser`, `survivors_deleteUser`: no transaction brings a user back
- `timely_step`: a step keeps revocations in effect exactly if it meets the condition
- `effective_iff`: the same over every run
-/

namespace Koupang.Identity.CurrentUserRead

open CacheAside

variable {s t : State}

/-! ## A call alone -/

@[simp] theorem app_setCall (s : State) (i : Nat) (c : CallState) : (s.setCall i c).app = s.app :=
  rfl

@[simp] theorem calls_setCall (s : State) (i : Nat) (c : CallState) :
    (s.setCall i c).calls i = some c :=
  Function.update_self ..

theorem getById_eq (id : Uuid) (app : AppState) :
    Service.getById id app =
      match app.cache.get id with
      | some cached => .ok cached app
      | none =>
        match Repository.getUserById id app.pool with
        | .ok user =>
          let currentUser : CurrentUser := { id := user.id, role := user.role }
          .ok currentUser { app with cache := app.cache.set id currentUser }
        | .error e => .error e app := by
  unfold Service.getById onPool
  rw [Call.run_query]
  cases app.cache.get id with
  | some cached => rfl
  | none =>
    dsimp only
    rw [Call.run_query]
    cases Repository.getUserById id app.pool <;> rfl

/-- The steps of a call of `get_by_id`, with no other one in between. -/
theorem run_getById {i : Nat} (id : Uuid) (hfree : s.calls i = none) :
    ∃ labels t, Run.run step s labels = some t ∧ t.app = (Service.getById id).final s.app ∧
      t.calls i = some (.got id (s.floor id) ((Service.getById id).result s.app)) := by
  unfold Call.final Call.result
  rw [getById_eq]
  cases hcached : s.app.cache.get id with
  | some cached =>
    refine ⟨[.getById i id], s.setCall i (.got id (s.floor id) (.ok cached)), ?_, rfl,
      calls_setCall ..⟩
    simp [Run.run, step, hfree, hcached]
  | none =>
    let missed := s.setCall i (.missed id (s.floor id))
    cases huser : Repository.getUserById id s.app.pool with
    | error e =>
      refine ⟨[.getById i id, .fetch i], missed.setCall i (.got id (s.floor id) (.error e)), ?_,
        rfl, calls_setCall ..⟩
      simp [Run.run, step, hfree, hcached, huser, missed]
    | ok user =>
      let currentUser : CurrentUser := { id := user.id, role := user.role }
      let fetched := missed.setCall i (.fetched id (s.floor id) currentUser)
      let app := { s.app with cache := s.app.cache.set id currentUser }
      refine ⟨[.getById i id, .fetch i, .store i],
        { fetched with app }.setCall i (.got id (s.floor id) (.ok currentUser)), ?_, rfl,
        calls_setCall ..⟩
      simp [Run.run, step, hfree, hcached, huser, missed, fetched, app, currentUser]

/-- The steps of a transaction and of the eviction that follows it. -/
theorem run_transaction {i : Nat} {id : Uuid} {x : Call AppError AppState Unit} {label : Label}
    (hstep : step s label = some (s.transaction i id x)) :
    ∃ labels t, Run.run step s labels = some t ∧ t.app = (x >>= fun _ => evict id).final s.app ∧
      t.calls i = some (.returned ((x >>= fun _ => evict id).result s.app)) := by
  unfold Call.final Call.result
  unfold State.transaction at hstep
  cases hx : x s.app with
  | ok u app =>
    have hbind : (x >>= fun _ => evict id) s.app =
        .ok () { app with cache := app.cache.evict id } := by
      change EStateM.bind x _ s.app = _
      unfold EStateM.bind
      rw [hx]
      rfl
    rw [hbind]
    rw [hx] at hstep
    let committed := { s with app, versions := s.versions ++ [app.pool] }.setCall i
      (.committed id s.versions.length)
    let floor := Function.update s.floor id (max (s.floor id) s.versions.length)
    let evicted := { committed with app := { app with cache := app.cache.evict id }, floor }
    have hevict : step committed (.evict i) = some (evicted.setCall i (.returned (.ok ()))) := by
      simp [step, committed, evicted, floor, State.setCall]
    refine ⟨[label, .evict i], evicted.setCall i (.returned (.ok ())), ?_, rfl,
      calls_setCall ..⟩
    rw [Run.run_cons hstep, Run.run_cons hevict, Run.run_nil]
  | error e app =>
    have hbind : (x >>= fun _ => evict id) s.app = .error e app := by
      change EStateM.bind x _ s.app = _
      unfold EStateM.bind
      rw [hx]
    rw [hbind]
    rw [hx] at hstep
    refine ⟨[label], { s with app }.setCall i (.returned (.error e)), ?_, rfl,
      calls_setCall ..⟩
    rw [Run.run_cons hstep, Run.run_nil]

theorem run_updateUserAccount {i : Nat} (id : Uuid) (req : UserUpdateReq)
    (hfree : s.calls i = none) :
    ∃ labels t, Run.run step s labels = some t ∧
      t.app = (Service.updateUserAccount id req).final s.app ∧
      t.calls i = some (.returned ((Service.updateUserAccount id req).result s.app)) := by
  cases hreq : ValidUserUpdateReq.tryFrom req with
  | error e =>
    have hcall : Service.updateUserAccount id req s.app = .error e s.app := by
      unfold Service.updateUserAccount
      rw [Call.run_query, hreq]
    unfold Call.final Call.result
    rw [hcall]
    refine ⟨[.updateUserAccount i id req], s.setCall i (.returned (.error e)), ?_, rfl,
      calls_setCall ..⟩
    simp [Run.run, step, hfree, hreq]
  | ok validated =>
    have hcall : Service.updateUserAccount id req s.app =
        (inTransaction "Failed to update user" (Repository.updateUser id validated) >>=
          fun _ => evict id) s.app := by
      unfold Service.updateUserAccount
      rw [Call.run_query, hreq]
    unfold Call.final Call.result
    rw [hcall]
    have hstep : step s (.updateUserAccount i id req) = some (s.transaction i id
        (inTransaction "Failed to update user" (Repository.updateUser id validated))) := by
      simp [step, hfree, hreq]
    exact run_transaction hstep

theorem run_deleteUserAccount {i : Nat} (id : Uuid) (hfree : s.calls i = none) :
    ∃ labels t, Run.run step s labels = some t ∧
      t.app = (Service.deleteUserAccount id).final s.app ∧
      t.calls i = some (.returned ((Service.deleteUserAccount id).result s.app)) := by
  have hstep : step s (.deleteUserAccount i id) = some (s.transaction i id
      (inTransaction "Failed to delete user" (Repository.deleteUser id))) := by
    simp [step, hfree]
  exact run_transaction hstep

/-! ## The cache -/

section Cache

variable {cache : RedisCache} {id id' : Uuid} {v : CurrentUser}

theorem get_eq (cache : RedisCache) (id : Uuid) :
    cache.get id = cache.conn.bind fun entries => (entries.find? id).map (·.value) := by
  unfold RedisCache.get
  cases cache.conn with
  | none => rfl
  | some entries => cases hfind : entries.find? id <;> simp [hfind]

theorem get_set (hredis : cache.conn.isSome) : (cache.set id v).get id = some v := by
  obtain ⟨entries, hentries⟩ := Option.isSome_iff_exists.mp hredis
  rw [get_eq]
  unfold RedisCache.set
  simp [hentries, Table.find?_set]

theorem get_set_of_ne (hne : id' ≠ id) : (cache.set id v).get id' = cache.get id' := by
  rw [get_eq, get_eq]
  unfold RedisCache.set
  cases cache.conn with
  | none => rfl
  | some entries => simp [Table.find?_set, hne.symm]

theorem get_evict : (cache.evict id).get id = none := by
  rw [get_eq]
  unfold RedisCache.evict
  cases cache.conn with
  | none => rfl
  | some entries =>
    have hnone : (entries.filter (·.id ≠ id)).find? id = none := by
      rw [Table.find?_filter, Option.filter_eq_none_iff]
      intro entry hfind
      simp [((Table.find?_eq_some_iff ..).mp hfind).2]
    rw [Option.map_some, Option.bind_some, hnone, Option.map_none]

theorem get_of_get_evict (h : (cache.evict id).get id' = some v) : cache.get id' = some v := by
  have hne : id' ≠ id := by
    rintro rfl
    rw [get_evict] at h
    cases h
  rw [get_eq] at h ⊢
  unfold RedisCache.evict at h
  cases hconn : cache.conn with
  | none =>
    rw [hconn] at h
    exact h
  | some entries =>
    rw [hconn, Option.map_some, Option.bind_some, Table.find?_filter_ne entries hne] at h
    exact h

end Cache

/-! ## The rows -/

/-- The query of `get_by_id`. -/
def queryUser (db : Db) (id : Uuid) : Except AppError CurrentUser :=
  (Repository.getUserById id db).map fun user => { id := user.id, role := user.role }

theorem queryUser_ok_iff {db : Db} {id : Uuid} : (∃ v, queryUser db id = .ok v) ↔
    ∃ user ∈ db.users.rows, user.id = id ∧ user.deletedAt = none := by
  constructor
  · rintro ⟨v, hv⟩
    obtain ⟨user, huser, -⟩ := Except.map_eq_ok.mp hv
    obtain ⟨hmem, hid, hlive⟩ := fetchUser_ok huser
    exact ⟨user, hmem, of_decide_eq_true hid, hlive⟩
  · rintro ⟨user, hmem, hid, hlive⟩
    unfold queryUser Repository.getUserById Repository.fetchUser
    cases hfind : db.users.rows.find? fun user => user.id = id && user.deletedAt.isNone with
    | some found => exact ⟨_, rfl⟩
    | none =>
      have hnot := List.find?_eq_none.mp hfind user hmem
      simp [hid, hlive] at hnot

/-- Every user after a write was a user before it. -/
def Survivors (db db' : Db) : Prop :=
  ∀ id v, queryUser db' id = .ok v → ∃ w, queryUser db id = .ok w

theorem survivors_modify {db : Db} {id : Uuid} {f : UserEntity → UserEntity}
    (hset : ∀ user, (f user).id = user.id)
    (hdeleted : ∀ user, (f user).deletedAt = none → user.deletedAt = none) :
    Survivors db { db with users := db.users.modify id f hset } := by
  intro id' v hv
  obtain ⟨user, hmem, hid, hlive⟩ := queryUser_ok_iff.mp ⟨v, hv⟩
  refine queryUser_ok_iff.mpr ?_
  rcases (Table.mem_modify _ _ _ hset _).mp hmem with ⟨hmem, -⟩ | ⟨old, hold, -, rfl⟩
  · exact ⟨user, hmem, hid, hlive⟩
  · exact ⟨old, hold, (hset old).symm.trans hid, hdeleted old hlive⟩

theorem survivors_updateUser {db db' : Db} {id : Uuid} {validated : ValidUserUpdateReq} {u : Unit}
    (h : withTransaction (Repository.updateUser id validated) db = .ok (u, db')) :
    Survivors db db' := by
  obtain ⟨rowsAffected, hrow, hne⟩ := withTransaction_affected h
  obtain ⟨user, username, email, phone, hset, -, -, -, rfl⟩ := updateUserRow_ok hrow hne
  exact survivors_modify hset fun _ hlive => hlive

theorem survivors_deleteUser {db db' : Db} {id : Uuid} {u : Unit}
    (h : withTransaction (Repository.deleteUser id) db = .ok (u, db')) : Survivors db db' := by
  obtain ⟨rowsAffected, hrow, hne⟩ := withTransaction_affected h
  obtain ⟨hset, rfl⟩ := softDeleteUser_ok hrow hne
  refine survivors_modify hset fun user hdeleted => ?_
  exact absurd hdeleted (Option.some_ne_none db.now)

/-! ## What a call may return -/

/-- What a call may return that has begun when `since` was the version visible to it: a role
    that the user has had since then, and only if the user was not deleted by then. -/
structure Allowed (versions : List Db) (since : Nat) (id : Uuid) (v : CurrentUser) : Prop where
  role : Recent queryUser versions since id v
  live : ∀ db ∈ versions.take (since + 1), ∃ w, queryUser db id = .ok w

/-- Revocations are in effect: for every call of `get_by_id` that has returned, and for every
    one that begins now and finds the user in the cache. -/
structure Effective (s : State) : Prop where
  returned : ∀ i id since v, s.calls i = some (.got id since (.ok v)) →
    Allowed s.versions since id v
  cached : ∀ id v, s.app.cache.get id = some v → Allowed s.versions (s.floor id) id v

/-- The condition, on the steps of a run: a call stores a role that the user has had since the
    operations that have returned by then. -/
def StoresRecent (s : State) : Label → Prop
  | .store i => ∀ id since v, s.calls i = some (.fetched id since v) →
    Recent queryUser s.versions (s.floor id) id v
  | _ => True

def CallInv (versions : List Db) : CallState → Prop
  | .missed _ since => since < versions.length
  | .fetched id since v => Recent queryUser versions since id v
  | .committed _ version => version < versions.length
  | .got .. | .returned _ => True

structure StateInv (s : State) : Prop where
  redis : s.app.cache.conn.isSome
  last : s.versions.getLast? = some s.app.pool
  survivors : s.versions.Pairwise Survivors
  floor : ∀ id, s.floor id < s.versions.length
  calls : ∀ i c, s.calls i = some c → CallInv s.versions c

/-- A user who has a role was not deleted before. -/
theorem allowed_iff {versions : List Db} {since : Nat} {id : Uuid} {v : CurrentUser}
    (h : versions.Pairwise Survivors) :
    Allowed versions since id v ↔ Recent queryUser versions since id v := by
  constructor
  · exact fun hallowed => hallowed.role
  · intro hrecent
    refine ⟨hrecent, fun db hdb => ?_⟩
    obtain ⟨db', hdb', hv⟩ := hrecent
    obtain ⟨n, hn, rfl⟩ := List.mem_take_iff_getElem.mp hdb
    obtain ⟨m, hm, rfl⟩ := List.mem_drop_iff_getElem.mp hdb'
    by_cases heq : n = since + m
    · subst heq
      exact ⟨v, hv⟩
    · exact List.pairwise_iff_getElem.mp h n (since + m) (by omega) (by omega) (by omega) id v hv

/-- The same as `Effective`, without deletions. -/
structure Timely (s : State) : Prop where
  returned : ∀ i id since v, s.calls i = some (.got id since (.ok v)) →
    Recent queryUser s.versions since id v
  cached : FreshSince queryUser s.versions s.floor s.app.cache.get

theorem effective_iff_timely (h : StateInv s) : Effective s ↔ Timely s := by
  constructor
  · intro heffective
    exact ⟨fun i id since v hcall => (heffective.returned i id since v hcall).role,
      fun id v hcached => (heffective.cached id v hcached).role⟩
  · intro htimely
    constructor
    · intro i id since v hcall
      exact (allowed_iff h.survivors).mpr (htimely.returned i id since v hcall)
    · intro id v hcached
      exact (allowed_iff h.survivors).mpr (htimely.cached id v hcached)

/-! ## Steps -/

theorem calls_setCall_cases {i j : Nat} {c c' : CallState}
    (h : (s.setCall i c).calls j = some c') : c' = c ∨ s.calls j = some c' := by
  unfold State.setCall at h
  dsimp only at h
  by_cases hj : j = i
  · subst hj
    rw [Function.update_self] at h
    exact .inl (Option.some.inj h).symm
  · rw [Function.update_of_ne hj] at h
    exact .inr h

theorem StateInv.setCall {i : Nat} {c : CallState} (h : StateInv s)
    (hc : CallInv s.versions c) : StateInv (s.setCall i c) where
  redis := h.redis
  last := h.last
  survivors := h.survivors
  floor := h.floor
  calls j c' hcall := by
    rcases calls_setCall_cases hcall with rfl | hcall
    · exact hc
    · exact h.calls j c' hcall

theorem Timely.setCall {i : Nat} {c : CallState} (h : Timely s)
    (hc : ∀ id since v, c = .got id since (.ok v) → Recent queryUser s.versions since id v) :
    Timely (s.setCall i c) where
  returned j id since v hcall := by
    rcases calls_setCall_cases hcall with heq | hcall
    · exact hc id since v heq.symm
    · exact h.returned j id since v hcall
  cached := h.cached

/-- The transaction of an operation commits a new version, or changes nothing. -/
theorem transaction_cases (s : State) (i : Nat) (id : Uuid) (what : String)
    (x : Tx AppError Db Unit) :
    (∃ e, s.transaction i id (inTransaction what x) = s.setCall i (.returned (.error e))) ∨
      ∃ pool, withTransaction x s.app.pool = .ok ((), pool) ∧
        s.transaction i id (inTransaction what x) =
          { s with app := { s.app with pool }, versions := s.versions ++ [pool] }.setCall i
            (.committed id s.versions.length) := by
  unfold State.transaction inTransaction Call.write
  cases htx : withTransaction x s.app.pool with
  | error e =>
    refine .inl ⟨.internalServerError s!"{what}: {e}", ?_⟩
    simp only [htx]
  | ok p =>
    obtain ⟨u, pool⟩ := p
    refine .inr ⟨pool, rfl, ?_⟩
    simp only [htx]

/-- A version is committed. -/
theorem StateInv.write {pool : Db} (h : StateInv s) (hsurvivors : Survivors s.app.pool pool) :
    StateInv { s with app := { s.app with pool }, versions := s.versions ++ [pool] } where
  redis := h.redis
  last := List.getLast?_concat ..
  survivors := by
    refine List.pairwise_concat_of_getLast? (fun _ _ _ h₁ h₂ id v hv => ?_) h.survivors h.last
      hsurvivors
    obtain ⟨w, hw⟩ := h₂ id v hv
    exact h₁ id w hw
  floor id := by
    have hlt := h.floor id
    simp only [List.length_append, List.length_singleton]
    omega
  calls i c hcall := by
    have hc := h.calls i c hcall
    cases c with
    | missed id since | committed id version =>
      simp only [CallInv, List.length_append, List.length_singleton] at hc ⊢
      omega
    | fetched id since v => exact Recent.write hc pool
    | got id since result => trivial
    | returned result => trivial

theorem StateInv.evict {id : Uuid} {floor : Uuid → Nat} (h : StateInv s)
    (hfloor : ∀ id, floor id < s.versions.length) :
    StateInv { s with app := { s.app with cache := s.app.cache.evict id }, floor } where
  redis := by
    unfold RedisCache.evict
    rw [Option.isSome_map]
    exact h.redis
  last := h.last
  survivors := h.survivors
  floor := hfloor
  calls := h.calls

theorem Timely.evict {id : Uuid} {floor : Uuid → Nat} (h : Timely s)
    (hfloor : ∀ id' ≠ id, floor id' = s.floor id') :
    Timely { s with app := { s.app with cache := s.app.cache.evict id }, floor } where
  returned := h.returned
  cached := h.cached.evict get_evict (fun _ _ => get_of_get_evict) hfloor

theorem Timely.write {pool : Db} (h : Timely s) :
    Timely { s with app := { s.app with pool }, versions := s.versions ++ [pool] } where
  returned i id since v hcall := (h.returned i id since v hcall).write pool
  cached := h.cached.write pool

/-- The transaction of an operation keeps what is in effect, and its eviction comes later. -/
theorem timely_transaction {i : Nat} {id : Uuid} {what : String} {x : Tx AppError Db Unit}
    (hinv : StateInv s) (h : Timely s)
    (hx : ∀ pool, withTransaction x s.app.pool = .ok ((), pool) → Survivors s.app.pool pool) :
    StateInv (s.transaction i id (inTransaction what x)) ∧
      Timely (s.transaction i id (inTransaction what x)) := by
  rcases transaction_cases s i id what x with ⟨e, heq⟩ | ⟨pool, htx, heq⟩
  · rw [heq]
    exact ⟨hinv.setCall trivial, h.setCall fun _ _ _ hc => by cases hc⟩
  · rw [heq]
    refine ⟨(hinv.write (hx pool htx)).setCall ?_, h.write.setCall fun _ _ _ hc => by cases hc⟩
    simp only [CallInv, List.length_append, List.length_singleton]
    omega

/-- A call writes the cache, and returns. -/
theorem timely_store {i : Nat} {id : Uuid} {since : Nat} {v : CurrentUser} (hinv : StateInv s)
    (h : Timely s) (hcall : s.calls i = some (.fetched id since v)) :
    let app := { s.app with cache := s.app.cache.set id v }
    let t := { s with app }.setCall i (.got id since (.ok v))
    StateInv t ∧ (Timely t ↔ Recent queryUser s.versions (s.floor id) id v) := by
  intro app t
  have hsince : Recent queryUser s.versions since id v := hinv.calls i _ hcall
  have hget : (s.app.cache.set id v).get id = some v := get_set hinv.redis
  have hfresh := h.cached.store_iff hget fun id' hne => get_set_of_ne hne
  constructor
  · have hredis : (s.app.cache.set id v).conn.isSome := by
      unfold RedisCache.set
      rw [Option.isSome_map]
      exact hinv.redis
    have hstored : StateInv { s with app } :=
      ⟨hredis, hinv.last, hinv.survivors, hinv.floor, hinv.calls⟩
    exact hstored.setCall trivial
  · constructor
    · exact fun ht => hfresh.mp ht.cached
    · intro hrecent
      have hstored : Timely { s with app } := ⟨h.returned, hfresh.mpr hrecent⟩
      refine hstored.setCall fun id' since' v' hc => ?_
      cases hc
      exact hsince

/-- A step keeps the invariant, and what is in effect exactly if it meets the condition. -/
theorem timely_step {label : Label} (hinv : StateInv s) (h : Timely s)
    (hstep : step s label = some t) : StateInv t ∧ (Timely t ↔ StoresRecent s label) := by
  cases label with
  | getById i id =>
    simp only [step] at hstep
    split at hstep
    · cases hstep
    split at hstep
    · rename_i cached hcached
      cases hstep
      refine ⟨hinv.setCall trivial, iff_of_true (h.setCall ?_) trivial⟩
      intro id' since v hc
      cases hc
      exact h.cached id cached hcached
    · cases hstep
      refine ⟨hinv.setCall (hinv.floor id), iff_of_true (h.setCall ?_) trivial⟩
      exact fun _ _ _ hc => by cases hc
  | fetch i =>
    simp only [step] at hstep
    split at hstep
    · rename_i id since hcall
      have hsince : since < s.versions.length := hinv.calls i _ hcall
      split at hstep
      · rename_i user huser
        cases hstep
        have hquery : queryUser s.app.pool id = .ok { id := user.id, role := user.role } := by
          unfold queryUser
          rw [huser]
          rfl
        refine ⟨hinv.setCall (recent_of_query hinv.last hsince hquery),
          iff_of_true (h.setCall ?_) trivial⟩
        exact fun _ _ _ hc => by cases hc
      · cases hstep
        refine ⟨hinv.setCall trivial, iff_of_true (h.setCall ?_) trivial⟩
        exact fun _ _ _ hc => by cases hc
    · cases hstep
  | store i =>
    simp only [step] at hstep
    split at hstep
    · rename_i id since currentUser hcall
      cases hstep
      obtain ⟨hinv', hiff⟩ := timely_store hinv h hcall
      refine ⟨hinv', hiff.trans ⟨fun hrecent id' since' v' hcall' => ?_, fun hC => ?_⟩⟩
      · rw [hcall] at hcall'
        cases hcall'
        exact hrecent
      · exact hC id since currentUser hcall
    · cases hstep
  | updateUserAccount i id req =>
    simp only [step] at hstep
    split at hstep
    · cases hstep
    split at hstep
    · cases hstep
      refine ⟨hinv.setCall trivial, iff_of_true (h.setCall ?_) trivial⟩
      exact fun _ _ _ hc => by cases hc
    · cases hstep
      obtain ⟨hinv', h'⟩ := timely_transaction hinv h fun pool => survivors_updateUser
      exact ⟨hinv', iff_of_true h' trivial⟩
  | deleteUserAccount i id =>
    simp only [step] at hstep
    split at hstep
    · cases hstep
    · cases hstep
      obtain ⟨hinv', h'⟩ := timely_transaction hinv h fun pool => survivors_deleteUser
      exact ⟨hinv', iff_of_true h' trivial⟩
  | evict i =>
    simp only [step] at hstep
    split at hstep
    · rename_i id version hcall
      have hversion : version < s.versions.length := hinv.calls i _ hcall
      cases hstep
      refine ⟨(hinv.evict fun id' => ?_).setCall trivial,
        iff_of_true ((h.evict fun id' hne => Function.update_of_ne hne ..).setCall ?_) trivial⟩
      · by_cases hid : id' = id
        · subst hid
          rw [Function.update_self]
          exact max_lt (hinv.floor id') hversion
        · rw [Function.update_of_ne hid]
          exact hinv.floor id'
      · exact fun _ _ _ hc => by cases hc
    · cases hstep
  | expire id =>
    cases hstep
    exact ⟨hinv.evict hinv.floor, iff_of_true (h.evict fun _ _ => rfl) trivial⟩

/-- Over every run: revocations are in effect exactly as long as no call stores what an operation
    that has returned has outdated. -/
theorem effective_iff {app : AppState} {labels : List Label} (hredis : app.cache.conn.isSome)
    (hfresh : ∀ id v, app.cache.get id = some v → queryUser app.pool id = .ok v)
    (hrun : Run.run step (.start app) labels = some t) :
    (∀ u, Run.Visits step (.start app) labels u → Effective u) ↔
      Run.Meets step StoresRecent (.start app) labels := by
  have hinv : StateInv (.start app) :=
    ⟨hredis, rfl, List.pairwise_singleton _ _, fun _ => Nat.zero_lt_one,
      fun _ _ hcall => by cases hcall⟩
  have htimely : Timely (.start app) := by
    refine ⟨fun _ _ _ _ hcall => (by cases hcall), fun id v hcached => ?_⟩
    exact recent_of_query rfl Nat.zero_lt_one (hfresh id v hcached)
  have hstep : ∀ u label v, StateInv u → Effective u → step u label = some v →
      StateInv v ∧ (Effective v ↔ StoresRecent u label) := by
    intro u label v hu heffective hstep
    obtain ⟨hv, hiff⟩ := timely_step hu ((effective_iff_timely hu).mp heffective) hstep
    exact ⟨hv, (effective_iff_timely hv).trans hiff⟩
  exact Run.run_forall_iff hstep hinv ((effective_iff_timely hinv).mpr htimely) hrun

/-! ## A revocation undone -/

instance (s : State) : DecidablePred (StoresRecent s)
  | .store i =>
    match h : s.calls i with
    | some (.fetched id since v) =>
      decidable_of_iff (Recent queryUser s.versions (s.floor id) id v)
        ⟨fun hrecent id' since' v' hcall => by
          rw [h] at hcall
          cases hcall
          exact hrecent, fun hC => hC id since v h⟩
    | none | some (.missed ..) | some (.got ..) | some (.committed ..) | some (.returned _) =>
      .isTrue fun id since v hcall => by
        rw [h] at hcall
        cases hcall
  | .getById .. | .fetch _ | .updateUserAccount .. | .deleteUserAccount .. | .evict _
  | .expire _ => .isTrue trivial

/-- A call has returned a role that the user has not had since the call began. -/
theorem not_effective {i : Nat} {id : Uuid} {since : Nat} {v : CurrentUser}
    (hcall : s.calls i = some (.got id since (.ok v)))
    (hstale : ¬ Recent queryUser s.versions since id v) : ¬ Effective s :=
  fun heffective => hstale (heffective.returned i id since v hcall).role

/-- A registered administrator. -/
def registered : AppState :=
  (Service.createUserAccount sampleRandom { sampleCreateReq with role := .admin }).final
    { authConfig := testAuthConfig }

/-- The operations on the account. -/
def demote : Label :=
  .updateUserAccount 1 ⟨3, 0⟩ { username := sampleCreateReq.username
                                email := sampleCreateReq.email
                                phone := sampleCreateReq.phone, role := .buyer }

def delete : Label := .deleteUserAccount 1 ⟨3, 0⟩

/-- A reader has read the row before an operation, and stores it when the operation has
    returned. Another reader follows. -/
def storedLate (operation : Label) : List Label :=
  [.getById 0 ⟨3, 0⟩, .fetch 0, operation, .evict 1, .store 0, .getById 2 ⟨3, 0⟩]

/-- The reader stores the row before the operation evicts it. -/
def storedInTime (operation : Label) : List Label :=
  [.getById 0 ⟨3, 0⟩, .fetch 0, operation, .store 0, .evict 1, .getById 2 ⟨3, 0⟩, .fetch 2]

/-- The administrator before the operation. -/
def administrator : CurrentUser := { id := ⟨3, 0⟩, role := .admin }

/-- Call `2` has begun after the operation, and has returned the administrator of before. -/
def Undone (s : State) : Prop :=
  s.calls 1 = some (.returned (.ok ())) ∧
    s.calls 2 = some (.got ⟨3, 0⟩ 1 (.ok administrator)) ∧
      ¬ Recent queryUser s.versions 1 ⟨3, 0⟩ administrator

instance : DecidablePred Undone := fun _ => inferInstanceAs (Decidable (_ ∧ _))

theorem Undone.not_effective (h : Undone s) : ¬ Effective s :=
  CurrentUserRead.not_effective h.2.1 h.2.2

/-- After a demotion, and after a deletion, the user is still an administrator. -/
theorem revocation_undone :
    (∃ t, Run.run step (.start registered) (storedLate demote) = some t ∧ Undone t ∧
      ¬ Effective t) ∧
    ∃ t, Run.run step (.start registered) (storedLate delete) = some t ∧ Undone t ∧
      ¬ Effective t := by
  obtain ⟨t, ht, hdemoted⟩ : ∃ t, Run.run step (.start registered) (storedLate demote) = some t ∧
    Undone t := Run.run_decide (by decide +kernel)
  obtain ⟨u, hu, hdeleted⟩ : ∃ u, Run.run step (.start registered) (storedLate delete) = some u ∧
    Undone u := Run.run_decide (by decide +kernel)
  exact ⟨⟨t, ht, hdemoted, hdemoted.not_effective⟩, u, hu, hdeleted, hdeleted.not_effective⟩

/-- The eviction comes after the reader has stored the row. -/
theorem effective_iff_storedInTime :
    ∃ t, Run.run step (.start registered) (storedInTime demote) = some t ∧ Effective t ∧
      t.calls 2 = some (.fetched ⟨3, 0⟩ 1 { id := ⟨3, 0⟩, role := .buyer }) := by
  have hdecide : (Run.run step (.start registered) (storedInTime demote)).map (fun t =>
      decide (t.calls 2 = some (.fetched ⟨3, 0⟩ 1 { id := ⟨3, 0⟩, role := .buyer }))) =
        some true := by
    decide +kernel
  obtain ⟨t, hrun, hbuyer⟩ := Run.run_decide hdecide
  have hempty : ∀ id v, registered.cache.get id = some v →
      queryUser registered.pool id = .ok v := by
    intro id v hcached
    have hnone : registered.cache.get id = none := by
      have hcache : registered.cache = ⟨some .empty⟩ := by decide +kernel
      rw [hcache]
      rfl
    rw [hnone] at hcached
    cases hcached
  have hmeets : Run.Meets step StoresRecent (.start registered) (storedInTime demote) := by
    decide +kernel
  have heffective := (effective_iff (by decide +kernel) hempty hrun).mpr hmeets
  exact ⟨t, hrun, heffective t ⟨_, [], (List.append_nil _).symm, hrun⟩, hbuyer⟩

end Koupang.Identity.CurrentUserRead
