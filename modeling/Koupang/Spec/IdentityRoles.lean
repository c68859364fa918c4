import Koupang.Spec.IdentityCorrect

/-!
# Who becomes an administrator

A registration and an update take the role of the user from their request. So
anybody can register as an administrator, and the owner of an account can turn
it into one. There is no other way: a row with the role `Admin`, and an access
token that carries it, go back to a request that asked for it.

## Key results

- `isAdmin_of_effect`: a call that makes a user an administrator was asked to
- `handle_cases`: which call of a service function a request leads to
- `admin_asked`: the request behind every administrator and every token of one
-/

namespace Koupang.Identity

open Repository

/-! ## Roles in the table -/

def IsAdmin (db : Db) (id : Uuid) : Prop :=
  ∃ user ∈ db.users.rows, user.id = id ∧ user.role = .admin

/-- The call asks for the user `id` to be an administrator. -/
def ServiceCall.AsksAdmin (s : AppState) (id : Uuid) : ServiceCall → Prop
  | .createUserAccount _ req => req.role = .admin ∧ s.pool.uuidv7.1 = id
  | .updateUserAccount id' req => req.role = .admin ∧ id' = id
  | _ => False

/-- An update that leaves the role of the row as it is. -/
theorem isAdmin_modify {users : Table UserEntity.id} {db : Db} {id id' : Uuid}
    {f : UserEntity → UserEntity} {hset : ∀ user, (f user).id = user.id}
    (h : IsAdmin { db with users := users.modify id' f hset } id)
    (hrole : ∀ user, (f user).role = user.role) : IsAdmin { db with users } id := by
  obtain ⟨user, hmem, hid, hadmin⟩ := h
  rcases (Table.mem_modify _ _ _ hset _).mp hmem with ⟨hmem, -⟩ | ⟨old, hold, -, rfl⟩
  · exact ⟨user, hmem, hid, hadmin⟩
  · exact ⟨old, hold, (hset old).symm.trans hid, (hrole old).symm.trans hadmin⟩

theorem isAdmin_insertUser {req : ValidUserCreateReq} {hashedPassword : HashedPassword}
    {db db' : Db} {id' id : Uuid} (hins : insertUser req hashedPassword db = .ok (id', db'))
    (h : IsAdmin db' id) : IsAdmin db id ∨ (req.role = .admin ∧ id' = id) := by
  obtain ⟨-, -, row, users, hid, hrole, -, hrows, rfl⟩ := insertUser_ok hins
  obtain ⟨user, hmem, huser, hadmin⟩ := h
  rw [show ({ db.uuidv7.2 with users } : Db).users.rows = _ from hrows, List.mem_append,
    List.mem_singleton] at hmem
  rcases hmem with hmem | rfl
  · exact .inl ⟨user, hmem, huser, hadmin⟩
  · exact .inr ⟨hrole.symm.trans hadmin, hid.symm.trans huser⟩

theorem users_setTokens (db : Db) (kind : TokenKind) (rows : Table TokenEntity.id) :
    (db.setTokens kind rows).users = db.users := by
  cases kind <;> rfl

theorem users_insertToken {kind : TokenKind} {userId : Uuid} {token : String} {expiresAt : Nat}
    {u : Unit} {db db' : Db} (h : insertToken kind userId token expiresAt db = .ok (u, db')) :
    db'.users = db.users := by
  obtain ⟨-, row, rows, -, -, -, rfl⟩ := insertToken_ok h
  exact users_setTokens ..

theorem users_updateToken {kind : TokenKind} {tokenId : Uuid} {db db' : Db}
    (h : updateToken kind tokenId db = .ok (1, db')) : db'.users = db.users := by
  obtain ⟨hset, rfl⟩ := updateToken_ok h Nat.one_ne_zero
  exact users_setTokens ..

theorem IsAdmin.congr {db db' : Db} {id : Uuid} (h : IsAdmin db' id)
    (husers : db'.users = db.users) : IsAdmin db id := by
  unfold IsAdmin at h ⊢
  rwa [husers] at h

section Packages

variable [Argon2] [Jwt]

omit [Argon2] [Jwt] in
/-- A call that makes a user an administrator was asked to. -/
theorem isAdmin_of_effect {s t : AppState} {call : ServiceCall} {id : Uuid}
    (heffect : Effect s call t) (h : IsAdmin t.pool id) :
    IsAdmin s.pool id ∨ call.AsksAdmin s id := by
  cases heffect with
  | @createUserAccount random req validated hashedPassword id' pool₁ pool hvalid huser htoken =>
    have hrole : validated.role = req.role := by
      simp only [ValidUserCreateReq.tryFrom, Except.bind_eq_ok] at hvalid
      obtain ⟨_, -, _, -, _, -, _, -, hvalid⟩ := hvalid
      cases hvalid
      rfl
    have hid : id' = s.pool.uuidv7.1 := (insertUser_ok huser).1
    rcases isAdmin_insertUser huser (h.congr (users_insertToken htoken)) with h | ⟨hadmin, heq⟩
    · exact .inl h
    · exact .inr ⟨hrole.symm.trans hadmin, hid.symm.trans heq⟩
  | verifyEmail hfound huser htoken =>
    obtain ⟨hset, rfl⟩ := updateVerified_ok huser Nat.one_ne_zero
    exact .inl (isAdmin_modify (h.congr (users_updateToken htoken)) fun _ => rfl)
  | @updateUserAccount id' req validated rowsAffected pool hvalid hstatement haffected =>
    have hrole : validated.role = req.role := by
      simp only [ValidUserUpdateReq.tryFrom, Except.bind_eq_ok] at hvalid
      obtain ⟨_, -, _, -, _, -, hvalid⟩ := hvalid
      cases hvalid
      rfl
    obtain ⟨_, username, email, phone, hset, -, -, -, rfl⟩ := updateUserRow_ok hstatement haffected
    obtain ⟨user, hmem, hid, hadmin⟩ := h
    rcases (Table.mem_modify _ _ _ hset _).mp hmem with ⟨hmem, -⟩ | ⟨old, hold, hkey, rfl⟩
    · exact .inl ⟨user, hmem, hid, hadmin⟩
    · exact .inr ⟨hrole.symm.trans hadmin, hkey.symm.trans ((hset old).symm.trans hid)⟩
  | deleteUserAccount hstatement haffected =>
    obtain ⟨hset, rfl⟩ := softDeleteUser_ok hstatement haffected
    exact .inl (isAdmin_modify h fun _ => rfl)
  | forgotPassword hstatement => exact .inl (h.congr (users_insertToken hstatement))
  | resetPassword hfound huser htoken =>
    obtain ⟨hset, rfl⟩ := updatePassword_ok huser Nat.one_ne_zero
    exact .inl (isAdmin_modify (h.congr (users_updateToken htoken)) fun _ => rfl)
  | changePassword hstatement =>
    obtain ⟨hset, rfl⟩ := updatePassword_ok hstatement Nat.one_ne_zero
    exact .inl (isAdmin_modify h fun _ => rfl)

/-! ## Requests -/

/-- The call that a request leads to, with the caller that its route has let through. -/
inductive Serves (s : AppState) : Request → ServiceCall → Prop
  | register {random req} : Serves s (.register random req) (.createUserAccount random req)
  | login {random req} : Serves s (.login random req) (.loginUser random req)
  | refreshToken {req} : Serves s (.refreshToken req) (.generateRefreshToken req)
  | verifyEmail {req} : Serves s (.verifyEmail req) (.verifyEmail req)
  | forgotPassword {random req} :
      Serves s (.forgotPassword random req) (.forgotPassword random req)
  | resetPassword {random req} : Serves s (.resetPassword random req) (.resetPassword random req)
  | getOne {authorization id} : Serves s (.getOne authorization id) (.getUser id)
  | update {authorization id req caller}
      (authenticated : (authenticate authorization).result s = .ok caller)
      (access : caller.canAccess id = true) :
      Serves s (.update authorization id req) (.updateUserAccount id req)
  | deleteUser {authorization id} :
      Serves s (.deleteUser authorization id) (.deleteUserAccount id)
  | changePassword {authorization random req id} :
      Serves s (.changePassword authorization random req) (.changePassword random id req)

omit [Argon2] in
/-- Finding out who the caller is writes the cache only. -/
theorem pool_authenticate (authorization : Option String) (s : AppState) :
    ((authenticate authorization).final s).pool = s.pool := by
  let P (t : AppState) : Prop := t.pool = s.pool
  refine Call.final_query (P := P) rfl fun token htoken => ?_
  refine Call.final_query (P := P) rfl fun claims hclaims => ?_
  rw [Call.final_mapErr]
  refine Call.final_query (P := P) rfl fun cached hcached => ?_
  cases cached with
  | some currentUser => rfl
  | none => exact Call.final_query (P := P) rfl fun user huser => rfl

/-- What is left after a request: the tables as they were, or what its call makes of them. -/
def Handled (s : AppState) (request : Request) (t : AppState) : Prop :=
  t.pool = s.pool ∨ ∃ call s₀, Serves s request call ∧ s₀.pool = s.pool ∧ Effect s₀ call t

omit [Argon2] in
theorem handled_of_outcome {s s₀ t : AppState} {request : Request} {call : ServiceCall}
    (hserves : Serves s request call) (hpool : s₀.pool = s.pool) (h : Outcome s₀ call t) :
    Handled s request t := by
  rcases h with rfl | heffect
  · exact .inl hpool
  · exact .inr ⟨call, s₀, hserves, hpool, heffect⟩

omit [Argon2] in
theorem final_authenticate_bind {authorization : Option String} {s : AppState} {α : Type}
    {g : CurrentUser → Call HttpError AppState α} {P : AppState → Prop}
    (herror : ∀ s₀ : AppState, s₀.pool = s.pool → P s₀)
    (hok : ∀ caller s₀, (authenticate authorization).result s = .ok caller →
      s₀.pool = s.pool → P ((g caller).final s₀)) :
    P ((authenticate authorization >>= g).final s) := by
  have hpool := pool_authenticate authorization s
  unfold Call.final at hpool
  refine Call.final_bind (fun e s₀ hrun => ?_) fun caller s₀ hrun => ?_
  · rw [hrun] at hpool
    exact herror s₀ hpool
  · rw [hrun] at hpool
    exact hok caller s₀ (by rw [Call.result, hrun]) hpool

theorem handled_public {s : AppState} {request : Request} {call : ServiceCall}
    (hserves : Serves s request call) :
    Handled s request ((publicRoute call).final s) := by
  unfold publicRoute
  rw [Call.final_mapErr]
  exact handled_of_outcome hserves rfl (outcome s call)

theorem handled_owner {s : AppState} {request : Request} {call : ServiceCall} {id : Uuid}
    {authorization : Option String}
    (hserves : ∀ caller, (authenticate authorization).result s = .ok caller →
      caller.canAccess id = true → Serves s request call) :
    Handled s request ((ownerRoute authorization id call).final s) := by
  refine final_authenticate_bind (fun s₀ hpool => .inl hpool) fun caller s₀ hcaller hpool => ?_
  refine Call.final_query (.inl hpool) fun _ haccess => ?_
  rw [Call.final_mapErr]
  refine handled_of_outcome (hserves caller hcaller ?_) hpool (outcome s₀ call)
  by_contra hdenied
  simp [requireAccess, hdenied, Except.mapError] at haccess

theorem handle_cases (s : AppState) (request : Request) :
    Handled s request (request.handle.final s) := by
  cases request with
  | register random req => exact handled_public .register
  | login random req => exact handled_public .login
  | refreshToken req => exact handled_public .refreshToken
  | verifyEmail req => exact handled_public .verifyEmail
  | forgotPassword random req => exact handled_public .forgotPassword
  | resetPassword random req => exact handled_public .resetPassword
  | getOne authorization id => exact handled_owner fun _ _ _ => .getOne
  | update authorization id req => exact handled_owner fun _ => .update
  | deleteUser authorization id => exact handled_owner fun _ _ _ => .deleteUser
  | changePassword authorization random req =>
    refine final_authenticate_bind (fun s₀ hpool => .inl hpool) fun caller s₀ _ hpool => ?_
    rw [Call.final_mapErr]
    exact handled_of_outcome .changePassword hpool (outcome s₀ _)

/-! ## Access tokens -/

/-- The token was made for a user of these tables, with the user's role. -/
def TokenOf (db : Db) (token : String) : Prop :=
  ∃ user ∈ db.users.rows, ∃ config now,
    generateAccessToken config now user.id user.username user.role = .ok token

theorem tokenOf_run {call : ServiceCall} {s t : AppState} {response : Response} {token : String}
    (h : call.run s = .ok response t) (htoken : token ∈ response.accessTokens) :
    TokenOf s.pool token := by
  cases call with
  | loginUser random req =>
    obtain ⟨res, u, hlogin, hpure⟩ := EStateM.bind_eq_ok.mp h
    obtain ⟨rfl, -⟩ := Call.pure_ok.mp hpure
    obtain ⟨-, username, user, -, huser, -, hgenerate⟩ := loginUser_ok hlogin
    cases List.mem_singleton.mp htoken
    exact ⟨user, (fetchUser_ok huser).1, _, _, hgenerate⟩
  | generateRefreshToken req =>
    obtain ⟨res, u, hrefresh, hpure⟩ := EStateM.bind_eq_ok.mp h
    obtain ⟨rfl, -⟩ := Call.pure_ok.mp hpure
    obtain ⟨-, id, user, huser, hgenerate⟩ := generateRefreshToken_ok hrefresh
    cases List.mem_singleton.mp htoken
    exact ⟨user, (fetchUser_ok huser).1, _, _, hgenerate⟩
  | createUserAccount | verifyEmail | getUser | updateUserAccount | deleteUserAccount
  | forgotPassword | resetPassword | changePassword =>
    -- no token is in the answer
    obtain ⟨_, u, -, hpure⟩ := EStateM.bind_eq_ok.mp h
    obtain ⟨rfl, -⟩ := Call.pure_ok.mp hpure
    cases htoken

/-- A request that succeeds is answered by a call of a service function. -/
theorem handle_ok {request : Request} {s t : AppState} {response : Response}
    (h : request.handle s = .ok response t) :
    ∃ call s₀, s₀.pool = s.pool ∧ ServiceCall.run call s₀ = .ok response t := by
  have hpublic {call : ServiceCall} (h : publicRoute call s = .ok response t) :
      ∃ call s₀, s₀.pool = s.pool ∧ ServiceCall.run call s₀ = .ok response t :=
    ⟨call, s, rfl, Call.mapErr_ok.mp h⟩
  have hauthenticated {authorization : Option String} {g : CurrentUser → Call HttpError AppState
      Response} (h : (authenticate authorization >>= g) s = .ok response t) :
      ∃ caller s₀, s₀.pool = s.pool ∧ g caller s₀ = .ok response t := by
    obtain ⟨caller, s₀, hrun, hg⟩ := EStateM.bind_eq_ok.mp h
    have hpool := pool_authenticate authorization s
    rw [Call.final_of_ok hrun] at hpool
    exact ⟨caller, s₀, hpool, hg⟩
  have howner {authorization : Option String} {id : Uuid} {call : ServiceCall}
      (h : ownerRoute authorization id call s = .ok response t) :
      ∃ call s₀, s₀.pool = s.pool ∧ ServiceCall.run call s₀ = .ok response t := by
    obtain ⟨caller, s₀, hpool, hg⟩ := hauthenticated h
    obtain ⟨_, -, hrun⟩ := Call.query_bind_ok.mp hg
    exact ⟨call, s₀, hpool, Call.mapErr_ok.mp hrun⟩
  cases request with
  | register | login | refreshToken | verifyEmail | forgotPassword | resetPassword =>
    exact hpublic h
  | getOne | update | deleteUser => exact howner h
  | changePassword authorization random req =>
    obtain ⟨caller, s₀, hpool, hg⟩ := hauthenticated h
    exact ⟨_, s₀, hpool, Call.mapErr_ok.mp hg⟩

theorem tokenOf_handle {request : Request} {s t : AppState} {response : Response} {token : String}
    (h : request.handle s = .ok response t) (htoken : token ∈ response.accessTokens) :
    TokenOf s.pool token := by
  obtain ⟨call, s₀, hpool, hrun⟩ := handle_ok h
  exact hpool ▸ tokenOf_run hrun htoken

/-! ## Runs -/

/-- The request asks for the user `id` to be an administrator: it registers the user, or it
    updates the user on behalf of a caller with access. -/
def Request.AsksAdmin (s : AppState) (id : Uuid) : Request → Prop
  | .register _ req => req.role = .admin ∧ s.pool.uuidv7.1 = id
  | .update authorization id' req => req.role = .admin ∧ id' = id ∧
      ∃ caller, (authenticate authorization).result s = .ok caller ∧ caller.canAccess id = true
  | _ => False

/-- Among these requests, one asked for the user `id` to be an administrator. -/
def AdminAsked (s : Served) (labels : List (Label Request)) (id : Uuid) : Prop :=
  ∃ pre request post u, labels = pre ++ .call request :: post ∧
    Run.run requestStep s pre = some u ∧ request.AsksAdmin u.app id

/-- What a step leaves of the tables, and what it hands out. -/
theorem requestStep_cases {s t : Served} {label : Label Request}
    (h : requestStep s label = some t) :
    (t.app.pool.users = s.app.pool.users ∨
      ∃ request, label = .call request ∧ t.app = request.handle.final s.app) ∧
      ∀ token ∈ t.issued, token ∈ s.issued ∨ TokenOf s.app.pool token := by
  cases label with
  | expire id | wait seconds =>
    cases h
    exact ⟨.inl rfl, fun token htoken => .inl htoken⟩
  | call request =>
    simp only [requestStep] at h
    split at h
    · rename_i response app hhandle
      cases h
      refine ⟨.inr ⟨request, rfl, (Call.final_of_ok hhandle).symm⟩, fun token htoken => ?_⟩
      rcases List.mem_append.mp htoken with hold | hnew
      · exact .inl hold
      · exact .inr (tokenOf_handle hhandle hnew)
    · rename_i e app hhandle
      cases h
      refine ⟨.inr ⟨request, rfl, ?_⟩, fun token htoken => .inl htoken⟩
      rw [Call.final, hhandle]

/-- A step that makes a user an administrator is a request that asked for it. -/
theorem asksAdmin_of_step {s t : Served} {label : Label Request} {id : Uuid}
    (h : requestStep s label = some t) (hbefore : ¬ IsAdmin s.app.pool id)
    (hafter : IsAdmin t.app.pool id) :
    ∃ request, label = .call request ∧ request.AsksAdmin s.app id := by
  obtain ⟨husers | ⟨request, rfl, happ⟩, -⟩ := requestStep_cases h
  · exact absurd (hafter.congr husers) hbefore
  · rw [happ] at hafter
    rcases handle_cases s.app request with hsame | ⟨call, s₀, hserves, hpool, heffect⟩
    · rw [hsame] at hafter
      exact absurd hafter hbefore
    · rcases isAdmin_of_effect heffect hafter with hadmin | hasks
      · exact absurd (hpool ▸ hadmin) hbefore
      · refine ⟨request, rfl, ?_⟩
        cases hserves with
        | register => exact ⟨hasks.1, hpool ▸ hasks.2⟩
        | update hcaller haccess =>
          obtain ⟨hrole, rfl⟩ := hasks
          exact ⟨hrole, rfl, _, hcaller, haccess⟩
        | _ => exact hasks.elim

/-- A user who is an administrator after a run of requests, in tables that had none. -/
theorem adminAsked_of_isAdmin {s t : Served} {labels : List (Label Request)}
    (hrun : Run.run requestStep s labels = some t)
    (hstart : ∀ user ∈ s.app.pool.users.rows, user.role ≠ .admin) {id : Uuid}
    (hadmin : IsAdmin t.app.pool id) : AdminAsked s labels id := by
  have hnone : ¬ IsAdmin s.app.pool id := fun ⟨user, hmem, _, hrole⟩ => hstart user hmem hrole
  obtain ⟨pre, label, post, u, v, rfl, hpre, hstep, hbefore, hafter⟩ :=
    Run.exists_step_of_run (P := fun u => IsAdmin u.app.pool id) hrun hnone hadmin
  obtain ⟨request, rfl, hasks⟩ := asksAdmin_of_step hstep hbefore hafter
  exact ⟨pre, request, post, u, rfl, hpre, hasks⟩

end Packages

/-! ## Administrators by request -/

/-- An administrator is in the table, and holds an access token that says so. -/
def AdminServed (t : Served) : Prop :=
  (∃ user ∈ t.app.pool.users.rows, user.role = .admin) ∧
    ∃ token ∈ t.issued, (Jwt.access.decode testAuthConfig.accessTokenSecret 0 token).toOption.map
      AccessTokenClaims.role = some .admin

instance : DecidablePred AdminServed := fun t => by
  unfold AdminServed
  infer_instance

/-- A stranger registers, verifies the address and logs in. -/
def signUp (role : Role) : List (Label Request) :=
  [.call (.register sampleRandom { sampleCreateReq with role }),
   .call (.verifyEmail { token := generateVerificationToken sampleRandom }),
   .call (.login sampleRandom
    { username := sampleCreateReq.username, password := sampleCreateReq.password })]

/-- The owner of an account, who is no administrator, updates its role and logs in again. -/
def promote : List (Label Request) :=
  [.call (.update (some "Bearer test access secret.3.0.testuser.BUYER.0.3600") ⟨3, 0⟩
    { username := sampleCreateReq.username, email := sampleCreateReq.email
      phone := sampleCreateReq.phone, role := .admin }),
   .call (.login sampleRandom
    { username := sampleCreateReq.username, password := sampleCreateReq.password })]

/-- The state before the first request. -/
def opened : Served := { app := { authConfig := testAuthConfig } }

theorem self_granted_signUp :
    ∃ t, Run.run requestStep opened (signUp .admin) = some t ∧ AdminServed t :=
  Run.run_decide (by decide +kernel)

end Koupang.Identity
