import Koupang.ForStd.Run
import Koupang.Model.IdentityRoutes
import Koupang.Spec.SharedCorrect

/-!
# What a call of the identity service does

A call changes nothing, or it has passed its checks and executed its statements.
`Effect` says for each function which checks and which statements, and the
lemmas before it what a statement that succeeds has done to its table.

## Key results

- `outcome`: a call changes nothing or has its effect
- `loginUser_ok`, `generateRefreshToken_ok`: whose access token a call returns
-/

namespace Koupang.Identity

open Repository

/-! ## Statements -/

section Statements

variable {db db' : Db}

theorem fetchUser_ok {p : UserEntity → Bool} {user : UserEntity}
    (h : fetchUser p db = .ok user) :
    user ∈ db.users.rows ∧ p user = true ∧ user.deletedAt = none := by
  unfold fetchUser at h
  split at h
  · rename_i found hfind
    cases h
    have hmem := List.mem_of_find?_eq_some hfind
    have hp := List.find?_some hfind
    simp only [Bool.and_eq_true, Option.isNone_iff_eq_none] at hp
    exact ⟨hmem, hp.1, hp.2⟩
  · cases h

theorem findValidToken_some {kind : TokenKind} {token : String} {row : TokenEntity}
    (h : findValidToken kind token db = some row) :
    row ∈ (db.tokens kind).rows ∧ row.token = token ∧ row.usedAt = none := by
  have hp := List.find?_some h
  simp only [Bool.and_eq_true, decide_eq_true_eq, Option.isNone_iff_eq_none] at hp
  exact ⟨List.mem_of_find?_eq_some h, hp.1.1, hp.1.2⟩

theorem getValidVerificationToken_ok {token : String} {row : TokenEntity} :
    getValidVerificationToken token db = .ok row ↔
      findValidToken .emailVerification token db = some row := by
  unfold getValidVerificationToken
  cases findValidToken .emailVerification token db <;> simp

theorem getValidPasswordResetToken_ok {token : String} {row : TokenEntity} :
    getValidPasswordResetToken token db = .ok row ↔
      findValidToken .passwordReset token db = some row := by
  unfold getValidPasswordResetToken
  cases findValidToken .passwordReset token db <;> simp

/-- A user who is inserted has the role of the request, and is not verified. -/
theorem insertUser_ok {req : ValidUserCreateReq} {hashedPassword : HashedPassword} {id : Uuid}
    (h : insertUser req hashedPassword db = .ok (id, db')) :
    id = db.uuidv7.1 ∧ db.users.find? id = none ∧
      ∃ row users, row.id = id ∧ row.role = req.role ∧ row.emailVerified = false ∧
        users.rows = db.users.rows ++ [row] ∧ db' = { db.uuidv7.2 with users } := by
  simp only [insertUser, Except.bind_eq_ok] at h
  obtain ⟨⟨username, email, phone⟩, -, -, -, h⟩ := h
  split at h
  · exact absurd h Except.throw_ne_ok
  · rename_i users hins
    cases h
    obtain ⟨hnone, hrows⟩ := (Table.insert_eq_some ..).mp hins
    exact ⟨rfl, hnone, _, users, rfl, rfl, rfl, hrows, rfl⟩

/-- A token that is inserted belongs to a user who is there. -/
theorem insertToken_ok {kind : TokenKind} {userId : Uuid} {token : String} {expiresAt : Nat}
    {u : Unit} (h : insertToken kind userId token expiresAt db = .ok (u, db')) :
    (db.users.find? userId).isSome ∧ ∃ row rows, row.userId = userId ∧ row.usedAt = none ∧
      rows.rows = (db.tokens kind).rows ++ [row] ∧ db' = db.uuidv7.2.setTokens kind rows := by
  simp only [insertToken, Except.bind_eq_ok, Except.guard_eq_ok] at h
  obtain ⟨stored, -, -, huser, h⟩ := h
  split at h
  · exact absurd h Except.throw_ne_ok
  · rename_i rows hins
    cases h
    obtain ⟨-, hrows⟩ := (Table.insert_eq_some ..).mp hins
    have hsome : (db.users.find? userId).isSome := by
      simpa [Db.uuidv7, Option.isSome_iff_ne_none] using huser
    exact ⟨hsome, _, rows, rfl, rfl, hrows, rfl⟩

theorem updateToken_ok {kind : TokenKind} {tokenId : Uuid} {n : Nat}
    (h : updateToken kind tokenId db = .ok (n, db')) (hn : n ≠ 0) :
    ∃ hset, db' = db.setTokens kind ((db.tokens kind).modify tokenId (setUsed db.now) hset) := by
  unfold updateToken at h
  split at h
  · cases h
    exact absurd rfl hn
  · cases h
    exact ⟨_, rfl⟩

theorem updateVerified_ok {userId : Uuid} {n : Nat}
    (h : updateVerified userId db = .ok (n, db')) (hn : n ≠ 0) :
    ∃ hset, db' = { db with users := db.users.modify userId (setVerified db.now) hset } := by
  unfold updateVerified at h
  split at h
  · cases h
    exact absurd rfl hn
  · cases h
    exact ⟨_, rfl⟩

theorem updatePassword_ok {userId : Uuid} {hashedPassword : HashedPassword} {n : Nat}
    (h : updatePassword userId hashedPassword db = .ok (n, db')) (hn : n ≠ 0) :
    ∃ hset, db' =
      { db with users := db.users.modify userId (setPassword hashedPassword db.now) hset } := by
  unfold updatePassword at h
  split at h
  · cases h
    exact absurd rfl hn
  · cases h
    exact ⟨_, rfl⟩

theorem updateUserRow_ok {id : Uuid} {req : ValidUserUpdateReq} {n : Nat}
    (h : updateUserRow id req db = .ok (n, db')) (hn : n ≠ 0) :
    ∃ user username email phone hset, db.users.find? id = some user ∧ user.deletedAt = none ∧
      userColumns req.username req.email req.phone = .ok (username, email, phone) ∧
      db' = { db with users :=
        db.users.modify id (setProfile username email phone req.role db.now) hset } := by
  unfold updateUserRow at h
  split at h
  · cases h
    exact absurd rfl hn
  · rename_i user hfound
    obtain ⟨hfind, hlive⟩ := Option.filter_eq_some_iff.mp hfound
    simp only [Except.bind_eq_ok] at h
    obtain ⟨⟨username, email, phone⟩, hcolumns, -, -, h⟩ := h
    cases h
    exact ⟨user, username, email, phone, _, hfind, by simpa using hlive, hcolumns, rfl⟩

theorem softDeleteUser_ok {id : Uuid} {n : Nat}
    (h : softDeleteUser id db = .ok (n, db')) (hn : n ≠ 0) :
    ∃ hset, db' = { db with users := db.users.modify id (setDeleted db.now) hset } := by
  unfold softDeleteUser at h
  split at h
  · cases h
    exact absurd rfl hn
  · cases h
    exact ⟨_, rfl⟩

/-- An update that asserts that it has affected one row. -/
theorem affectsOne_ok {onError : String → AppError} {f : Db → Except String (Nat × Db)}
    {s t : TxState Db} {u : Unit} :
    (do let rowsAffected ← Tx.statement onError f; assertAffected rowsAffected : Tx AppError Db Unit)
      s = .ok u t ↔ s.aborted = false ∧ ∃ db, f s.db = .ok (1, db) ∧ t = { s with db } := by
  rw [Tx.bind_ok]
  constructor
  · rintro ⟨rowsAffected, s', hs', hassert⟩
    obtain ⟨hab, db, hf, rfl⟩ := Tx.statement_ok.mp hs'
    unfold assertAffected at hassert
    by_cases hone : rowsAffected = 1
    · rw [if_pos hone] at hassert
      obtain ⟨-, rfl⟩ := Tx.pure_ok.mp hassert
      exact ⟨hab, db, hone ▸ hf, rfl⟩
    · rw [if_neg hone] at hassert
      exact absurd hassert Tx.throw_ok
  · rintro ⟨hab, db, hf, rfl⟩
    exact ⟨1, _, Tx.statement_ok.mpr ⟨hab, db, hf, rfl⟩, rfl⟩

/-- Two such updates, one after the other, in one transaction. -/
theorem withTransaction_affectsOne {onError onError' : String → AppError}
    {f g : Db → Except String (Nat × Db)} {u : Unit} :
    withTransaction (do
      (do let rowsAffected ← Tx.statement onError f; assertAffected rowsAffected)
      let rowsAffected ← Tx.statement onError' g
      assertAffected rowsAffected) db = .ok (u, db') ↔
      ∃ db₁, f db = .ok (1, db₁) ∧ g db₁ = .ok (1, db') := by
  constructor
  · intro h
    obtain ⟨s, hs, rfl⟩ := withTransaction_run h
    obtain ⟨_, s₁, hs₁, hs⟩ := Tx.bind_ok.mp hs
    obtain ⟨-, db₁, hf, rfl⟩ := affectsOne_ok.mp hs₁
    obtain ⟨-, db₂, hg, rfl⟩ := affectsOne_ok.mp hs
    exact ⟨db₁, hf, hg⟩
  · rintro ⟨db₁, hf, hg⟩
    unfold withTransaction
    rw [Tx.attempt_eq_committed.mpr ⟨{ Tx.begin db with db := db' }, ?_, rfl, rfl⟩]
    refine Tx.bind_ok.mpr ⟨(), { Tx.begin db with db := db₁ }, ?_, ?_⟩
    · exact affectsOne_ok.mpr ⟨rfl, db₁, hf, rfl⟩
    · exact affectsOne_ok.mpr ⟨rfl, db', hg, rfl⟩

end Statements

/-! ## Effects -/

section Effect

variable [Argon2] [Jwt]

/-- What a call that gets to its statements does in the state `s`. -/
inductive Effect (s : AppState) : ServiceCall → AppState → Prop
  | createUserAccount {random req validated hashedPassword id pool₁ pool}
      (valid : ValidUserCreateReq.tryFrom req = .ok validated)
      (user : insertUser validated hashedPassword s.pool = .ok (id, pool₁))
      (token : insertToken .emailVerification id (generateVerificationToken random)
        (s.pool.now + tokenLifetime) pool₁ = .ok ((), pool)) :
      Effect s (.createUserAccount random req)
        { s with pool, emails := s.emails ++
                   [verificationEmail validated.email.value (generateVerificationToken random)] }
  | verifyEmail {req row pool₁ pool}
      (found : findValidToken .emailVerification req.token s.pool = some row)
      (user : updateVerified row.userId s.pool = .ok (1, pool₁))
      (token : updateToken .emailVerification row.id pool₁ = .ok (1, pool)) :
      Effect s (.verifyEmail req) { s with pool }
  | updateUserAccount {id req validated rowsAffected pool}
      (valid : ValidUserUpdateReq.tryFrom req = .ok validated)
      (statement : updateUserRow id validated s.pool = .ok (rowsAffected, pool))
      (affected : rowsAffected ≠ 0) :
      Effect s (.updateUserAccount id req) { s with pool, cache := s.cache.evict id }
  | deleteUserAccount {id rowsAffected pool}
      (statement : softDeleteUser id s.pool = .ok (rowsAffected, pool))
      (affected : rowsAffected ≠ 0) :
      Effect s (.deleteUserAccount id) { s with pool, cache := s.cache.evict id }
  | forgotPassword {random req userId pool}
      (statement : insertToken .passwordReset userId (generateVerificationToken random)
        (s.pool.now + tokenLifetime) s.pool = .ok ((), pool)) :
      Effect s (.forgotPassword random req)
        { s with pool, emails := s.emails ++
                   [passwordResetEmail req.email (generateVerificationToken random)] }
  | resetPassword {random req row hashedPassword pool₁ pool}
      (found : findValidToken .passwordReset req.token s.pool = some row)
      (user : updatePassword row.userId hashedPassword s.pool = .ok (1, pool₁))
      (token : updateToken .passwordReset row.id pool₁ = .ok (1, pool)) :
      Effect s (.resetPassword random req) { s with pool }
  | changePassword {random userId req hashedPassword pool}
      (statement : updatePassword userId hashedPassword s.pool = .ok (1, pool)) :
      Effect s (.changePassword random userId req) { s with pool, cache := s.cache.evict userId }

/-! ### Steps of a call -/

omit [Argon2] [Jwt]

variable {P : AppState → Prop} {s : AppState} {α β : Type}

theorem inTransaction_ok {what : String} {x : Tx AppError Db α} {a : α} {t : AppState}
    (h : (match withTransaction x s.pool with
      | .ok (a, pool) => .ok (a, { s with pool })
      | .error e => .error (.internalServerError s!"{what}: {e}") :
        Except AppError (α × AppState)) = .ok (a, t)) :
    ∃ pool, withTransaction x s.pool = .ok (a, pool) ∧ t = { s with pool } := by
  split at h
  · rename_i b pool htx
    cases h
    exact ⟨pool, htx, rfl⟩
  · cases h

theorem final_inTransaction {what : String} {x : Tx AppError Db α}
    {g : α → Call AppError AppState β} (hs : P s)
    (hok : ∀ a pool, withTransaction x s.pool = .ok (a, pool) → P ((g a).final { s with pool })) :
    P ((inTransaction what x >>= g).final s) := by
  refine Call.final_write hs fun a t h => ?_
  obtain ⟨pool, htx, rfl⟩ := inTransaction_ok h
  exact hok a pool htx

theorem final_inTransaction_end {what : String} {x : Tx AppError Db α} (hs : P s)
    (hok : ∀ a pool, withTransaction x s.pool = .ok (a, pool) → P { s with pool }) :
    P ((inTransaction what x).final s) := by
  refine Call.final_write_end hs fun a t h => ?_
  obtain ⟨pool, htx, rfl⟩ := inTransaction_ok h
  exact hok a pool htx

theorem inTransaction_of_ok {what : String} {x : Tx AppError Db α} {a : α} {pool : Db}
    (h : withTransaction x s.pool = .ok (a, pool)) :
    (match withTransaction x s.pool with
      | .ok (a, pool) => .ok (a, { s with pool })
      | .error e => .error (.internalServerError s!"{what}: {e}") :
        Except AppError (α × AppState)) = .ok (a, { s with pool }) := by
  rw [h]

theorem final_inTransaction_of_ok {what : String} {x : Tx AppError Db α}
    {g : α → Call AppError AppState β} {a : α} {pool : Db}
    (h : withTransaction x s.pool = .ok (a, pool)) :
    (inTransaction what x >>= g).final s = (g a).final { s with pool } :=
  Call.final_write_of_ok (inTransaction_of_ok h)

theorem final_inTransaction_end_of_ok {what : String} {x : Tx AppError Db α} {a : α} {pool : Db}
    (h : withTransaction x s.pool = .ok (a, pool)) :
    (inTransaction what x).final s = { s with pool } :=
  Call.final_write_end_of_ok (inTransaction_of_ok h)

/-! ### One call at a time -/

/-- The state `t` after a call in the state `s`. -/
def Outcome (s : AppState) (call : ServiceCall) (t : AppState) : Prop := t = s ∨ Effect s call t

variable [Argon2] [Jwt]

omit [Jwt] in
theorem outcome_createUserAccount (random : Random) (req : UserCreateReq) :
    Outcome s (.createUserAccount random req) ((Service.createUserAccount random req).final s) := by
  refine Call.final_query (.inl rfl) fun validated hvalid => ?_
  refine Call.final_query (.inl rfl) fun hashedPassword hhash => ?_
  refine Call.final_query (.inl rfl) fun expiresAt hexpires => ?_
  cases hexpires
  refine final_inTransaction (.inl rfl) fun _ pool htx => ?_
  obtain ⟨t, ht, rfl⟩ := withTransaction_run htx
  obtain ⟨id, t₁, ht₁, ht⟩ := Tx.bind_ok.mp ht
  obtain ⟨-, pool₁, huser, rfl⟩ := Tx.statement_ok.mp ht₁
  obtain ⟨-, pool, htoken, rfl⟩ := Tx.statement_ok.mp ht
  exact .inr (.createUserAccount hvalid huser htoken)

omit [Argon2] [Jwt] in
theorem outcome_verifyEmail (req : VerifyEmailReq) :
    Outcome s (.verifyEmail req) ((Service.verifyEmail req).final s) := by
  refine Call.final_query (.inl rfl) fun row hfound => ?_
  refine final_inTransaction_end (.inl rfl) fun _ pool htx => ?_
  obtain ⟨pool₁, huser, htoken⟩ := withTransaction_affectsOne.mp htx
  exact .inr (.verifyEmail (getValidVerificationToken_ok.mp hfound) huser htoken)

omit [Argon2] [Jwt] in
theorem outcome_updateUserAccount (id : Uuid) (req : UserUpdateReq) :
    Outcome s (.updateUserAccount id req) ((Service.updateUserAccount id req).final s) := by
  refine Call.final_query (.inl rfl) fun validated hvalid => ?_
  refine final_inTransaction (.inl rfl) fun _ pool htx => ?_
  obtain ⟨rowsAffected, hstatement, haffected⟩ := withTransaction_affected htx
  exact .inr (.updateUserAccount hvalid hstatement haffected)

omit [Argon2] [Jwt] in
theorem outcome_deleteUserAccount (id : Uuid) :
    Outcome s (.deleteUserAccount id) ((Service.deleteUserAccount id).final s) := by
  refine final_inTransaction (.inl rfl) fun _ pool htx => ?_
  obtain ⟨rowsAffected, hstatement, haffected⟩ := withTransaction_affected htx
  exact .inr (.deleteUserAccount hstatement haffected)

omit [Argon2] [Jwt] in
theorem outcome_forgotPassword (random : Random) (req : ForgotPasswordReq) :
    Outcome s (.forgotPassword random req) ((Service.forgotPassword random req).final s) := by
  refine Call.final_query (.inl rfl) fun email hemail => ?_
  refine Call.final_query (.inl rfl) fun found hfound => ?_
  cases found with
  | none => exact .inl rfl
  | some user =>
    refine Call.final_query (.inl rfl) fun expiresAt hexpires => ?_
    cases hexpires
    refine final_inTransaction (.inl rfl) fun _ pool htx => ?_
    exact .inr (.forgotPassword (withTransaction_statement htx))

omit [Jwt] in
theorem outcome_resetPassword (random : Random) (req : ResetPasswordReq) :
    Outcome s (.resetPassword random req) ((Service.resetPassword random req).final s) := by
  refine Call.final_query (.inl rfl) fun row hfound => ?_
  refine Call.final_query (.inl rfl) fun password hpassword => ?_
  refine Call.final_query (.inl rfl) fun hashedPassword hhash => ?_
  refine final_inTransaction_end (.inl rfl) fun _ pool htx => ?_
  obtain ⟨pool₁, huser, htoken⟩ := withTransaction_affectsOne.mp htx
  exact .inr (.resetPassword (getValidPasswordResetToken_ok.mp hfound) huser htoken)

omit [Jwt] in
theorem outcome_changePassword (random : Random) (userId : Uuid) (req : ChangePasswordReq) :
    Outcome s (.changePassword random userId req)
      ((Service.changePassword random userId req).final s) := by
  refine Call.final_query (.inl rfl) fun user huser => ?_
  refine Call.final_query (.inl rfl) fun _ hcurrent => ?_
  by_cases hsame : req.currentPassword = req.newPassword
  · rw [if_pos hsame]
    exact .inl rfl
  · rw [if_neg hsame]
    refine Call.final_query (.inl rfl) fun password hpassword => ?_
    refine Call.final_query (.inl rfl) fun hashedPassword hhash => ?_
    refine final_inTransaction (.inl rfl) fun _ pool htx => ?_
    obtain ⟨t, ht, rfl⟩ := withTransaction_run htx
    obtain ⟨-, pool, hstatement, rfl⟩ := affectsOne_ok.mp ht
    exact .inr (.changePassword hstatement)

/-! ### Access tokens -/

omit [Argon2] [Jwt] in
theorem unauthorized_ok {x : Except AuthError α} {a : α} :
    Service.unauthorized x = .ok a ↔ x = .ok a :=
  Except.mapError_eq_ok

/-- A login changes nothing, and returns a token with the name and the role of a user. -/
theorem loginUser_ok {random : Random} {req : UserLoginReq} {res : JwtTokens} {t : AppState}
    (h : Service.loginUser random req s = .ok res t) :
    t = s ∧ ∃ username user, Username.new req.username = .ok username ∧
      getUserByUsername username s.pool = .ok user ∧ user.emailVerified = true ∧
      generateAccessToken s.authConfig s.pool.now user.id user.username user.role =
        .ok res.accessToken := by
  unfold Service.loginUser at h
  obtain ⟨username, husername, h⟩ := Call.query_bind_ok.mp h
  obtain ⟨user, huser, h⟩ := Call.query_bind_ok.mp h
  cases hverified : user.emailVerified with
  | false =>
    rw [if_pos (by simp [hverified])] at h
    obtain ⟨_, _, hthrow, -⟩ := EStateM.bind_eq_ok.mp h
    exact absurd hthrow Call.throw_ok
  | true =>
    rw [if_neg (by simp [hverified])] at h
    obtain ⟨_, -, h⟩ := Call.query_bind_ok.mp h
    obtain ⟨accessToken, haccess, h⟩ := Call.query_bind_ok.mp h
    obtain ⟨refreshToken, -, h⟩ := Call.query_bind_ok.mp h
    obtain ⟨rfl, rfl⟩ := Call.pure_ok.mp h
    exact ⟨rfl, username, user, husername, huser, hverified, unauthorized_ok.mp haccess⟩

omit [Argon2] in
/-- So does a refresh, whatever token it is asked with. -/
theorem generateRefreshToken_ok {req : UserRefreshReq} {res : UserRefreshRes} {t : AppState}
    (h : Service.generateRefreshToken req s = .ok res t) :
    t = s ∧ ∃ id user, getUserById id s.pool = .ok user ∧
      generateAccessToken s.authConfig s.pool.now user.id user.username user.role =
        .ok res.accessToken := by
  unfold Service.generateRefreshToken at h
  obtain ⟨claims, -, h⟩ := Call.query_bind_ok.mp h
  obtain ⟨user, huser, h⟩ := Call.query_bind_ok.mp h
  obtain ⟨accessToken, haccess, h⟩ := Call.query_bind_ok.mp h
  obtain ⟨rfl, rfl⟩ := Call.pure_ok.mp h
  exact ⟨rfl, claims.sub, user, huser, unauthorized_ok.mp haccess⟩

theorem final_loginUser (random : Random) (req : UserLoginReq) :
    (Service.loginUser random req).final s = s := by
  refine Call.final_query (P := (· = s)) rfl fun username husername => ?_
  refine Call.final_query (P := (· = s)) rfl fun user huser => ?_
  cases hverified : user.emailVerified with
  | false =>
    rw [if_pos (by simp)]
    rfl
  | true =>
    rw [if_neg (by simp)]
    refine Call.final_query (P := (· = s)) rfl fun _ hpassword => ?_
    refine Call.final_query (P := (· = s)) rfl fun accessToken haccess => ?_
    exact Call.final_query (P := (· = s)) rfl fun refreshToken hrefresh => rfl

omit [Argon2] in
theorem final_generateRefreshToken (req : UserRefreshReq) :
    (Service.generateRefreshToken req).final s = s := by
  refine Call.final_query (P := (· = s)) rfl fun claims hclaims => ?_
  refine Call.final_query (P := (· = s)) rfl fun user huser => ?_
  exact Call.final_query (P := (· = s)) rfl fun accessToken haccess => rfl

/-- A call changes nothing, or it has its effect. -/
theorem outcome (s : AppState) (call : ServiceCall) : Outcome s call (call.run.final s) := by
  cases call with
  | createUserAccount random req =>
    rw [show (ServiceCall.createUserAccount random req).run.final s = _ from
      Call.final_bind_pure ..]
    exact outcome_createUserAccount random req
  | verifyEmail req =>
    rw [show (ServiceCall.verifyEmail req).run.final s = _ from Call.final_bind_pure ..]
    exact outcome_verifyEmail req
  | getUser id =>
    rw [show (ServiceCall.getUser id).run.final s = _ from Call.final_bind_pure ..]
    exact .inl (Call.final_query_end (P := (· = s)) rfl)
  | updateUserAccount id req =>
    rw [show (ServiceCall.updateUserAccount id req).run.final s = _ from Call.final_bind_pure ..]
    exact outcome_updateUserAccount id req
  | deleteUserAccount id =>
    rw [show (ServiceCall.deleteUserAccount id).run.final s = _ from Call.final_bind_pure ..]
    exact outcome_deleteUserAccount id
  | loginUser random req =>
    rw [show (ServiceCall.loginUser random req).run.final s = _ from Call.final_bind_pure ..]
    exact .inl (final_loginUser random req)
  | generateRefreshToken req =>
    rw [show (ServiceCall.generateRefreshToken req).run.final s = _ from Call.final_bind_pure ..]
    exact .inl (final_generateRefreshToken req)
  | forgotPassword random req =>
    rw [show (ServiceCall.forgotPassword random req).run.final s = _ from Call.final_bind_pure ..]
    exact outcome_forgotPassword random req
  | resetPassword random req =>
    rw [show (ServiceCall.resetPassword random req).run.final s = _ from Call.final_bind_pure ..]
    exact outcome_resetPassword random req
  | changePassword random userId req =>
    rw [show (ServiceCall.changePassword random userId req).run.final s = _ from
      Call.final_bind_pure ..]
    exact outcome_changePassword random userId req

end Effect

/-! ## Sample data -/

def testAuthConfig : AuthConfig where
  accessTokenSecret := "test access secret"
  refreshTokenSecret := "test refresh secret"
  accessTokenExpirySecs := 3600
  refreshTokenExpirySecs := 604800

def sampleRandom : Random where
  bytes := Vector.replicate 32 0
  salt := "c2FsdA"
  jti := "0198c0de"

def sampleCreateReq : UserCreateReq where
  username := "testuser"
  password := "Password1!"
  email := "test@example.com"
  phone := "+82-10-1234-5678"
  role := .buyer

end Koupang.Identity
