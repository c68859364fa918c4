import Koupang.ForStd.Simulation
import Koupang.Spec.AccountAccess

/-!
# The service without hashes and without a cache

What the identity service is for can be said without either: a table of users
with their passwords, and every request answered from it. `plain` stores a
password as it is, and `Refines` relates the service to one that uses `plain`
and has no Redis. Over every run of requests that do not overlap, the two give
the same answers and send the same messages.

## Key results

- `sim_run`: a service function does the same on the two states, whatever it is asked
- `sim_authenticate`: the middleware lets the same callers in
- `observed_plain`: every answer is the one of the plain service
-/

namespace Koupang.Identity

open Repository

section Argon2

variable [Argon2]

/-- Passwords as they are. What `argon2` refuses to hash is refused. -/
@[reducible] def plain : Argon2 where
  hashPassword password salt := (Argon2.hashPassword password salt).map fun _ => password
  parseHash _ := .ok ()
  verifyPassword password hash := if password = hash then .ok () else .error .password

/-- The same user, with the hash of the password. -/
def SameUser (user user' : UserEntity) : Prop :=
  ∃ hash, user = { user' with password := hash } ∧ Stores hash user'.password

/-- The same tables, with hashes of the passwords. -/
structure Hashed (db db' : Db) : Prop where
  users : List.Forall₂ SameUser db.users.rows db'.users.rows
  emailVerificationTokens : db.emailVerificationTokens = db'.emailVerificationTokens
  passwordResetTokens : db.passwordResetTokens = db'.passwordResetTokens
  uuids : db.uuids = db'.uuids
  now : db.now = db'.now

/-- The state of the service, and that of the plain one. -/
structure Refines (s t : AppState) : Prop where
  pool : Hashed s.pool t.pool
  authConfig : s.authConfig = t.authConfig
  emails : s.emails = t.emails
  uncached : t.cache.conn = none

/-! ## Hashes -/

theorem hashPassword_agree (random : Random) (password : Password) :
    Except.Agree (fun hashed hashed' => Stores hashed.value hashed'.value)
      (hashPassword random password) (@hashPassword plain random password) := by
  have hplain : @Argon2.hashPassword plain password.value random.salt =
      (Argon2.hashPassword password.value random.salt).map fun _ => password.value := rfl
  unfold hashPassword
  rw [hplain]
  cases hhash : Argon2.hashPassword password.value random.salt with
  | ok hash => exact ⟨random.salt, hhash⟩
  | error e => rfl

theorem plain_lawful : @LawfulArgon2 plain := by
  have hplain {password salt hash : String}
      (h : @Argon2.hashPassword plain password salt = .ok hash) : password = hash := by
    obtain ⟨_, -, hsame⟩ := Except.map_eq_ok.mp h
    exact hsame
  refine @LawfulArgon2.mk plain (fun _ => rfl) fun {password salt hash} h password' => ?_
  rw [hplain h]
  rfl

theorem verifyPassword_plain [LawfulArgon2] {hash password : String} (h : Stores hash password)
    (password' : String) :
    verifyPassword password' hash = @verifyPassword plain password' password := by
  obtain ⟨salt, hhash⟩ := h
  have hstored : @Stores plain password password :=
    ⟨salt, Except.map_eq_ok.mpr ⟨hash, hhash, rfl⟩⟩
  rw [verifyPassword_stored ⟨salt, hhash⟩, @verifyPassword_stored plain plain_lawful _ _ hstored]

/-! ## Statements -/

section Statements

variable {db db' : Db}

theorem SameUser.find? {p : UserEntity → Bool} {rows rows' : List UserEntity}
    (hp : ∀ user hash, p { user with password := hash } = p user)
    (h : List.Forall₂ SameUser rows rows') :
    Option.Rel SameUser (rows.find? p) (rows'.find? p) := by
  induction h with
  | nil => exact .none
  | @cons user user' rows rows' hsame _ ih =>
    have huser : p user = p user' := by
      obtain ⟨hash, rfl, -⟩ := hsame
      exact hp user' hash
    simp only [List.find?_cons, huser]
    cases p user' with
    | false => exact ih
    | true => exact .some hsame

theorem SameUser.any {p : UserEntity → Bool} {rows rows' : List UserEntity}
    (hp : ∀ user hash, p { user with password := hash } = p user)
    (h : List.Forall₂ SameUser rows rows') : rows.any p = rows'.any p := by
  induction h with
  | nil => rfl
  | @cons user user' rows rows' hsame _ ih =>
    obtain ⟨hash, rfl, -⟩ := hsame
    simp only [List.any_cons, hp, ih]

theorem SameUser.modify {users users' : Table UserEntity.id} {f g : UserEntity → UserEntity}
    (hf : ∀ user, (f user).id = user.id) (hg : ∀ user, (g user).id = user.id)
    (hfg : ∀ user user', SameUser user user' → SameUser (f user) (g user'))
    (h : List.Forall₂ SameUser users.rows users'.rows) (id : Uuid) :
    List.Forall₂ SameUser (users.modify id f hf).rows (users'.modify id g hg).rows := by
  refine List.forall₂_map_left_iff.mpr (List.forall₂_map_right_iff.mpr (h.imp ?_))
  intro user user' hsame
  have hid : user.id = user'.id := by
    obtain ⟨hash, rfl, -⟩ := hsame
    rfl
  rw [hid]
  by_cases hmine : user'.id = id
  · rw [if_pos hmine, if_pos hmine]
    exact hfg user user' hsame
  · rw [if_neg hmine, if_neg hmine]
    exact hsame

theorem SameUser.insert {users users' : Table UserEntity.id} {row row' : UserEntity}
    (hsame : SameUser row row') (h : List.Forall₂ SameUser users.rows users'.rows) :
    Option.Rel (fun users users' => List.Forall₂ SameUser users.rows users'.rows)
      (users.insert row) (users'.insert row') := by
  have hid : row.id = row'.id := by
    obtain ⟨hash, rfl, -⟩ := hsame
    rfl
  have hfind : Option.Rel SameUser (users.find? row.id) (users'.find? row'.id) :=
    hid ▸ SameUser.find? (fun _ _ => rfl) h
  cases hrow : users.find? row.id with
  | none =>
    cases hrow' : users'.find? row'.id with
    | some user =>
      rw [hrow, hrow'] at hfind
      cases hfind
    | none =>
      obtain ⟨after, hafter⟩ := users.exists_insert hrow
      obtain ⟨after', hafter'⟩ := users'.exists_insert hrow'
      rw [hafter, hafter']
      refine .some ?_
      rw [((Table.insert_eq_some ..).mp hafter).2, ((Table.insert_eq_some ..).mp hafter').2]
      exact List.rel_append h (.cons hsame .nil)
  | some user =>
    cases hrow' : users'.find? row'.id with
    | none =>
      rw [hrow, hrow'] at hfind
      cases hfind
    | some user' =>
      rw [(Table.insert_eq_none ..).mpr (by simp [hrow]),
        (Table.insert_eq_none ..).mpr (by simp [hrow'])]
      exact .none

theorem Hashed.find? (h : Hashed db db') (id : Uuid) :
    Option.Rel SameUser (db.users.find? id) (db'.users.find? id) :=
  SameUser.find? (fun _ _ => rfl) h.users

theorem agree_fetchUser {p : UserEntity → Bool}
    (hp : ∀ user hash, p { user with password := hash } = p user) (h : Hashed db db') :
    Except.Agree SameUser (fetchUser p db) (fetchUser p db') := by
  have hfind := SameUser.find? (p := fun user => p user && user.deletedAt.isNone)
    (fun user hash => by simp only [hp]) h.users
  unfold fetchUser
  generalize db.users.rows.find? _ = found, db'.users.rows.find? _ = found' at hfind
  cases hfind with
  | none => rfl
  | some hsame => exact hsame

theorem findValidToken_eq (h : Hashed db db') (kind : TokenKind) (token : String) :
    findValidToken kind token db = findValidToken kind token db' := by
  have htokens : db.tokens kind = db'.tokens kind := by
    cases kind with
    | emailVerification => exact h.emailVerificationTokens
    | passwordReset => exact h.passwordResetTokens
  unfold findValidToken
  rw [htokens, h.now]

theorem checkUnique_eq {p : UserEntity → Bool}
    (hp : ∀ user hash, p { user with password := hash } = p user) (h : Hashed db db')
    (username email : String) : checkUnique p username email db = checkUnique p username email db' := by
  unfold checkUnique
  rw [SameUser.any (fun user hash => by simp only [hp]) h.users,
    SameUser.any (fun user hash => by simp only [hp]) h.users]

/-- A statement that does the same on both tables. -/
def SameStatement {α β : Type} (Q : α → β → Prop) (f : Db → Except String (α × Db))
    (g : Db → Except String (β × Db)) : Prop :=
  ∀ db db', Hashed db db' → Except.Agree (fun p q => Q p.1 q.1 ∧ Hashed p.2 q.2) (f db) (g db')

theorem same_insertUser (req : ValidUserCreateReq) {hashed hashed' : HashedPassword}
    (hhash : Stores hashed.value hashed'.value) :
    SameStatement Eq (insertUser req hashed) (insertUser req hashed') := by
  intro db db' h
  unfold insertUser
  refine (Except.agree_rfl (fun _ => rfl) _).bind fun columns _ hcolumns => ?_
  obtain rfl := hcolumns
  have hdb : Hashed db.uuidv7.2 db'.uuidv7.2 :=
    ⟨h.users, h.emailVerificationTokens, h.passwordResetTokens, by simp [Db.uuidv7, h.uuids], h.now⟩
  dsimp only [Db.uuidv7] at hdb ⊢
  rw [checkUnique_eq (fun _ _ => rfl) hdb, h.uuids, h.now]
  refine (Except.agree_rfl (fun _ => rfl) _).bind fun _ _ _ => ?_
  let row' : UserEntity :=
    { id := ⟨3, db'.uuids⟩, createdAt := db'.now, updatedAt := none, deletedAt := none
      username := columns.1, password := hashed'.value, email := columns.2.1
      phone := columns.2.2, role := req.role, emailVerified := false }
  have hsame : SameUser { row' with password := hashed.value } row' := ⟨hashed.value, rfl, hhash⟩
  have hinsert := hsame.insert h.users
  dsimp only [row'] at hinsert
  generalize db.users.insert _ = users, db'.users.insert _ = users' at hinsert ⊢
  cases hinsert with
  | none => rfl
  | some husers => exact ⟨rfl, husers, h.emailVerificationTokens, h.passwordResetTokens, rfl, rfl⟩

theorem same_tokens (h : Hashed db db') (kind : TokenKind) : db.tokens kind = db'.tokens kind := by
  cases kind with
  | emailVerification => exact h.emailVerificationTokens
  | passwordReset => exact h.passwordResetTokens

theorem Hashed.setTokens (h : Hashed db db') (kind : TokenKind) (rows : Table TokenEntity.id) :
    Hashed (db.setTokens kind rows) (db'.setTokens kind rows) := by
  cases kind with
  | emailVerification => exact ⟨h.users, rfl, h.passwordResetTokens, h.uuids, h.now⟩
  | passwordReset => exact ⟨h.users, h.emailVerificationTokens, rfl, h.uuids, h.now⟩

theorem same_updateToken (kind : TokenKind) (tokenId : Uuid) :
    SameStatement Eq (updateToken kind tokenId) (updateToken kind tokenId) := by
  intro db db' h
  unfold updateToken
  rw [same_tokens h, h.now]
  cases (db'.tokens kind).find? tokenId with
  | none => exact ⟨rfl, h⟩
  | some row => exact ⟨rfl, h.setTokens kind _⟩

theorem same_insertToken (kind : TokenKind) (userId : Uuid) (token : String) (expiresAt : Nat) :
    SameStatement Eq (insertToken kind userId token expiresAt)
      (insertToken kind userId token expiresAt) := by
  intro db db' h
  unfold insertToken
  refine (Except.agree_rfl (fun _ => rfl) _).bind fun stored _ hstored => ?_
  obtain rfl := hstored
  have hdb : Hashed db.uuidv7.2 db'.uuidv7.2 :=
    ⟨h.users, h.emailVerificationTokens, h.passwordResetTokens, by simp [Db.uuidv7, h.uuids], h.now⟩
  have htokens := same_tokens hdb kind
  have hfind : (db.uuidv7.2.users.find? userId).isNone = (db'.uuidv7.2.users.find? userId).isNone := by
    have := hdb.find? userId
    generalize db.uuidv7.2.users.find? userId = found, db'.uuidv7.2.users.find? userId = found' at *
    cases this <;> rfl
  dsimp only
  rw [htokens, hfind, hdb.now]
  refine Except.agree_guard fun _ => Except.agree_guard fun _ => ?_
  have hid : db.uuidv7.1 = db'.uuidv7.1 := by simp [Db.uuidv7, h.uuids]
  rw [hid]
  generalize (db'.uuidv7.2.tokens kind).insert _ = rows
  cases rows with
  | none => rfl
  | some rows => exact ⟨rfl, hdb.setTokens kind rows⟩

theorem Hashed.modify {f g : UserEntity → UserEntity} (hf : ∀ user, (f user).id = user.id)
    (hg : ∀ user, (g user).id = user.id) (h : Hashed db db') (id : Uuid)
    (hfg : ∀ user user', SameUser user user' → SameUser (f user) (g user')) :
    Hashed { db with users := db.users.modify id f hf }
      { db' with users := db'.users.modify id g hg } :=
  { h with users := SameUser.modify hf hg hfg h.users id }

theorem same_updateVerified (userId : Uuid) :
    SameStatement Eq (updateVerified userId) (updateVerified userId) := by
  intro db db' h
  have hfind := h.find? userId
  unfold updateVerified
  generalize db.users.find? userId = found, db'.users.find? userId = found' at hfind
  cases hfind with
  | none => exact ⟨rfl, h⟩
  | some _ =>
    refine ⟨rfl, h.modify _ _ userId fun user user' hsame => ?_⟩
    obtain ⟨hash, rfl, hstores⟩ := hsame
    exact ⟨hash, by rw [h.now]; rfl, hstores⟩

theorem same_updatePassword (userId : Uuid) {hashed hashed' : HashedPassword}
    (hhash : Stores hashed.value hashed'.value) :
    SameStatement Eq (updatePassword userId hashed) (updatePassword userId hashed') := by
  intro db db' h
  have hfind := h.find? userId
  unfold updatePassword
  generalize db.users.find? userId = found, db'.users.find? userId = found' at hfind
  cases hfind with
  | none => exact ⟨rfl, h⟩
  | some _ =>
    refine ⟨rfl, h.modify _ _ userId fun user user' hsame => ?_⟩
    obtain ⟨hash, rfl, hstores⟩ := hsame
    exact ⟨hashed.value, by rw [h.now]; rfl, hhash⟩

theorem Hashed.findLive (h : Hashed db db') (id : Uuid) :
    Option.Rel SameUser ((db.users.find? id).filter (·.deletedAt.isNone))
      ((db'.users.find? id).filter (·.deletedAt.isNone)) := by
  have hfind := h.find? id
  generalize db.users.find? id = found, db'.users.find? id = found' at hfind
  cases hfind with
  | none => exact .none
  | some hsame =>
    obtain ⟨hash, rfl, hstores⟩ := hsame
    rename_i user
    cases hlive : user.deletedAt.isNone with
    | true =>
      simp only [Option.filter, hlive]
      exact .some ⟨hash, rfl, hstores⟩
    | false =>
      simp only [Option.filter, hlive]
      exact .none

theorem same_updateUserRow (id : Uuid) (req : ValidUserUpdateReq) :
    SameStatement Eq (updateUserRow id req) (updateUserRow id req) := by
  intro db db' h
  have hfind := h.findLive id
  unfold updateUserRow
  generalize (db.users.find? id).filter _ = found, (db'.users.find? id).filter _ = found' at hfind
  cases hfind with
  | none => exact ⟨rfl, h⟩
  | some _ =>
    refine (Except.agree_rfl (fun _ => rfl) _).bind fun columns _ hcolumns => ?_
    obtain rfl := hcolumns
    dsimp only
    rw [checkUnique_eq (fun _ _ => rfl) h]
    refine (Except.agree_rfl (fun _ => rfl) _).bind fun _ _ _ => ?_
    refine ⟨rfl, h.modify _ _ id fun user user' hsame => ?_⟩
    obtain ⟨hash, rfl, hstores⟩ := hsame
    exact ⟨hash, by rw [h.now]; rfl, hstores⟩

theorem same_softDeleteUser (id : Uuid) :
    SameStatement Eq (softDeleteUser id) (softDeleteUser id) := by
  intro db db' h
  have hfind := h.findLive id
  unfold softDeleteUser
  generalize (db.users.find? id).filter _ = found, (db'.users.find? id).filter _ = found' at hfind
  cases hfind with
  | none => exact ⟨rfl, h⟩
  | some _ =>
    refine ⟨rfl, h.modify _ _ id fun user user' hsame => ?_⟩
    obtain ⟨hash, rfl, hstores⟩ := hsame
    exact ⟨hash, by rw [h.now]; rfl, hstores⟩

end Statements

/-! ## Transactions -/

section Transactions

variable {f g : Db → Except String (Nat × Db)} {onError : String → AppError}

theorem sim_affectsOne (h : SameStatement Eq f g) : Sim (Sim.OnTables Hashed) Eq
    (do let rowsAffected ← Tx.statement onError f; assertAffected rowsAffected)
    (do let rowsAffected ← Tx.statement onError g; assertAffected rowsAffected) := by
  refine (Sim.statement h).bind_eq fun rowsAffected => ?_
  unfold assertAffected
  by_cases hone : rowsAffected = 1
  · rw [if_pos hone]
    exact Sim.pure rfl
  · rw [if_neg hone]
    exact Sim.throw _

theorem sim_affected {e : AppError} (h : SameStatement Eq f g) : Sim (Sim.OnTables Hashed) Eq
    (do let rowsAffected ← Tx.statement onError f; if rowsAffected = 0 then throw e)
    (do let rowsAffected ← Tx.statement onError g; if rowsAffected = 0 then throw e) := by
  refine (Sim.statement h).bind_eq fun rowsAffected => ?_
  by_cases hzero : rowsAffected = 0
  · rw [if_pos hzero]
    exact Sim.throw _
  · rw [if_neg hzero]
    exact Sim.pure rfl

end Transactions

/-! ## Steps of a call -/

section Steps

variable {α β : Type} {Q : α → β → Prop}

theorem sim_const (x : Except AppError α) :
    Sim Refines Eq (Call.query fun _ => x) (Call.query fun _ => x) :=
  Sim.query fun _ _ _ => Except.agree_rfl (fun _ => rfl) x

theorem sim_onPool {f : Db → Except AppError α} {g : Db → Except AppError β}
    (h : ∀ db db', Hashed db db' → Except.Agree Q (f db) (g db')) :
    Sim Refines Q (onPool f) (onPool g) :=
  Sim.query fun s t hst => h s.pool t.pool hst.pool

theorem sim_inTransaction {what : String} {x : Tx AppError Db α} {y : Tx AppError Db β}
    (h : Sim (Sim.OnTables Hashed) Q x y) :
    Sim Refines Q (inTransaction what x) (inTransaction what y) := by
  refine Sim.write fun s t hst => ?_
  have hattempt := Sim.attempt h hst.pool
  unfold withTransaction
  cases hx : Tx.attempt x s.pool <;> cases hy : Tx.attempt y t.pool <;>
    rw [hx, hy] at hattempt
  · exact ⟨hattempt.1, { hst with pool := hattempt.2 }⟩
  · exact hattempt.elim
  · exact hattempt.elim
  · exact hattempt.elim
  · exact congrArg (fun e => AppError.internalServerError s!"{what}: {e.toString}") hattempt.1
  · exact hattempt.elim
  · exact hattempt.elim
  · exact hattempt.elim
  · exact ⟨hattempt.1, { hst with pool := hattempt.2 }⟩

theorem sim_expiresAt : Sim Refines Eq (onPool fun db => .ok (db.now + tokenLifetime))
    (onPool fun db => .ok (db.now + tokenLifetime)) :=
  sim_onPool fun _ _ h => congrArg (· + tokenLifetime) h.now

theorem sim_evict (id : Uuid) : Sim Refines Eq (evict id) (evict id) :=
  ⟨fun _ _ hst => ⟨rfl, { hst with uncached := by simp [RedisCache.evict, hst.uncached] }⟩⟩

theorem sim_sendEmail (message : EmailMessage) :
    Sim Refines Eq (sendEmail message) (sendEmail message) :=
  ⟨fun _ _ hst => ⟨rfl, { hst with emails := congrArg (· ++ [message]) hst.emails }⟩⟩

end Steps

/-! ## Service functions -/

section Service

theorem sim_createUserAccount (random : Random) (req : UserCreateReq) :
    Sim Refines Eq (Service.createUserAccount random req)
      (@Service.createUserAccount plain random req) := by
  refine (sim_const _).bind_eq fun validated => ?_
  refine Sim.bind (Sim.query fun _ _ _ => hashPassword_agree random validated.password)
    fun hashed hashed' hhash => ?_
  refine sim_expiresAt.bind_eq fun expiresAt => ?_
  refine (sim_inTransaction ?_).bind_eq fun _ => sim_sendEmail _
  refine (Sim.statement (same_insertUser validated hhash)).bind_eq fun userId => ?_
  exact Sim.statement (same_insertToken _ _ _ _)

theorem sim_verifyEmail (req : VerifyEmailReq) :
    Sim Refines Eq (Service.verifyEmail req) (Service.verifyEmail req) := by
  refine (sim_onPool fun db db' h => ?_).bind_eq fun row => sim_inTransaction ?_
  · unfold getValidVerificationToken
    rw [findValidToken_eq h]
    exact Except.agree_rfl (fun _ => rfl) _
  · exact (sim_affectsOne (same_updateVerified _)).bind_eq fun _ =>
      sim_affectsOne (same_updateToken _ _)

theorem sim_getUser (id : Uuid) : Sim Refines Eq (Service.getUser id) (Service.getUser id) := by
  refine sim_onPool fun db db' h => ?_
  have hfetch := agree_fetchUser (p := (·.id = id)) (fun _ _ => rfl) h
  unfold getUserById
  generalize fetchUser _ db = found, fetchUser _ db' = found' at hfetch
  cases found <;> cases found'
  · exact hfetch
  · exact hfetch.elim
  · exact hfetch.elim
  · obtain ⟨hash, rfl, -⟩ := hfetch
    exact rfl

theorem sim_updateUserAccount (id : Uuid) (req : UserUpdateReq) :
    Sim Refines Eq (Service.updateUserAccount id req) (Service.updateUserAccount id req) := by
  refine (sim_const _).bind_eq fun validated => ?_
  exact (sim_inTransaction (sim_affected (same_updateUserRow id validated))).bind_eq fun _ =>
    sim_evict id

theorem sim_deleteUserAccount (id : Uuid) :
    Sim Refines Eq (Service.deleteUserAccount id) (Service.deleteUserAccount id) :=
  (sim_inTransaction (sim_affected (same_softDeleteUser id))).bind_eq fun _ => sim_evict id

variable [Jwt]

omit [Jwt] in
theorem sim_forgotPassword (random : Random) (req : ForgotPasswordReq) :
    Sim Refines Eq (Service.forgotPassword random req) (Service.forgotPassword random req) := by
  refine (sim_const _).bind_eq fun email => ?_
  have hfound : Sim Refines (Option.Rel SameUser)
      (onPool fun db => .ok (getUserByEmail email db).toOption)
      (onPool fun db => .ok (getUserByEmail email db).toOption) :=
    sim_onPool fun db db' h => (agree_fetchUser (fun _ _ => rfl) h).toOption
  refine hfound.bind fun found found' hsame => ?_
  cases hsame with
  | none => exact Sim.pure rfl
  | some hsame =>
    obtain ⟨hash, rfl, -⟩ := hsame
    refine sim_expiresAt.bind_eq fun expiresAt => ?_
    exact (sim_inTransaction (Sim.statement (same_insertToken _ _ _ _))).bind_eq fun _ =>
      sim_sendEmail _

omit [Jwt] in
theorem sim_resetPassword (random : Random) (req : ResetPasswordReq) :
    Sim Refines Eq (Service.resetPassword random req)
      (@Service.resetPassword plain random req) := by
  refine (sim_onPool fun db db' h => ?_).bind_eq fun row => ?_
  · unfold getValidPasswordResetToken
    rw [findValidToken_eq h]
    exact Except.agree_rfl (fun _ => rfl) _
  · refine (sim_const _).bind_eq fun password => ?_
    refine Sim.bind (Sim.query fun _ _ _ => hashPassword_agree random password)
      fun hashed hashed' hhash => sim_inTransaction ?_
    exact (sim_affectsOne (same_updatePassword _ hhash)).bind_eq fun _ =>
      sim_affectsOne (same_updateToken _ _)

omit [Jwt] in
theorem sim_changePassword [LawfulArgon2] (random : Random) (userId : Uuid)
    (req : ChangePasswordReq) : Sim Refines Eq (Service.changePassword random userId req)
      (@Service.changePassword plain random userId req) := by
  refine Sim.bind (sim_onPool fun db db' h => agree_fetchUser (fun _ _ => rfl) h)
    fun user user' hsame => ?_
  obtain ⟨hash, rfl, hstores⟩ := hsame
  rw [show verifyPassword req.currentPassword ({ user' with password := hash } : UserEntity).password
    = _ from verifyPassword_plain hstores req.currentPassword]
  refine (sim_const _).bind_eq fun _ => ?_
  by_cases hsame : req.currentPassword = req.newPassword
  · rw [if_pos hsame, if_pos hsame]
    exact Sim.throw _
  · rw [if_neg hsame, if_neg hsame]
    refine (sim_const _).bind_eq fun password => ?_
    refine Sim.bind (Sim.query fun _ _ _ => hashPassword_agree random password)
      fun hashed hashed' hhash => ?_
    exact (sim_inTransaction (sim_affectsOne (same_updatePassword _ hhash))).bind_eq fun _ =>
      sim_evict userId

/-- The tokens of a user are made of what is the same on both sides. -/
theorem sim_generateAccessToken (user : UserEntity) : Sim Refines Eq
    (Call.query fun state => Service.unauthorized
      (generateAccessToken state.authConfig state.pool.now user.id user.username user.role))
    (Call.query fun state => Service.unauthorized
      (generateAccessToken state.authConfig state.pool.now user.id user.username user.role)) := by
  refine Sim.query fun s t hst => ?_
  rw [hst.authConfig, hst.pool.now]
  exact Except.agree_rfl (fun _ => rfl) _

theorem sim_loginUser [LawfulArgon2] (random : Random) (req : UserLoginReq) :
    Sim Refines Eq (Service.loginUser random req) (@Service.loginUser plain _ random req) := by
  refine (sim_const _).bind_eq fun username => ?_
  refine Sim.bind (sim_onPool fun db db' h => agree_fetchUser (fun _ _ => rfl) h)
    fun user user' hsame => ?_
  obtain ⟨hash, rfl, hstores⟩ := hsame
  dsimp only
  rw [verifyPassword_plain hstores req.password]
  cases user'.emailVerified with
  | false => exact Sim.throw _
  | true =>
    refine (sim_const _).bind_eq fun _ => ?_
    refine (sim_generateAccessToken user').bind_eq fun accessToken => ?_
    refine Sim.bind_eq (Sim.query fun s t hst => ?_) fun refreshToken => Sim.pure rfl
    rw [hst.authConfig, hst.pool.now]
    exact Except.agree_rfl (fun _ => rfl) _

theorem sim_generateRefreshToken (req : UserRefreshReq) : Sim Refines Eq
    (Service.generateRefreshToken req) (Service.generateRefreshToken req) := by
  refine Sim.bind_eq (Sim.query fun s t hst => ?_) fun claims => ?_
  · rw [hst.authConfig, hst.pool.now]
    exact Except.agree_rfl (fun _ => rfl) _
  · refine Sim.bind (sim_onPool fun db db' h => agree_fetchUser (fun _ _ => rfl) h)
      fun user user' hsame => ?_
    obtain ⟨hash, rfl, -⟩ := hsame
    exact (sim_generateAccessToken user').bind_eq fun accessToken => Sim.pure rfl

omit [Jwt] in
/-- The answer that a route makes of a result. -/
theorem sim_answer {α : Type} {x y : Call AppError AppState α} (h : Sim Refines Eq x y)
    (answer : α → Response) :
    Sim Refines Eq (x >>= fun a => pure (answer a)) (y >>= fun a => pure (answer a)) :=
  h.bind_eq fun _ => Sim.pure rfl

/-- A service function does the same on the two states. -/
theorem sim_run [LawfulArgon2] (call : ServiceCall) :
    Sim Refines Eq call.run (@ServiceCall.run plain _ call) := by
  cases call with
  | createUserAccount random req =>
    unfold ServiceCall.run
    exact sim_answer (sim_createUserAccount random req) _
  | verifyEmail req =>
    unfold ServiceCall.run
    exact sim_answer (sim_verifyEmail req) _
  | getUser id =>
    unfold ServiceCall.run
    exact sim_answer (sim_getUser id) _
  | updateUserAccount id req =>
    unfold ServiceCall.run
    exact sim_answer (sim_updateUserAccount id req) _
  | deleteUserAccount id =>
    unfold ServiceCall.run
    exact sim_answer (sim_deleteUserAccount id) _
  | loginUser random req =>
    unfold ServiceCall.run
    exact sim_answer (sim_loginUser random req) _
  | generateRefreshToken req =>
    unfold ServiceCall.run
    exact sim_answer (sim_generateRefreshToken req) _
  | forgotPassword random req =>
    unfold ServiceCall.run
    exact sim_answer (sim_forgotPassword random req) _
  | resetPassword random req =>
    unfold ServiceCall.run
    exact sim_answer (sim_resetPassword random req) _
  | changePassword random userId req =>
    unfold ServiceCall.run
    exact sim_answer (sim_changePassword random userId req) _

end Service

/-! ## Requests -/

section Requests

variable [Jwt]

/-- The relation between two requests: the entries of the cache are what the table says. -/
def Served.Refines (s t : AppState) : Prop := Identity.Refines s t ∧ Fresh s

omit [Jwt] in
theorem queryUser_eq {db db' : Db} (h : Hashed db db') (id : Uuid) :
    CurrentUserRead.queryUser db id = CurrentUserRead.queryUser db' id := by
  have hfetch := agree_fetchUser (p := (·.id = id)) (fun _ _ => rfl) h
  unfold CurrentUserRead.queryUser getUserById
  generalize fetchUser _ db = found, fetchUser _ db' = found' at hfetch
  cases found <;> cases found'
  · exact congrArg Except.error hfetch
  · exact hfetch.elim
  · exact hfetch.elim
  · obtain ⟨hash, rfl, -⟩ := hfetch
    rfl

omit [Jwt] in
theorem sim_getById (id : Uuid) :
    Sim Served.Refines Eq (Service.getById id) (Service.getById id) := by
  refine ⟨fun s t ⟨hst, hfresh⟩ => ?_⟩
  have hempty : Fresh t := fun id' caller hcached => by
    simp [RedisCache.get, hst.uncached] at hcached
  obtain ⟨hresult, hfinal⟩ := getById_fresh hfresh id
  obtain ⟨cache, hs, -⟩ := final_getById id s
  obtain ⟨cache', ht, hnone⟩ := final_getById id t
  refine Sim.agree_of_result ?_ ⟨?_, hfinal⟩
  · rw [hresult, (getById_fresh hempty id).1, queryUser_eq hst.pool]
  · rw [hs, ht]
    exact ⟨hst.pool, hst.authConfig, hst.emails, hnone hst.uncached⟩

theorem sim_authenticate (authorization : Option String) : Sim Served.Refines Eq
    (authenticate authorization) (authenticate authorization) := by
  refine Sim.bind_eq (Sim.query fun _ _ _ => Except.agree_rfl (fun _ => rfl) _) fun token => ?_
  refine Sim.bind_eq (Sim.query fun s t h => ?_) fun claims => Sim.mapErr (sim_getById claims.sub)
  rw [h.1.authConfig, h.1.pool.now]
  exact Except.agree_rfl (fun _ => rfl) _

theorem sim_handle [LawfulArgon2] (request : Request) :
    Sim Served.Refines Eq request.handle (@Request.handle plain _ request) := by
  have hroute (call : ServiceCall) :
      Sim Served.Refines Eq (publicRoute call) (@publicRoute plain _ call) :=
    Sim.mapErr ((sim_run call).strengthen fun s h => fresh_call h call)
  have howner (authorization : Option String) (id : Uuid) (call : ServiceCall) :
      Sim Served.Refines Eq (ownerRoute authorization id call)
        (@ownerRoute plain _ authorization id call) := by
    refine (sim_authenticate authorization).bind_eq fun caller => ?_
    exact Sim.bind_eq (Sim.query fun _ _ _ => Except.agree_rfl (fun _ => rfl) _) fun _ =>
      hroute call
  cases request with
  | register | login | refreshToken | verifyEmail | forgotPassword | resetPassword =>
    exact hroute _
  | getOne | update | deleteUser => exact howner _ _ _
  | changePassword authorization random req =>
    exact (sim_authenticate authorization).bind_eq fun caller => hroute _

/-! ## Runs -/

/-- What is seen of a run: the answers to the requests, and the messages that are sent. -/
def observed (s : AppState) : List (Label Request) →
    List (Except HttpError Response) × List EmailMessage
  | [] => ([], s.emails)
  | .call request :: ls =>
    let rest := observed (request.handle.final s) ls
    (request.handle.result s :: rest.1, rest.2)
  | .expire id :: ls => observed (s.expire id) ls
  | .wait seconds :: ls => observed (s.wait seconds) ls

theorem observed_eq [LawfulArgon2] {s t : AppState} (h : Served.Refines s t)
    (ls : List (Label Request)) : observed s ls = @observed plain _ t ls := by
  induction ls generalizing s t with
  | nil => exact congrArg _ h.1.emails
  | cons l ls ih =>
    cases l with
    | call request =>
      have hsim := sim_handle request
      simp only [observed, hsim.result_eq h, ih (hsim.final h)]
    | expire id =>
      refine ih ⟨?_, ?_⟩
      · exact { h.1 with uncached := by simp [AppState.expire, RedisCache.evict, h.1.uncached] }
      · exact h.2.evict fun _ _ hcached => CurrentUserRead.get_of_get_evict hcached
    | wait seconds =>
      refine ih ⟨{ h.1 with pool := { h.1.pool with now := congrArg (· + seconds) h.1.pool.now } }, ?_⟩
      exact h.2

end Requests

end Argon2

/-- A user registers, fails to log in with another password, logs in, and changes the password. -/
def visits : List (Label Request) :=
  signUp .buyer ++
    [.call (.login sampleRandom { username := "testuser", password := "Password0!" }),
     .call (.changePassword (some "Bearer test access secret.3.0.testuser.BUYER.0.3600") sampleRandom
       { currentPassword := "Password1!", newPassword := "Password2!" }),
     .call (.login sampleRandom { username := "testuser", password := "Password2!" })]

end Koupang.Identity
