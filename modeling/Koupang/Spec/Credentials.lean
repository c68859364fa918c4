import Koupang.Spec.IdentityRoles
import Koupang.Spec.Text

/-!
# Who can log in

Passwords are stored as hashes with salts, and are written by three functions:
the registration, the change by the user, and the reset with a token that was
mailed. Over every run, a login is decided by the password that was last set for
the user by a call that returned, and by nothing else that is stored.

`recordedStep` runs the service and writes down the passwords that are set.

## Key results

- `verifyPassword_stored`: a hash is verified with the password that it stores only
- `sound_step`: usernames stay unique, and every row stores the recorded password
- `loginUser_decided`: what every login comes to, in every state that a run leads to
-/

namespace Koupang.Identity

open Repository

/-! ## Hashes -/

section Hashes

variable [Argon2]

/-- What `argon2` promises: it reads the hashes that it renders, and tells the password of a
    hash from every other text. -/
class LawfulArgon2 : Prop where
  parseHash_hash {password salt hash : String} :
    Argon2.hashPassword password salt = .ok hash → Argon2.parseHash hash = .ok ()
  verifyPassword_hash {password salt hash : String} :
    Argon2.hashPassword password salt = .ok hash → ∀ password',
      Argon2.verifyPassword password' hash =
        if password' = password then .ok () else .error .password

/-- The text is a hash of the password. -/
def Stores (hash password : String) : Prop :=
  ∃ salt, Argon2.hashPassword password salt = .ok hash

theorem verifyPassword_stored [LawfulArgon2] {hash password : String}
    (h : Stores hash password) (password' : String) :
    verifyPassword password' hash =
      if password' = password then .ok () else .error (.unauthorized "Invalid credentials") := by
  obtain ⟨salt, hhash⟩ := h
  have hparse := LawfulArgon2.parseHash_hash hhash
  have hverify := LawfulArgon2.verifyPassword_hash hhash password'
  unfold verifyPassword
  rw [hparse, hverify]
  by_cases hsame : password' = password
  · simp [hsame]
  · simp [hsame]

theorem hashPassword_stores {random : Random} {password : Password} {hashed : HashedPassword}
    (h : hashPassword random password = .ok hashed) : Stores hashed.value password.value := by
  unfold hashPassword at h
  split at h
  · rename_i hash hhash
    cases h
    exact ⟨random.salt, hhash⟩
  · cases h

end Hashes

/-! ## Values -/

/-- A password is stored as it comes in. -/
theorem password_value {input : String} {password : Password}
    (h : Password.new input = .ok password) : password.value = input := by
  unfold Password.new at h
  split at h
  · cases h
  · split at h
    · exact (congrArg Password.value (Except.ok.inj h)).symm
    · cases h

/-- A username is stored without the blanks around it. -/
theorem username_value {input : String} {username : Username}
    (h : Username.new input = .ok username) :
    username.value = Text.trim input ∧ varchar 255 username.value = .ok username.value := by
  unfold Username.new at h
  dsimp only at h
  split at h
  · cases h
  · split at h
    · cases h
    · rename_i hlen
      split at h
      · split at h
        · cases h
        · have hvalue := congrArg Username.value (Except.ok.inj h)
          have hle := Text.length_le_len (Text.trim input)
          dsimp only at hvalue
          rw [← hvalue, varchar, if_pos (by omega)]
          exact ⟨rfl, rfl⟩
      · cases h

/-- Whether a username is accepted does not depend on the blanks around it. -/
theorem username_new_congr {input input' : String} (h : Text.trim input = Text.trim input') :
    Username.new input = Username.new input' := by
  unfold Username.new
  simp only [h]

/-- A text that is stored as a username. -/
def IsUsername (name : String) : Prop :=
  ∃ input username, Username.new input = .ok username ∧ username.value = name

/-- A request that names a user names the row of the user. -/
theorem IsUsername.new {name input : String} (h : IsUsername name) (hinput : Text.trim input = name) :
    ∃ username, Username.new input = .ok username ∧ username.value = name := by
  obtain ⟨input', username, hnew, rfl⟩ := h
  have hvalue := (username_value hnew).1
  exact ⟨username, (username_new_congr (hinput.trans hvalue)).trans hnew, rfl⟩

theorem validUserCreateReq_ok {req : UserCreateReq} {validated : ValidUserCreateReq}
    (h : ValidUserCreateReq.tryFrom req = .ok validated) :
    Username.new req.username = .ok validated.username ∧
      Password.new req.password = .ok validated.password := by
  simp only [ValidUserCreateReq.tryFrom, Except.bind_eq_ok] at h
  obtain ⟨username, hname, password, hpassword, email, -, phone, -, hpure⟩ := h
  cases hpure
  exact ⟨hname, hpassword⟩

theorem validUserUpdateReq_username {req : UserUpdateReq} {validated : ValidUserUpdateReq}
    (h : ValidUserUpdateReq.tryFrom req = .ok validated) :
    Username.new req.username = .ok validated.username := by
  simp only [ValidUserUpdateReq.tryFrom, Except.bind_eq_ok] at h
  obtain ⟨username, hname, email, -, phone, -, hpure⟩ := h
  cases hpure
  exact hname

/-! ## Statements on users -/

section Statements

variable {db db' : Db}

/-- A row that is to have these names has them for itself, among the rows that are looked at. -/
theorem checkUnique_ok {p : UserEntity → Bool} {username email : String} {u : Unit}
    (h : checkUnique p username email db = .ok u) :
    ∀ user ∈ db.users.rows, p user = true → user.username ≠ username := by
  simp only [checkUnique, Except.guard_eq_ok, Except.guard_end_eq_ok] at h
  obtain ⟨hname, -⟩ := h
  intro user hmem hp hsame
  exact hname (List.any_eq_true.mpr ⟨user, hmem, by simp [hp, hsame]⟩)

theorem userColumns_username {input : String} {username : Username} {email : Email} {phone : Phone}
    {columns : String × String × String} (hnew : Username.new input = .ok username)
    (h : userColumns username email phone = .ok columns) : columns.1 = username.value := by
  simp only [userColumns, Except.bind_eq_ok, (username_value hnew).2] at h
  obtain ⟨_, hname, _, -, _, -, hpure⟩ := h
  cases hname
  cases hpure
  rfl

/-- The row of a new user. -/
theorem insertUser_row {input : String} {req : ValidUserCreateReq} {hashed : HashedPassword}
    {id : Uuid} (hnew : Username.new input = .ok req.username)
    (h : insertUser req hashed db = .ok (id, db')) :
    id = db.uuidv7.1 ∧ ∃ row, row.id = id ∧ row.username = req.username.value ∧
      row.password = hashed.value ∧ db'.users.rows = db.users.rows ++ [row] ∧
      (∀ user ∈ db.users.rows, user.id ≠ id ∧ user.username ≠ row.username) := by
  simp only [insertUser, Except.bind_eq_ok] at h
  obtain ⟨columns, hcolumns, _, hunique, h⟩ := h
  have hname := userColumns_username hnew hcolumns
  split at h
  · exact absurd h Except.throw_ne_ok
  · rename_i users hins
    cases h
    obtain ⟨hnone, hrows⟩ := (Table.insert_eq_some ..).mp hins
    refine ⟨rfl, _, rfl, hname, rfl, hrows, fun user hmem => ⟨?_, ?_⟩⟩
    · exact (Table.find?_eq_none_iff ..).mp hnone user hmem
    · exact checkUnique_ok hunique user hmem rfl

/-- The row of a user whose profile is updated. -/
theorem updateUserRow_row {input : String} {id : Uuid} {req : ValidUserUpdateReq} {n : Nat}
    (hnew : Username.new input = .ok req.username)
    (h : updateUserRow id req db = .ok (n, db')) (hn : n ≠ 0) :
    ∃ username email phone hset, username = req.username.value ∧
      (∀ user ∈ db.users.rows, user.id ≠ id → user.username ≠ username) ∧
      db' = { db with users :=
        db.users.modify id (setProfile username email phone req.role db.now) hset } := by
  unfold updateUserRow at h
  split at h
  · cases h
    exact absurd rfl hn
  · simp only [Except.bind_eq_ok] at h
    obtain ⟨⟨username, email, phone⟩, hcolumns, _, hunique, h⟩ := h
    cases h
    refine ⟨username, email, phone, _, userColumns_username hnew hcolumns, ?_, rfl⟩
    intro user hmem hne
    exact checkUnique_ok hunique user hmem (by simpa using hne)

end Statements

/-! ## The calls that set a password -/

section Calls

variable [Argon2] {s : AppState}

theorem createUserAccount_ends (random : Random) (req : UserCreateReq) :
    Call.EndsClean s (fun _ t => ∃ validated hashed id pool₁,
        ValidUserCreateReq.tryFrom req = .ok validated ∧
        hashPassword random validated.password = .ok hashed ∧
        insertUser validated hashed s.pool = .ok (id, pool₁) ∧ t.pool.users = pool₁.users)
      (Service.createUserAccount random req s) := by
  refine Call.endsClean_query fun validated hvalid => ?_
  refine Call.endsClean_query fun hashed hhash => ?_
  refine Call.endsClean_query fun expiresAt hexpires => ?_
  refine Call.endsClean_write fun _ t h => ?_
  obtain ⟨pool, htx, rfl⟩ := inTransaction_ok h
  obtain ⟨u, hu, rfl⟩ := withTransaction_run htx
  obtain ⟨id, u₁, hu₁, hu⟩ := Tx.bind_ok.mp hu
  obtain ⟨-, pool₁, huser, rfl⟩ := Tx.statement_ok.mp hu₁
  obtain ⟨-, pool, htoken, rfl⟩ := Tx.statement_ok.mp hu
  exact ⟨validated, hashed, id, pool₁, hvalid, hhash, huser, users_insertToken htoken⟩

theorem resetPassword_ends (random : Random) (req : ResetPasswordReq) :
    Call.EndsClean s (fun _ t => ∃ row password hashed pool₁,
        findValidToken .passwordReset req.token s.pool = some row ∧
        Password.new req.newPassword = .ok password ∧
        hashPassword random password = .ok hashed ∧
        updatePassword row.userId hashed s.pool = .ok (1, pool₁) ∧ t.pool.users = pool₁.users)
      (Service.resetPassword random req s) := by
  refine Call.endsClean_query fun row hfound => ?_
  refine Call.endsClean_query fun password hpassword => ?_
  refine Call.endsClean_query fun hashed hhash => ?_
  refine Call.endsClean_write_end fun _ t h => ?_
  obtain ⟨pool, htx, rfl⟩ := inTransaction_ok h
  obtain ⟨pool₁, huser, htoken⟩ := withTransaction_affectsOne.mp htx
  exact ⟨row, password, hashed, pool₁, getValidPasswordResetToken_ok.mp hfound, hpassword, hhash,
    huser, users_updateToken htoken⟩

theorem changePassword_ends (random : Random) (userId : Uuid) (req : ChangePasswordReq) :
    Call.EndsClean s (fun _ t => ∃ user password hashed pool,
        getUserById userId s.pool = .ok user ∧
        verifyPassword req.currentPassword user.password = .ok () ∧
        Password.new req.newPassword = .ok password ∧
        hashPassword random password = .ok hashed ∧
        updatePassword userId hashed s.pool = .ok (1, pool) ∧ t.pool = pool)
      (Service.changePassword random userId req s) := by
  refine Call.endsClean_query fun user huser => ?_
  refine Call.endsClean_query fun _ hcurrent => ?_
  by_cases hsame : req.currentPassword = req.newPassword
  · rw [if_pos hsame]
    rfl
  · rw [if_neg hsame]
    refine Call.endsClean_query fun password hpassword => ?_
    refine Call.endsClean_query fun hashed hhash => ?_
    refine Call.endsClean_write fun _ t h => ?_
    obtain ⟨pool, htx, rfl⟩ := inTransaction_ok h
    obtain ⟨u, hu, rfl⟩ := withTransaction_run htx
    obtain ⟨-, pool, hstatement, rfl⟩ := affectsOne_ok.mp hu
    exact ⟨user, password, hashed, pool, huser, hcurrent, hpassword, hhash, hstatement, rfl⟩

end Calls

/-! ## The record -/

/-- The service, and the password that was last set for each user by a call that returned. -/
structure Recorded where
  app : AppState
  passwords : Uuid → Option String := fun _ => none

/-- Whose password a call in the state `s` sets when it returns, and to what. -/
def sets (s : AppState) : ServiceCall → Option (Uuid × String)
  | .createUserAccount _ req => some (s.pool.uuidv7.1, req.password)
  | .resetPassword _ req =>
    (findValidToken .passwordReset req.token s.pool).map fun row => (row.userId, req.newPassword)
  | .changePassword _ userId req => some (userId, req.newPassword)
  | _ => none

def Recorded.returned (s : Recorded) (app : AppState) : Option (Uuid × String) → Recorded
  | none => { s with app }
  | some (id, password) =>
    { app, passwords := Function.update s.passwords id (some password) }

section Packages

variable [Argon2] [Jwt]

def Recorded.call (s : Recorded) (call : ServiceCall) : Recorded :=
  match call.run s.app with
  | .error _ app => { s with app }
  | .ok _ app => s.returned app (sets s.app call)

def recordedStep (s : Recorded) : Label ServiceCall → Option Recorded
  | .call op => some (s.call op)
  | .expire id => some { s with app := s.app.expire id }
  | .wait seconds => some { s with app := s.app.wait seconds }

/-- Writing passwords down does not change what the service does. -/
theorem recordedStep_app (s : Recorded) (l : Label ServiceCall) :
    (recordedStep s l).map Recorded.app = serviceStep s.app l := by
  cases l with
  | expire id | wait seconds => rfl
  | call op =>
    simp only [recordedStep, serviceStep, Option.map_some, Recorded.call, Call.final]
    cases op.run s.app with
    | error e app => rfl
    | ok response app =>
      cases sets s.app op <;> rfl

/-! ## The invariant -/

/-- Users with the passwords that were last set for them. -/
structure Credentials (rows : List UserEntity) (passwords : Uuid → Option String) : Prop where
  names : ∀ user ∈ rows, ∀ user' ∈ rows, user.username = user'.username → user.id = user'.id
  usernames : ∀ user ∈ rows, IsUsername user.username
  /-- a row stores the password that was last set for it -/
  stored : ∀ user ∈ rows, ∃ password,
    passwords user.id = some password ∧ Stores user.password password

section Credentials

variable {users : Table UserEntity.id} {passwords passwords' : Uuid → Option String}

omit [Jwt]

theorem Credentials.insert {rows : List UserEntity} {row : UserEntity} {password : String}
    (h : Credentials rows passwords) (hname : IsUsername row.username)
    (hfresh : ∀ user ∈ rows, user.id ≠ row.id ∧ user.username ≠ row.username)
    (hstored : Stores row.password password) :
    Credentials (rows ++ [row]) (Function.update passwords row.id (some password)) where
  names user hmem user' hmem' hsame := by
    rw [List.mem_append, List.mem_singleton] at hmem hmem'
    rcases hmem with hmem | rfl <;> rcases hmem' with hmem' | rfl
    · exact h.names user hmem user' hmem' hsame
    · exact absurd hsame (hfresh user hmem).2
    · exact absurd hsame.symm (hfresh user' hmem').2
    · rfl
  usernames user hmem := by
    rw [List.mem_append, List.mem_singleton] at hmem
    rcases hmem with hmem | rfl
    · exact h.usernames user hmem
    · exact hname
  stored user hmem := by
    rw [List.mem_append, List.mem_singleton] at hmem
    rcases hmem with hmem | rfl
    · rw [Function.update_of_ne (hfresh user hmem).1]
      exact h.stored user hmem
    · exact ⟨password, Function.update_self .., hstored⟩

/-- An update of the row of the user `id`. -/
theorem Credentials.modify {id : Uuid} {f : UserEntity → UserEntity}
    (hf : ∀ user, (f user).id = user.id) (h : Credentials users.rows passwords)
    (hname : ∀ user ∈ users.rows, user.id = id → IsUsername (f user).username ∧
      ∀ user' ∈ users.rows, user'.id ≠ id → user'.username ≠ (f user).username)
    (hstored : ∀ user ∈ users.rows, user.id = id → ∃ password,
      passwords' id = some password ∧ Stores (f user).password password)
    (hothers : ∀ id', id' ≠ id → passwords' id' = passwords id') :
    Credentials (users.modify id f hf).rows passwords' where
  names user hmem user' hmem' hsame := by
    rw [Table.mem_modify] at hmem hmem'
    rcases hmem with ⟨hmem, hne⟩ | ⟨old, hold, rfl, rfl⟩ <;>
      rcases hmem' with ⟨hmem', hne'⟩ | ⟨old', hold', hid', rfl⟩
    · exact h.names user hmem user' hmem' hsame
    · exact absurd hsame ((hname old' hold' hid').2 user hmem hne)
    · exact absurd hsame.symm ((hname old hold rfl).2 user' hmem' hne')
    · rw [hf, hf, hid']
  usernames user hmem := by
    rcases (Table.mem_modify ..).mp hmem with ⟨hmem, -⟩ | ⟨old, hold, hid, rfl⟩
    · exact h.usernames user hmem
    · exact (hname old hold hid).1
  stored user hmem := by
    rcases (Table.mem_modify ..).mp hmem with ⟨hmem, hne⟩ | ⟨old, hold, hid, rfl⟩
    · rw [hothers _ hne]
      exact h.stored user hmem
    · rw [hf, hid]
      exact hstored old hold hid

/-- An update that leaves the name as it is. -/
theorem Credentials.sameName {id : Uuid} {f : UserEntity → UserEntity}
    (h : Credentials users.rows passwords) (hf : ∀ user, (f user).username = user.username) :
    ∀ user ∈ users.rows, user.id = id → IsUsername (f user).username ∧
      ∀ user' ∈ users.rows, user'.id ≠ id → user'.username ≠ (f user).username := by
  intro user hmem hid
  rw [hf]
  refine ⟨h.usernames user hmem, fun user' hmem' hne hsame => hne ?_⟩
  exact (h.names user' hmem' user hmem hsame).trans hid

/-- An update that leaves the name and the password as they are. -/
theorem Credentials.keep {id : Uuid} {f : UserEntity → UserEntity}
    (hf : ∀ user, (f user).id = user.id) (h : Credentials users.rows passwords)
    (hname : ∀ user, (f user).username = user.username)
    (hpassword : ∀ user, (f user).password = user.password) :
    Credentials (users.modify id f hf).rows passwords := by
  refine h.modify hf (h.sameName hname) (fun user hmem hid => ?_) fun _ _ => rfl
  rw [hpassword, ← hid]
  exact h.stored user hmem

/-- A password is set, and written down. -/
theorem Credentials.set {db db' : Db} {id : Uuid} {random : Random} {password : Password}
    {hashed : HashedPassword} (h : Credentials db.users.rows passwords)
    (hhash : hashPassword random password = .ok hashed)
    (hset : updatePassword id hashed db = .ok (1, db')) :
    Credentials db'.users.rows (Function.update passwords id (some password.value)) := by
  obtain ⟨hf, rfl⟩ := updatePassword_ok hset Nat.one_ne_zero
  refine h.modify hf (h.sameName fun user => rfl) (fun user hmem hid => ?_) fun id' hne => ?_
  · exact ⟨password.value, Function.update_self .., hashPassword_stores hhash⟩
  · exact Function.update_of_ne hne ..

end Credentials

/-! ## Steps -/

/-- What is stored for the users is what was written down. -/
def Recorded.Sound (s : Recorded) : Prop := Credentials s.app.pool.users.rows s.passwords

variable {s t : Recorded}

omit [Jwt] in
/-- A call that sets no password. -/
theorem credentials_effect {app app' : AppState} {call : ServiceCall}
    {passwords : Uuid → Option String} (h : Credentials app.pool.users.rows passwords)
    (hsets : sets app call = none) (heffect : Effect app call app') :
    Credentials app'.pool.users.rows passwords := by
  cases heffect with
  | createUserAccount | changePassword => cases hsets
  | resetPassword found =>
    rw [sets, found] at hsets
    cases hsets
  | verifyEmail found user token =>
    obtain ⟨hset, rfl⟩ := updateVerified_ok user Nat.one_ne_zero
    rw [users_updateToken token]
    exact h.keep hset (fun _ => rfl) fun _ => rfl
  | @updateUserAccount id req validated _ pool valid statement affected =>
    obtain ⟨username, email, phone, hset, rfl, hothers, rfl⟩ :=
      updateUserRow_row (validUserUpdateReq_username valid) statement affected
    refine h.modify hset (fun user hmem hid => ⟨?_, hothers⟩) (fun user hmem hid => ?_)
      fun _ _ => rfl
    · exact ⟨req.username, validated.username, validUserUpdateReq_username valid, rfl⟩
    · rw [← hid]
      exact h.stored user hmem
  | deleteUserAccount statement affected =>
    obtain ⟨hset, rfl⟩ := softDeleteUser_ok statement affected
    exact h.keep hset (fun _ => rfl) fun _ => rfl
  | forgotPassword statement =>
    rw [users_insertToken statement]
    exact h

omit [Argon2] [Jwt] in
/-- What a call without a result has come to, when it is answered with a text. -/
theorem call_message {x : Call AppError AppState Unit} {text : String} {app : AppState}
    {Q : AppState → Prop} (h : Call.EndsClean app (fun _ t => Q t) (x app)) :
    (∃ e, (x >>= fun _ => pure (Response.message text)) app = .error e app) ∨
      ∃ t, (x >>= fun _ => pure (Response.message text)) app = .ok (.message text) t ∧ Q t := by
  rw [Call.run_bind_pure]
  cases hx : x app with
  | error e t =>
    rw [hx] at h
    obtain rfl : t = app := h
    exact .inl ⟨e, rfl⟩
  | ok u t =>
    rw [hx] at h
    exact .inr ⟨t, rfl, h⟩

theorem sound_call (h : s.Sound) (op : ServiceCall) : (s.call op).Sound := by
  -- a call that sets no password
  have hother (hsets : sets s.app op = none) : (s.call op).Sound := by
    have hcall : s.call op = { s with app := op.run.final s.app } := by
      unfold Recorded.call Call.final
      rw [hsets]
      cases op.run s.app <;> rfl
    rw [hcall]
    rcases outcome s.app op with hsame | heffect
    · rw [hsame]
      exact h
    · exact credentials_effect h hsets heffect
  unfold Recorded.Sound at h ⊢
  cases op with
  | createUserAccount random req =>
    unfold Recorded.call
    rcases call_message (createUserAccount_ends random req) with ⟨e, hrun⟩ | ⟨t, hrun, hends⟩
    · rw [ServiceCall.run, hrun]
      exact h
    · obtain ⟨validated, hashed, id, pool₁, hvalid, hhash, huser, husers⟩ := hends
      obtain ⟨hname, hpassword⟩ := validUserCreateReq_ok hvalid
      obtain ⟨rfl, row, hid, hrow, hstored, hrows, hfresh⟩ := insertUser_row hname huser
      rw [ServiceCall.run, hrun]
      simp only [sets, Recorded.returned, husers, hrows, ← hid]
      refine h.insert ⟨_, _, hname, hrow.symm⟩ (fun user hmem => ?_) ?_
      · rw [hid]
        exact hfresh user hmem
      · rw [hstored, ← password_value hpassword]
        exact hashPassword_stores hhash
  | resetPassword random req =>
    unfold Recorded.call
    rcases call_message (resetPassword_ends random req) with ⟨e, hrun⟩ | ⟨t, hrun, hends⟩
    · rw [ServiceCall.run, hrun]
      exact h
    · obtain ⟨row, password, hashed, pool₁, hfound, hpassword, hhash, hset, husers⟩ := hends
      rw [ServiceCall.run, hrun]
      simp only [sets, hfound, Option.map_some, Recorded.returned, husers,
        ← password_value hpassword]
      exact h.set hhash hset
  | changePassword random userId req =>
    unfold Recorded.call
    rcases call_message (changePassword_ends random userId req) with ⟨e, hrun⟩ | ⟨t, hrun, hends⟩
    · rw [ServiceCall.run, hrun]
      exact h
    · obtain ⟨_, password, hashed, pool, -, -, hpassword, hhash, hset, hpool⟩ := hends
      rw [ServiceCall.run, hrun]
      simp only [sets, Recorded.returned, hpool, ← password_value hpassword]
      exact h.set hhash hset
  | verifyEmail | getUser | updateUserAccount | deleteUserAccount | loginUser
  | generateRefreshToken | forgotPassword => exact hother rfl

theorem sound_step (s : Recorded) (l : Label ServiceCall) (t : Recorded) (h : s.Sound)
    (hstep : recordedStep s l = some t) : t.Sound := by
  cases l with
  | call op =>
    cases hstep
    exact sound_call h op
  | expire id | wait seconds =>
    cases hstep
    exact h

/-! ## Logins -/

omit [Argon2] in
/-- The tokens of a user who has been let in. -/
def signIn (s : AppState) (random : Random) (user : UserEntity) : Except AppError JwtTokens := do
  let accessToken ← Service.unauthorized
    (generateAccessToken s.authConfig s.pool.now user.id user.username user.role)
  let refreshToken ← Service.unauthorized
    (generateRefreshToken s.authConfig s.pool.now random user.id)
  return { accessToken, refreshToken }

theorem loginUser_result (random : Random) (req : UserLoginReq) (s : AppState) :
    (Service.loginUser random req).result s = (do
      let username ← Username.new req.username
      let user ← getUserByUsername username s.pool
      if !user.emailVerified then
        throw (.forbidden "Please verify your email before logging in")
      verifyPassword req.password user.password
      signIn s random user) := by
  unfold Service.loginUser
  rw [Call.result_query_bind_eq]
  refine congrArg _ (funext fun username => ?_)
  rw [onPool, Call.result_query_bind_eq]
  refine congrArg _ (funext fun user => ?_)
  cases user.emailVerified with
  | false => rfl
  | true =>
    simp only [Bool.not_true, Bool.false_eq_true, if_false]
    rw [Call.result_query_bind_eq]
    refine congrArg _ (funext fun _ => ?_)
    rw [Call.result_query_bind_eq]
    refine congrArg _ (funext fun accessToken => ?_)
    rw [Call.result_query_bind_eq]
    rfl

omit [Argon2] [Jwt] in
/-- The row with a username, deleted or not, is the only one with it. -/
theorem getUserByUsername_eq [Argon2] {passwords : Uuid → Option String} {db : Db}
    (h : Credentials db.users.rows passwords) {user : UserEntity} (hmem : user ∈ db.users.rows)
    {username : Username} (hname : username.value = user.username) :
    getUserByUsername username db =
      if user.deletedAt.isSome then .error (.notFound s!"User not found: {rowNotFound}")
      else .ok user := by
  unfold getUserByUsername fetchUser
  split
  · rename_i found hfind
    have hmem' := List.mem_of_find?_eq_some hfind
    have hp := List.find?_some hfind
    simp only [Bool.and_eq_true, decide_eq_true_eq, Option.isNone_iff_eq_none] at hp
    have hid := h.names found hmem' user hmem (hp.1.trans hname)
    obtain rfl := db.users.eq_of_key_eq hmem' hmem hid
    rw [hp.2]
    rfl
  · rename_i hnone
    have hp := List.find?_eq_none.mp hnone user hmem
    cases hdeleted : user.deletedAt with
    | none => simp [hname, hdeleted] at hp
    | some at' => rfl

/-- In every state that a run of calls leads to, a login that names a user is decided by the row
    of the user and by the password that was last set. Other logins fail. -/
theorem loginUser_decided [LawfulArgon2] (config : AuthConfig) (ls : List (Label ServiceCall))
    {s : Recorded} (hrun : Run.run recordedStep { app := { authConfig := config } } ls = some s)
    (random : Random) (req : UserLoginReq) :
    (∀ user ∈ s.app.pool.users.rows, Text.trim req.username = user.username →
      (Service.loginUser random req).result s.app =
        if user.deletedAt.isSome then .error (.notFound s!"User not found: {rowNotFound}")
        else if !user.emailVerified then
          .error (.forbidden "Please verify your email before logging in")
        else if s.passwords user.id = some req.password then signIn s.app random user
        else .error (.unauthorized "Invalid credentials")) ∧
      ((∀ user ∈ s.app.pool.users.rows, Text.trim req.username ≠ user.username) →
        ∃ e, (Service.loginUser random req).result s.app = .error e) := by
  have hempty : Recorded.Sound { app := { authConfig := config } } :=
    ⟨by simp, by simp, by simp⟩
  have h : s.Sound := Run.run_invariant sound_step hempty hrun
  rw [loginUser_result]
  constructor
  · intro user hmem hname
    obtain ⟨username, hnew, hvalue⟩ := (h.usernames user hmem).new hname
    obtain ⟨password, hpassword, hstores⟩ := h.stored user hmem
    rw [hnew, Except.ok_bind, getUserByUsername_eq h hmem hvalue]
    by_cases hdeleted : user.deletedAt.isSome
    · rw [if_pos hdeleted, if_pos hdeleted]
      rfl
    · rw [if_neg hdeleted, if_neg hdeleted, Except.ok_bind, verifyPassword_stored hstores,
        hpassword]
      cases user.emailVerified with
      | false => rfl
      | true =>
        simp only [Bool.not_true, Bool.false_eq_true, if_false, Option.some.injEq, eq_comm]
        by_cases hsame : password = req.password
        · rw [if_pos hsame, if_pos hsame]
          rfl
        · rw [if_neg hsame, if_neg hsame]
          rfl
  · intro hnone
    cases hnew : Username.new req.username with
    | error e => exact ⟨e, rfl⟩
    | ok username =>
      rw [Except.ok_bind]
      cases hget : getUserByUsername username s.app.pool with
      | error e => exact ⟨e, rfl⟩
      | ok user =>
        obtain ⟨hmem, hp, -⟩ := fetchUser_ok hget
        have hname := (username_value hnew).1
        exact absurd (hname.symm.trans (of_decide_eq_true hp).symm) (hnone user hmem)

end Packages

/-! ## A user who changes the password -/

/-- A hash that is the salt and the password themselves. A salt without the separator is read
    back. -/
@[reducible] def saltedText : Argon2 where
  hashPassword password salt :=
    if '$' ∈ salt.toList then .error "salt invalid"
    else .ok ("$argon2id$" ++ salt ++ "$" ++ password)
  parseHash hash :=
    if "$argon2id$".toList.isPrefixOf hash.toList then .ok () else .error "password hash string"
  verifyPassword password hash :=
    if ((hash.toList.drop 10).dropWhile (· ≠ '$')).drop 1 = password.toList then .ok ()
    else .error .password

theorem saltedText_lawful : @LawfulArgon2 saltedText := by
  have hhash {password salt hash : String}
      (h : @Argon2.hashPassword saltedText password salt = .ok hash) :
      '$' ∉ salt.toList ∧
        hash.toList = "$argon2id$".toList ++ (salt.toList ++ '$' :: password.toList) := by
    by_cases hsalt : '$' ∈ salt.toList
    · exact absurd (h.symm.trans (if_pos hsalt)) nofun
    · cases h.symm.trans (if_neg hsalt)
      exact ⟨hsalt, by simp⟩
  refine @LawfulArgon2.mk saltedText (fun {password salt hash} h => ?_)
    fun {password salt hash} h password' => ?_
  · refine if_pos ?_
    rw [(hhash h).2]
    simp
  · obtain ⟨hsalt, hlist⟩ := hhash h
    have hpassword : ((hash.toList.drop 10).dropWhile (· ≠ '$')).drop 1 = password.toList := by
      have hdrop : hash.toList.drop 10 = salt.toList ++ '$' :: password.toList := by
        rw [hlist]
        rfl
      rw [hdrop, List.dropWhile_append_of_pos fun c hc => ?_]
      · rfl
      · have hne : c ≠ '$' := fun h => hsalt (h ▸ hc)
        simpa using hne
    by_cases hsame : password' = password
    · rw [if_pos hsame]
      exact if_pos (by rw [hpassword, hsame])
    · rw [if_neg hsame]
      exact if_neg fun h => hsame (String.toList_inj.mp (h.symm.trans hpassword))

/-- A registration, the verification of the address, and a change of the password. -/
def changedCalls : List (Label ServiceCall) :=
  [.call (.createUserAccount sampleRandom sampleCreateReq),
   .call (.verifyEmail { token := generateVerificationToken sampleRandom }),
   .call (.changePassword sampleRandom ⟨3, 0⟩
     { currentPassword := "Password1!", newPassword := "Password2!" })]

theorem loginUser_decided_changed : ∃ s, Run.run (@recordedStep saltedText _)
      { app := { authConfig := testAuthConfig } } changedCalls = some s ∧
    s.app.pool.users.rows.map (·.username) = ["testuser"] ∧
    ∀ user ∈ s.app.pool.users.rows, ∀ random password,
      (@Service.loginUser saltedText _ random { username := " testuser", password }).result s.app =
        if "Password2!" = password then signIn s.app random user
        else .error (.unauthorized "Invalid credentials") := by
  obtain ⟨s, hrun, hnames, hpassword, hverified⟩ : ∃ s, Run.run (@recordedStep saltedText _)
      { app := { authConfig := testAuthConfig } } changedCalls = some s ∧
      s.app.pool.users.rows.map (·.username) = ["testuser"] ∧
      s.app.pool.users.rows.map (fun user => s.passwords user.id) = [some "Password2!"] ∧
      s.app.pool.users.rows.map (fun user => (user.emailVerified, user.deletedAt)) =
        [(true, none)] :=
    Run.run_decide (by decide +kernel)
  refine ⟨s, hrun, hnames, fun user hmem random password => ?_⟩
  -- there is one row, so what holds of the lists holds of it
  obtain ⟨row, hrows⟩ : ∃ row, s.app.pool.users.rows = [row] := by
    rw [← List.length_eq_one_iff, ← List.length_map (·.username), hnames]
    rfl
  obtain rfl : user = row := by simpa [hrows] using hmem
  simp only [hrows, List.map_cons, List.map_nil, List.cons.injEq, and_true, Prod.mk.injEq]
    at hnames hpassword hverified
  have htrim : Text.trim " testuser" = user.username := by
    rw [hnames]
    decide +kernel
  have hlogin := (@loginUser_decided saltedText _ saltedText_lawful testAuthConfig changedCalls s
    hrun random { username := " testuser", password }).1 user (by simp [hrows])
  rw [hlogin htrim, hverified.2, hverified.1, hpassword]
  simp

end Koupang.Identity
