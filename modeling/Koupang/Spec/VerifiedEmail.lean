import Koupang.Spec.IdentityCorrect
import Koupang.Spec.Text

/-!
# What a verified address means

`email_verified` is a column of the user, and a verification token belongs to
the user, too. Neither is tied to an address: an update of the address leaves
the column as it is, and a token can be redeemed after such an update. So the
flag means that the address was proven as long as nobody changes an address that
is proven, or on its way to be.

## Key results

- `email_fits`: an address is stored as it was validated
- `verifiedProven_call`: a call keeps verified addresses proven exactly if it keeps the address
- `verifiedProven_iff`: the same over every run, with what a login then means
-/

namespace Koupang.Identity

open Repository

/-- A verification token of the user was sent to the address, and was redeemed. -/
def Proven (s : AppState) (userId : Uuid) (address : String) : Prop :=
  ∃ token ∈ s.pool.emailVerificationTokens.rows, token.userId = userId ∧ token.usedAt ≠ none ∧
    verificationEmail address token.token ∈ s.emails

/-- The address of every verified user is proven. -/
def VerifiedProven (s : AppState) : Prop :=
  ∀ user ∈ s.pool.users.rows, user.emailVerified = true → Proven s user.id user.email

/-- `updateUserRow` affects a row. -/
def UpdateAccepted (id : Uuid) (req : ValidUserUpdateReq) (db : Db) : Prop :=
  ∃ n ∈ ((updateUserRow id req db).toOption.map Prod.fst), n ≠ 0

/-- A token is redeemed only while its user has the address that it was sent to, and an update
    gives a verified user no other address; unless the address is proven already. -/
def KeepsAddress (s : AppState) : ServiceCall → Prop
  | .verifyEmail req =>
    ∀ token ∈ findValidToken .emailVerification req.token s.pool,
      ∀ user ∈ s.pool.users.find? token.userId,
        verificationEmail user.email token.token ∈ s.emails ∨ Proven s user.id user.email
  | .updateUserAccount id req =>
    ∀ validated, ValidUserUpdateReq.tryFrom req = .ok validated →
      UpdateAccepted id validated s.pool → ∀ user ∈ s.pool.users.find? id,
        user.emailVerified = true → Proven s id validated.email.value
  | _ => True

/-! ## Addresses -/

/-- An address is stored as it was validated. -/
theorem email_fits {input : String} {email : Email} (h : Email.new input = .ok email) :
    varchar 255 email.value = .ok email.value := by
  unfold Email.new at h
  dsimp only at h
  split at h
  · cases h
  · rename_i hlen
    split at h
    · have hvalue := congrArg Email.value (Except.ok.inj h)
      have hle := Text.length_toLowercase_le (Text.trim input)
      dsimp only at hvalue
      rw [← hvalue, varchar, if_pos (by omega)]
    · cases h

/-! ## What stays proven -/

/-- Redeemed tokens stay redeemed, and what was sent stays sent. -/
structure Extends (s t : AppState) : Prop where
  tokens : ∀ token ∈ s.pool.emailVerificationTokens.rows, token.usedAt ≠ none →
    ∃ token' ∈ t.pool.emailVerificationTokens.rows, token'.userId = token.userId ∧
      token'.token = token.token ∧ token'.usedAt ≠ none
  emails : ∀ message ∈ s.emails, message ∈ t.emails

theorem Proven.mono {s t : AppState} {userId : Uuid} {address : String}
    (h : Proven s userId address) (hext : Extends s t) : Proven t userId address := by
  obtain ⟨token, hmem, huser, hused, hsent⟩ := h
  obtain ⟨token', hmem', huser', htext, hused'⟩ := hext.tokens token hmem hused
  exact ⟨token', hmem', huser'.trans huser, hused', hext.emails _ (htext ▸ hsent)⟩

/-- A call that leaves every verified user the address. -/
theorem VerifiedProven.mono {s t : AppState} (h : VerifiedProven s) (hext : Extends s t)
    (husers : ∀ user ∈ t.pool.users.rows, user.emailVerified = true →
      ∃ old ∈ s.pool.users.rows, old.emailVerified = true ∧ old.id = user.id ∧
        old.email = user.email) : VerifiedProven t := by
  intro user hmem hverified
  obtain ⟨old, hold, hverified', hid, hemail⟩ := husers user hmem hverified
  have hproven := h old hold hverified'
  rw [hid, hemail] at hproven
  exact hproven.mono hext

/-- The tokens of the same rows, or of more. -/
theorem extends_of_subset {s t : AppState}
    (htokens : ∀ token ∈ s.pool.emailVerificationTokens.rows,
      token ∈ t.pool.emailVerificationTokens.rows)
    (hemails : ∀ message ∈ s.emails, message ∈ t.emails) : Extends s t where
  tokens token hmem hused := ⟨token, htokens token hmem, rfl, rfl, hused⟩
  emails := hemails

/-- An update that touches neither the address nor the flag. -/
theorem verified_modify {users : Table UserEntity.id} {id : Uuid} {f : UserEntity → UserEntity}
    (hset : ∀ user, (f user).id = user.id)
    (hf : ∀ user, (f user).emailVerified = user.emailVerified ∧ (f user).email = user.email)
    {user : UserEntity} (hmem : user ∈ (users.modify id f hset).rows)
    (hverified : user.emailVerified = true) :
    ∃ old ∈ users.rows, old.emailVerified = true ∧ old.id = user.id ∧ old.email = user.email := by
  rcases (Table.mem_modify _ _ _ hset _).mp hmem with ⟨hmem, -⟩ | ⟨old, hold, -, rfl⟩
  · exact ⟨user, hmem, hverified, rfl, rfl⟩
  · exact ⟨old, hold, (hf old).1.symm.trans hverified, (hset old).symm, (hf old).2.symm⟩

/-! ## The calls that matter -/

section Calls

variable {s : AppState}

/-- The tables after a token was redeemed. -/
def redeemed (db : Db) (token : TokenEntity) : Db :=
  let now := db.now
  { db with
    users := db.users.modify token.userId (setVerified now) (setVerified_id now)
    emailVerificationTokens :=
      db.emailVerificationTokens.modify token.id (setUsed now) (setUsed_id now) }

theorem mem_users_redeemed {db : Db} {token : TokenEntity} {user : UserEntity} :
    user ∈ (redeemed db token).users.rows ↔ (user ∈ db.users.rows ∧ user.id ≠ token.userId) ∨
      ∃ old ∈ db.users.rows, old.id = token.userId ∧ setVerified db.now old = user :=
  Table.mem_modify db.users _ (setVerified db.now) (fun _ => rfl) _

theorem mem_tokens_redeemed {db : Db} {token row : TokenEntity} :
    row ∈ (redeemed db token).emailVerificationTokens.rows ↔
      (row ∈ db.emailVerificationTokens.rows ∧ row.id ≠ token.id) ∨
      ∃ old ∈ db.emailVerificationTokens.rows, old.id = token.id ∧ setUsed db.now old = row :=
  Table.mem_modify db.emailVerificationTokens _ (setUsed db.now) (fun _ => rfl) _

theorem updates_redeemed {db : Db} {token : TokenEntity}
    (huser : (db.users.find? token.userId).isSome)
    (htoken : (db.emailVerificationTokens.find? token.id).isSome) :
    ∃ db₁, updateVerified token.userId db = .ok (1, db₁) ∧
      updateToken .emailVerification token.id db₁ = .ok (1, redeemed db token) := by
  obtain ⟨user, huser⟩ := Option.isSome_iff_exists.mp huser
  obtain ⟨row, hrow⟩ := Option.isSome_iff_exists.mp htoken
  refine ⟨_, by rw [updateVerified, huser], ?_⟩
  simp only [updateToken, Db.tokens, hrow]
  rfl

/-- Redeeming a valid token of a user who is there. -/
theorem final_verifyEmail {req : VerifyEmailReq} {token : TokenEntity} {user : UserEntity}
    (htoken : findValidToken .emailVerification req.token s.pool = some token)
    (huser : s.pool.users.find? token.userId = some user) :
    (Service.verifyEmail req).final s = { s with pool := redeemed s.pool token } := by
  have hmem := (findValidToken_some htoken).1
  have hfind : s.pool.emailVerificationTokens.find? token.id = some token :=
    (Table.find?_eq_some_iff ..).mpr ⟨hmem, rfl⟩
  have hupdates := updates_redeemed (Option.isSome_of_eq_some huser)
    (Option.isSome_of_eq_some hfind)
  have htx : withTransaction (Service.verifyEmailTx token) s.pool =
      .ok ((), redeemed s.pool token) := withTransaction_affectsOne.mpr hupdates
  have hfound : getValidVerificationToken req.token s.pool = .ok token :=
    getValidVerificationToken_ok.mpr htoken
  refine (Call.final_query_of_ok (f := fun state : AppState => getValidVerificationToken req.token state.pool)
    hfound).trans ?_
  exact final_inTransaction_end_of_ok htx

/-- An update that is accepted. -/
theorem final_updateUserAccount {id : Uuid} {req : UserUpdateReq} {validated : ValidUserUpdateReq}
    {rowsAffected : Nat} {pool : Db} (hvalid : ValidUserUpdateReq.tryFrom req = .ok validated)
    (hstatement : updateUserRow id validated s.pool = .ok (rowsAffected, pool))
    (haffected : rowsAffected ≠ 0) :
    (Service.updateUserAccount id req).final s =
      { s with pool, cache := s.cache.evict id } := by
  have htx : withTransaction (updateUser id validated) s.pool = .ok ((), pool) :=
    withTransaction_of_affected hstatement haffected
  refine (Call.final_query_of_ok (f := fun _ => ValidUserUpdateReq.tryFrom req) hvalid).trans ?_
  exact final_inTransaction_of_ok htx

theorem updateAccepted_iff {id : Uuid} {req : ValidUserUpdateReq} {db : Db} :
    UpdateAccepted id req db ↔ ∃ n pool, updateUserRow id req db = .ok (n, pool) ∧ n ≠ 0 := by
  unfold UpdateAccepted
  cases updateUserRow id req db with
  | error e => simp [Except.toOption]
  | ok p =>
    obtain ⟨n, pool⟩ := p
    simp [Except.toOption]

/-- The address in the columns of an update is the one that was validated. -/
theorem userColumns_email {req : UserUpdateReq} {validated : ValidUserUpdateReq}
    {username email phone : String} (hvalid : ValidUserUpdateReq.tryFrom req = .ok validated)
    (hcolumns : userColumns validated.username validated.email validated.phone =
      .ok (username, email, phone)) : email = validated.email.value := by
  simp only [ValidUserUpdateReq.tryFrom, Except.bind_eq_ok] at hvalid
  obtain ⟨_, -, address, haddress, _, -, hvalid⟩ := hvalid
  cases hvalid
  simp only [userColumns, Except.bind_eq_ok] at hcolumns
  obtain ⟨_, -, stored, hstored, _, -, hcolumns⟩ := hcolumns
  cases hcolumns
  exact (Except.ok.inj ((email_fits haddress).symm.trans hstored)).symm

/-- A token that is marked as used does not make another one unused. -/
theorem extends_modify {t : AppState} {tokenId : Uuid} {now : Nat}
    (hset : ∀ token, (setUsed now token).id = token.id)
    (htokens : t.pool.emailVerificationTokens =
      s.pool.emailVerificationTokens.modify tokenId (setUsed now) hset)
    (hemails : t.emails = s.emails) : Extends s t where
  tokens token hmem hused := by
    rw [htokens]
    by_cases hid : token.id = tokenId
    · have hused : (setUsed now token).usedAt ≠ none := Option.some_ne_none now
      refine ⟨setUsed now token, ?_, rfl, rfl, hused⟩
      exact (Table.mem_modify ..).mpr (.inr ⟨token, hmem, hid, rfl⟩)
    · exact ⟨token, (Table.mem_modify ..).mpr (.inl ⟨hmem, hid⟩), rfl, rfl, hused⟩
  emails message hmem := hemails ▸ hmem

theorem eq_redeemed {token : TokenEntity} {db db₁ db' : Db}
    (huser : updateVerified token.userId db = .ok (1, db₁))
    (htoken : updateToken .emailVerification token.id db₁ = .ok (1, db')) :
    db' = redeemed db token := by
  obtain ⟨hset, rfl⟩ := updateVerified_ok huser Nat.one_ne_zero
  obtain ⟨hset', rfl⟩ := updateToken_ok htoken Nat.one_ne_zero
  rfl

theorem verifiedProven_redeemed {text : String} {token : TokenEntity} (h : VerifiedProven s)
    (hfound : findValidToken .emailVerification text s.pool = some token)
    (hkeeps : ∀ user ∈ s.pool.users.find? token.userId,
      verificationEmail user.email token.token ∈ s.emails ∨ Proven s user.id user.email) :
    VerifiedProven { s with pool := redeemed s.pool token } := by
  have hext : Extends s { s with pool := redeemed s.pool token } :=
    extends_modify (fun _ => rfl) rfl rfl
  intro user hmem hverified
  rcases mem_users_redeemed.mp hmem with ⟨hmem, -⟩ | ⟨old, hold, hid, rfl⟩
  · exact (h user hmem hverified).mono hext
  · have hfind : s.pool.users.find? token.userId = some old :=
      (Table.find?_eq_some_iff ..).mpr ⟨hold, hid⟩
    rcases hkeeps old hfind with hsent | hproven
    · -- the token itself proves the address
      have htoken := (findValidToken_some hfound).1
      have hused : (setUsed s.pool.now token).usedAt ≠ none := Option.some_ne_none s.pool.now
      refine ⟨setUsed s.pool.now token, ?_, hid.symm, hused, hsent⟩
      exact mem_tokens_redeemed.mpr (.inr ⟨token, htoken, rfl, rfl⟩)
    · exact hproven.mono hext

theorem verifiedProven_updated {id : Uuid} {req : UserUpdateReq} {validated : ValidUserUpdateReq}
    {rowsAffected : Nat} {pool : Db} (h : VerifiedProven s)
    (hvalid : ValidUserUpdateReq.tryFrom req = .ok validated)
    (hstatement : updateUserRow id validated s.pool = .ok (rowsAffected, pool))
    (haffected : rowsAffected ≠ 0)
    (hkeeps : ∀ user ∈ s.pool.users.find? id, user.emailVerified = true →
      Proven s id validated.email.value) :
    VerifiedProven { s with pool, cache := s.cache.evict id } := by
  obtain ⟨-, username, email, phone, hset, -, -, hcolumns, rfl⟩ :=
    updateUserRow_ok hstatement haffected
  have hemail := userColumns_email hvalid hcolumns
  intro user hmem hverified
  rcases (Table.mem_modify _ _ _ hset _).mp hmem with ⟨hmem, -⟩ | ⟨old, hold, hid, rfl⟩
  · exact (h user hmem hverified).mono (extends_of_subset (fun _ h => h) fun _ h => h)
  · have hfind : s.pool.users.find? id = some old :=
      (Table.find?_eq_some_iff ..).mpr ⟨hold, hid⟩
    have hproven := hkeeps old hfind hverified
    rw [← hemail, ← hid] at hproven
    exact hproven.mono (extends_of_subset (fun _ h => h) fun _ h => h)

/-- What a call does that keeps the addresses. -/
theorem verifiedProven_of_effect {call : ServiceCall} {t : AppState} (h : VerifiedProven s)
    (heffect : Effect s call t) (hkeeps : KeepsAddress s call) : VerifiedProven t := by
  cases heffect with
  | @createUserAccount random req validated hashedPassword id pool₁ pool hvalid huser htoken =>
    obtain ⟨-, -, row, users, -, -, hunverified, hrows, rfl⟩ := insertUser_ok huser
    obtain ⟨-, token, tokens, -, -, htokens, rfl⟩ := insertToken_ok htoken
    refine h.mono (extends_of_subset (fun token hmem => ?_) fun message hmem => ?_)
      fun user hmem hverified => ?_
    · change token ∈ tokens.rows
      rw [htokens]
      exact List.mem_append_left _ hmem
    · exact List.mem_append_left _ hmem
    change user ∈ users.rows at hmem
    rw [hrows, List.mem_append, List.mem_singleton] at hmem
    rcases hmem with hmem | rfl
    · exact ⟨user, hmem, hverified, rfl, rfl⟩
    · rw [hunverified] at hverified
      cases hverified
  | verifyEmail hfound huser htoken =>
    cases eq_redeemed huser htoken
    exact verifiedProven_redeemed h hfound (hkeeps _ hfound)
  | updateUserAccount hvalid hstatement haffected =>
    have haccepted := updateAccepted_iff.mpr ⟨_, _, hstatement, haffected⟩
    exact verifiedProven_updated h hvalid hstatement haffected (hkeeps _ hvalid haccepted)
  | deleteUserAccount hstatement haffected =>
    obtain ⟨hset, rfl⟩ := softDeleteUser_ok hstatement haffected
    exact h.mono (extends_of_subset (fun _ h => h) fun _ h => h) fun user hmem =>
      verified_modify hset (fun _ => ⟨rfl, rfl⟩) hmem
  | forgotPassword hstatement =>
    obtain ⟨-, token, tokens, -, -, -, rfl⟩ := insertToken_ok hstatement
    exact h.mono (extends_of_subset (fun _ h => h) fun _ hmem => List.mem_append_left _ hmem)
      fun user hmem hverified => ⟨user, hmem, hverified, rfl, rfl⟩
  | resetPassword hfound huser htoken =>
    obtain ⟨hset, rfl⟩ := updatePassword_ok huser Nat.one_ne_zero
    obtain ⟨hset', rfl⟩ := updateToken_ok htoken Nat.one_ne_zero
    exact h.mono (extends_of_subset (fun _ h => h) fun _ h => h) fun user hmem =>
      verified_modify hset (fun _ => ⟨rfl, rfl⟩) hmem
  | changePassword hstatement =>
    obtain ⟨hset, rfl⟩ := updatePassword_ok hstatement Nat.one_ne_zero
    exact h.mono (extends_of_subset (fun _ h => h) fun _ h => h) fun user hmem =>
      verified_modify hset (fun _ => ⟨rfl, rfl⟩) hmem

/-- If the address is proven when the token is redeemed, this token was sent to it, or it was
    proven before. -/
theorem keepsAddress_of_redeemed {token : TokenEntity} {user : UserEntity}
    (htoken : token ∈ s.pool.emailVerificationTokens.rows)
    (huser : s.pool.users.find? token.userId = some user)
    (h : VerifiedProven { s with pool := redeemed s.pool token }) :
    verificationEmail user.email token.token ∈ s.emails ∨ Proven s user.id user.email := by
  obtain ⟨hmem, hid⟩ := (Table.find?_eq_some_iff ..).mp huser
  have hmodified : setVerified s.pool.now user ∈ (redeemed s.pool token).users.rows :=
    mem_users_redeemed.mpr (.inr ⟨user, hmem, hid, rfl⟩)
  obtain ⟨row, hrow, hrowuser, hused, hsent⟩ := h _ hmodified rfl
  rcases mem_tokens_redeemed.mp hrow with ⟨hrow, -⟩ | ⟨old, hold, hkey, rfl⟩
  · exact .inr ⟨row, hrow, hrowuser, hused, hsent⟩
  · rw [Table.eq_of_key_eq _ hold htoken hkey] at hsent
    exact .inl hsent

theorem keepsAddress_of_updated {id : Uuid} {req : UserUpdateReq} {validated : ValidUserUpdateReq}
    {rowsAffected : Nat} {pool : Db} {user : UserEntity}
    (hvalid : ValidUserUpdateReq.tryFrom req = .ok validated)
    (hstatement : updateUserRow id validated s.pool = .ok (rowsAffected, pool))
    (haffected : rowsAffected ≠ 0) (huser : s.pool.users.find? id = some user)
    (hverified : user.emailVerified = true)
    (h : VerifiedProven { s with pool, cache := s.cache.evict id }) :
    Proven s id validated.email.value := by
  obtain ⟨-, username, email, phone, hset, -, -, hcolumns, rfl⟩ :=
    updateUserRow_ok hstatement haffected
  have hemail := userColumns_email hvalid hcolumns
  obtain ⟨hmem, hid⟩ := (Table.find?_eq_some_iff ..).mp huser
  have hproven := h (setProfile username email phone validated.role s.pool.now user)
    ((Table.mem_modify _ _ _ hset _).mpr (.inr ⟨user, hmem, hid, rfl⟩)) hverified
  rw [← hemail, ← hid]
  exact hproven

variable [Argon2] [Jwt]

/-- A call keeps verified addresses proven exactly if it keeps the address. -/
theorem verifiedProven_call (call : ServiceCall) (h : VerifiedProven s) :
    VerifiedProven (call.run.final s) ↔ KeepsAddress s call := by
  constructor
  · intro hafter
    cases call with
    | verifyEmail req =>
      intro token htoken user huser
      rw [show (ServiceCall.verifyEmail req).run.final s = _ from Call.final_bind_pure ..,
        final_verifyEmail htoken huser] at hafter
      exact keepsAddress_of_redeemed (findValidToken_some htoken).1 huser hafter
    | updateUserAccount id req =>
      intro validated hvalid haccepted user huser hverified
      obtain ⟨rowsAffected, pool, hstatement, haffected⟩ := updateAccepted_iff.mp haccepted
      rw [show (ServiceCall.updateUserAccount id req).run.final s = _ from
        Call.final_bind_pure .., final_updateUserAccount hvalid hstatement haffected] at hafter
      exact keepsAddress_of_updated hvalid hstatement haffected huser hverified hafter
    | _ => trivial
  · intro hkeeps
    rcases outcome s call with hsame | heffect
    · rw [hsame]
      exact h
    · exact verifiedProven_of_effect h heffect hkeeps

end Calls

/-! ## Runs -/

section Runs

variable [Argon2] [Jwt]

/-- Whoever logs in has an address that is proven. -/
def LoginProven (s : AppState) : Prop :=
  ∀ random req res, (Service.loginUser random req).result s = .ok res →
    ∃ username user, Username.new req.username = .ok username ∧
      getUserByUsername username s.pool = .ok user ∧ Proven s user.id user.email

theorem loginProven_of_verifiedProven {s : AppState} (h : VerifiedProven s) : LoginProven s := by
  intro random req res hlogin
  unfold Call.result at hlogin
  cases hrun : Service.loginUser random req s with
  | error e t =>
    rw [hrun] at hlogin
    cases hlogin
  | ok res' t =>
    obtain ⟨-, username, user, husername, huser, hverified, -⟩ := loginUser_ok hrun
    exact ⟨username, user, husername, huser, h user (fetchUser_ok huser).1 hverified⟩

/-- The condition, on the steps of a run. -/
def StepKeepsAddress (s : AppState) : Label ServiceCall → Prop
  | .call call => KeepsAddress s call
  | .expire _ | .wait _ => True

/-- Over every run: verified addresses are proven, and with them the addresses of whoever logs
    in, exactly as long as every call keeps the address. -/
theorem verifiedProven_iff {s t : AppState} {labels : List (Label ServiceCall)}
    (hs : VerifiedProven s) (hrun : Run.run serviceStep s labels = some t) :
    (∀ u, Run.Visits serviceStep s labels u → VerifiedProven u ∧ LoginProven u) ↔
      Run.Meets serviceStep StepKeepsAddress s labels := by
  have hiff : (∀ u, Run.Visits serviceStep s labels u → VerifiedProven u) ↔
      Run.Meets serviceStep StepKeepsAddress s labels := by
    have hkeeps : ∀ u label v, True → VerifiedProven u → serviceStep u label = some v →
        True ∧ (VerifiedProven v ↔ StepKeepsAddress u label) := by
      intro u label v _ hu hstep
      refine ⟨trivial, ?_⟩
      cases label with
      | call call =>
        cases hstep
        exact verifiedProven_call call hu
      | expire id | wait seconds =>
        cases hstep
        exact iff_of_true hu trivial
    exact Run.run_forall_iff hkeeps trivial hs hrun
  rw [← hiff]
  refine forall₂_congr fun u _ => ?_
  exact ⟨And.left, fun hu => ⟨hu, loginProven_of_verifiedProven hu⟩⟩

end Runs

/-! ## The address changed -/

instance (s : AppState) (userId : Uuid) (address : String) : Decidable (Proven s userId address) :=
  inferInstanceAs (Decidable (∃ token ∈ s.pool.emailVerificationTokens.rows, _))

instance (id : Uuid) (req : ValidUserUpdateReq) (db : Db) : Decidable (UpdateAccepted id req db) :=
  inferInstanceAs (Decidable (∃ n ∈ (updateUserRow id req db).toOption.map Prod.fst, n ≠ 0))

instance (s : AppState) : DecidablePred (KeepsAddress s)
  | .verifyEmail req => inferInstanceAs (Decidable
      (∀ token ∈ findValidToken .emailVerification req.token s.pool,
        ∀ user ∈ s.pool.users.find? token.userId,
          verificationEmail user.email token.token ∈ s.emails ∨ Proven s user.id user.email))
  | .updateUserAccount id req => decidable_of_iff
      (∀ validated ∈ (ValidUserUpdateReq.tryFrom req).toOption,
        UpdateAccepted id validated s.pool → ∀ user ∈ s.pool.users.find? id,
          user.emailVerified = true → Proven s id validated.email.value)
      (forall_congr' fun _ => imp_congr_left Except.toOption_eq_some)
  | .createUserAccount .. | .getUser .. | .deleteUserAccount .. | .loginUser ..
  | .generateRefreshToken .. | .forgotPassword .. | .resetPassword .. | .changePassword .. =>
    .isTrue trivial

instance (s : AppState) : DecidablePred (StepKeepsAddress s)
  | .call call => inferInstanceAs (Decidable (KeepsAddress s call))
  | .expire _ | .wait _ => .isTrue trivial

/-- A user registers and redeems the token, and an update follows. -/
def registerVerifyUpdate (email : String) : List (Label ServiceCall) :=
  [.call (.createUserAccount sampleRandom sampleCreateReq),
   .call (.verifyEmail { token := generateVerificationToken sampleRandom }),
   .call (.updateUserAccount ⟨3, 0⟩
    { username := sampleCreateReq.username, email, phone := sampleCreateReq.phone
      role := sampleCreateReq.role })]

/-- A user updates the address first, and then redeems the token sent to the old one. -/
def registerUpdateVerify (email : String) : List (Label ServiceCall) :=
  [.call (.createUserAccount sampleRandom sampleCreateReq),
   .call (.updateUserAccount ⟨3, 0⟩
    { username := sampleCreateReq.username, email, phone := sampleCreateReq.phone
      role := sampleCreateReq.role }),
   .call (.verifyEmail { token := generateVerificationToken sampleRandom })]

/-- A verified user whose address was never proven logs in. -/
def UnprovenLogin (t : AppState) : Prop :=
  (∃ user ∈ t.pool.users.rows, user.username = sampleCreateReq.username ∧
    user.emailVerified = true ∧ ¬ Proven t user.id user.email) ∧
  ((Service.loginUser sampleRandom { username := sampleCreateReq.username
                                     password := sampleCreateReq.password }).result t).isOk = true

instance : DecidablePred UnprovenLogin := fun t => by
  unfold UnprovenLogin
  infer_instance

theorem unproven_login :
    (∃ t, Run.run serviceStep { authConfig := testAuthConfig }
      (registerVerifyUpdate "updated@example.com") = some t ∧ UnprovenLogin t) ∧
    ∃ t, Run.run serviceStep { authConfig := testAuthConfig }
      (registerUpdateVerify "updated@example.com") = some t ∧ UnprovenLogin t :=
  ⟨Run.run_decide (by decide +kernel), Run.run_decide (by decide +kernel)⟩

/-- An update that keeps the address keeps it proven. -/
theorem verifiedProven_same_address : ∃ t, Run.run serviceStep { authConfig := testAuthConfig }
    (registerVerifyUpdate sampleCreateReq.email) = some t ∧ VerifiedProven t ∧ LoginProven t ∧
      ∃ user ∈ t.pool.users.rows, user.emailVerified = true := by
  have hdecide : (Run.run serviceStep { authConfig := testAuthConfig }
      (registerVerifyUpdate sampleCreateReq.email)).map (fun t =>
        decide (∃ user ∈ t.pool.users.rows, user.emailVerified = true)) = some true := by
    decide +kernel
  obtain ⟨t, hrun, hverified⟩ := Run.run_decide hdecide
  have hmeets : Run.Meets serviceStep StepKeepsAddress { authConfig := testAuthConfig }
      (registerVerifyUpdate sampleCreateReq.email) := by decide +kernel
  obtain ⟨hproven, hlogin⟩ := (verifiedProven_iff (fun user hmem => absurd hmem List.not_mem_nil)
    hrun).mpr hmeets t ⟨_, [], (List.append_nil _).symm, hrun⟩
  exact ⟨t, hrun, hproven, hlogin, hverified⟩

end Koupang.Identity
