import Koupang.Model.PasswordResetInterleaving
import Koupang.Spec.IdentityCorrect

/-!
# Concurrent redemptions of one reset token

A call of `reset_password` that has found its token goes on to use it, whatever
happens to the token in the meantime. The row locks put the transactions of two
such calls one after the other, and then both are committed. So a token is used
once as long as every transaction that is committed finds its token unused.

## Key results

- `toTx_resetPassword`: the statements of a call, run alone, are those of `reset_password`
- `resetPassword_wp`: in which order a call sends its statements
- `resetInv_step`: what is known of the calls, and of the commits so far
- `usedOnce_iff`: over every run, a token is used once exactly if no commit comes too late
-/

namespace Koupang.Identity.PasswordReset

open ReadCommitted

/-! ## A call alone -/

/-- A statement alone, at the time of the tables. -/
theorem toTx_send {onError : String → AppError} {st : Stmt} {s : TxState Db}
    {f : Db → Except String (st.Result × Db)}
    (hexec : (st.exec s.db.now s.db).map (fun p => (p.1, p.2.foldl Write.apply s.db)) = f s.db) :
    (Prog.send (D := identitySql) .tx onError st).toTx s.db.now s =
      Tx.statement onError f s := by
  rw [Prog.toTx_send]
  unfold Tx.statement
  simp only [← hexec]
  rfl

theorem updatePassword_exec (userId : Uuid) (hashedPassword : HashedPassword) (db : Db) :
    ((Stmt.updatePassword userId hashedPassword).exec db.now db).map
        (fun p => (p.1, p.2.foldl Write.apply db)) =
      Repository.updatePassword userId hashedPassword db := by
  unfold Stmt.exec Repository.updatePassword
  dsimp only
  cases db.users.find? userId <;> rfl

theorem updateToken_exec (tokenId : Uuid) (db : Db) :
    ((Stmt.updateToken tokenId).exec db.now db).map
        (fun p => (p.1, p.2.foldl Write.apply db)) =
      Repository.updateToken .passwordReset tokenId db := by
  unfold Stmt.exec Repository.updateToken
  simp only [Db.tokens]
  cases db.passwordResetTokens.find? tokenId <;> rfl

theorem toTx_assertAffected (rowsAffected now : Nat) :
    (assertAffected rowsAffected).toTx now = Repository.assertAffected rowsAffected := by
  unfold assertAffected Repository.assertAffected
  split <;> rfl

theorem toTx_updateUserPassword (userId : Uuid) (hashedPassword : HashedPassword)
    (s : TxState Db) :
    (updateUserPassword userId hashedPassword).toTx s.db.now s =
      Repository.updateUserPassword userId hashedPassword s := by
  unfold updateUserPassword Repository.updateUserPassword
  rw [Prog.toTx_bind]
  simp only [toTx_assertAffected]
  rw [Tx.run_bind, Tx.run_bind, toTx_send (updatePassword_exec userId hashedPassword s.db)]

theorem toTx_markResetTokenUsed (tokenId : Uuid) (s : TxState Db) :
    (markResetTokenUsed tokenId).toTx s.db.now s = Repository.markResetTokenUsed tokenId s := by
  unfold markResetTokenUsed Repository.markResetTokenUsed
  rw [Prog.toTx_bind]
  simp only [toTx_assertAffected]
  rw [Tx.run_bind, Tx.run_bind, toTx_send (updateToken_exec tokenId s.db)]

/-- The transaction of a call, alone. -/
theorem toTx_resetPasswordTx (token : TokenEntity) (hashedPassword : HashedPassword)
    (s : TxState Db) :
    (resetPasswordTx token hashedPassword).toTx s.db.now s =
      Service.resetPasswordTx token hashedPassword s := by
  unfold resetPasswordTx Service.resetPasswordTx
  rw [Prog.toTx_bind, Tx.run_bind, Tx.run_bind, toTx_updateUserPassword]
  cases hfirst : Repository.updateUserPassword token.userId hashedPassword s with
  | error e t => rfl
  | ok u t =>
    -- the first update leaves the clock alone
    obtain ⟨-, db, hdb, rfl⟩ := affectsOne_ok.mp hfirst
    have hnow : db.now = s.db.now := by
      obtain ⟨hset, rfl⟩ := updatePassword_ok hdb Nat.one_ne_zero
      rfl
    rw [← hnow]
    exact toTx_markResetTokenUsed token.id { s with db }

/-- A committed transaction is not aborted. -/
theorem resetPasswordTx_ok {token : TokenEntity} {hashedPassword : HashedPassword}
    {s t : TxState Db} {u : Unit} (h : Service.resetPasswordTx token hashedPassword s = .ok u t) :
    t.aborted = false := by
  obtain ⟨-, s₁, hs₁, ht⟩ := Tx.bind_ok.mp h
  obtain ⟨hab, db, -, rfl⟩ := affectsOne_ok.mp ht
  exact hab

theorem toTx_getValidPasswordResetToken (token : String) (s : TxState Db) :
    (getValidPasswordResetToken token).toTx s.pool.now s =
      match Repository.getValidPasswordResetToken token s.pool with
      | .ok row => .ok row s
      | .error e => .error e s := by
  unfold getValidPasswordResetToken Repository.getValidPasswordResetToken
  rw [Prog.toTx_bind, Prog.toTx_send_pool, Tx.run_bind]
  unfold Tx.onPool
  simp only [Stmt.exec, Except.map]
  cases Repository.findValidToken .passwordReset token s.pool <;> rfl

/-- A call alone is `reset_password`. -/
theorem toTx_resetPassword [Argon2] (call : Redemption) (s : AppState) :
    Service.resetPassword call.random call.req s =
      match (resetPassword call).toTx s.pool.now (Tx.begin s.pool) with
      | .ok u t => .ok u { s with pool := t.db }
      | .error e _ => .error e s := by
  unfold Service.resetPassword resetPassword onPool
  have hlookup := toTx_getValidPasswordResetToken call.req.token (Tx.begin s.pool)
  rw [Tx.begin_pool] at hlookup
  rw [Call.run_query, Prog.toTx_bind, Tx.run_bind, hlookup]
  cases Repository.getValidPasswordResetToken call.req.token s.pool with
  | error e => rfl
  | ok tokenEntity =>
    simp only [Call.run_query, Prog.toTx_bind, Tx.run_bind]
    cases Password.new call.req.newPassword with
    | error e => rfl
    | ok validatedPassword =>
      simp only [Prog.ofExcept, Prog.toTx]
      cases hashPassword call.random validatedPassword with
      | error e => rfl
      | ok hashedPassword =>
        have htx := toTx_resetPasswordTx tokenEntity hashedPassword (Tx.begin s.pool)
        rw [Tx.begin_db] at htx
        simp only [Prog.toTx, Prog.toTx_mapErr, Tx.mapErr, htx]
        unfold inTransaction Call.write withTransaction Tx.attempt
        cases hrun : Service.resetPasswordTx tokenEntity hashedPassword (Tx.begin s.pool) with
        | error e t =>
          have hprefix : "Failed to reset password" ++ ": " = "Failed to reset password: " := rfl
          simp only [hrun, toString, hprefix]
        | ok u t =>
          have hab : t.aborted = false := resetPasswordTx_ok hrun
          simp only [hrun, hab, Bool.false_eq_true, if_false]

/-! ## In which order a call sends its statements -/

/-- How far a call has come. -/
inductive Progress where
  | started (token : String)
  /-- the token was found -/
  | found (row : TokenEntity)
  /-- the password was updated -/
  | changed (row : TokenEntity)
  /-- the token was updated -/
  | redeemed (row : TokenEntity)
  /-- a statement failed, or affected no row; the transaction will be rolled back -/
  | failed

/-- A call looks its token up, updates the password of the user, and then the token. -/
def discipline : Protocol identitySql Progress where
  pre g c st := match st with
    | .findValidToken token => g = .started token ∧ c = .pool
    | .updatePassword userId _ => ∃ row, g = .found row ∧ c = .tx ∧ userId = row.userId
    | .updateToken tokenId => ∃ row, g = .changed row ∧ c = .tx ∧ tokenId = row.id
  next g _ st r g' := match st, r with
    | .findValidToken _, .ok (some row) => g' = .found row
    | .updatePassword .., .ok 1 => ∃ row, g = .found row ∧ g' = .changed row
    | .updateToken _, .ok 1 => ∃ row, g = .changed row ∧ g' = .redeemed row
    | _, _ => g' = .failed

/-- A call that succeeds has redeemed its token. -/
def Ended (g : Progress) (r : Except AppError Unit) : Prop :=
  r = .ok () → ∃ row, g = .redeemed row

theorem ended_error (g : Progress) (e : AppError) : Ended g (.error e) :=
  fun h => by cases h

theorem assertAffected_wp {Q : Progress → Except AppError Unit → Prop} {g : Progress}
    {rowsAffected : Nat} (hone : rowsAffected = 1 → Q g (.ok ()))
    (hother : ∀ e, Q g (.error e)) : (assertAffected rowsAffected).wp discipline Q g := by
  unfold assertAffected
  by_cases h : rowsAffected = 1
  · rw [if_pos h]
    exact hone h
  · rw [if_neg h]
    exact hother _

theorem updateUserPassword_wp (row : TokenEntity) (hashedPassword : HashedPassword) :
    (updateUserPassword row.userId hashedPassword).wp discipline
      (fun g r => r = .ok () → g = .changed row) (.found row) := by
  refine Prog.wp_bind (Prog.wp_send ⟨row, rfl, rfl, rfl⟩ (fun rowsAffected g' hnext => ?_)
    fun e g' _ h => by cases h)
  refine assertAffected_wp (fun hone _ => ?_) fun e h => by cases h
  subst hone
  obtain ⟨row', heq, rfl⟩ := hnext
  cases heq
  rfl

theorem markResetTokenUsed_wp (row : TokenEntity) :
    (markResetTokenUsed row.id).wp discipline
      (fun g r => r = .ok () → g = .redeemed row) (.changed row) := by
  refine Prog.wp_bind (Prog.wp_send ⟨row, rfl, rfl, rfl⟩ (fun rowsAffected g' hnext => ?_)
    fun e g' _ h => by cases h)
  refine assertAffected_wp (fun hone _ => ?_) fun e h => by cases h
  subst hone
  obtain ⟨row', heq, rfl⟩ := hnext
  cases heq
  rfl

theorem resetPassword_wp [Argon2] (call : Redemption) :
    (resetPassword call).wp discipline Ended (.started call.req.token) := by
  refine Prog.wp_bind ?_
  refine Prog.wp_bind (Prog.wp_send ⟨rfl, rfl⟩ (fun found g' hnext => ?_)
    fun e g' _ => ended_error g' _)
  cases found with
  | none => exact ended_error g' _
  | some row =>
    cases hnext
    refine Prog.wp_bind_done (fun validatedPassword _ => ?_) fun e _ => ended_error _ e
    refine Prog.wp_bind_done (fun hashedPassword _ => ?_) fun e _ => ended_error _ e
    refine Prog.wp_mapErr (Prog.wp_bind ?_)
    refine Prog.wp_mono (updateUserPassword_wp row hashedPassword) fun g r hr => ?_
    cases r with
    | error e => exact ended_error g _
    | ok u =>
      rw [hr rfl]
      refine Prog.wp_mono (markResetTokenUsed_wp row) fun g r hr h => ?_
      exact ⟨row, hr (Except.mapError_eq_ok.mp h)⟩

/-! ## Commits -/

def Write.isPassword : Write → Bool
  | .password .. => true
  | .tokenUsed .. => false

/-- The calls with this token that have changed a password and returned `Ok`. -/
def redemptions (token : String) (s : State) : List (Commit identitySql Redemption Unit) :=
  s.history.filter fun commit =>
    commit.request.req.token = token && commit.writes.any Write.isPassword

def UsedOnce (token : String) (s : State) : Prop := (redemptions token s).length ≤ 1

instance (token : String) : DecidablePred (UsedOnce token) :=
  fun _ => inferInstanceAs (Decidable (_ ≤ 1))

/-- The row of the token, if there is one, is not marked as used. -/
def Unused (token : String) (db : Db) : Prop :=
  ∀ row ∈ db.passwordResetTokens.rows, row.token = token → row.usedAt = none

instance (token : String) : DecidablePred (Unused token) :=
  fun db => inferInstanceAs (Decidable (∀ row ∈ db.passwordResetTokens.rows, _))

/-- `UNIQUE (token)` -/
def TokenUnique (db : Db) : Prop :=
  ∀ row ∈ db.passwordResetTokens.rows, ∀ row' ∈ db.passwordResetTokens.rows,
    row.token = row'.token → row = row'

/-- The condition, on the steps of a run: a call that is committed finds its token unused. -/
def CommitsUnused (token : String) (s : State) : Label → Prop
  | .commit i => ∀ se ∈ s.sessions.find? i, se.aborted = false → se.request.req.token = token →
    Unused token s.committed
  | _ => True

instance (token : String) (s : State) : DecidablePred (CommitsUnused token s)
  | .commit i => inferInstanceAs (Decidable (∀ se ∈ s.sessions.find? i, _))
  | .start .. | .exec .. | .fault .. | .rollback .. => .isTrue trivial

/-! ## What is known of the calls -/

/-- A call has found the row. If the token is used by now, another call has redeemed it. -/
structure HasFound (s : State) (se : Session identitySql Redemption AppError Unit)
    (row : TokenEntity) : Prop where
  aborted : se.aborted = false
  token : row.token = se.request.req.token
  committed : ∃ row' ∈ s.committed.passwordResetTokens.rows,
    row'.id = row.id ∧ row'.token = row.token
  used : ¬ Unused row.token s.committed → redemptions row.token s ≠ []

def SessionInv (s : State) : Progress → Session identitySql Redemption AppError Unit → Prop
  | .started token, se => se.aborted = false ∧ se.request.req.token = token ∧ se.writes = []
  | .found row, se => HasFound s se row ∧ se.writes = []
  | .changed row, se => HasFound s se row ∧
    ∃ hashedPassword now, se.writes = [.password row.userId hashedPassword now]
  | .redeemed row, se => HasFound s se row ∧ ∃ hashedPassword now now',
    se.writes = [.password row.userId hashedPassword now, .tokenUsed row.id now']
  | .failed, _ => True

structure TablesInv (s : State) : Prop where
  unique : TokenUnique s.committed
  used : ∀ commit ∈ s.history, ¬ Unused commit.request.req.token s.committed

/-- The invariant of the tables and of the calls. -/
abbrev ResetInv (s : State) : Prop := Inv discipline Ended TablesInv SessionInv s

theorem SessionInv.mono {s t : State} {g : Progress}
    {se : Session identitySql Redemption AppError Unit} (h : SessionInv s g se)
    (hfound : ∀ row, HasFound s se row → HasFound t se row) : SessionInv t g se := by
  cases g with
  | started token => exact h
  | found row => exact ⟨hfound row h.1, h.2⟩
  | changed row => exact ⟨hfound row h.1, h.2⟩
  | redeemed row => exact ⟨hfound row h.1, h.2⟩
  | failed => trivial

/-- Sessions of their own do not matter. -/
theorem SessionInv.congr {s t : State} {g : Progress}
    {se : Session identitySql Redemption AppError Unit} (h : SessionInv s g se)
    (hcommitted : t.committed = s.committed) (hhistory : t.history = s.history) :
    SessionInv t g se := by
  refine h.mono fun row hrow => ⟨hrow.aborted, hrow.token, ?_, ?_⟩
  · rw [hcommitted]
    exact hrow.committed
  · unfold redemptions
    rw [hcommitted, hhistory]
    exact hrow.used

section Step

variable [Argon2] {s t : State}

omit [Argon2] in
/-- A call begins or goes on, and nothing is committed. -/
theorem ResetInv.put {se : Session identitySql Redemption AppError Unit} {g : Progress}
    (h : ResetInv s) (hexcl : Exclusive (s.put se)) (hse : SessionInv s g se)
    (hwp : se.prog.wp discipline Ended g) : ResetInv (s.put se) :=
  Inv.put h hexcl rfl ⟨h.state.unique, h.state.used⟩ ⟨g, hse.congr rfl rfl, hwp⟩
    fun _ _ _ _ hK => hK.congr rfl rfl

omit [Argon2] in
/-- A call ends, and nothing is committed. -/
theorem ResetInv.drop {i : Nat} (h : ResetInv s) (hexcl : Exclusive (s.drop i)) :
    ResetInv (s.drop i) :=
  Inv.drop h hexcl rfl ⟨h.state.unique, h.state.used⟩ fun _ _ _ _ hK => hK.congr rfl rfl

/-! ### A statement -/

omit [Argon2] in
/-- The token that a call has found is in the tables, unused. -/
theorem hasFound_of_findValidToken {se : Session identitySql Redemption AppError Unit}
    {now : Nat} {row : TokenEntity} (h : ResetInv s) (hab : se.aborted = false)
    (hfound : Repository.findValidToken .passwordReset se.request.req.token
      { s.committed with now } = some row) : HasFound s se row := by
  obtain ⟨hmem, htoken, hused⟩ := findValidToken_some hfound
  refine ⟨hab, htoken, ⟨row, hmem, rfl, rfl⟩, fun hne => absurd ?_ hne⟩
  intro row' hmem' htoken'
  rw [h.state.unique row' hmem' row hmem htoken']
  exact hused

omit [Argon2] in
theorem next_error (g : Progress) (c : Conn) (st : Stmt) (e : String) :
    discipline.next g c st (.error e) .failed := by
  cases st <;> rfl

omit [Argon2] in
/-- A statement has failed. -/
theorem wp_failed {se : Session identitySql Redemption AppError Unit} {c : Conn} {st : Stmt}
    {k : Except String st.Result → Program Unit} (h : ResetInv s) (hse : se ∈ s.sessions.rows)
    (hprog : se.prog = .stmt c st k) (e : String) : (k (.error e)).wp discipline Ended .failed := by
  obtain ⟨g, -, -, hnext⟩ := h.stmt hse hprog
  exact hnext (.error e) .failed (next_error g c st e)

omit [Argon2] in
/-- The token is looked up. -/
theorem resetInv_pool {se : Session identitySql Redemption AppError Unit} {c : Conn} {st : Stmt}
    {k : Except String st.Result → Program Unit} {now : Nat} {a : st.Result} {ws : List Write}
    (h : ResetInv s) (hse : se ∈ s.sessions.rows) (hprog : se.prog = .stmt c st k) (hc : c ≠ .tx)
    (hexec : st.exec now s.committed = .ok (a, ws))
    (hexcl : Exclusive ({ s with committed := view identitySql ws s.committed }.put
      { se with prog := k (.ok a) })) :
    ResetInv ({ s with committed := view identitySql ws s.committed }.put
      { se with prog := k (.ok a) }) := by
  obtain ⟨g, hK, hpre, hnext⟩ := h.stmt hse hprog
  cases st with
  | findValidToken token =>
    obtain ⟨rfl, -⟩ := hpre
    obtain ⟨hab, htoken, hws⟩ := hK
    cases hexec
    cases hfound : Repository.findValidToken .passwordReset token { s.committed with now } with
    | none =>
      rw [hfound] at hexcl
      exact ResetInv.put (g := .failed) h hexcl trivial (hnext (.ok none) _ rfl)
    | some row =>
      rw [hfound] at hexcl
      subst htoken
      obtain ⟨-, hrow, hmem, hused⟩ := hasFound_of_findValidToken h hab hfound
      refine ResetInv.put (g := .found row) h hexcl ?_ (hnext (.ok (some row)) _ rfl)
      exact ⟨⟨hab, hrow, hmem, hused⟩, hws⟩
  | updatePassword userId hashedPassword =>
    obtain ⟨row, -, rfl, -⟩ := hpre
    exact absurd rfl hc
  | updateToken tokenId =>
    obtain ⟨row, -, rfl, -⟩ := hpre
    exact absurd rfl hc

omit [Argon2] in
/-- The next statement of a transaction, executed. -/
theorem resetInv_exec {se : Session identitySql Redemption AppError Unit} {st : Stmt}
    {k : Except String st.Result → Program Unit} {now : Nat} {a : st.Result} {ws : List Write}
    (h : ResetInv s) (hse : se ∈ s.sessions.rows) (hprog : se.prog = .stmt .tx st k)
    (hexec : st.exec now (view identitySql se.writes s.committed) = .ok (a, ws))
    (hexcl : Exclusive ({ s with
      committed := view identitySql (immediate identitySql ws) s.committed }.put
        { se with prog := k (.ok a), writes := se.writes ++ transactional identitySql ws })) :
    ResetInv ({ s with
      committed := view identitySql (immediate identitySql ws) s.committed }.put
        { se with prog := k (.ok a), writes := se.writes ++ transactional identitySql ws }) := by
  obtain ⟨g, hK, hpre, hnext⟩ := h.stmt hse hprog
  cases st with
  | findValidToken token => cases hpre.2
  | updatePassword userId hashedPassword =>
    obtain ⟨row, rfl, -, rfl⟩ := hpre
    unfold Stmt.exec at hexec
    dsimp only at hexec
    split at hexec
    · cases hexec
      exact ResetInv.put (g := .failed) h hexcl trivial (hnext (.ok 0) _ rfl)
    · cases hexec
      have hwrites : se.writes ++ transactional identitySql
          [.password row.userId hashedPassword now] =
            [.password row.userId hashedPassword now] := by
        rw [hK.2]
        rfl
      refine ResetInv.put (g := .changed row) h hexcl ?_ (hnext (.ok 1) _ ⟨row, rfl, rfl⟩)
      exact ⟨⟨hK.1.aborted, hK.1.token, hK.1.committed, hK.1.used⟩, _, _, hwrites⟩
  | updateToken tokenId =>
    obtain ⟨row, rfl, -, rfl⟩ := hpre
    unfold Stmt.exec at hexec
    dsimp only at hexec
    split at hexec
    · cases hexec
      exact ResetInv.put (g := .failed) h hexcl trivial (hnext (.ok 0) _ rfl)
    · cases hexec
      obtain ⟨hfound, hashedPassword, now', hws⟩ := hK
      have hwrites : se.writes ++ transactional identitySql [.tokenUsed row.id now] =
          [.password row.userId hashedPassword now', .tokenUsed row.id now] := by
        rw [hws]
        rfl
      refine ResetInv.put (g := .redeemed row) h hexcl ?_ (hnext (.ok 1) _ ⟨row, rfl, rfl⟩)
      exact ⟨⟨hfound.aborted, hfound.token, hfound.committed, hfound.used⟩, _, _, _, hwrites⟩

/-! ### A commit -/

/-- The tables after a call is committed. -/
def redeem (db : Db) (row : TokenEntity) (hashedPassword : HashedPassword) (now now' : Nat) : Db :=
  view identitySql [.password row.userId hashedPassword now, .tokenUsed row.id now'] db

omit [Argon2] in
theorem mem_tokens_redeem {db : Db} {row row' : TokenEntity} {hashedPassword : HashedPassword}
    {now now' : Nat} :
    row' ∈ (redeem db row hashedPassword now now').passwordResetTokens.rows ↔
      (row' ∈ db.passwordResetTokens.rows ∧ row'.id ≠ row.id) ∨
        ∃ old ∈ db.passwordResetTokens.rows, old.id = row.id ∧
          Repository.setUsed now' old = row' :=
  Table.mem_modify _ _ _ (Repository.setUsed_id now') _

omit [Argon2] in
/-- A row of the tables before has one after, which is used if the row was. -/
theorem exists_mem_redeem {db : Db} {old : TokenEntity} (hold : old ∈ db.passwordResetTokens.rows)
    (row : TokenEntity) (hashedPassword : HashedPassword) (now now' : Nat) :
    ∃ new ∈ (redeem db row hashedPassword now now').passwordResetTokens.rows,
      new.id = old.id ∧ new.token = old.token ∧
        (old.usedAt ≠ none ∨ old.id = row.id → new.usedAt ≠ none) := by
  by_cases hid : old.id = row.id
  · refine ⟨Repository.setUsed now' old, mem_tokens_redeem.mpr (.inr ⟨old, hold, hid, rfl⟩), rfl,
      rfl, fun _ => ?_⟩
    exact Option.some_ne_none now'
  · refine ⟨old, mem_tokens_redeem.mpr (.inl ⟨hold, hid⟩), rfl, rfl, fun h => ?_⟩
    exact h.resolve_right hid

omit [Argon2] in
/-- A row of the tables after had one before, which was used unless it is the one redeemed. -/
theorem exists_mem_of_mem_redeem {db : Db} {row new : TokenEntity}
    {hashedPassword : HashedPassword} {now now' : Nat}
    (hnew : new ∈ (redeem db row hashedPassword now now').passwordResetTokens.rows) :
    ∃ old ∈ db.passwordResetTokens.rows, old.id = new.id ∧ old.token = new.token ∧
      (old.id = row.id ∨ old = new) := by
  rcases mem_tokens_redeem.mp hnew with ⟨hmem, -⟩ | ⟨old, hold, hid, rfl⟩
  · exact ⟨new, hmem, rfl, rfl, .inr rfl⟩
  · exact ⟨old, hold, rfl, rfl, .inl hid⟩

omit [Argon2] in
theorem not_unused_iff {token : String} {db : Db} : ¬ Unused token db ↔
    ∃ row ∈ db.passwordResetTokens.rows, row.token = token ∧ row.usedAt ≠ none := by
  simp [Unused]

omit [Argon2] in
theorem tokenUnique_redeem {db : Db} {row : TokenEntity} {hashedPassword : HashedPassword}
    {now now' : Nat} (h : TokenUnique db) :
    TokenUnique (redeem db row hashedPassword now now') := by
  intro new hnew new' hnew' htoken
  obtain ⟨old, hold, hid, hsame, -⟩ := exists_mem_of_mem_redeem hnew
  obtain ⟨old', hold', hid', hsame', -⟩ := exists_mem_of_mem_redeem hnew'
  have heq : old = old' := h old hold old' hold' (hsame.trans (htoken.trans hsame'.symm))
  refine Table.eq_of_key_eq _ hnew hnew' ?_
  rw [← hid, ← hid', heq]

omit [Argon2] in
theorem not_unused_redeem {db : Db} {row : TokenEntity} {hashedPassword : HashedPassword}
    {now now' : Nat} {token : String} (h : ¬ Unused token db) :
    ¬ Unused token (redeem db row hashedPassword now now') := by
  obtain ⟨old, hold, htoken, hused⟩ := not_unused_iff.mp h
  obtain ⟨new, hnew, -, hsame, hnewUsed⟩ := exists_mem_redeem hold row hashedPassword now now'
  exact not_unused_iff.mpr ⟨new, hnew, hsame.trans htoken, hnewUsed (.inl hused)⟩

/-- What a call has written that is about to be committed. -/
structure Redeems (s : State) (se : Session identitySql Redemption AppError Unit)
    (row : TokenEntity) (hashedPassword : HashedPassword) (now now' : Nat) : Prop where
  found : HasFound s se row
  writes : se.writes = [.password row.userId hashedPassword now, .tokenUsed row.id now']

omit [Argon2] in
theorem exists_redeems {se : Session identitySql Redemption AppError Unit} (h : ResetInv s)
    (hse : se ∈ s.sessions.rows) (hprog : se.prog = .done (.ok ())) :
    ∃ row hashedPassword now now', Redeems s se row hashedPassword now now' := by
  obtain ⟨g, hK, hended⟩ := h.done hse hprog
  obtain ⟨row, rfl⟩ := hended rfl
  obtain ⟨hfound, hashedPassword, now, now', hws⟩ := hK
  exact ⟨row, hashedPassword, now, now', hfound, hws⟩

/-- The state after a call is committed. -/
def commitCall (s : State) (se : Session identitySql Redemption AppError Unit) : State :=
  ({ s with committed := view identitySql se.writes s.committed
            history := s.history ++ [⟨se.request, (), se.writes⟩] } : State).drop se.id

section Commit

variable {se : Session identitySql Redemption AppError Unit} {row : TokenEntity}
  {hashedPassword : HashedPassword} {now now' : Nat}

omit [Argon2] in
theorem committed_commitCall (h : Redeems s se row hashedPassword now now') :
    (commitCall s se).committed = redeem s.committed row hashedPassword now now' := by
  change view identitySql se.writes s.committed = _
  rw [h.writes]
  rfl

omit [Argon2] in
theorem redemptions_commitCall (h : Redeems s se row hashedPassword now now') (token : String) :
    redemptions token (commitCall s se) =
      redemptions token s ++
        if se.request.req.token = token then [⟨se.request, (), se.writes⟩] else [] := by
  unfold redemptions commitCall State.drop
  simp only [List.filter_append, List.append_cancel_left_eq]
  by_cases htoken : se.request.req.token = token
  · have hany : se.writes.any Write.isPassword = true := by
      rw [h.writes]
      rfl
    rw [if_pos htoken, List.filter_singleton]
    simp [htoken, hany]
  · rw [if_neg htoken, List.filter_singleton]
    simp [htoken]

omit [Argon2] in
/-- The call that is committed leaves its token used. -/
theorem not_unused_commitCall (h : Redeems s se row hashedPassword now now') :
    ¬ Unused se.request.req.token (commitCall s se).committed := by
  obtain ⟨old, hold, hid, htoken⟩ := h.found.committed
  obtain ⟨new, hnew, -, hsame, hused⟩ := exists_mem_redeem hold row hashedPassword now now'
  rw [committed_commitCall h]
  have hrequest : new.token = se.request.req.token :=
    hsame.trans (htoken.trans h.found.token)
  exact not_unused_iff.mpr ⟨new, hnew, hrequest, hused (.inr hid)⟩

omit [Argon2] in
/-- What another call has found is still there. If it is used now, a call has redeemed it. -/
theorem hasFound_commitCall (h : Redeems s se row hashedPassword now now')
    {other : Session identitySql Redemption AppError Unit} {row' : TokenEntity}
    (hother : HasFound s other row') : HasFound (commitCall s se) other row' where
  aborted := hother.aborted
  token := hother.token
  committed := by
    obtain ⟨old, hold, hid, htoken⟩ := hother.committed
    obtain ⟨new, hnew, hnewId, hsame, -⟩ := exists_mem_redeem hold row hashedPassword now now'
    rw [committed_commitCall h]
    exact ⟨new, hnew, hnewId.trans hid, hsame.trans htoken⟩
  used hused := by
    rw [committed_commitCall h] at hused
    obtain ⟨new, hnew, htoken, hnewUsed⟩ := not_unused_iff.mp hused
    obtain ⟨old, hold, -, hsame, hcases⟩ := exists_mem_of_mem_redeem hnew
    rw [redemptions_commitCall h]
    rcases hcases with hid | rfl
    · -- it is the token of the call that is committed
      obtain ⟨mine, hmine, hmineId, hmineToken⟩ := h.found.committed
      have heq : old = mine := Table.eq_of_key_eq _ hold hmine (hid.trans hmineId.symm)
      have hrequest : se.request.req.token = row'.token := by
        rw [← h.found.token, ← hmineToken, ← heq, hsame, htoken]
      rw [if_pos hrequest]
      exact List.append_ne_nil_of_right_ne_nil _ (List.cons_ne_nil _ _)
    · have hbefore : ¬ Unused row'.token s.committed :=
        not_unused_iff.mpr ⟨old, hold, htoken, hnewUsed⟩
      exact List.append_ne_nil_of_left_ne_nil (hother.used hbefore) _

omit [Argon2] in
theorem resetInv_commitCall (hinv : ResetInv s) (h : Redeems s se row hashedPassword now now')
    (hexcl : Exclusive (commitCall s se)) : ResetInv (commitCall s se) := by
  have htables : TablesInv (commitCall s se) := by
    constructor
    · rw [committed_commitCall h]
      exact tokenUnique_redeem hinv.state.unique
    · intro commit hcommit
      rcases List.mem_append.mp hcommit with hold | hnew
      · rw [committed_commitCall h]
        exact not_unused_redeem (hinv.state.used commit hold)
      · rw [List.mem_singleton.mp hnew]
        exact not_unused_commitCall h
  exact Inv.drop hinv hexcl rfl htables fun other _ _ g hK =>
    hK.mono fun row' hrow' => hasFound_commitCall h hrow'

end Commit

/-! ### Every step -/

theorem resetInv_step {label : Label} (h : ResetInv s) (hstep : step s label = some t) :
    ResetInv t := by
  have hcases := ReadCommitted.step_cases hstep
  have hexcl := exclusive_step h.exclusive hcases
  cases hcases with
  | @start i request hfree =>
    exact ResetInv.put (g := .started request.req.token) h hexcl ⟨rfl, rfl, rfl⟩
      (resetPassword_wp request)
  | exec hse hprog hab hexec hfree => exact resetInv_exec h hse hprog hexec hexcl
  | abort hlabel hse hprog =>
    exact ResetInv.put (g := .failed) h hexcl trivial (wp_failed h hse hprog _)
  | pool hse hprog hc hexec hfree => exact resetInv_pool h hse hprog hc hexec hexcl
  | poolError hlabel hse hprog hc hexec =>
    exact ResetInv.put (g := .failed) h hexcl trivial (wp_failed h hse hprog _)
  | commit hse hprog hab =>
    obtain ⟨row, hashedPassword, now, now', hredeems⟩ := exists_redeems h hse hprog
    exact resetInv_commitCall h hredeems hexcl
  | drop hse hlabel => exact ResetInv.drop h hexcl

omit [Argon2] in
/-- A commit is the second one exactly if the token is used before it. -/
theorem usedOnce_commitCall {token : String} {se : Session identitySql Redemption AppError Unit}
    {row : TokenEntity} {hashedPassword : HashedPassword} {now now' : Nat} (h : ResetInv s)
    (honce : UsedOnce token s) (hredeems : Redeems s se row hashedPassword now now') :
    UsedOnce token (commitCall s se) ↔
      (se.request.req.token = token → Unused token s.committed) := by
  unfold UsedOnce
  rw [redemptions_commitCall hredeems]
  by_cases htoken : se.request.req.token = token
  · rw [if_pos htoken, List.length_append, List.length_singleton]
    constructor
    · intro hlength _
      by_contra hused
      have hrow : row.token = token := hredeems.found.token.trans htoken
      have hne := hredeems.found.used (hrow ▸ hused)
      have hpos : 0 < (redemptions token s).length := List.length_pos_iff.mpr (hrow ▸ hne)
      omega
    · intro hunused
      -- a call with the token that is committed leaves it used
      have hnil : redemptions token s = [] := by
        by_contra hne
        obtain ⟨commit, hcommit⟩ := List.exists_mem_of_ne_nil _ hne
        obtain ⟨hmem, hp⟩ := List.mem_filter.mp hcommit
        simp only [Bool.and_eq_true, decide_eq_true_eq] at hp
        exact h.state.used commit hmem (hp.1.symm ▸ hunused htoken)
      rw [hnil]
      exact Nat.le_refl 1
  · rw [if_neg htoken, List.append_nil]
    exact iff_of_true honce fun heq => absurd heq htoken

/-- A step uses the token a second time exactly if it does not meet the condition. -/
theorem usedOnce_step {token : String} {label : Label} (h : ResetInv s) (honce : UsedOnce token s)
    (hstep : step s label = some t) : UsedOnce token t ↔ CommitsUnused token s label := by
  have hcases := ReadCommitted.step_cases hstep
  cases hcases with
  | start hfree => exact iff_of_true honce trivial
  | exec hse hprog hab hexec hfree => exact iff_of_true honce trivial
  | abort hlabel hse hprog =>
    rcases hlabel with ⟨input, rfl⟩ | ⟨e, rfl⟩ <;> exact iff_of_true honce trivial
  | pool hse hprog hc hexec hfree => exact iff_of_true honce trivial
  | poolError hlabel hse hprog hc hexec =>
    rcases hlabel with ⟨input, rfl⟩ | ⟨e, rfl⟩ <;> exact iff_of_true honce trivial
  | @commit se result hse hprog hab =>
    obtain ⟨row, hashedPassword, now, now', hredeems⟩ := exists_redeems h hse hprog
    have hfind : s.sessions.find? se.id = some se := (Table.find?_eq_some_iff ..).mpr ⟨hse, rfl⟩
    refine (usedOnce_commitCall h honce hredeems).trans ?_
    simp [CommitsUnused, hfind, hab]
  | @drop se label hse hlabel =>
    rcases hlabel with rfl | ⟨rfl, hab⟩
    · exact iff_of_true honce trivial
    · have hfind : s.sessions.find? se.id = some se :=
        (Table.find?_eq_some_iff ..).mpr ⟨hse, rfl⟩
      refine iff_of_true honce ?_
      simp [CommitsUnused, hfind, hab]

/-- Over every run: at most one call with the token changes a password and returns `Ok` exactly
    as long as no call is committed after the token was used. -/
theorem usedOnce_iff {token : String} {db : Db} {labels : List Label} (hunique : TokenUnique db)
    (hrun : Run.run step { committed := db } labels = some t) :
    (∀ u, Run.Visits step { committed := db } labels u → UsedOnce token u) ↔
      Run.Meets step (CommitsUnused token) { committed := db } labels := by
  have hinit : ResetInv { committed := db } :=
    Inv.init ⟨hunique, fun commit hmem => absurd hmem List.not_mem_nil⟩
  refine Run.run_forall_iff (fun u label v hinv honce hstep => ?_) hinit (Nat.zero_le 1) hrun
  exact ⟨resetInv_step hinv hstep, usedOnce_step hinv honce hstep⟩

end Step

/-! ## Two redemptions -/

/-- The tables after a user has registered and asked for a new password. -/
def requested : Db :=
  let registered := (Service.createUserAccount sampleRandom sampleCreateReq).final
    { authConfig := testAuthConfig }
  ((Service.forgotPassword sampleRandom { email := sampleCreateReq.email }).final registered).pool

/-- A call with the token that was sent. -/
def redemption (newPassword : String) : Redemption where
  random := sampleRandom
  req := { token := generateVerificationToken sampleRandom, newPassword }

/-- Two calls look the token up before either of them is committed. -/
def redeemedTwice : List Label :=
  [.start 0 (redemption "Password2!"), .start 1 (redemption "Password3!"), .exec 0 1, .exec 1 1,
   .exec 0 2, .exec 0 2, .commit 0, .exec 1 3, .exec 1 3, .commit 1]

/-- The second call looks the token up when the first one is committed, and fails. -/
def redeemedOnce : List Label :=
  [.start 0 (redemption "Password2!"), .start 1 (redemption "Password3!"), .exec 0 1, .exec 0 2,
   .exec 0 2, .commit 0, .exec 1 3, .rollback 1]

instance (db : Db) : Decidable (TokenUnique db) :=
  inferInstanceAs (Decidable (∀ row ∈ db.passwordResetTokens.rows, _))

/-- Both calls return `Ok`, and the user has the password of the second one. -/
theorem token_redeemed_twice :
    ∃ t, Run.run step { committed := requested } redeemedTwice = some t ∧
      ¬ UsedOnce (generateVerificationToken sampleRandom) t ∧
      ∃ user ∈ t.committed.users.rows, (verifyPassword "Password3!" user.password).isOk :=
  Run.run_decide (by decide +kernel)

/-- Of two calls that come one after the other, one is committed. -/
theorem usedOnce_iff_once :
    ∃ t, Run.run step { committed := requested } redeemedOnce = some t ∧
      (∀ u, Run.Visits step { committed := requested } redeemedOnce u →
        UsedOnce (generateVerificationToken sampleRandom) u) ∧
      redemptions (generateVerificationToken sampleRandom) t ≠ [] := by
  have hdecide : (Run.run step { committed := requested } redeemedOnce).map (fun t =>
      decide (redemptions (generateVerificationToken sampleRandom) t ≠ [])) = some true := by
    decide +kernel
  obtain ⟨t, hrun, hne⟩ := Run.run_decide hdecide
  refine ⟨t, hrun, ?_, hne⟩
  exact (usedOnce_iff (by decide +kernel) hrun).mpr (by decide +kernel)

end Koupang.Identity.PasswordReset
