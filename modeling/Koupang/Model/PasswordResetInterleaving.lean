import Koupang.ForStd.ReadCommitted
import Koupang.Model.Identity

/-!
# Resetting passwords, statement by statement

`reset_password` looks the token up on the pool, and then updates the password
and the token in a transaction of its own. Here any number of calls interleave.
Each `UPDATE` names its row by the identifier alone, so a call whose token
another one has redeemed in the meantime waits for that one's row locks and then
goes on.

`BEGIN` takes no lock and no snapshot, so that a call counts as a transaction
from its start on.
-/

namespace Koupang.Identity.PasswordReset

open ReadCommitted

/-! ## Statements -/

inductive Stmt where
  /-- `SELECT * FROM password_reset_tokens WHERE token = $1 AND used_at IS NULL ..` -/
  | findValidToken (token : String)
  /-- `UPDATE users SET password = $1 .. WHERE id = $2` -/
  | updatePassword (userId : Uuid) (hashedPassword : HashedPassword)
  /-- `UPDATE password_reset_tokens SET used_at = NOW() WHERE id = $1` -/
  | updateToken (tokenId : Uuid)

/-- The row that a `SELECT` finds, and the number of rows that an `UPDATE` affects. -/
@[reducible] def Stmt.Result : Stmt → Type
  | .findValidToken _ => Option TokenEntity
  | .updatePassword .. | .updateToken _ => Nat

inductive Write where
  | password (userId : Uuid) (hashedPassword : HashedPassword) (now : Nat)
  | tokenUsed (tokenId : Uuid) (now : Nat)
deriving DecidableEq

/-- What a write locks. -/
inductive Key where
  | user (id : Uuid)
  | token (id : Uuid)
deriving DecidableEq

def Write.key : Write → Option Key
  | .password userId .. => some (.user userId)
  | .tokenUsed tokenId _ => some (.token tokenId)

open Repository in
def Write.apply (db : Db) : Write → Db
  | .password userId hashedPassword now =>
    { db with users := db.users.modify userId (setPassword hashedPassword now) fun _ => rfl }
  | .tokenUsed tokenId now =>
    { db with passwordResetTokens :=
        db.passwordResetTokens.modify tokenId (setUsed now) (setUsed_id now) }

/-- A statement at the time `now`. -/
def Stmt.exec (s : Stmt) (now : Nat) (db : Db) : Except String (s.Result × List Write) :=
  match s with
  | .findValidToken token =>
    .ok (Repository.findValidToken .passwordReset token { db with now }, [])
  | .updatePassword userId hashedPassword =>
    match db.users.find? userId with
    | none => .ok (0, [])
    | some _ => .ok (1, [.password userId hashedPassword now])
  | .updateToken tokenId =>
    match db.passwordResetTokens.find? tokenId with
    | none => .ok (0, [])
    | some _ => .ok (1, [.tokenUsed tokenId now])

/-- The tables of the identity service. -/
abbrev identitySql : Database Db where
  Stmt := Stmt
  Result := Stmt.Result
  Input := Nat
  Write := Write
  Key := Key
  exec := Stmt.exec
  apply := Write.apply
  key := Write.key

abbrev Program (α : Type) := Prog identitySql AppError α

/-! ## Repository -/

/-- The row, or an error: `fetch_one` fails without a row, and every error is mapped to one. -/
def getValidPasswordResetToken (token : String) : Program TokenEntity := do
  let invalid : AppError := .badRequest "Invalid or expired password reset token"
  let row ← Prog.send (D := identitySql) .pool (fun _ => invalid) (.findValidToken token)
  match row with
  | some row => return row
  | none => Prog.fail invalid

/-- `assert_eq!(result.rows_affected(), 1, ..)`. A failed assertion is a panic, which drops the
    transaction. -/
def assertAffected (rowsAffected : Nat) : Program Unit :=
  if rowsAffected = 1 then return ()
  else Prog.fail (.internalServerError "UPDATE must affect exactly 1 row")

def updateUserPassword (userId : Uuid) (hashedPassword : HashedPassword) : Program Unit := do
  let rowsAffected ← Prog.send (D := identitySql) .tx
    (fun e => .internalServerError s!"Failed to update user password: {e}")
    (.updatePassword userId hashedPassword)
  assertAffected rowsAffected

def markResetTokenUsed (tokenId : Uuid) : Program Unit := do
  let rowsAffected ← Prog.send (D := identitySql) .tx
    (fun e => .internalServerError s!"Failed to mark reset token as used: {e}")
    (.updateToken tokenId)
  assertAffected rowsAffected

/-! ## Service -/

/-- The closure that `reset_password` passes to `with_transaction`. -/
def resetPasswordTx (token : TokenEntity) (hashedPassword : HashedPassword) : Program Unit := do
  updateUserPassword token.userId hashedPassword
  markResetTokenUsed token.id

/-- A call of `reset_password`. -/
structure Redemption where
  random : Random
  req : ResetPasswordReq

def resetPassword [Argon2] (call : Redemption) : Program Unit := do
  let tokenEntity ← getValidPasswordResetToken call.req.token
  let validatedPassword ← Prog.ofExcept (Password.new call.req.newPassword)
  let hashedPassword ← Prog.ofExcept (hashPassword call.random validatedPassword)
  (resetPasswordTx tokenEntity hashedPassword).mapErr fun e =>
    .internalServerError s!"Failed to reset password: {e}"

/-- The calls of `reset_password`, and the tables. A call is committed exactly if it returns
    `Ok`. -/
abbrev State := ReadCommitted.State identitySql Redemption AppError Unit

abbrev Label := ReadCommitted.Label identitySql Redemption

/-- One step of the calls. -/
def step [Argon2] : State → Label → Option State := ReadCommitted.step resetPassword

end Koupang.Identity.PasswordReset
