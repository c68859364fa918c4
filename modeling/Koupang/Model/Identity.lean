import Koupang.ForStd.Call
import Koupang.ForStd.Table
import Koupang.Model.IdentityValues

/-!
# Identity service

The model of `identity/` and of `shared/auth/`: users with the tokens that are
mailed to them, the statements on their tables with the constraints of the
migrations, the service functions, and the routes behind the middleware that
identifies the caller.

Two packages are parameters: `argon2`, which hashes passwords, and
`jsonwebtoken`, which signs the claims of an access token. What a call draws at
random comes with the call.
-/

namespace Koupang.Identity

/-! ## Tables -/

structure UserEntity where
  id : Uuid
  createdAt : Nat
  updatedAt : Option Nat
  deletedAt : Option Nat
  username : String
  password : String
  email : String
  phone : String
  role : Role
  emailVerified : Bool
deriving DecidableEq, Repr

/-- A row of `email_verification_tokens` or of `password_reset_tokens`. -/
structure TokenEntity where
  id : Uuid
  createdAt : Nat
  userId : Uuid
  token : String
  expiresAt : Nat
  usedAt : Option Nat
deriving DecidableEq, Repr

/-- The two tables of tokens have the same columns and the same constraints. -/
inductive TokenKind where
  | emailVerification
  | passwordReset
deriving DecidableEq, Repr

def TokenKind.table : TokenKind → String
  | .emailVerification => "email_verification_tokens"
  | .passwordReset => "password_reset_tokens"

structure Db where
  users : Table UserEntity.id := .empty
  emailVerificationTokens : Table TokenEntity.id := .empty
  passwordResetTokens : Table TokenEntity.id := .empty
  uuids : Nat := 0
  /-- the clock, in seconds; a call takes no time -/
  now : Nat := 0
deriving DecidableEq

namespace Db

def tokens (db : Db) : TokenKind → Table TokenEntity.id
  | .emailVerification => db.emailVerificationTokens
  | .passwordReset => db.passwordResetTokens

def setTokens (db : Db) (kind : TokenKind) (rows : Table TokenEntity.id) : Db :=
  match kind with
  | .emailVerification => { db with emailVerificationTokens := rows }
  | .passwordReset => { db with passwordResetTokens := rows }

/-- `DEFAULT uuidv7()` -/
def uuidv7 (db : Db) : Uuid × Db := (⟨3, db.uuids⟩, { db with uuids := db.uuids + 1 })

end Db

/-! ## Requests -/

structure UserCreateReq where
  username : String
  password : String
  email : String
  phone : String
  role : Role
deriving DecidableEq, Repr

structure UserUpdateReq where
  username : String
  email : String
  phone : String
  role : Role
deriving DecidableEq, Repr

structure UserLoginReq where
  username : String
  password : String
deriving DecidableEq, Repr

structure UserRefreshReq where
  refreshToken : String
deriving DecidableEq, Repr

structure VerifyEmailReq where
  token : String
deriving DecidableEq, Repr

structure ForgotPasswordReq where
  email : String
deriving DecidableEq, Repr

structure ResetPasswordReq where
  token : String
  newPassword : String
deriving DecidableEq, Repr

structure ChangePasswordReq where
  currentPassword : String
  newPassword : String
deriving DecidableEq, Repr

structure ValidUserCreateReq where
  username : Username
  password : Password
  email : Email
  phone : Phone
  role : Role

def ValidUserCreateReq.tryFrom (req : UserCreateReq) : Except AppError ValidUserCreateReq := do
  let username ← Username.new req.username
  let password ← Password.new req.password
  let email ← Email.new req.email
  let phone ← Phone.new req.phone
  return { username, password, email, phone, role := req.role }

structure ValidUserUpdateReq where
  username : Username
  email : Email
  phone : Phone
  role : Role

def ValidUserUpdateReq.tryFrom (req : UserUpdateReq) : Except AppError ValidUserUpdateReq := do
  let username ← Username.new req.username
  let email ← Email.new req.email
  let phone ← Phone.new req.phone
  return { username, email, phone, role := req.role }

/-! ## Repository -/

namespace Repository

/-- `SELECT * FROM users WHERE .. AND deleted_at IS NULL` -/
def fetchUser (p : UserEntity → Bool) (db : Db) : Except AppError UserEntity :=
  match db.users.rows.find? fun user => p user && user.deletedAt.isNone with
  | some user => .ok user
  | none => .error (.notFound s!"User not found: {rowNotFound}")

def getUserById (id : Uuid) : Db → Except AppError UserEntity := fetchUser (·.id = id)

def getUserByUsername (username : Username) : Db → Except AppError UserEntity :=
  fetchUser (·.username = username.value)

def getUserByEmail (email : Email) : Db → Except AppError UserEntity :=
  fetchUser (·.email = email.value)

/-- `WHERE token = $1 AND used_at IS NULL AND expires_at > NOW()` -/
def findValidToken (kind : TokenKind) (token : String) (db : Db) : Option TokenEntity :=
  (db.tokens kind).rows.find? fun row =>
    row.token = token && row.usedAt.isNone && db.now < row.expiresAt

def getValidVerificationToken (token : String) (db : Db) : Except AppError TokenEntity :=
  match findValidToken .emailVerification token db with
  | some row => .ok row
  | none => .error (.badRequest "Invalid or expired verification token")

def getValidPasswordResetToken (token : String) (db : Db) : Except AppError TokenEntity :=
  match findValidToken .passwordReset token db with
  | some row => .ok row
  | none => .error (.badRequest "Invalid or expired password reset token")

/-- The columns of a user that `INSERT` and `UPDATE` write from a request. -/
def userColumns (username : Username) (email : Email) (phone : Phone) :
    Except String (String × String × String) := do
  let username ← varchar 255 username.value
  let email ← varchar 255 email.value
  let phone ← varchar 50 phone.value
  return (username, email, phone)

/-- `UNIQUE (username)` and `UNIQUE (email)`, against the rows that satisfy `p`. -/
def checkUnique (p : UserEntity → Bool) (username email : String) (db : Db) :
    Except String Unit := do
  if db.users.rows.any fun user => p user && user.username = username then
    throw "duplicate key value violates unique constraint \"users_username_key\""
  if db.users.rows.any fun user => p user && user.email = email then
    throw "duplicate key value violates unique constraint \"users_email_key\""

/-- `INSERT INTO users .. RETURNING id` -/
def insertUser (req : ValidUserCreateReq) (hashedPassword : HashedPassword) (db : Db) :
    Except String (Uuid × Db) := do
  let (username, email, phone) ← userColumns req.username req.email req.phone
  let (id, db) := db.uuidv7
  checkUnique (fun _ => true) username email db
  let row : UserEntity :=
    { id, createdAt := db.now, updatedAt := none, deletedAt := none, username
      password := hashedPassword.value, email, phone, role := req.role, emailVerified := false }
  match db.users.insert row with
  | none => throw "duplicate key value violates unique constraint \"users_pkey\""
  | some users => return (id, { db with users })

def createUser (req : ValidUserCreateReq) (hashedPassword : HashedPassword) :
    Tx AppError Db Uuid :=
  Tx.statement (fun e => .internalServerError s!"Failed to create user: {e}")
    (insertUser req hashedPassword)

/-- `INSERT INTO email_verification_tokens ..` and `INSERT INTO password_reset_tokens ..` -/
def insertToken (kind : TokenKind) (userId : Uuid) (token : String) (expiresAt : Nat) (db : Db) :
    Except String (Unit × Db) := do
  let token ← varchar 64 token
  let (id, db) := db.uuidv7
  if (db.tokens kind).rows.any (·.token = token) then
    throw s!"duplicate key value violates unique constraint \"{kind.table}_token_key\""
  if (db.users.find? userId).isNone then
    throw s!"insert violates foreign key constraint \"{kind.table}_user_id_fkey\""
  let row : TokenEntity :=
    { id, createdAt := db.now, userId, token, expiresAt, usedAt := none }
  match (db.tokens kind).insert row with
  | none => throw s!"duplicate key value violates unique constraint \"{kind.table}_pkey\""
  | some rows => return ((), db.setTokens kind rows)

def createVerificationToken (userId : Uuid) (token : String) (expiresAt : Nat) :
    Tx AppError Db Unit :=
  Tx.statement (fun e => .internalServerError s!"Failed to create verification token: {e}")
    (insertToken .emailVerification userId token expiresAt)

def createPasswordResetToken (userId : Uuid) (token : String) (expiresAt : Nat) :
    Tx AppError Db Unit :=
  Tx.statement (fun e => .internalServerError s!"Failed to create password reset token: {e}")
    (insertToken .passwordReset userId token expiresAt)

/-- `SET used_at = NOW()` -/
def setUsed (now : Nat) (row : TokenEntity) : TokenEntity := { row with usedAt := some now }

@[simp] theorem setUsed_id (now : Nat) (row : TokenEntity) : (setUsed now row).id = row.id := rfl

/-- `UPDATE .. SET used_at = NOW() WHERE id = $1`, returning the rows affected. -/
def updateToken (kind : TokenKind) (tokenId : Uuid) (db : Db) : Except String (Nat × Db) :=
  match (db.tokens kind).find? tokenId with
  | none => .ok (0, db)
  | some _ =>
    .ok (1, db.setTokens kind
      ((db.tokens kind).modify tokenId (setUsed db.now) (setUsed_id db.now)))

/-- `SET email_verified = TRUE, updated_at = NOW()` -/
def setVerified (now : Nat) (user : UserEntity) : UserEntity :=
  { user with emailVerified := true, updatedAt := some now }

@[simp] theorem setVerified_id (now : Nat) (user : UserEntity) :
    (setVerified now user).id = user.id := rfl

/-- `SET password = $1, updated_at = NOW()` -/
def setPassword (hashedPassword : HashedPassword) (now : Nat) (user : UserEntity) : UserEntity :=
  { user with password := hashedPassword.value, updatedAt := some now }

/-- `UPDATE users SET email_verified = TRUE .. WHERE id = $1`, also of a deleted user. -/
def updateVerified (userId : Uuid) (db : Db) : Except String (Nat × Db) :=
  match db.users.find? userId with
  | none => .ok (0, db)
  | some _ =>
    .ok (1, { db with
      users := db.users.modify userId (setVerified db.now) (setVerified_id db.now) })

/-- `UPDATE users SET password = $1 .. WHERE id = $2`, also of a deleted user. -/
def updatePassword (userId : Uuid) (hashedPassword : HashedPassword) (db : Db) :
    Except String (Nat × Db) :=
  match db.users.find? userId with
  | none => .ok (0, db)
  | some _ =>
    .ok (1, { db with
      users := db.users.modify userId (setPassword hashedPassword db.now) fun _ => rfl })

/-- `assert_eq!(result.rows_affected(), 1, ..)`. A failed assertion is a panic, which drops the
    transaction. -/
def assertAffected (rowsAffected : Nat) : Tx AppError Db Unit :=
  if rowsAffected = 1 then pure ()
  else throw (.internalServerError "UPDATE must affect exactly 1 row")

def markTokenUsed (tokenId : Uuid) : Tx AppError Db Unit := do
  let rowsAffected ← Tx.statement
    (fun e => .internalServerError s!"Failed to mark token as used: {e}")
    (updateToken .emailVerification tokenId)
  assertAffected rowsAffected

def markResetTokenUsed (tokenId : Uuid) : Tx AppError Db Unit := do
  let rowsAffected ← Tx.statement
    (fun e => .internalServerError s!"Failed to mark reset token as used: {e}")
    (updateToken .passwordReset tokenId)
  assertAffected rowsAffected

def verifyUserEmail (userId : Uuid) : Tx AppError Db Unit := do
  let rowsAffected ← Tx.statement
    (fun e => .internalServerError s!"Failed to verify user email: {e}") (updateVerified userId)
  assertAffected rowsAffected

def updateUserPassword (userId : Uuid) (hashedPassword : HashedPassword) :
    Tx AppError Db Unit := do
  let rowsAffected ← Tx.statement
    (fun e => .internalServerError s!"Failed to update user password: {e}")
    (updatePassword userId hashedPassword)
  assertAffected rowsAffected

/-- The columns that `UPDATE users SET username = $1, ..` writes. -/
def setProfile (username email phone : String) (role : Role) (now : Nat) (user : UserEntity) :
    UserEntity :=
  { user with username, email, phone, role, updatedAt := some now }

/-- `UPDATE users SET .. WHERE id = $5 AND deleted_at IS NULL`, returning the rows affected. -/
def updateUserRow (id : Uuid) (req : ValidUserUpdateReq) (db : Db) : Except String (Nat × Db) :=
  match (db.users.find? id).filter (·.deletedAt.isNone) with
  | none => .ok (0, db)
  | some _ => do
    let (username, email, phone) ← userColumns req.username req.email req.phone
    checkUnique (·.id ≠ id) username email db
    return (1, { db with
      users := db.users.modify id (setProfile username email phone req.role db.now) fun _ => rfl })

def updateUser (id : Uuid) (req : ValidUserUpdateReq) : Tx AppError Db Unit := do
  let rowsAffected ← Tx.statement (fun e => .internalServerError s!"Failed to update user: {e}")
    (updateUserRow id req)
  if rowsAffected = 0 then
    throw (.notFound "User not found")

/-- `SET deleted_at = NOW()` -/
def setDeleted (now : Nat) (user : UserEntity) : UserEntity := { user with deletedAt := some now }

/-- `UPDATE users SET deleted_at = NOW() WHERE id = $1 AND deleted_at IS NULL` -/
def softDeleteUser (id : Uuid) (db : Db) : Except String (Nat × Db) :=
  match (db.users.find? id).filter (·.deletedAt.isNone) with
  | none => .ok (0, db)
  | some _ => .ok (1, { db with users := db.users.modify id (setDeleted db.now) fun _ => rfl })

def deleteUser (id : Uuid) : Tx AppError Db Unit := do
  let rowsAffected ← Tx.statement (fun e => .internalServerError s!"Failed to delete user: {e}")
    (softDeleteUser id)
  if rowsAffected = 0 then
    throw (.notFound "User not found")

end Repository

/-! ## Packages -/

inductive Argon2Error where
  /-- the password is not the one that was hashed -/
  | password
  | other (msg : String)
deriving DecidableEq, Repr

/-- The package `argon2`. -/
class Argon2 where
  hashPassword : (password salt : String) → Except String String
  /-- `PasswordHash::new` -/
  parseHash : (hash : String) → Except String Unit
  verifyPassword : (password hash : String) → Except Argon2Error Unit

inductive DecodeError where
  | expiredSignature
  | other (msg : String)
deriving DecidableEq, Repr

/-- `encode` and `decode` of the package `jsonwebtoken`, for claims of one type: the token is
    the text of the claims, signed with a secret. -/
structure Jsonwebtoken (Claims : Type) where
  encode : (secret : String) → Claims → Except String String
  decode : (secret : String) → (now : Nat) → (token : String) → Except DecodeError Claims
  /-- the claims of a token are the ones that were signed -/
  decode_encode : ∀ {secret secret' token : String} {claims claims' : Claims} {now : Nat},
    encode secret claims = .ok token → decode secret' now token = .ok claims' → claims' = claims

structure AccessTokenClaims where
  sub : Uuid
  name : String
  role : Role
  iat : Nat
  exp : Nat
deriving DecidableEq, Repr

structure RefreshTokenClaims where
  sub : Uuid
  jti : String
  iat : Nat
  exp : Nat
deriving DecidableEq, Repr

class Jwt where
  access : Jsonwebtoken AccessTokenClaims
  refresh : Jsonwebtoken RefreshTokenClaims

/-! ### Packages that can be run -/

/-- A hash that is the salt and the password themselves. -/
instance : Argon2 where
  hashPassword password salt := .ok ("$argon2id$" ++ salt ++ "$" ++ password)
  parseHash hash :=
    if "$argon2id$".toList.isPrefixOf hash.toList then .ok () else .error "password hash string"
  verifyPassword password hash :=
    if (((hash.toList.drop 10).dropWhile (· ≠ '$')).drop 1) = password.toList then .ok ()
    else .error .password

/-- Tokens that are the secret and the claims themselves. Claims that would not be read back are
    not rendered. -/
def Jsonwebtoken.ofText {Claims : Type} [DecidableEq Claims] (render : Claims → List String)
    (parse : List String → Option Claims) (exp : Claims → Nat) : Jsonwebtoken Claims :=
  let read (token : String) : Option (String × Claims) :=
    match (token.toList.splitOn '.').map String.ofList with
    | [] => none
    | secret :: fields => (parse fields).map (secret, ·)
  { encode := fun secret claims =>
      let token := String.intercalate "." (secret :: render claims)
      if read token = some (secret, claims) then .ok token else .error "InvalidClaimFormat"
    decode := fun secret now token =>
      match read token with
      | none => .error (.other "InvalidToken")
      | some (signedWith, claims) =>
        if signedWith ≠ secret then .error (.other "InvalidSignature")
        else if exp claims < now then .error .expiredSignature
        else .ok claims
    decode_encode := by
      intro secret secret' token claims claims' now hencode hdecode
      dsimp only at hencode hdecode
      split at hencode
      · rename_i hread
        cases hencode
        rw [hread] at hdecode
        dsimp only at hdecode
        split at hdecode
        · cases hdecode
        · split at hdecode
          · cases hdecode
          · cases hdecode
            rfl
      · cases hencode }

def readNat (s : String) : Nat := s.toList.foldl (fun n c => 10 * n + (c.toNat - 48)) 0

def Role.render : Role → String
  | .buyer => "BUYER"
  | .seller => "SELLER"
  | .admin => "ADMIN"

def Role.parse : String → Option Role
  | "BUYER" => some .buyer
  | "SELLER" => some .seller
  | "ADMIN" => some .admin
  | _ => none

instance : Jwt where
  access := .ofText
    (fun claims => [claims.sub.node.repr, claims.sub.serial.repr, claims.name,
      Role.render claims.role, claims.iat.repr, claims.exp.repr])
    (fun
      | [node, serial, name, role, iat, exp] => (Role.parse role).map fun role =>
        { sub := ⟨readNat node, readNat serial⟩, name, role, iat := readNat iat
          exp := readNat exp }
      | _ => none)
    AccessTokenClaims.exp
  refresh := .ofText
    (fun claims => [claims.sub.node.repr, claims.sub.serial.repr, claims.jti, claims.iat.repr,
      claims.exp.repr])
    (fun
      | [node, serial, jti, iat, exp] => some
        { sub := ⟨readNat node, readNat serial⟩, jti, iat := readNat iat, exp := readNat exp }
      | _ => none)
    RefreshTokenClaims.exp

/-! ## State -/

structure AuthConfig where
  accessTokenSecret : String
  refreshTokenSecret : String
  accessTokenExpirySecs : Nat
  refreshTokenExpirySecs : Nat
deriving DecidableEq, Repr

structure EmailMessage where
  /-- the field `to` -/
  address : String
  subject : String
  bodyHtml : String
deriving DecidableEq, Repr

/-- What is stored under `user:{id}`. It is JSON, and is read back as it was written. -/
structure CacheEntry where
  id : Uuid
  value : CurrentUser
deriving DecidableEq, Repr

/-- Thin wrapper around an optional Redis connection: without one, it has no entries and
    stores none. The time to live of an entry is not modelled: an entry may expire at any
    time. -/
structure RedisCache where
  conn : Option (Table CacheEntry.id)
deriving DecidableEq

namespace RedisCache

def get (cache : RedisCache) (id : Uuid) : Option CurrentUser := do
  let entries ← cache.conn
  let entry ← entries.find? id
  return entry.value

def set (cache : RedisCache) (id : Uuid) (value : CurrentUser) : RedisCache :=
  ⟨cache.conn.map (·.set { id, value })⟩

def evict (cache : RedisCache) (id : Uuid) : RedisCache :=
  ⟨cache.conn.map (·.filter (·.id ≠ id))⟩

end RedisCache

structure AppState where
  pool : Db := {}
  cache : RedisCache := ⟨some .empty⟩
  authConfig : AuthConfig
  /-- the messages that the e-mail service was given -/
  emails : List EmailMessage := []
deriving DecidableEq

/-- What a call draws at random. -/
structure Random where
  /-- the 32 bytes of a token -/
  bytes : Vector (Fin 256) 32
  salt : String
  jti : String

/-- A query on the pool. -/
def onPool {α : Type} (f : Db → Except AppError α) : Call AppError AppState α :=
  Call.query fun state => f state.pool

/-- `with_transaction(..).map_err(..)` -/
def inTransaction {α : Type} (what : String) (x : Tx AppError Db α) : Call AppError AppState α :=
  Call.write fun state =>
    match withTransaction x state.pool with
    | .ok (a, pool) => .ok (a, { state with pool })
    | .error e => .error (.internalServerError s!"{what}: {e}")

/-- `state.cache.evict(..)` -/
def evict (id : Uuid) : Call AppError AppState Unit :=
  Call.update fun state => { state with cache := state.cache.evict id }

/-- `send_email`. If it fails, that is logged only. -/
def sendEmail (message : EmailMessage) : Call AppError AppState Unit :=
  Call.update fun state => { state with emails := state.emails ++ [message] }

/-! ## Tokens -/

inductive AuthError where
  | jwtError (msg : String)
  | tokenExpired
  | invalidToken
deriving DecidableEq, Repr

def AuthError.toString : AuthError → String
  | .jwtError err => s!"JWT Error: {err}"
  | .tokenExpired => "Token Expired"
  | .invalidToken => "Invalid Token"

def hexDigit (n : Nat) : Char := if n < 10 then Char.ofNat (0x30 + n) else Char.ofNat (0x57 + n)

/-- `generate_verification_token`: 64 hexadecimal digits. -/
def generateVerificationToken (random : Random) : String :=
  String.ofList (random.bytes.toList.flatMap fun b => [hexDigit (b / 16), hexDigit (b % 16)])

section Jwt

variable [Jwt]

def generateAccessToken (config : AuthConfig) (now : Nat) (userId : Uuid) (name : String)
    (role : Role) : Except AuthError String :=
  let claims : AccessTokenClaims :=
    { sub := userId, name, role, iat := now, exp := now + config.accessTokenExpirySecs }
  (Jwt.access.encode config.accessTokenSecret claims).mapError .jwtError

def generateRefreshToken (config : AuthConfig) (now : Nat) (random : Random) (userId : Uuid) :
    Except AuthError String :=
  let claims : RefreshTokenClaims :=
    { sub := userId, jti := random.jti, iat := now, exp := now + config.refreshTokenExpirySecs }
  (Jwt.refresh.encode config.refreshTokenSecret claims).mapError .jwtError

def decodeError : DecodeError → AuthError
  | .expiredSignature => .tokenExpired
  | .other _ => .invalidToken

def validateAccessToken (config : AuthConfig) (now : Nat) (token : String) :
    Except AuthError AccessTokenClaims :=
  (Jwt.access.decode config.accessTokenSecret now token).mapError decodeError

def validateRefreshToken (config : AuthConfig) (now : Nat) (token : String) :
    Except AuthError RefreshTokenClaims :=
  (Jwt.refresh.decode config.refreshTokenSecret now token).mapError decodeError

end Jwt

/-! ## Passwords -/

section Argon2

variable [Argon2]

/-- Hash a plaintext password using Argon2 -/
def hashPassword (random : Random) (password : Password) : Except AppError HashedPassword :=
  match Argon2.hashPassword password.value random.salt with
  | .ok hash => .ok ⟨hash⟩
  | .error e => .error (.internalServerError s!"Failed to hash password: {e}")

/-- Verify a plaintext password against a stored hash -/
def verifyPassword (password hash : String) : Except AppError Unit :=
  match Argon2.parseHash hash with
  | .error e => .error (.internalServerError s!"Invalid password hash: {e}")
  | .ok _ =>
    match Argon2.verifyPassword password hash with
    | .ok _ => .ok ()
    | .error .password => .error (.unauthorized "Invalid credentials")
    | .error (.other e) => .error (.internalServerError s!"Failed to verify password: {e}")

end Argon2

/-! ## Service -/

/-- `Duration::hours(24)` -/
def tokenLifetime : Nat := 24 * 60 * 60

def verificationEmail (address token : String) : EmailMessage where
  address := address
  subject := "Verify your email address"
  bodyHtml := "<h1>Email Verification</h1><p>Your verification token is: <strong>" ++ token ++
    "</strong></p>"

def passwordResetEmail (address token : String) : EmailMessage where
  address := address
  subject := "Reset your password"
  bodyHtml := "<h1>Password Reset</h1><p>Your password reset token is: <strong>" ++ token ++
    "</strong></p>"

/-- Every column of a user but the password. -/
structure UserRes where
  id : Uuid
  createdAt : Nat
  updatedAt : Option Nat
  deletedAt : Option Nat
  username : String
  email : String
  phone : String
  role : Role
  emailVerified : Bool
deriving DecidableEq, Repr

def UserRes.new (entity : UserEntity) : UserRes where
  id := entity.id
  createdAt := entity.createdAt
  updatedAt := entity.updatedAt
  deletedAt := entity.deletedAt
  username := entity.username
  email := entity.email
  phone := entity.phone
  role := entity.role
  emailVerified := entity.emailVerified

structure JwtTokens where
  accessToken : String
  refreshToken : String
deriving DecidableEq, Repr

structure UserRefreshRes where
  accessToken : String
deriving DecidableEq, Repr

namespace Service

/-- `AppState::get_by_id` -/
def getById (id : Uuid) : Call AppError AppState CurrentUser := do
  let cached ← Call.query fun state => .ok (state.cache.get id)
  match cached with
  | some currentUser => return currentUser
  | none =>
    let user ← onPool (Repository.getUserById id)
    let currentUser : CurrentUser := { id := user.id, role := user.role }
    Call.update fun state => { state with cache := state.cache.set id currentUser }
    return currentUser

/-- The transaction of `create_user_account`. -/
def createUserTx (validated : ValidUserCreateReq) (hashedPassword : HashedPassword)
    (token : String) (expiresAt : Nat) : Tx AppError Db Unit := do
  let userId ← Repository.createUser validated hashedPassword
  Repository.createVerificationToken userId token expiresAt

def createUserAccount [Argon2] (random : Random) (req : UserCreateReq) :
    Call AppError AppState Unit := do
  let validated ← Call.query fun _ => ValidUserCreateReq.tryFrom req
  let hashedPassword ← Call.query fun _ => hashPassword random validated.password
  let token := generateVerificationToken random
  let expiresAt ← onPool fun db => .ok (db.now + tokenLifetime)
  inTransaction "Failed to create user" (createUserTx validated hashedPassword token expiresAt)
  sendEmail (verificationEmail validated.email.value token)

/-- The transaction of `verify_email`. -/
def verifyEmailTx (token : TokenEntity) : Tx AppError Db Unit := do
  Repository.verifyUserEmail token.userId
  Repository.markTokenUsed token.id

def verifyEmail (req : VerifyEmailReq) : Call AppError AppState Unit := do
  let tokenEntity ← onPool (Repository.getValidVerificationToken req.token)
  inTransaction "Failed to verify email" (verifyEmailTx tokenEntity)

def getUser (id : Uuid) : Call AppError AppState UserRes :=
  onPool fun db => (Repository.getUserById id db).map UserRes.new

def updateUserAccount (id : Uuid) (req : UserUpdateReq) : Call AppError AppState Unit := do
  let validated ← Call.query fun _ => ValidUserUpdateReq.tryFrom req
  inTransaction "Failed to update user" (Repository.updateUser id validated)
  evict id

def deleteUserAccount (id : Uuid) : Call AppError AppState Unit := do
  inTransaction "Failed to delete user" (Repository.deleteUser id)
  evict id

/-- `map_err(|e| AppError::Unauthorized(e.to_string()))` -/
def unauthorized {α : Type} (x : Except AuthError α) : Except AppError α :=
  x.mapError fun e => .unauthorized e.toString

def loginUser [Argon2] [Jwt] (random : Random) (req : UserLoginReq) :
    Call AppError AppState JwtTokens := do
  let username ← Call.query fun _ => Username.new req.username
  let user ← onPool (Repository.getUserByUsername username)
  if !user.emailVerified then
    throw (.forbidden "Please verify your email before logging in")
  Call.query fun _ => verifyPassword req.password user.password
  let accessToken ← Call.query fun state => unauthorized
    (generateAccessToken state.authConfig state.pool.now user.id user.username user.role)
  let refreshToken ← Call.query fun state => unauthorized
    (Identity.generateRefreshToken state.authConfig state.pool.now random user.id)
  return { accessToken, refreshToken }

def generateRefreshToken [Jwt] (req : UserRefreshReq) :
    Call AppError AppState UserRefreshRes := do
  let claims ← Call.query fun state => unauthorized
    (validateRefreshToken state.authConfig state.pool.now req.refreshToken)
  let user ← onPool (Repository.getUserById claims.sub)
  let accessToken ← Call.query fun state => unauthorized
    (generateAccessToken state.authConfig state.pool.now user.id user.username user.role)
  return { accessToken }

/-- If there is no such user, the answer is the same. -/
def forgotPassword (random : Random) (req : ForgotPasswordReq) :
    Call AppError AppState Unit := do
  let email ← Call.query fun _ => Email.new req.email
  let found ← onPool fun db => .ok (Repository.getUserByEmail email db).toOption
  match found with
  | none => return ()
  | some user =>
    let token := generateVerificationToken random
    let expiresAt ← onPool fun db => .ok (db.now + tokenLifetime)
    inTransaction "Failed to create password reset token"
      (Repository.createPasswordResetToken user.id token expiresAt)
    sendEmail (passwordResetEmail req.email token)

/-- The transaction of `reset_password`. -/
def resetPasswordTx (token : TokenEntity) (hashedPassword : HashedPassword) :
    Tx AppError Db Unit := do
  Repository.updateUserPassword token.userId hashedPassword
  Repository.markResetTokenUsed token.id

def resetPassword [Argon2] (random : Random) (req : ResetPasswordReq) :
    Call AppError AppState Unit := do
  let tokenEntity ← onPool (Repository.getValidPasswordResetToken req.token)
  let validatedPassword ← Call.query fun _ => Password.new req.newPassword
  let hashedPassword ← Call.query fun _ => hashPassword random validatedPassword
  inTransaction "Failed to reset password" (resetPasswordTx tokenEntity hashedPassword)

def changePassword [Argon2] (random : Random) (userId : Uuid) (req : ChangePasswordReq) :
    Call AppError AppState Unit := do
  let user ← onPool (Repository.getUserById userId)
  Call.query fun _ => verifyPassword req.currentPassword user.password
  if req.currentPassword = req.newPassword then
    throw (.badRequest "New password must be different from the current password")
  let validatedPassword ← Call.query fun _ => Password.new req.newPassword
  let hashedPassword ← Call.query fun _ => hashPassword random validatedPassword
  inTransaction "Failed to change password" (Repository.updateUserPassword userId hashedPassword)
  evict userId

end Service

end Koupang.Identity
