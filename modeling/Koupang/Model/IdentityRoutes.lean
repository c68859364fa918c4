import Koupang.Model.Identity

/-!
# Identity service: its operations one after the other

The service functions as operations on the state, and the HTTP requests: public
ones, and those behind the middleware that identifies the caller by the access
token of the request. The middleware takes the caller's role from the cache or
from the table, not from the token.

Operations do not overlap here. Between them, an entry of the cache may expire
and time may pass.
-/

namespace Koupang.Identity

section Packages

variable [Argon2] [Jwt]

/-! ## Calls of the service functions -/

inductive ServiceCall where
  | createUserAccount (random : Random) (req : UserCreateReq)
  | verifyEmail (req : VerifyEmailReq)
  | getUser (id : Uuid)
  | updateUserAccount (id : Uuid) (req : UserUpdateReq)
  | deleteUserAccount (id : Uuid)
  | loginUser (random : Random) (req : UserLoginReq)
  | generateRefreshToken (req : UserRefreshReq)
  | forgotPassword (random : Random) (req : ForgotPasswordReq)
  | resetPassword (random : Random) (req : ResetPasswordReq)
  | changePassword (random : Random) (userId : Uuid) (req : ChangePasswordReq)

/-- What a request is answered with if it succeeds. -/
inductive Response where
  | message (text : String)
  | user (res : UserRes)
  | tokens (res : JwtTokens)
  | refreshed (res : UserRefreshRes)
deriving DecidableEq, Repr

/-- The access tokens in a response. -/
def Response.accessTokens : Response → List String
  | .tokens res => [res.accessToken]
  | .refreshed res => [res.accessToken]
  | .message _ | .user _ => []

/-- The function, and the answer that its route makes of the result. -/
def ServiceCall.run : ServiceCall → Call AppError AppState Response
  | .createUserAccount random req => do
    Service.createUserAccount random req
    return .message "User registered successfully"
  | .verifyEmail req => do
    Service.verifyEmail req
    return .message "Email verified successfully"
  | .getUser id => do
    let res ← Service.getUser id
    return .user res
  | .updateUserAccount id req => do
    Service.updateUserAccount id req
    return .message "User updated successfully"
  | .deleteUserAccount id => do
    Service.deleteUserAccount id
    return .message "User deleted successfully"
  | .loginUser random req => do
    let res ← Service.loginUser random req
    return .tokens res
  | .generateRefreshToken req => do
    let res ← Service.generateRefreshToken req
    return .refreshed res
  | .forgotPassword random req => do
    Service.forgotPassword random req
    return .message "If the email exists, a password reset link has been sent"
  | .resetPassword random req => do
    Service.resetPassword random req
    return .message "Password has been reset successfully"
  | .changePassword random userId req => do
    Service.changePassword random userId req
    return .message "Password changed successfully"

/-! ## Middleware -/

inductive AuthMiddlewareError where
  | missingAuthHeader
  | invalidAuthHeader
  | invalidToken
  | tokenExpired
  | userNotFound
deriving DecidableEq, Repr

inductive HttpError where
  | app (e : AppError)
  | auth (e : AuthMiddlewareError)
deriving DecidableEq, Repr

/-- `str::trim_start_matches` with a text: every copy of it at the start goes. -/
def trimStartMatches (pat s : List Char) : List Char :=
  go s.length s
where
  go : Nat → List Char → List Char
    | 0, s => s
    | n + 1, s => if pat.isPrefixOf s then go n (s.drop pat.length) else s

/-- `HeaderValue::to_str` reads visible ASCII characters, blanks and tabs. -/
def isHeaderChar (c : Char) : Bool := (32 ≤ c.toNat && c.toNat < 127) || c = '\t'

/-- Extract Bearer token from Authorization header -/
def extractBearerToken (authorization : Option String) : Except AuthMiddlewareError String :=
  match authorization with
  | none => .error .missingAuthHeader
  | some header =>
    if !header.toList.all isHeaderChar then .error .invalidAuthHeader
    else if !"Bearer ".toList.isPrefixOf header.toList then .error .invalidAuthHeader
    else .ok (Text.trim (String.ofList (trimStartMatches "Bearer ".toList header.toList)))

/-- `AuthMiddleware::handle` before it calls the next handler. -/
def authenticate (authorization : Option String) : Call HttpError AppState CurrentUser := do
  let token ← Call.query fun _ => (extractBearerToken authorization).mapError .auth
  let claims ← Call.query fun state =>
    (validateAccessToken state.authConfig state.pool.now token).mapError fun
      | .tokenExpired => .auth .tokenExpired
      | _ => .auth .invalidToken
  Call.mapErr (fun _ => .auth .userNotFound) (Service.getById claims.sub)

/-! ## Routes -/

inductive Request where
  | register (random : Random) (req : UserCreateReq)
  | login (random : Random) (req : UserLoginReq)
  | refreshToken (req : UserRefreshReq)
  | verifyEmail (req : VerifyEmailReq)
  | forgotPassword (random : Random) (req : ForgotPasswordReq)
  | resetPassword (random : Random) (req : ResetPasswordReq)
  | getOne (authorization : Option String) (id : Uuid)
  | update (authorization : Option String) (id : Uuid) (req : UserUpdateReq)
  | deleteUser (authorization : Option String) (id : Uuid)
  | changePassword (authorization : Option String) (random : Random) (req : ChangePasswordReq)

/-- A public route. -/
def publicRoute (call : ServiceCall) : Call HttpError AppState Response :=
  Call.mapErr .app call.run

/-- A route on the user `id`: for that user, and for an administrator. -/
def ownerRoute (authorization : Option String) (id : Uuid) (call : ServiceCall) :
    Call HttpError AppState Response := do
  let currentUser ← authenticate authorization
  Call.query fun _ => (requireAccess currentUser id).mapError .app
  Call.mapErr .app call.run

def Request.handle : Request → Call HttpError AppState Response
  | .register random req => publicRoute (.createUserAccount random req)
  | .login random req => publicRoute (.loginUser random req)
  | .refreshToken req => publicRoute (.generateRefreshToken req)
  | .verifyEmail req => publicRoute (.verifyEmail req)
  | .forgotPassword random req => publicRoute (.forgotPassword random req)
  | .resetPassword random req => publicRoute (.resetPassword random req)
  | .getOne authorization id => ownerRoute authorization id (.getUser id)
  | .update authorization id req => ownerRoute authorization id (.updateUserAccount id req)
  | .deleteUser authorization id => ownerRoute authorization id (.deleteUserAccount id)
  | .changePassword authorization random req => do
    let currentUser ← authenticate authorization
    Call.mapErr .app (ServiceCall.changePassword random currentUser.id req).run

/-! ## Steps -/

/-- The service, and the access tokens that it has handed out. -/
structure Served where
  app : AppState
  issued : List String := []
deriving DecidableEq

inductive Label (Operation : Type) where
  | call (op : Operation)
  /-- an entry of the cache has reached its time to live -/
  | expire (id : Uuid)
  /-- time passes -/
  | wait (seconds : Nat)

namespace AppState

def expire (state : AppState) (id : Uuid) : AppState :=
  { state with cache := state.cache.evict id }

def wait (state : AppState) (seconds : Nat) : AppState :=
  { state with pool := { state.pool with now := state.pool.now + seconds } }

end AppState

/-- One call of a service function. -/
def serviceStep (state : AppState) : Label ServiceCall → Option AppState
  | .call op => some (op.run.final state)
  | .expire id => some (state.expire id)
  | .wait seconds => some (state.wait seconds)

/-- One request. -/
def requestStep (s : Served) : Label Request → Option Served
  | .call op =>
    match op.handle s.app with
    | .ok response app => some { app, issued := s.issued ++ response.accessTokens }
    | .error _ app => some { s with app }
  | .expire id => some { s with app := s.app.expire id }
  | .wait seconds => some { s with app := s.app.wait seconds }

end Packages

end Koupang.Identity
