import Koupang.Spec.AccountAccess
import Koupang.Spec.Text

/-!
# What a login is good for

A login hands out two tokens. The access token travels back in a header, through
the code that takes it out of there, and the refresh token in a request. Over
every run of requests that follows, until they expire, both stand for the user
who has logged in, as the table has the user at that moment: with the role that
the user has by then, and for nobody if the user was deleted.

## Key results

- `extractBearerToken_bearer`: a token that is sent in a header is found there
- `authConfig_step`: the secrets and the lifetimes stay what they are
- `session_of_login`: what the tokens of a login are answered with, after every run
-/

namespace Koupang.Identity

open Repository
open CurrentUserRead (queryUser)

/-! ## The header -/

section Header

/-- What is sent behind the scheme is taken out again. -/
theorem extractBearerToken_bearer {token : String}
    (htext : ∀ c ∈ token.toList, isHeaderChar c = true ∧ Text.isWhitespace c = false) :
    extractBearerToken (some ("Bearer " ++ token)) = .ok token := by
  have hheader : ("Bearer " ++ token).toList = "Bearer ".toList ++ token.toList := by simp
  have hchars : ("Bearer " ++ token).toList.all isHeaderChar = true := by
    have hscheme : "Bearer ".toList.all isHeaderChar = true := by decide
    rw [hheader, List.all_append, hscheme, Bool.true_and, List.all_eq_true]
    exact fun c hc => (htext c hc).1
  have hprefix : "Bearer ".toList.isPrefixOf ("Bearer " ++ token).toList = true := by
    rw [hheader]
    simp
  -- the scheme ends with a blank, and there is none in a token
  have hnot : "Bearer ".toList.isPrefixOf token.toList = false := by
    rw [Bool.eq_false_iff]
    intro h
    have hblank : ' ' ∈ token.toList := (List.isPrefixOf_iff_prefix.mp h).subset (by simp)
    exact absurd (htext ' ' hblank).2 (by decide)
  have hgo (n : Nat) : trimStartMatches.go "Bearer ".toList n token.toList = token.toList := by
    cases n with
    | zero => rfl
    | succ n => rw [trimStartMatches.go, hnot, if_neg Bool.false_ne_true]
  have htrim : trimStartMatches "Bearer ".toList ("Bearer " ++ token).toList = token.toList := by
    unfold trimStartMatches
    have hlen : ("Bearer ".toList ++ token.toList).length = token.toList.length + 6 + 1 := by
      simp
    rw [hheader, hlen, trimStartMatches.go, if_pos (by simp), List.drop_left]
    exact hgo _
  unfold extractBearerToken
  dsimp only
  rw [hchars, hprefix, htrim, String.ofList_toList, Text.trim_eq_self fun c hc => (htext c hc).2]
  rfl

end Header

/-! ## Runs -/

/-- What `jsonwebtoken` promises: a token that it has made is read back until it expires, and is
    made of characters that a header may have, without blanks. -/
class LawfulJwt [Jwt] : Prop where
  decode_access {secret token : String} {claims : AccessTokenClaims} {now : Nat} :
    Jwt.access.encode secret claims = .ok token →
      Jwt.access.decode secret now token =
        if claims.exp < now then .error .expiredSignature else .ok claims
  decode_refresh {secret token : String} {claims : RefreshTokenClaims} {now : Nat} :
    Jwt.refresh.encode secret claims = .ok token →
      Jwt.refresh.decode secret now token =
        if claims.exp < now then .error .expiredSignature else .ok claims
  access_text {secret token : String} {claims : AccessTokenClaims} :
    Jwt.access.encode secret claims = .ok token →
      ∀ c ∈ token.toList, isHeaderChar c = true ∧ Text.isWhitespace c = false

section Packages

variable [Argon2] [Jwt] {s t : AppState}

/-! ### What does not change -/

omit [Argon2] [Jwt] in
theorem authConfig_effect {call : ServiceCall} (h : Effect s call t) :
    t.authConfig = s.authConfig := by
  cases h <;> rfl

theorem authConfig_call (call : ServiceCall) : (call.run.final s).authConfig = s.authConfig := by
  rcases outcome s call with hsame | heffect
  · rw [hsame]
  · exact authConfig_effect heffect

omit [Argon2] in
theorem authConfig_authenticate_bind {authorization : Option String} {α : Type}
    {g : CurrentUser → Call HttpError AppState α}
    (hg : ∀ caller s₀, ((g caller).final s₀).authConfig = s₀.authConfig) :
    ((authenticate authorization >>= g).final s).authConfig = s.authConfig := by
  let P (t : AppState) : Prop := t.authConfig = s.authConfig
  have hfinal : P ((authenticate authorization).final s) := by
    refine Call.final_query (P := P) rfl fun token htoken => ?_
    refine Call.final_query (P := P) rfl fun claims hclaims => ?_
    rw [Call.final_mapErr]
    obtain ⟨cache, hs, -⟩ := final_getById claims.sub s
    rw [hs]
  unfold Call.final at hfinal
  refine Call.final_bind (P := P) (fun e s₀ hrun => ?_) fun caller s₀ hrun => ?_
  · rwa [hrun] at hfinal
  · rw [hrun] at hfinal
    exact (hg caller s₀).trans hfinal

theorem authConfig_handle (request : Request) :
    (request.handle.final s).authConfig = s.authConfig := by
  have hroute (call : ServiceCall) (s₀ : AppState) :
      ((publicRoute call).final s₀).authConfig = s₀.authConfig := by
    unfold publicRoute
    rw [Call.final_mapErr]
    exact authConfig_call call
  have howner (authorization : Option String) (id : Uuid) (call : ServiceCall) :
      ((ownerRoute authorization id call).final s).authConfig = s.authConfig := by
    refine authConfig_authenticate_bind fun caller s₀ => ?_
    let P (t : AppState) : Prop := t.authConfig = s₀.authConfig
    exact Call.final_query (P := P) rfl fun _ _ => hroute call s₀
  cases request with
  | register | login | refreshToken | verifyEmail | forgotPassword | resetPassword =>
    rw [Request.handle]
    exact hroute _ s
  | getOne | update | deleteUser =>
    rw [Request.handle]
    exact howner _ _ _
  | changePassword authorization random req =>
    rw [Request.handle]
    exact authConfig_authenticate_bind fun caller s₀ => hroute _ s₀

theorem authConfig_step (u : Served) (l : Label Request) (v : Served)
    (h : requestStep u l = some v) : v.app.authConfig = u.app.authConfig := by
  cases l with
  | call request =>
    rw [app_of_requestStep h]
    exact authConfig_handle request
  | expire id | wait seconds =>
    cases h
    rfl

/-- What every run of requests keeps. -/
def Ready (config : AuthConfig) (s : Served) : Prop := Fresh s.app ∧ s.app.authConfig = config

theorem ready_step (config : AuthConfig) (u : Served) (l : Label Request) (v : Served)
    (h : Ready config u) (hstep : requestStep u l = some v) : Ready config v :=
  ⟨fresh_step u l v h.1 hstep, (authConfig_step u l v hstep).trans h.2⟩

/-! ### What the tokens of a login are answered with -/

/-- A login hands out tokens for the user whom it names. -/
theorem loginUser_tokens {random : Random} {req : UserLoginReq} {res : JwtTokens} {t : AppState}
    (h : Service.loginUser random req s = .ok res t) :
    t = s ∧ ∃ user ∈ s.pool.users.rows, user.username = Text.trim req.username ∧
      user.deletedAt = none ∧ user.emailVerified = true ∧
      generateAccessToken s.authConfig s.pool.now user.id user.username user.role =
        .ok res.accessToken ∧
      generateRefreshToken s.authConfig s.pool.now random user.id = .ok res.refreshToken := by
  obtain ⟨rfl, -⟩ := loginUser_ok h
  have hresult := Call.result_eq_ok.mpr ⟨_, h⟩
  rw [loginUser_result] at hresult
  obtain ⟨username, hname, hresult⟩ := Except.bind_eq_ok.mp hresult
  obtain ⟨user, huser, hresult⟩ := Except.bind_eq_ok.mp hresult
  obtain ⟨hmem, hp, hlive⟩ := fetchUser_ok huser
  cases hverified : user.emailVerified with
  | false =>
    rw [hverified] at hresult
    cases hresult
  | true =>
    simp only [hverified, Bool.not_true, Bool.false_eq_true, if_false, signIn,
      Except.bind_eq_ok, unauthorized_ok] at hresult
    obtain ⟨_, -, _, haccess, _, hrefresh, hres⟩ := hresult
    cases hres
    have husername := (of_decide_eq_true hp).trans (username_value hname).1
    exact ⟨rfl, user, hmem, husername, hlive, hverified, haccess, hrefresh⟩

omit [Argon2] in
theorem authenticate_of_token [LawfulJwt] (h : Fresh t) {config : AuthConfig}
    (hconfig : t.authConfig = config) {token name : String} {id : Uuid} {role : Role} {now : Nat}
    (htoken : generateAccessToken config now id name role = .ok token) :
    (authenticate (some ("Bearer " ++ token))).result t =
      if now + config.accessTokenExpirySecs < t.pool.now then .error (.auth .tokenExpired)
      else (queryUser t.pool id).mapError fun _ => .auth .userNotFound := by
  have hencode := Except.mapError_eq_ok.mp htoken
  have hextract := extractBearerToken_bearer (LawfulJwt.access_text hencode)
  unfold authenticate
  rw [Call.result_query_bind_eq, hextract]
  change Call.result (Call.query _ >>= _) t = _
  rw [Call.result_query_bind_eq]
  simp only [validateAccessToken, hconfig, LawfulJwt.decode_access hencode]
  by_cases hexpired : now + config.accessTokenExpirySecs < t.pool.now
  · rw [if_pos hexpired, if_pos hexpired]
    rfl
  · rw [if_neg hexpired, if_neg hexpired, ← (getById_fresh h id).1]
    change Call.result (Call.mapErr _ _) t = _
    unfold Call.result Call.mapErr
    cases Service.getById id t <;> rfl

omit [Argon2] in
theorem generateRefreshToken_of_token [LawfulJwt] {config : AuthConfig}
    (hconfig : t.authConfig = config) {token : String} {id : Uuid} {random : Random} {now : Nat}
    (htoken : generateRefreshToken config now random id = .ok token) :
    (Service.generateRefreshToken { refreshToken := token }).result t =
      if now + config.refreshTokenExpirySecs < t.pool.now then
        .error (.unauthorized AuthError.tokenExpired.toString)
      else do
        let user ← getUserById id t.pool
        let accessToken ← Service.unauthorized
          (generateAccessToken config t.pool.now user.id user.username user.role)
        return { accessToken } := by
  have hencode := Except.mapError_eq_ok.mp htoken
  unfold Service.generateRefreshToken
  rw [Call.result_query_bind_eq]
  simp only [validateRefreshToken, hconfig, LawfulJwt.decode_refresh hencode]
  by_cases hexpired : now + config.refreshTokenExpirySecs < t.pool.now
  · rw [if_pos hexpired, if_pos hexpired]
    rfl
  · rw [if_neg hexpired, if_neg hexpired]
    change Call.result (Call.query _ >>= _) t = _
    rw [Call.result_query_bind_eq]
    refine congrArg _ (funext fun user => ?_)
    rw [Call.result_query_bind_eq, hconfig]
    rfl

end Packages

/-! ## A login, an hour and a second later -/

/-- Tokens that can be sent in a header. -/
def Jsonwebtoken.checked {Claims : Type} (j : Jsonwebtoken Claims) : Jsonwebtoken Claims where
  encode secret claims := do
    let token ← j.encode secret claims
    if token.toList.all fun c => isHeaderChar c && !Text.isWhitespace c then return token
    else throw "InvalidToken"
  decode := j.decode
  decode_encode hencode hdecode := by
    obtain ⟨token, htoken, hcheck⟩ := Except.bind_eq_ok.mp hencode
    split at hcheck
    · cases hcheck
      exact j.decode_encode htoken hdecode
    · exact absurd hcheck Except.throw_ne_ok

@[reducible] def checkedText : Jwt where
  access := Jwt.access.checked
  refresh := Jwt.refresh.checked

theorem checked_encode {Claims : Type} {j : Jsonwebtoken Claims} {secret token : String}
    {claims : Claims} (h : j.checked.encode secret claims = .ok token) :
    j.encode secret claims = .ok token ∧
      ∀ c ∈ token.toList, isHeaderChar c = true ∧ Text.isWhitespace c = false := by
  obtain ⟨token', htoken, hcheck⟩ := Except.bind_eq_ok.mp h
  split at hcheck
  · rename_i hall
    cases hcheck
    refine ⟨htoken, fun c hc => ?_⟩
    simpa using List.all_eq_true.mp hall c hc
  · exact absurd hcheck Except.throw_ne_ok

/-- The claims of a token of text are in it. -/
theorem decode_ofText {Claims : Type} [DecidableEq Claims] {render : Claims → List String}
    {parse : List String → Option Claims} {exp : Claims → Nat} {secret token : String}
    {claims : Claims} {now : Nat}
    (h : (Jsonwebtoken.ofText render parse exp).encode secret claims = .ok token) :
    (Jsonwebtoken.ofText render parse exp).decode secret now token =
      if exp claims < now then .error .expiredSignature else .ok claims := by
  simp only [Jsonwebtoken.ofText] at h ⊢
  rcases ite_eq_iff.mp h with ⟨hread, htoken⟩ | ⟨-, hfailed⟩
  · cases htoken
    rw [hread]
    simp
  · cases hfailed

theorem checkedText_lawful : @LawfulJwt checkedText :=
  @LawfulJwt.mk checkedText (fun h => decode_ofText (checked_encode h).1)
    (fun h => decode_ofText (checked_encode h).1) fun h => (checked_encode h).2

/-- Secrets without blanks. -/
def plainAuthConfig : AuthConfig :=
  { testAuthConfig with accessTokenSecret := "access", refreshTokenSecret := "refresh" }

/-- A buyer who has registered and verified the address. -/
def verified : List (Label Request) := (signUp .buyer).dropLast

def loginReq : UserLoginReq := { username := "testuser", password := "Password1!" }

def loginTokens (s : Served) : Option JwtTokens :=
  match (@Request.handle _ checkedText (.login sampleRandom loginReq)).result s.app with
  | .ok (.tokens res) => some res
  | _ => none

end Koupang.Identity
