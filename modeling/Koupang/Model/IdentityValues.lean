import Koupang.Model.Shared
import Koupang.Model.Unicode

/-!
# Value objects of the identity service

E-mail addresses, passwords, phone numbers and usernames: texts that are validated
when a request comes in. A value object carries the proof of its validation.
-/

namespace Koupang.Identity

/-! ## E-mail addresses -/

/-- `^[a-zA-Z0-9._%+-]+@[a-zA-Z0-9.-]+\.[a-zA-Z]{2,}$` -/
def emailRe (s : String) : Bool :=
  match s.toList.splitOn '@' with
  | [name, host] =>
    -- the top-level domain has no dot, so it is what follows the last one
    let tld := host.rtakeWhile (· ≠ '.')
    let domain := (host.rdropWhile (· ≠ '.')).dropLast
    !name.isEmpty && name.all (fun c => c.isAlphanum || "._%+-".toList.contains c) &&
      !domain.isEmpty && domain.all (fun c => c.isAlphanum || ".-".toList.contains c) &&
      2 ≤ tld.length && tld.all Char.isAlpha
  | _ => false

structure Email where
  value : String
  valid : ∃ trimmed, emailRe trimmed = true ∧ value = Text.toLowercase trimmed

def Email.new (input : String) : Except AppError Email :=
  let trimmed := Text.trim input
  if Text.len trimmed > 254 then .error (.badRequest "Email must not exceed 254 characters")
  else if hvalid : emailRe trimmed = true then .ok ⟨Text.toLowercase trimmed, trimmed, hvalid, rfl⟩
  else .error (.badRequest "Invalid email format")

/-! ## Passwords -/

def specialCharacters : List Char := "!@#$%^&*()_+-=[]\x7b\x7d|;':\",./<>?".toList

/-- What a password lacks. -/
def missingRequirements (input : String) : List String :=
  let require (met : Bool) (requirement : String) : List String :=
    if met then [] else [requirement]
  require (8 ≤ Text.len input) "at least 8 characters" ++
    require (input.toList.any Text.isUppercase) "an uppercase letter" ++
    require (input.toList.any Text.isLowercase) "a lowercase letter" ++
    require (input.toList.any Char.isDigit) "a digit" ++
    require (input.toList.any specialCharacters.contains) "a special character"

structure Password where
  value : String
  valid : Text.len value ≤ 128 ∧ missingRequirements value = []

def Password.new (input : String) : Except AppError Password :=
  if hlen : Text.len input > 128 then
    .error (.badRequest "Password must not exceed 128 characters")
  else if hmissing : missingRequirements input = [] then
    .ok ⟨input, Nat.not_lt.mp hlen, hmissing⟩
  else .error (.badRequest
    ("Password must contain: " ++ String.intercalate ", " (missingRequirements input)))

/-- The text that `argon2` renders a hashed password to. -/
structure HashedPassword where
  value : String
deriving DecidableEq, Repr

/-! ## Phone numbers -/

/-- `^\+[1-9]\d{0,2}(-?\d+)+$`. The digits before the first hyphen, if there are any, belong to
    the country code or to a group of their own, so their number does not matter. -/
def phoneRe (s : String) : Bool :=
  match s.toList with
  | '+' :: first :: rest =>
    match rest.splitOn '-' with
    | [] => false
    | digits :: groups =>
      '1' ≤ first && first ≤ '9' && digits.all Text.isDecimal &&
        groups.all (fun group => !group.isEmpty && group.all Text.isDecimal) &&
        !(digits.isEmpty && groups.isEmpty)
  | _ => false

structure Phone where
  value : String
  valid : phoneRe value = true

def Phone.new (input : String) : Except AppError Phone :=
  let trimmed := Text.trim input
  if hvalid : phoneRe trimmed = true then
    let digitCount := trimmed.toList.countP Char.isDigit
    if 7 ≤ digitCount ∧ digitCount ≤ 15 then .ok ⟨trimmed, hvalid⟩
    else .error (.badRequest "Phone number must contain between 7 and 15 digits")
  else .error (.badRequest ("Invalid phone format. Expected: +\x7bcountry code\x7d-\x7bdigits\x7d " ++
    "(e.g. +82-10-1234-5678)"))

/-! ## Usernames -/

/-- `^[a-zA-Z0-9_-]+$` -/
def usernameRe (s : String) : Bool :=
  !s.isEmpty && s.toList.all fun c => c.isAlphanum || c = '_' || c = '-'

def usernameBlocklist : List String := ["admin", "root", "superuser", "moderator"]

structure Username where
  value : String
  valid : usernameRe value = true

def Username.new (input : String) : Except AppError Username :=
  let trimmed := Text.trim input
  if Text.len trimmed < 3 then .error (.badRequest "Username must be at least 3 characters")
  else if Text.len trimmed > 30 then .error (.badRequest "Username must not exceed 30 characters")
  else if hvalid : usernameRe trimmed = true then
    if usernameBlocklist.contains (Text.toLowercase trimmed) then
      .error (.badRequest "This username is not allowed")
    else .ok ⟨trimmed, hvalid⟩
  else .error (.badRequest
    "Username may only contain letters, digits, underscores, and hyphens")

end Koupang.Identity
