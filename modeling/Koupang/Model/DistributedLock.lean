import Koupang.Model.Shared

/-!
# Distributed lock

The model of `shared/src/distributed_lock.rs` for one key: any number of clients
that acquire, retry and release, and a Redis that expires the key. Redis executes
a command in one step. Its answer belongs to the same step, since a client that
learns of it later is one that does nothing in the meantime; but the answer can
get lost, and the command may not arrive at all.

`State.outcomes` is a record that nothing reads, and so is `LockGuard.expiresAt`.
-/

namespace Koupang.DistributedLock

inductive LockError where
  /-- Another process holds the lock. -/
  | alreadyHeld
  /-- Redis is unreachable or returned an unexpected error. -/
  | redisUnavailable (msg : String)
deriving DecidableEq

def LockError.toString : LockError → String
  | .alreadyHeld => "lock already held"
  | .redisUnavailable msg => s!"redis unavailable: {msg}"

/-- Durations are in microseconds. -/
structure RetryConfig where
  maxAttempts : Nat := 5
  retryDelay : Nat := 200000

/-- The value of the key, and when it expires. -/
structure Entry where
  token : Uuid
  expiresAt : Nat
deriving DecidableEq

/-- Handle to a held lock. -/
structure LockGuard where
  token : Uuid
  /-- of the entry with which the lock was acquired -/
  expiresAt : Nat
deriving DecidableEq

/-- Whether a command arrives, and whether its answer comes back. -/
inductive Link where
  | answered
  | answerLost (msg : String)
  | unreachable (msg : String)
deriving DecidableEq

/-- The results that have been returned. -/
inductive Outcome where
  | acquire (result : Except LockError LockGuard)
  | release (result : Except LockError Bool)
deriving DecidableEq

/-- A call of `acquire_with_retry` before its next attempt. -/
structure Retry where
  ttl : Nat
  config : RetryConfig
  attempt : Nat
  /-- the end of the delay -/
  notBefore : Nat

structure State where
  now : Nat := 0
  key : Option Entry := none
  uuids : Nat := 0
  /-- the guards that have not been released -/
  guards : List LockGuard := []
  retries : List Retry := []
  /-- newest first -/
  outcomes : List Outcome := []

/-! ## Redis -/

/-- `GET` -/
def State.get (s : State) : Option Entry := s.key.filter (s.now < ·.expiresAt)

/-- `SET key token NX EX ttl_secs`: whether the key was set. -/
def setNxEx (s : State) (token : Uuid) (ttlSecs : Nat) : Bool × State :=
  if s.get.isNone then
    (true, { s with key := some { token, expiresAt := s.now + ttlSecs * 1000000 } })
  else (false, s)

/-- `RELEASE_SCRIPT`: only deletes if the stored token matches. -/
def releaseScript (s : State) (token : Uuid) : Int × State :=
  if s.get.map (·.token) = some token then (1, { s with key := none }) else (0, s)

/-! ## Lock -/

/-- Try to acquire the lock once. -/
def acquire (s : State) (ttl : Nat) (link : Link) : Except LockError LockGuard × State :=
  let token : Uuid := ⟨0, s.uuids⟩
  let ttlSecs := max (ttl / 1000000) 1
  let s := { s with uuids := s.uuids + 1 }
  match link with
  | .unreachable msg => (.error (.redisUnavailable msg), s)
  | .answerLost msg => (.error (.redisUnavailable msg), (setNxEx s token ttlSecs).2)
  | .answered =>
    match setNxEx s token ttlSecs with
    | (true, s') => (.ok { token, expiresAt := s.now + ttlSecs * 1000000 }, s')
    | (false, s') => (.error .alreadyHeld, s')

/-- Release the lock atomically. Returns `true` if the guard held it. -/
def release (s : State) (guard : LockGuard) (link : Link) : Except LockError Bool × State :=
  match link with
  | .unreachable msg => (.error (.redisUnavailable msg), s)
  | .answerLost msg => (.error (.redisUnavailable msg), (releaseScript s guard.token).2)
  | .answered =>
    let (result, s) := releaseScript s guard.token
    (.ok (result = 1), s)

/-! ## Clients -/

/-- `acquire` or `acquire_with_retry` returns. -/
def State.returns (s : State) (result : Except LockError LockGuard) : State :=
  { s with
    guards := match result with
      | .ok guard => s.guards ++ [guard]
      | .error _ => s.guards
    outcomes := .acquire result :: s.outcomes }

inductive Label where
  | tick (duration : Nat)
  | acquire (ttl : Nat) (link : Link)
  | acquireWithRetry (ttl : Nat) (config : RetryConfig)
  /-- the next attempt of a call of `acquire_with_retry` -/
  | attempt (i : Nat) (link : Link)
  /-- the owner of guard `i` releases it, and no longer has it -/
  | release (i : Nat) (link : Link)

def step (s : State) : Label → Option State
  | .tick duration => some { s with now := s.now + duration }
  | .acquire ttl link =>
    let (result, s) := acquire s ttl link
    some (s.returns result)
  | .acquireWithRetry ttl config =>
    if config.maxAttempts = 0 then some (s.returns (.error .alreadyHeld))
    else
      some { s with
        retries := s.retries ++ [{ ttl, config, attempt := 0, notBefore := s.now }] }
  | .attempt i link =>
    match s.retries[i]? with
    | some retry =>
      if retry.notBefore ≤ s.now then
        match acquire s retry.ttl link with
        | (.error .alreadyHeld, s) =>
          if retry.attempt + 1 < retry.config.maxAttempts then
            some { s with
              retries := s.retries.set i
                { retry with
                  attempt := retry.attempt + 1
                  notBefore := s.now + retry.config.retryDelay } }
          else some ({ s with retries := s.retries.eraseIdx i }.returns (.error .alreadyHeld))
        | (result, s) => some ({ s with retries := s.retries.eraseIdx i }.returns result)
      else none
    | none => none
  | .release i link =>
    match s.guards[i]? with
    | some guard =>
      let (result, s) := release { s with guards := s.guards.eraseIdx i } guard link
      some { s with outcomes := .release result :: s.outcomes }
    | none => none

end Koupang.DistributedLock
