import Mathlib.Data.List.Nodup
import Koupang.ForStd.Run
import Koupang.Model.DistributedLock

/-!
# Distributed lock

As long as a guard is neither released nor expired, the key holds its token. All
the rest follows, for any history of expiries and re-acquisitions: a client whose
guard has expired finds another token in the key, or none.

## Key results

- `acquire_cases`: what an attempt can do
- `lock_safety`: mutual exclusion and the guarded release, in every run
-/

namespace Koupang.DistributedLock

/-- The guards that are neither released nor expired. -/
def State.live (s : State) : List LockGuard := s.guards.filter (s.now < ·.expiresAt)

/-- `acquire` and `acquire_with_retry` return `Ok` only when there is no such guard. -/
def AcquiresFree (s t : State) : Prop :=
  ∀ guard, t.outcomes = .acquire (.ok guard) :: s.outcomes → s.live = []

/-- A release that reaches Redis removes the key exactly if it holds the token of the guard, says
    so, and otherwise leaves it to its owner. -/
structure ReleasesOwn (s : State) (guard : LockGuard) (link : Link) (t : State) : Prop where
  removed : s.get.map (·.token) = some guard.token → (∀ msg, link ≠ .unreachable msg) →
    t.get = none
  kept : s.get.map (·.token) ≠ some guard.token → t.get = s.get
  expired : guard.expiresAt ≤ s.now → t.get = s.get
  answer : link = .answered → t.outcomes =
    .release (.ok (s.get.map (·.token) = some guard.token)) :: s.outcomes

variable {s t : State}

/-! ## Commands -/

theorem get_eq_some {e : Entry} : s.get = some e ↔ s.key = some e ∧ s.now < e.expiresAt := by
  simp [State.get]

/-- An attempt finds the key free and sets it, with or without telling the client, or it draws a
    token and changes nothing else. -/
theorem acquire_cases (s : State) (ttl : Nat) (link : Link) :
    (∃ guard, acquire s ttl link = (.ok guard, { s with
        uuids := s.uuids + 1, key := some ⟨guard.token, guard.expiresAt⟩ }) ∧
      guard.token = ⟨0, s.uuids⟩ ∧ s.get = none) ∨
    (∃ e expiresAt, acquire s ttl link = (.error e, { s with
        uuids := s.uuids + 1, key := some ⟨⟨0, s.uuids⟩, expiresAt⟩ }) ∧ s.get = none) ∨
    ∃ e, acquire s ttl link = (.error e, { s with uuids := s.uuids + 1 }) := by
  have hset : ∀ token ttlSecs, (s.get = none ∧
      setNxEx { s with uuids := s.uuids + 1 } token ttlSecs =
        (true, { s with
          uuids := s.uuids + 1, key := some ⟨token, s.now + ttlSecs * 1000000⟩ })) ∨
      setNxEx { s with uuids := s.uuids + 1 } token ttlSecs =
        (false, { s with uuids := s.uuids + 1 }) := by
    intro token ttlSecs
    have hget : State.get { s with uuids := s.uuids + 1 } = s.get := rfl
    simp only [setNxEx, hget]
    cases s.get with
    | none => exact .inl ⟨rfl, rfl⟩
    | some e => exact .inr rfl
  cases link with
  | unreachable msg => exact .inr (.inr ⟨_, rfl⟩)
  | answerLost msg =>
    rcases hset ⟨0, s.uuids⟩ (max (ttl / 1000000) 1) with ⟨hfree, hset⟩ | hset
    · simp only [acquire, hset]
      exact .inr (.inl ⟨_, _, rfl, hfree⟩)
    · simp only [acquire, hset]
      exact .inr (.inr ⟨_, rfl⟩)
  | answered =>
    rcases hset ⟨0, s.uuids⟩ (max (ttl / 1000000) 1) with ⟨hfree, hset⟩ | hset
    · simp only [acquire, hset]
      exact .inl ⟨_, rfl, rfl, hfree⟩
    · simp only [acquire, hset]
      exact .inr (.inr ⟨_, rfl⟩)

/-- The script deletes the key, or it changes nothing. -/
theorem releaseScript_cases (s : State) (token : Uuid) :
    (s.get.map (·.token) = some token ∧ releaseScript s token = (1, { s with key := none })) ∨
      (s.get.map (·.token) ≠ some token ∧ releaseScript s token = (0, s)) := by
  unfold releaseScript
  split
  · rename_i hholds
    exact .inl ⟨hholds, rfl⟩
  · rename_i hother
    exact .inr ⟨hother, rfl⟩

/-! ## The invariant -/

/-- The token is one of those that were drawn. -/
def State.Drawn (s : State) (token : Uuid) : Prop := ∃ k < s.uuids, token = ⟨0, k⟩

theorem State.Drawn.succ {token : Uuid} (h : s.Drawn token) (huuids : t.uuids = s.uuids + 1) :
    t.Drawn token := by
  obtain ⟨k, hk, heq⟩ := h
  exact ⟨k, by omega, heq⟩

theorem State.Drawn.ne {token : Uuid} (h : s.Drawn token) : token ≠ ⟨0, s.uuids⟩ := by
  rintro rfl
  obtain ⟨k, hk, heq⟩ := h
  simp only [Uuid.mk.injEq, true_and] at heq
  omega

structure LockInv (s : State) : Prop where
  drawnKey : ∀ e ∈ s.key, s.Drawn e.token
  drawn : ∀ guard ∈ s.guards, s.Drawn guard.token
  distinct : (s.guards.map (·.token)).Nodup
  /-- the key keeps the expiry of the guard that set it -/
  same : ∀ guard ∈ s.guards, ∀ e ∈ s.key, e.token = guard.token → e.expiresAt = guard.expiresAt
  held : ∀ guard ∈ s.guards, s.now < guard.expiresAt → s.key = some ⟨guard.token, guard.expiresAt⟩

theorem lockInv_init : LockInv {} where
  drawnKey := by simp
  drawn := by simp
  distinct := by simp
  same := by simp
  held := by simp

/-- Without a live key there is no live guard. -/
theorem LockInv.live_eq_nil (hinv : LockInv s) (hfree : s.get = none) : s.live = [] := by
  rw [State.live, List.filter_eq_nil_iff]
  intro guard hguard hlive
  have hkey := hinv.held guard hguard (of_decide_eq_true hlive)
  have hget : s.get = some ⟨guard.token, guard.expiresAt⟩ :=
    get_eq_some.mpr ⟨hkey, of_decide_eq_true hlive⟩
  rw [hfree] at hget
  cases hget

theorem LockInv.not_live (hinv : LockInv s) (hfree : s.get = none) {guard : LockGuard}
    (hguard : guard ∈ s.guards) : ¬ s.now < guard.expiresAt := by
  intro hlive
  have hmem : guard ∈ s.live := List.mem_filter.mpr ⟨hguard, decide_eq_true hlive⟩
  rw [hinv.live_eq_nil hfree] at hmem
  cases hmem

/-- A token is drawn and nothing else happens. -/
theorem LockInv.draw (hinv : LockInv s) : LockInv { s with uuids := s.uuids + 1 } where
  drawnKey e he := (hinv.drawnKey e he).succ rfl
  drawn guard hguard := (hinv.drawn guard hguard).succ rfl
  distinct := hinv.distinct
  same := hinv.same
  held := hinv.held

/-- The free key is set with a new token. -/
theorem LockInv.setKey (hinv : LockInv s) (hfree : s.get = none) (expiresAt : Nat) :
    LockInv { s with uuids := s.uuids + 1, key := some ⟨⟨0, s.uuids⟩, expiresAt⟩ } where
  drawnKey e he := by
    cases he
    exact ⟨s.uuids, Nat.lt_succ_self _, rfl⟩
  drawn guard hguard := (hinv.drawn guard hguard).succ rfl
  distinct := hinv.distinct
  same guard hguard e he htoken := by
    cases he
    exact absurd htoken.symm (hinv.drawn guard hguard).ne
  held guard hguard hlive := absurd hlive (hinv.not_live hfree hguard)

/-- A client gets a guard for the key that it has just set. -/
theorem LockInv.addGuard (hinv : LockInv s) (hfree : s.get = none) {guard : LockGuard}
    (htoken : guard.token = ⟨0, s.uuids⟩) :
    LockInv { s with
      uuids := s.uuids + 1
      key := some ⟨guard.token, guard.expiresAt⟩
      guards := s.guards ++ [guard] } := by
  have hset := hinv.setKey hfree guard.expiresAt
  rw [← htoken] at hset
  have hne : ∀ old ∈ s.guards, old.token ≠ guard.token := fun old hold =>
    htoken ▸ (hinv.drawn old hold).ne
  constructor
  · exact hset.drawnKey
  · intro old hold
    rcases List.mem_append.mp hold with hold | hold
    · exact hset.drawn old hold
    · rw [List.mem_singleton.mp hold]
      exact hset.drawnKey _ rfl
  · rw [List.map_append, List.map_singleton]
    refine List.Nodup.append hinv.distinct (List.nodup_singleton _) ?_
    simpa [List.disjoint_singleton] using hne
  · intro old hold e he heq
    cases he
    rcases List.mem_append.mp hold with hold | hold
    · exact absurd heq.symm (hne old hold)
    · rw [List.mem_singleton.mp hold]
  · intro old hold hlive
    rcases List.mem_append.mp hold with hold | hold
    · exact absurd hlive (hinv.not_live hfree hold)
    · rw [List.mem_singleton.mp hold]

/-- What is not in the key, the guards and the clock does not matter. -/
theorem LockInv.congr (hinv : LockInv s) (hnow : t.now = s.now) (hkey : t.key = s.key)
    (huuids : t.uuids = s.uuids) (hguards : t.guards = s.guards) : LockInv t := by
  obtain ⟨now, key, uuids, guards, retries, outcomes⟩ := t
  cases hnow
  cases hkey
  cases huuids
  cases hguards
  exact ⟨hinv.drawnKey, hinv.drawn, hinv.distinct, hinv.same, hinv.held⟩

theorem lockInv_acquire (hinv : LockInv s) (ttl : Nat) (link : Link) :
    LockInv ((acquire s ttl link).2.returns (acquire s ttl link).1) := by
  rcases acquire_cases s ttl link with
    ⟨guard, heq, htoken, hfree⟩ | ⟨e, expiresAt, heq, hfree⟩ | ⟨e, heq⟩
  · rw [heq]
    exact (hinv.addGuard hfree htoken).congr rfl rfl rfl rfl
  · rw [heq]
    exact (hinv.setKey hfree expiresAt).congr rfl rfl rfl rfl
  · rw [heq]
    exact hinv.draw.congr rfl rfl rfl rfl

/-- The owner of a guard gives it away. -/
theorem LockInv.dropGuard (hinv : LockInv s) (i : Nat) :
    LockInv { s with guards := s.guards.eraseIdx i } where
  drawnKey := hinv.drawnKey
  drawn guard hguard := hinv.drawn guard (List.mem_of_mem_eraseIdx hguard)
  distinct := hinv.distinct.sublist ((List.eraseIdx_sublist ..).map _)
  same guard hguard := hinv.same guard (List.mem_of_mem_eraseIdx hguard)
  held guard hguard := hinv.held guard (List.mem_of_mem_eraseIdx hguard)

/-! ## Steps -/

/-- The branches of a step. -/
inductive Stepped (s : State) : Label → State → Prop where
  | tick {duration} : Stepped s (.tick duration) { s with now := s.now + duration }
  | attempted {a ttl link} (retries : List Retry)
      (label : ∀ i link', a ≠ .release i link') :
      Stepped s a { (acquire s ttl link).2.returns (acquire s ttl link).1 with retries }
  /-- `acquire_with_retry` begins, or an attempt of it fails and another one follows -/
  | waits {a t} (inv : LockInv s → LockInv t) (outcomes : t.outcomes = s.outcomes)
      (label : ∀ i link, a ≠ .release i link) : Stepped s a t
  | gaveUp {ttl config} : Stepped s (.acquireWithRetry ttl config) (s.returns (.error .alreadyHeld))
  | released {i link guard t} (hguard : s.guards[i]? = some guard)
      (ht : t = (release { s with guards := s.guards.eraseIdx i } guard link).2) :
      Stepped s (.release i link) { t with
        outcomes := .release
          (release { s with guards := s.guards.eraseIdx i } guard link).1 :: t.outcomes }

theorem acquire_outcomes (s : State) (ttl : Nat) (link : Link) :
    (acquire s ttl link).2.outcomes = s.outcomes ∧ (acquire s ttl link).2.retries = s.retries := by
  rcases acquire_cases s ttl link with ⟨guard, heq, -⟩ | ⟨e, expiresAt, heq, -⟩ | ⟨e, heq⟩ <;>
    rw [heq] <;> exact ⟨rfl, rfl⟩

theorem stepped_of_step {a : Label} (h : step s a = some t) : Stepped s a t := by
  cases a with
  | tick duration =>
    cases h
    exact .tick
  | acquire ttl link =>
    cases h
    exact .attempted (acquire s ttl link).2.retries (by simp)
  | acquireWithRetry ttl config =>
    simp only [step] at h
    split at h
    · cases h
      exact .gaveUp
    · cases h
      exact .waits (fun hinv => hinv.congr rfl rfl rfl rfl) rfl (by simp)
  | attempt i link =>
    simp only [step] at h
    split at h
    · rename_i retry hretry
      split at h
      · cases hacquire : acquire s retry.ttl link with
        | mk result s' =>
          have hreturns : Stepped s (.attempt i link)
              ({ s' with retries := s'.retries.eraseIdx i }.returns result) := by
            have hattempted : Stepped s (.attempt i link)
                { (acquire s retry.ttl link).2.returns (acquire s retry.ttl link).1 with
                  retries := s'.retries.eraseIdx i } := .attempted _ (by simp)
            rw [hacquire] at hattempted
            exact hattempted
          rw [hacquire] at h
          split at h
          · rename_i heq
            cases heq
            split at h
            · cases h
              refine .waits (fun hinv => ?_) ?_ (by simp)
              · -- a failed attempt leaves the guards as they are
                have hinv' := lockInv_acquire hinv retry.ttl link
                rw [hacquire] at hinv'
                exact hinv'.congr rfl rfl rfl rfl
              · have houtcomes := (acquire_outcomes s retry.ttl link).1
                rw [hacquire] at houtcomes
                exact houtcomes
            · cases h
              exact hreturns
          · rename_i heq
            cases heq
            cases h
            exact hreturns
      · cases h
    · cases h
  | release i link =>
    simp only [step] at h
    split at h
    · rename_i guard hguard
      cases h
      exact .released hguard rfl
    · cases h

/-- A release removes the key, or leaves it. -/
theorem release_cases (s : State) (guard : LockGuard) (link : Link) :
    (s.get.map (·.token) = some guard.token ∧
        (release s guard link).2 = { s with key := none } ∧
        ((release s guard link).1 = .ok true ∨ ∃ msg, link = .answerLost msg)) ∨
      ((release s guard link).2 = s ∧
        (s.get.map (·.token) ≠ some guard.token ∧
            ((release s guard link).1 = .ok false ∨ ∃ msg, link = .answerLost msg) ∨
          ∃ msg, link = .unreachable msg)) := by
  cases link with
  | unreachable msg => exact .inr ⟨rfl, .inr ⟨msg, rfl⟩⟩
  | answerLost msg =>
    rcases releaseScript_cases s guard.token with ⟨hholds, heq⟩ | ⟨hother, heq⟩
    · exact .inl ⟨hholds, by simp [release, heq], .inr ⟨msg, rfl⟩⟩
    · exact .inr ⟨by simp [release, heq], .inl ⟨hother, .inr ⟨msg, rfl⟩⟩⟩
  | answered =>
    rcases releaseScript_cases s guard.token with ⟨hholds, heq⟩ | ⟨hother, heq⟩
    · exact .inl ⟨hholds, by simp [release, heq], .inl (by simp [release, heq])⟩
    · exact .inr ⟨by simp [release, heq], .inl ⟨hother, .inl (by simp [release, heq])⟩⟩

/-! ## Releases -/

/-- The other guards have other tokens. -/
theorem LockInv.token_ne (hinv : LockInv s) {i : Nat} {guard other : LockGuard}
    (hguard : s.guards[i]? = some guard) (hother : other ∈ s.guards.eraseIdx i) :
    other.token ≠ guard.token := by
  obtain ⟨k, hne, hk⟩ := List.mem_eraseIdx_iff_getElem?.mp hother
  intro htoken
  have hget : (s.guards.map (·.token))[k]? = (s.guards.map (·.token))[i]? := by
    rw [List.getElem?_map, List.getElem?_map, hk, hguard, Option.map_some, Option.map_some, htoken]
  have hlt : k < (s.guards.map (·.token)).length := by
    rw [List.length_map]
    exact (List.getElem?_eq_some_iff.mp hk).1
  exact hne ((List.getElem?_inj hlt hinv.distinct).mp hget)

/-- The owner of the key deletes it. -/
theorem LockInv.deleteKey (hinv : LockInv s) {i : Nat} {guard : LockGuard}
    (hguard : s.guards[i]? = some guard) (hholds : s.get.map (·.token) = some guard.token) :
    LockInv { s with guards := s.guards.eraseIdx i, key := none } where
  drawnKey := by simp
  drawn := (hinv.dropGuard i).drawn
  distinct := (hinv.dropGuard i).distinct
  same := by simp
  held other hother hlive := by
    -- another live guard would have its own token in the key
    have hkey := (hinv.dropGuard i).held other hother hlive
    have hget : s.get = some ⟨other.token, other.expiresAt⟩ := get_eq_some.mpr ⟨hkey, hlive⟩
    rw [hget] at hholds
    exact absurd (Option.some.inj hholds) (hinv.token_ne hguard hother)

theorem lockInv_release (hinv : LockInv s) {i : Nat} {guard : LockGuard}
    (hguard : s.guards[i]? = some guard) (link : Link) :
    LockInv (release { s with guards := s.guards.eraseIdx i } guard link).2 := by
  rcases release_cases { s with guards := s.guards.eraseIdx i } guard link with
    ⟨hholds, heq, -⟩ | ⟨heq, -⟩
  · rw [heq]
    exact hinv.deleteKey hguard hholds
  · rw [heq]
    exact hinv.dropGuard i

/-- The key of an expired guard is gone, or it is not the guard's. -/
theorem LockInv.not_holds (hinv : LockInv s) {guard : LockGuard} (hguard : guard ∈ s.guards)
    (hexpired : guard.expiresAt ≤ s.now) : s.get.map (·.token) ≠ some guard.token := by
  intro hholds
  obtain ⟨e, hget, htoken⟩ := Option.map_eq_some_iff.mp hholds
  obtain ⟨hkey, hlive⟩ := get_eq_some.mp hget
  have hsame := hinv.same guard hguard e hkey htoken
  omega

theorem releasesOwn_of_release (hinv : LockInv s) {i : Nat} {link : Link} {guard : LockGuard}
    (hguard : s.guards[i]? = some guard) (h : step s (.release i link) = some t) :
    ReleasesOwn s guard link t := by
  simp only [step, hguard] at h
  cases h
  have hkept : s.get.map (·.token) ≠ some guard.token →
      (release { s with guards := s.guards.eraseIdx i } guard link).2 =
        { s with guards := s.guards.eraseIdx i } := by
    intro hother
    rcases release_cases { s with guards := s.guards.eraseIdx i } guard link with
      ⟨hholds, -⟩ | ⟨heq, -⟩
    · exact absurd hholds hother
    · exact heq
  constructor
  · intro hholds hlink
    rcases release_cases { s with guards := s.guards.eraseIdx i } guard link with
      ⟨-, heq, -⟩ | ⟨-, ⟨hother, -⟩ | ⟨msg, hmsg⟩⟩
    · rw [heq]
      rfl
    · exact absurd hholds hother
    · exact absurd hmsg (hlink msg)
  · intro hother
    rw [hkept hother]
    rfl
  · intro hexpired
    rw [hkept (hinv.not_holds (List.mem_of_getElem? hguard) hexpired)]
    rfl
  · rintro rfl
    rcases release_cases { s with guards := s.guards.eraseIdx i } guard .answered with
      ⟨hholds, heq, hanswer⟩ | ⟨heq, ⟨hother, hanswer⟩ | ⟨msg, hmsg⟩⟩
    · rcases hanswer with hanswer | ⟨msg, hmsg⟩
      · have hholds' : s.get.map (·.token) = some guard.token := hholds
        simp [hanswer, heq, hholds']
      · cases hmsg
    · rcases hanswer with hanswer | ⟨msg, hmsg⟩
      · have hother' : s.get.map (·.token) ≠ some guard.token := hother
        simp [hanswer, heq, hother']
      · cases hmsg
    · cases hmsg

/-! ## Runs -/

theorem lockInv_step {a : Label} (hinv : LockInv s) (h : Stepped s a t) : LockInv t := by
  cases h with
  | @tick duration =>
    exact ⟨hinv.drawnKey, hinv.drawn, hinv.distinct, hinv.same, fun guard hguard hlive =>
      hinv.held guard hguard (Nat.lt_of_le_of_lt (Nat.le_add_right ..) hlive)⟩
  | attempted retries => exact (lockInv_acquire hinv _ _).congr rfl rfl rfl rfl
  | waits hkeeps => exact hkeeps hinv
  | gaveUp => exact hinv.congr rfl rfl rfl rfl
  | released hguard ht =>
    subst ht
    exact (lockInv_release hinv hguard _).congr rfl rfl rfl rfl

theorem LockInv.live_le_one (hinv : LockInv s) : s.live.length ≤ 1 := by
  have hnodup : (s.live.map (·.token)).Nodup :=
    hinv.distinct.sublist (List.filter_sublist.map _)
  have hkey : ∀ guard ∈ s.live, s.key = some ⟨guard.token, guard.expiresAt⟩ := by
    intro guard hguard
    obtain ⟨hmem, hlive⟩ := List.mem_filter.mp hguard
    exact hinv.held guard hmem (of_decide_eq_true hlive)
  match hguards : s.live with
  | [] => exact Nat.zero_le _
  | [_] => exact Nat.le_refl _
  | guard :: other :: rest =>
    -- both tokens would be in the key
    have hfirst := hkey guard (by simp [hguards])
    have hsecond := hkey other (by simp [hguards])
    rw [hfirst, Option.some.injEq, Entry.mk.injEq] at hsecond
    simp [hguards, hsecond.1] at hnodup

theorem acquiresFree_of_stepped {a : Label} (hinv : LockInv s) (h : Stepped s a t) :
    AcquiresFree s t := by
  intro guard houtcomes
  -- the other branches record another outcome, or none
  have hlength : ∀ outcome : Outcome, outcome :: s.outcomes ≠ s.outcomes := fun outcome heq =>
    absurd (congrArg List.length heq) (by simp)
  cases h with
  | tick => exact absurd houtcomes.symm (hlength _)
  | @attempted a ttl link retries =>
    rcases acquire_cases s ttl link with ⟨_, -, -, hfree⟩ | ⟨_, _, -, hfree⟩ | ⟨e, heq⟩
    · exact hinv.live_eq_nil hfree
    · exact hinv.live_eq_nil hfree
    · rw [heq] at houtcomes
      simp [State.returns] at houtcomes
  | waits _ hsame => exact absurd (houtcomes.symm.trans hsame) (hlength _)
  | gaveUp => simp [State.returns] at houtcomes
  | released => simp at houtcomes

/-- In every interleaving of any number of clients, with any times of expiry and any loss of
    commands and answers: at most one guard is neither released nor expired; an acquisition
    returns `Ok` only when there is none; and a release removes the key exactly if it still holds
    the token of the guard, answers `true` exactly then, and touches nobody else's lock. -/
theorem lock_safety (as : List Label) (hrun : Run.run step {} as = some s) :
    s.live.length ≤ 1 ∧ ∀ a t, step s a = some t → AcquiresFree s t ∧
      ∀ i link guard, a = .release i link → s.guards[i]? = some guard →
        ReleasesOwn s guard link t := by
  have hinv : LockInv s :=
    Run.run_invariant (fun _ _ _ hinv hstep => lockInv_step hinv (stepped_of_step hstep))
      lockInv_init hrun
  refine ⟨hinv.live_le_one, fun a t hstep => ⟨?_, ?_⟩⟩
  · exact acquiresFree_of_stepped hinv (stepped_of_step hstep)
  · rintro i link guard rfl hguard
    exact releasesOwn_of_release hinv hguard hstep

/-- Two clients compete; the lock of the first one expires, the second one gets it on a retry,
    and the first one releases late. -/
def lateRelease : List Label :=
  [.acquire 500000 .answered, .acquireWithRetry 2000000 {}, .attempt 0 .answered, .tick 1000000,
    .attempt 0 .answered, .release 0 .answered]

theorem lock_safety_lateRelease :
    ∃ s, Run.run step {} lateRelease = some s ∧
      s.outcomes = [.release (.ok false), .acquire (.ok ⟨⟨0, 2⟩, 3000000⟩),
        .acquire (.ok ⟨⟨0, 0⟩, 1000000⟩)] ∧
      s.get = some ⟨⟨0, 2⟩, 3000000⟩ ∧ s.live.length ≤ 1 := by
  have hrun : (Run.run step {} lateRelease).map (fun s => (s.outcomes, s.get)) =
      some ([.release (.ok false), .acquire (.ok ⟨⟨0, 2⟩, 3000000⟩),
        .acquire (.ok ⟨⟨0, 0⟩, 1000000⟩)], some ⟨⟨0, 2⟩, 3000000⟩) := by
    decide +kernel
  obtain ⟨s, hs, heq⟩ := Option.map_eq_some_iff.mp hrun
  obtain ⟨houtcomes, hget⟩ := Prod.mk.inj heq
  exact ⟨s, hs, houtcomes, hget, (lock_safety _ hs).1⟩

end Koupang.DistributedLock
