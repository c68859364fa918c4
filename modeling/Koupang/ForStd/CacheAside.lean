import Mathlib.Data.List.Basic

/-!
# Cache-aside reads

A cache keeps, by key, values that a query on the store has returned. A read
returns the cached value if there is one, and what the query returns otherwise.
Whoever writes the store evicts the keys whose values the write may change.

## Key results

- `fresh_iff_read`: reads return what the query returns exactly if every cached value is fresh
- `Fresh.write_iff`: a write keeps the cache fresh exactly if it leaves each value that is still
  cached as it is
- `FreshSince.store_iff`: a read whose steps overlap with writes may store a value that is recent
- `FreshSince.write`, `FreshSince.evict`: a write, and its eviction later
-/

namespace CacheAside

variable {σ κ ν ε : Type*} {query : σ → κ → Except ε ν} {db db' : σ} {cache cache' : κ → Option ν}

/-- What a read returns: the cached value, or that of the query. -/
def read (query : σ → κ → Except ε ν) (db : σ) (cache : κ → Option ν) (k : κ) : Except ε ν :=
  match cache k with
  | some v => .ok v
  | none => query db k

/-- Every cached value is the one that the query returns. -/
def Fresh (query : σ → κ → Except ε ν) (db : σ) (cache : κ → Option ν) : Prop :=
  ∀ k v, cache k = some v → query db k = .ok v

theorem fresh_iff_read : Fresh query db cache ↔ ∀ k, read query db cache k = query db k := by
  unfold Fresh read
  refine forall_congr' fun k => ?_
  cases cache k with
  | none => simp
  | some v => simp [eq_comm]

/-- A write, with the evictions that come with it. -/
theorem Fresh.write_iff (h : Fresh query db cache)
    (hcache : ∀ k v, cache' k = some v → cache k = some v) :
    Fresh query db' cache' ↔ ∀ k v, cache' k = some v → query db' k = query db k := by
  refine forall₃_congr fun k v hk => ?_
  rw [h k v (hcache k v hk)]

/-- Eviction alone. -/
theorem Fresh.evict (h : Fresh query db cache)
    (hcache : ∀ k v, cache' k = some v → cache k = some v) : Fresh query db cache' :=
  (h.write_iff hcache).mpr fun _ _ _ => rfl

/-! ## Reads and writes that overlap

Here a read stores the value some time after its query, and a write evicts some time after it has
taken effect. The store has gone through `versions`. A value may be returned as long as it is that
of some version from `floor` on, the newest one that is known to be visible. -/

variable {versions : List σ} {floor floor' : κ → Nat} {since : Nat} {k : κ} {v : ν}

/-- The query returns the value at a version from `since` on. -/
def Recent (query : σ → κ → Except ε ν) (versions : List σ) (since : Nat) (k : κ) (v : ν) : Prop :=
  ∃ db ∈ versions.drop since, query db k = .ok v

instance [DecidableEq ε] [DecidableEq ν] : Decidable (Recent query versions since k v) :=
  inferInstanceAs (Decidable (∃ db ∈ versions.drop since, _))

theorem Recent.write (h : Recent query versions since k v) (db : σ) :
    Recent query (versions ++ [db]) since k v := by
  obtain ⟨db', hmem, hv⟩ := h
  rw [Recent, List.drop_append]
  exact ⟨db', List.mem_append_left _ hmem, hv⟩

/-- What the query returns now is recent. -/
theorem recent_of_query (hlast : versions.getLast? = some db) (hsince : since < versions.length)
    (hv : query db k = .ok v) : Recent query versions since k v := by
  have hdrop : (versions.drop since).getLast? = some db := by
    rw [List.getLast?_drop, if_neg (Nat.not_le.mpr hsince), hlast]
  exact ⟨db, List.mem_of_getLast? hdrop, hv⟩

/-- Every cached value is recent. -/
def FreshSince (query : σ → κ → Except ε ν) (versions : List σ) (floor : κ → Nat)
    (cache : κ → Option ν) : Prop :=
  ∀ k v, cache k = some v → Recent query versions (floor k) k v

theorem FreshSince.write (h : FreshSince query versions floor cache) (db : σ) :
    FreshSince query (versions ++ [db]) floor cache :=
  fun k v hk => (h k v hk).write db

theorem FreshSince.store_iff (h : FreshSince query versions floor cache) (hk : cache' k = some v)
    (hothers : ∀ k' ≠ k, cache' k' = cache k') :
    FreshSince query versions floor cache' ↔ Recent query versions (floor k) k v := by
  constructor
  · exact fun h' => h' k v hk
  · intro hrecent k' v' hk'
    by_cases heq : k' = k
    · subst heq
      rw [hk] at hk'
      cases hk'
      exact hrecent
    · rw [hothers k' heq] at hk'
      exact h k' v' hk'

/-- An eviction, which may make a newer version visible for its key. -/
theorem FreshSince.evict (h : FreshSince query versions floor cache) (hk : cache' k = none)
    (hcache : ∀ k' v', cache' k' = some v' → cache k' = some v')
    (hfloor : ∀ k' ≠ k, floor' k' = floor k') : FreshSince query versions floor' cache' := by
  intro k' v' hk'
  have hne : k' ≠ k := by
    intro heq
    rw [heq, hk] at hk'
    cases hk'
  rw [hfloor k' hne]
  exact h k' v' (hcache k' v' hk')

end CacheAside
