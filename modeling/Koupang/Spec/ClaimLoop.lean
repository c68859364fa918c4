import Koupang.Model.ClaimLoop
import Koupang.Spec.JobRunner

/-!
# The concurrency cap of a runner

The counter is one ahead of the tasks while a guard waits for its task, and equal to
their number otherwise. A loaded value can only be too large, so the capacity that is
computed from it still leaves room for the whole batch.

## Key results

- `capInv_step`: what the loop has left to spawn fits under the cap
- `concurrency_capped`: the number of tasks, in every run
-/

namespace Koupang.Jobs.ClaimLoop

/-- The loop has spawned all jobs of its last batch. -/
def Pc.betweenBatches : Pc → Bool
  | .waiting => true
  | .loaded _ => true
  | .claiming _ => true
  | .spawning _ => false
  | .guarded _ _ => false

/-- The guards without a task. -/
def Pc.guards : Pc → Nat
  | .guarded _ _ => 1
  | _ => 0

/-- With the loop at `pc`, this many tasks fit under the cap. -/
def Pc.Leaves (pc : Pc) (tasks cap : Nat) : Prop :=
  match pc with
  | .waiting => tasks ≤ cap
  | .loaded current => tasks ≤ current ∧ current ≤ cap
  | .claiming capacity => tasks + capacity ≤ cap ∧ 0 < capacity
  | .spawning jobs => tasks + jobs.length ≤ cap
  | .guarded _ jobs => tasks + 1 + jobs.length ≤ cap

structure CapInv (runner : JobRunner) (s : State) : Prop where
  counter : s.inFlight = s.tasks.length + s.pc.guards
  room : s.pc.Leaves s.tasks.length runner.config.maxConcurrentJobs

variable {runner : JobRunner} {s t : State} {a : Label} {pc : Pc} {tasks cap : Nat}

theorem Pc.Leaves.le (h : pc.Leaves tasks cap) : tasks + pc.guards ≤ cap := by
  cases pc with
  | waiting => exact h
  | loaded current => exact h.1.trans h.2
  | claiming capacity =>
    obtain ⟨hle, hpos⟩ := h
    simp only [guards]
    omega
  | spawning jobs =>
    simp only [Leaves] at h
    simp only [guards]
    omega
  | guarded job jobs =>
    simp only [Leaves] at h
    simp only [guards]
    omega

/-- A task that ends leaves more room. -/
theorem Pc.Leaves.mono {tasks' : Nat} (h : pc.Leaves tasks cap) (hle : tasks' ≤ tasks) :
    pc.Leaves tasks' cap := by
  cases pc with
  | waiting => exact hle.trans h
  | loaded current => exact ⟨hle.trans h.1, h.2⟩
  | claiming capacity =>
    obtain ⟨hroom, hpos⟩ := h
    exact ⟨by omega, hpos⟩
  | spawning jobs =>
    simp only [Leaves] at h ⊢
    omega
  | guarded job jobs =>
    simp only [Leaves] at h ⊢
    omega

theorem fetchAdd_eq {n : Nat} (h : n < 18446744073709551615) : fetchAdd n = n + 1 :=
  Nat.mod_eq_of_lt (by omega)

theorem fetchSub_eq {n : Nat} (hpos : 0 < n) (h : n < 18446744073709551616) :
    fetchSub n = n - 1 := by
  unfold fetchSub
  omega

/-- A positive capacity has not wrapped. -/
theorem asI32_le {n : Nat} (h : n ≤ 2147483647) : asI32 n = n := by
  unfold asI32
  rw [Int.bmod_eq_of_le]
  · omega
  · omega

theorem capInv_init : CapInv runner {} := ⟨rfl, Nat.zero_le _⟩

theorem capInv_step (hmax : runner.config.maxConcurrentJobs ≤ 2147483647) (hinv : CapInv runner s)
    (h : step runner s a = some t) : CapInv runner t := by
  obtain ⟨hcounter, hroom⟩ := hinv
  have hle := hroom.le
  cases a with
  | wake cancelled =>
    simp only [step] at h
    split at h
    · rename_i hpc
      rw [hpc] at hcounter hroom
      cases cancelled with
      | true =>
        cases h
        exact ⟨by rw [hpc]; exact hcounter, by rw [hpc]; exact hroom⟩
      | false =>
        cases h
        -- nothing is between the counter and the tasks
        have heq : s.inFlight = s.tasks.length := hcounter
        refine ⟨hcounter, ?_⟩
        show s.tasks.length ≤ s.inFlight ∧ s.inFlight ≤ _
        rw [heq]
        exact ⟨Nat.le_refl _, hroom⟩
    · cases h
  | request =>
    simp only [step] at h
    split at h
    · rename_i current hpc
      rw [hpc] at hcounter hroom
      obtain ⟨hcurrent, hcap⟩ := hroom
      split at h
      · cases h
        exact ⟨hcounter, hcurrent.trans hcap⟩
      · rename_i hpositive
        cases h
        refine ⟨hcounter, ?_⟩
        rw [asI32_le (by omega)] at hpositive ⊢
        show (s.tasks.length : Int) + _ ≤ _ ∧ 0 < _
        omega
    · cases h
  | answer result =>
    simp only [step] at h
    split at h
    · rename_i capacity _ hpc
      rw [hpc] at hcounter hroom hle
      cases h
      exact ⟨hcounter, hle⟩
    · rename_i capacity jobs hpc
      rw [hpc] at hcounter hroom
      split at h
      · rename_i hjobs
        cases h
        refine ⟨hcounter, ?_⟩
        obtain ⟨hfits, -⟩ := hroom
        show s.tasks.length + jobs.length ≤ _
        omega
      · cases h
    · cases h
  | next =>
    simp only [step] at h
    split at h
    · rename_i hpc
      rw [hpc] at hcounter hroom
      cases h
      exact ⟨hcounter, hroom⟩
    · rename_i job jobs hpc
      rw [hpc] at hcounter hroom
      have hjobs : s.tasks.length + (jobs.length + 1) ≤ runner.config.maxConcurrentJobs := hroom
      have heq : s.inFlight = s.tasks.length := hcounter
      split at h
      · cases h
        refine ⟨?_, ?_⟩
        · show fetchAdd s.inFlight = s.tasks.length + 1
          rw [heq, fetchAdd_eq (by omega)]
        · show s.tasks.length + 1 + jobs.length ≤ _
          omega
      · -- without a handler there is one job less to spawn
        cases h
        refine ⟨hcounter, ?_⟩
        show s.tasks.length + jobs.length ≤ _
        omega
    · cases h
  | spawn =>
    simp only [step] at h
    split at h
    · rename_i job jobs hpc
      rw [hpc] at hcounter hroom
      cases h
      have hlength : (s.tasks ++ [job]).length = s.tasks.length + 1 := by simp
      refine ⟨?_, ?_⟩
      · show s.inFlight = (s.tasks ++ [job]).length + 0
        rw [hlength]
        exact hcounter
      · show (s.tasks ++ [job]).length + jobs.length ≤ _
        rw [hlength]
        exact hroom
    · cases h
  | ends i outcome =>
    simp only [step] at h
    split at h
    · rename_i hlt
      cases h
      have hlength : (s.tasks.eraseIdx i).length = s.tasks.length - 1 :=
        List.length_eraseIdx_of_lt hlt
      refine ⟨?_, hroom.mono (hlength ▸ Nat.sub_le ..)⟩
      show fetchSub s.inFlight = (s.tasks.eraseIdx i).length + s.pc.guards
      rw [hlength, fetchSub_eq (by omega) (by omega)]
      omega
    · cases h

/-- In every run, no more tasks are alive than the cap allows, and between batches the counter is
    their number. -/
theorem concurrency_capped (runner : JobRunner)
    (hmax : 0 < runner.config.maxConcurrentJobs ∧ runner.config.maxConcurrentJobs ≤ 2147483647)
    (as : List Label) (hrun : Run.run (step runner) {} as = some s) :
    s.tasks.length ≤ runner.config.maxConcurrentJobs ∧
      (s.pc.betweenBatches = true → s.tasks.length = s.inFlight) := by
  have hinv : CapInv runner s :=
    Run.run_invariant (fun s a t hs h => capInv_step hmax.2 hs h) capInv_init hrun
  refine ⟨(Nat.le_add_right ..).trans hinv.room.le, fun hpc => ?_⟩
  have hguards : s.pc.guards = 0 := by
    cases hcase : s.pc with
    | guarded job jobs =>
      rw [hcase] at hpc
      cases hpc
    | _ => rfl
  rw [hinv.counter, hguards, Nat.add_zero]

/-- A disbursement, as it is claimed. -/
def disbursement : Job :=
  { id := ⟨0, 0⟩, jobType := "payment.disburse", dedupKey := none, maxRetries := 5
    timeoutSeconds := 300, nextRunAt := 0, updatedAt := 0 }

/-- It is executed, panics, and leaves the loop waiting for another one. -/
def panicking : List Label :=
  [.wake false, .request, .answer (.ok [disbursement]), .next, .spawn, .next, .wake false,
    .ends 0 .panicked]

theorem concurrency_capped_panicking :
    ∃ s, Run.run (step (disbursers 0)) {} panicking = some s ∧ s.tasks.length ≤ 5 ∧
      s.tasks.length = s.inFlight := by
  have hrun : (Run.run (step (disbursers 0)) {} panicking).map
      (fun s => s.pc.betweenBatches) = some true := by
    decide +kernel
  obtain ⟨s, hs, hpc⟩ := Option.map_eq_some_iff.mp hrun
  have hcapped := concurrency_capped (disbursers 0) (by decide +kernel) panicking hs
  exact ⟨s, hs, hcapped.1, hcapped.2 hpc⟩

end Koupang.Jobs.ClaimLoop
