import Mathlib

/-!
# Probing a ring

A search that begins behind some index, goes on around the ring, and ends at the first index whose test has a
result, or after a number of attempts.
-/

namespace MediasoupWorker.Library

open List

variable {n : ℕ} [NeZero n] {ρ : Type*}

def probe (test : Fin n → Option ρ) : (attempts : ℕ) → Fin n → Option ρ × List (Fin n)
  | 0, _ => (none, [])
  | attempts + 1, i =>
    match test (i + 1) with
    | some result => (some result, [i + 1])
    | none => ((probe test attempts (i + 1)).1, (i + 1) :: (probe test attempts (i + 1)).2)

def ringFrom : ℕ → Fin n → List (Fin n)
  | 0, _ => []
  | k + 1, i => (i + 1) :: ringFrom k (i + 1)

theorem ringFrom_eq (k : ℕ) (i : Fin n) : ringFrom k i = (range k).map fun j => i + 1 + Fin.ofNat n j := by
  induction k generalizing i with
  | zero => rfl
  | succ k ih =>
    have hzero : i + 1 + Fin.ofNat n 0 = i + 1 := add_zero (i + 1)
    have hsucc (j : ℕ) : 1 + Fin.ofNat n j = Fin.ofNat n (j + 1) := by
      rw [add_comm]
      exact Fin.ext (Nat.add_mod j 1 n).symm
    rw [ringFrom, ih, range_succ_eq_map, map_cons, map_map, hzero]
    refine congrArg _ (map_congr_left fun j _ => ?_)
    rw [add_assoc (i + 1), hsucc]
    rfl

/-- **As many attempts as there are indices** meet every index once. -/
theorem ringFrom_self (i : Fin n) : ringFrom n i = (finRange n).map (i + 1 + ·) := by
  rw [ringFrom_eq, ← map_coe_finRange_eq_range, map_map]
  exact map_congr_left fun j _ => congrArg (i + 1 + ·) (Fin.ofNat_val_eq_self j)

theorem nodup_ringFrom (i : Fin n) : (ringFrom n i).Nodup := by
  rw [ringFrom_self]
  exact (nodup_finRange n).map (add_right_injective (i + 1))

theorem mem_ringFrom (i j : Fin n) : j ∈ ringFrom n i := by
  rw [ringFrom_self]
  exact mem_map.mpr ⟨j - (i + 1), mem_finRange _, add_sub_cancel _ _⟩

variable (test : Fin n → Option ρ)

/-- **A search** tries indices of the ring in order, and its result is that of an index it has tried. -/
theorem probe_spec (attempts : ℕ) (i : Fin n) : (probe test attempts i).2 <+: ringFrom attempts i ∧
      (∀ r, (probe test attempts i).1 = some r → ∃ j ∈ (probe test attempts i).2, test j = some r) ∧
      ((probe test attempts i).1 = none → ∀ j ∈ ringFrom attempts i, test j = none) := by
  induction attempts generalizing i with
  | zero => exact ⟨prefix_refl _, nofun, fun _ => nofun⟩
  | succ attempts ih =>
    obtain ⟨hpre, hsome, hnone⟩ := ih (i + 1)
    rw [probe, ringFrom]
    cases htest : test (i + 1) with
    | some r =>
      refine ⟨prefix_append [i + 1] _, ?_, nofun⟩
      intro r' hres
      obtain rfl := Option.some.inj hres
      exact ⟨i + 1, mem_singleton_self _, htest⟩
    | none =>
      refine ⟨(cons_prefix_cons).mpr ⟨rfl, hpre⟩, ?_, ?_⟩
      · intro r hres
        obtain ⟨j, hj, hjtest⟩ := hsome r hres
        exact ⟨j, mem_cons_of_mem _ hj, hjtest⟩
      · exact fun hres => forall_mem_cons.mpr ⟨htest, hnone hres⟩

end MediasoupWorker.Library
