import Mathlib.Data.BitVec
import Mathlib.Tactic.Ring

/-!
# Positions on a circle of machine words

A counter of `w` bits runs around a circle of `2 ^ w` values. Comparing two values of it only
makes sense from a reference point: `cdist p v` is how many steps lead from `p` forward to `v`.
-/

namespace MediasoupWorker.Library

open BitVec

open List

variable {w : ℕ}

def cdist (p v : BitVec w) : ℕ := (v - p).toNat

@[simp] theorem cdist_self (p : BitVec w) : cdist p p = 0 := by
  simp [cdist]

theorem cdist_lt (p v : BitVec w) : cdist p v < 2 ^ w := (v - p).isLt

theorem cdist_injective (p : BitVec w) : Function.Injective (cdist p) := by
  intro a b h
  have h' : a - p = b - p := BitVec.eq_of_toNat_eq h
  have ha : a = a - p + p := (BitVec.sub_add_cancel a p).symm
  rw [ha, h', BitVec.sub_add_cancel]

variable {p a b v : BitVec w} {n : ℕ}

theorem cdist_inj : cdist p a = cdist p b ↔ a = b :=
  (cdist_injective p).eq_iff

theorem toNat_sub_of_cdist_le (h : cdist p a ≤ cdist p b) : (b - a).toNat = cdist p b - cdist p a := by
  have hsplit : b - a = (b - p) - (a - p) := by ring
  have ha := cdist_lt p a
  have hb := cdist_lt p b
  unfold cdist at h ha hb ⊢
  have e : 2 ^ w - (a - p).toNat + (b - p).toNat = ((b - p).toNat - (a - p).toNat) + 2 ^ w := by omega
  rw [hsplit, toNat_sub, e, Nat.add_mod_right, Nat.mod_eq_of_lt (by omega)]

theorem toNat_sub_of_cdist_lt (h : cdist p b < cdist p a) :
    (b - a).toNat = 2 ^ w - (cdist p a - cdist p b) := by
  have hsplit : b - a = (b - p) - (a - p) := by ring
  have ha := cdist_lt p a
  unfold cdist at h ha ⊢
  rw [hsplit, toNat_sub, Nat.mod_eq_of_lt (by omega)]
  omega

theorem cdist_add (h : cdist p v + n < 2 ^ w) : cdist p (v + BitVec.ofNat w n) = cdist p v + n := by
  have hsplit : v + BitVec.ofNat w n - p = (v - p) + BitVec.ofNat w n := by ring
  unfold cdist at h ⊢
  rw [hsplit, BitVec.toNat_add, BitVec.toNat_ofNat, Nat.add_mod_mod, Nat.mod_eq_of_lt h]

theorem cdist_add_left (h : n ≤ cdist p v) : cdist (p + BitVec.ofNat w n) v = cdist p v - n := by
  have hn : n < 2 ^ w := lt_of_le_of_lt h (cdist_lt p v)
  have hpos : cdist p (p + BitVec.ofNat w n) = n := by
    rw [cdist_add (by simpa using hn), cdist_self, zero_add]
  have hle : cdist p (p + BitVec.ofNat w n) ≤ cdist p v := hpos.le.trans h
  calc cdist (p + BitVec.ofNat w n) v = cdist p v - cdist p (p + BitVec.ofNat w n) :=
        toNat_sub_of_cdist_le hle
    _ = cdist p v - n := by rw [hpos]

theorem toNat_ofNat_sub {m : ℕ} (hle : n ≤ m) (hlt : m < n + 2 ^ w) :
    (BitVec.ofNat w m - BitVec.ofNat w n).toNat = m - n := by
  have hsub : BitVec.ofNat w m - BitVec.ofNat w n = BitVec.ofNat w (m - n) := by
    conv_lhs => rw [← Nat.sub_add_cancel hle, BitVec.ofNat_add, BitVec.add_sub_cancel]
  rw [hsub, BitVec.toNat_ofNat, Nat.mod_eq_of_lt (by omega)]

theorem add_one_add_ofNat (p : BitVec w) (n : ℕ) : p + 1 + BitVec.ofNat w n = p + BitVec.ofNat w (n + 1) := by
  rw [add_assoc, Nat.add_comm, BitVec.ofNat_add]
  rfl

theorem add_cdist (p v : BitVec w) : p + BitVec.ofNat w (cdist p v) = v := by
  unfold cdist
  rw [BitVec.ofNat_toNat, BitVec.setWidth_eq, add_comm, sub_add_cancel]

theorem cdist_trans (h : cdist p a + cdist a b < 2 ^ w) : cdist p b = cdist p a + cdist a b := by
  have hb := cdist_add (p := p) (v := a) (n := cdist a b) h
  rwa [add_cdist] at hb

theorem cdist_sub_self (h : n < 2 ^ w) : cdist (v - BitVec.ofNat w n) v = n := by
  have hsplit : v - (v - BitVec.ofNat w n) = BitVec.ofNat w n := by ring
  unfold cdist
  rw [hsplit, BitVec.toNat_ofNat, Nat.mod_eq_of_lt h]

/-! ## Increasing lists -/

structure IncreasingFrom (p : BitVec w) (bound : ℕ) (l : List (BitVec w)) : Prop where
  increasing : l.Pairwise fun a b => cdist p a < cdist p b
  below : ∀ v ∈ l, cdist p v < bound

namespace IncreasingFrom

variable {p : BitVec w} {bound : ℕ} {l : List (BitVec w)}

theorem nil : IncreasingFrom p bound [] := ⟨List.Pairwise.nil, by simp⟩

section

variable (h : IncreasingFrom p bound l)

include h

theorem sublist {l' : List (BitVec w)} (hsub : l'.Sublist l) : IncreasingFrom p bound l' :=
  ⟨h.increasing.sublist hsub, fun v hv => h.below v (hsub.subset hv)⟩

theorem mono {bound' : ℕ} (hle : bound ≤ bound') : IncreasingFrom p bound' l :=
  ⟨h.increasing, fun v hv => (h.below v hv).trans_le hle⟩

theorem append_singleton (hv : bound ≤ cdist p v) : IncreasingFrom p (cdist p v + 1) (l ++ [v]) := by
  constructor
  · exact pairwise_append.mpr ⟨h.increasing, pairwise_singleton _ _, fun a ha =>
      forall_mem_singleton.mpr ((h.below a ha).trans_le hv)⟩
  · refine forall_mem_append.mpr ⟨fun a ha => ?_, forall_mem_singleton.mpr (Nat.lt_succ_self _)⟩
    exact ((h.below a ha).trans_le hv).trans (Nat.lt_succ_self _)

theorem advance (hn : ∀ v ∈ l, n ≤ cdist p v) : IncreasingFrom (p + BitVec.ofNat w n) (bound - n) l := by
  constructor
  · refine h.increasing.imp_of_mem fun {a b} ha hb hab => ?_
    rw [cdist_add_left (hn a ha), cdist_add_left (hn b hb)]
    have := hn a ha
    omega
  · intro v hv
    rw [cdist_add_left (hn v hv)]
    have := hn v hv
    have := h.below v hv
    omega

end

theorem from_head (h : IncreasingFrom p bound (a :: l)) :
    IncreasingFrom a (bound - cdist p a) l ∧ ∀ v ∈ l, 0 < cdist a v := by
  obtain ⟨ha, -⟩ := pairwise_cons.mp h.increasing
  have hle : ∀ v ∈ l, cdist p a ≤ cdist p v := fun v hv => (ha v hv).le
  have hl := (h.sublist (sublist_cons_self ..)).advance hle
  rw [add_cdist] at hl
  refine ⟨hl, fun v hv => ?_⟩
  have hdist : cdist a v = cdist p v - cdist p a := toNat_sub_of_cdist_le (hle v hv)
  have := ha v hv
  omega

end IncreasingFrom

end MediasoupWorker.Library
