import Mathlib.Tactic.Linarith

/-!
# Numbers as mantissa and exponent

A number is written as a mantissa with a limit and an exponent of two, by halving it until the mantissa is
within the limit, and read by shifting the mantissa in a word, where shifting back shows whether bits were
lost.
-/

namespace MediasoupWorker.Library

/-! ## Writing -/

def normalize (limit mantissa exponent : ℕ) : ℕ × ℕ :=
  if limit < mantissa then normalize limit (mantissa / 2) (exponent + 1) else (mantissa, exponent)
termination_by mantissa
decreasing_by omega

/-- **The loop** divides by a power of two that is not greater than it has to be. -/
theorem normalize_eq (limit mantissa exponent : ℕ) :
    ∃ k, normalize limit mantissa exponent = (mantissa / 2 ^ k, exponent + k) ∧
      mantissa / 2 ^ k ≤ limit ∧ (k = 0 ∨ (limit + 1) * 2 ^ k ≤ 2 * mantissa) := by
  fun_induction normalize limit mantissa exponent with
  | case1 mantissa exponent hlt ih =>
    obtain ⟨k, heq, hle, hleast⟩ := ih
    have hdiv : mantissa / 2 ^ (k + 1) = mantissa / 2 / 2 ^ k := by
      rw [Nat.pow_succ', Nat.div_div_eq_div_mul]
    refine ⟨k + 1, ?_, hdiv ▸ hle, .inr ?_⟩
    · rw [heq, hdiv, add_right_comm]
      rfl
    · rcases hleast with rfl | hleast
      · omega
      · rw [pow_succ, ← mul_assoc]
        omega
  | case2 mantissa exponent hle =>
    refine ⟨0, ?_, ?_, .inl rfl⟩
    · rw [pow_zero, Nat.div_one, add_zero]
    · rwa [pow_zero, Nat.div_one, ← Nat.not_lt]

variable {limit b m e : ℕ}

theorem normalize_le (h : normalize limit b 0 = (m, e)) : m ≤ limit := by
  obtain ⟨k, heq, hle, -⟩ := normalize_eq limit b 0
  obtain ⟨rfl, rfl⟩ := Prod.mk.inj (heq.symm.trans h)
  exact hle

/-- **The mantissa is rounded down.** -/
theorem normalize_bracket (h : normalize limit b 0 = (m, e)) : m * 2 ^ e ≤ b ∧ b - m * 2 ^ e < 2 ^ e := by
  obtain ⟨k, heq, -⟩ := normalize_eq limit b 0
  obtain ⟨rfl, rfl⟩ := Prod.mk.inj (heq.symm.trans h)
  rw [zero_add, mul_comm]
  refine ⟨Nat.mul_div_le b _, ?_⟩
  rw [← Nat.mod_eq_sub]
  exact Nat.mod_lt _ (Nat.two_pow_pos k)

theorem normalize_of_le (h : b ≤ limit) : normalize limit b 0 = (b, 0) := by
  rw [normalize, if_neg (not_lt.mpr h)]

theorem normalize_exponent_le {w n : ℕ} (hlimit : 2 ^ n ≤ limit + 1) (hb : b < 2 ^ w)
    (h : normalize limit b 0 = (m, e)) : e ≤ w - n := by
  obtain ⟨k, heq, -, hleast⟩ := normalize_eq limit b 0
  obtain ⟨rfl, rfl⟩ := Prod.mk.inj (heq.symm.trans h)
  rw [zero_add]
  rcases hleast with rfl | hleast
  · exact Nat.zero_le _
  · have hpow : 2 ^ (n + k) < 2 ^ (w + 1) :=
      calc 2 ^ (n + k) = 2 ^ n * 2 ^ k := pow_add ..
        _ ≤ (limit + 1) * 2 ^ k := Nat.mul_le_mul_right _ hlimit
        _ ≤ 2 * b := hleast
        _ < 2 ^ (w + 1) := by rw [pow_succ]; omega
    have := (Nat.pow_lt_pow_iff_right (by decide)).mp hpow
    omega

/-! ## Reading -/

def scaled (w mantissa exponent : ℕ) : BitVec w := BitVec.ofNat w mantissa <<< exponent

def losesBits (w mantissa exponent : ℕ) : Bool :=
  scaled w mantissa exponent >>> exponent != BitVec.ofNat w mantissa

variable {w : ℕ}

theorem toNat_scaled (h : m * 2 ^ e < 2 ^ w) : (scaled w m e).toNat = m * 2 ^ e := by
  have hm : m < 2 ^ w := (Nat.le_mul_of_pos_right m (Nat.two_pow_pos e)).trans_lt h
  rw [scaled, BitVec.toNat_shiftLeft, BitVec.toNat_ofNat, Nat.mod_eq_of_lt hm, Nat.shiftLeft_eq,
    Nat.mod_eq_of_lt h]

/-- **Shifting back shows an overflow** of the product. -/
theorem losesBits_iff (hm : m < 2 ^ w) : losesBits w m e = true ↔ 2 ^ w ≤ m * 2 ^ e := by
  rw [losesBits, bne_iff_ne, ← not_iff_not, not_not, Nat.not_le, ← BitVec.toNat_inj,
    BitVec.toNat_ushiftRight, BitVec.toNat_ofNat, Nat.mod_eq_of_lt hm, Nat.shiftRight_eq_div_pow]
  constructor
  · intro h
    calc m * 2 ^ e = (scaled w m e).toNat / 2 ^ e * 2 ^ e := by rw [h]
      _ ≤ (scaled w m e).toNat := Nat.div_mul_le_self ..
      _ < 2 ^ w := (scaled w m e).isLt
  · intro h
    rw [toNat_scaled h, Nat.mul_div_cancel _ (Nat.two_pow_pos e)]

structure RoundsDown (limit e : ℕ) (b b' : BitVec w) : Prop where
  le : b'.toNat ≤ b.toNat
  lt_unit : b.toNat - b'.toNat < 2 ^ e
  eq_of_le : b.toNat ≤ limit → b' = b

/-- **Reading what was written** gives the number rounded down to the unit of its exponent. -/
theorem scaled_normalize {b : BitVec w} (h : normalize limit b.toNat 0 = (m, e)) :
    losesBits w m e = false ∧ RoundsDown limit e b (scaled w m e) := by
  obtain ⟨hle, hunit⟩ := normalize_bracket h
  have hfits : m * 2 ^ e < 2 ^ w := hle.trans_lt b.isLt
  have hm : m < 2 ^ w := (Nat.le_mul_of_pos_right m (Nat.two_pow_pos e)).trans_lt hfits
  have hv := toNat_scaled hfits
  refine ⟨?_, hv.symm ▸ hle, hv.symm ▸ hunit, fun hsmall => ?_⟩
  · rw [← Bool.not_eq_true, losesBits_iff hm, Nat.not_le]
    exact hfits
  · rw [normalize_of_le hsmall] at h
    obtain ⟨rfl, rfl⟩ := Prod.mk.inj h
    rw [← BitVec.toNat_inj, hv, pow_zero, mul_one]

end MediasoupWorker.Library
