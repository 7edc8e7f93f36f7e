import Mathlib.Data.Nat.Log
import Mathlib.Tactic.Ring

/-!
# Quotients of integers in double precision

A program that divides two integers as `double`s and rounds the quotient to an integer rounds twice:
the quotient to 53 significant bits, halves to even, and then to an integer, halves away from zero.
Here both steps are exact integer arithmetic.
-/

namespace MediasoupWorker.Library

def roundHalfEven (n d : ℕ) : ℕ :=
  let q := n / d
  let r := n % d
  if 2 * r < d then q
  else if d < 2 * r then q + 1
  else if q % 2 = 0 then q else q + 1

theorem le_roundHalfEven {n d k : ℕ} (hd : 0 < d) (h : k * d ≤ n) : k ≤ roundHalfEven n d := by
  have hk : k ≤ n / d := (Nat.le_div_iff_mul_le hd).mpr h
  unfold roundHalfEven
  dsimp only
  split_ifs <;> omega

theorem roundHalfEven_lt {n d k : ℕ} (hd : 0 < d) (h : 2 * n + d < 2 * (k * d)) : roundHalfEven n d < k := by
  have hdiv := Nat.div_add_mod n d
  have hmod := Nat.mod_lt n hd
  set q := n / d
  set r := n % d
  have hq : q < k := by
    by_contra hge
    have : k * d ≤ d * q := by
      rw [mul_comm d q]
      exact Nat.mul_le_mul_right d (not_lt.mp hge)
    omega
  -- the upper neighbour is reached only from the upper half
  have hup : d ≤ 2 * r → q + 1 < k := by
    intro hr
    by_contra hge
    have hle : k * d ≤ (q + 1) * d := Nat.mul_le_mul_right d (by omega)
    have : (q + 1) * d = d * q + d := by ring
    omega
  unfold roundHalfEven
  dsimp only
  split_ifs <;> omega

def quotientExponent (a b : ℕ) : ℕ :=
  let e := 53 + Nat.log2 b - Nat.log2 a
  if a * 2 ^ e < 2 ^ 53 * b then e else e - 1

theorem quotientExponent_spec {a b : ℕ} (ha : 0 < a) (ha' : a < 2 ^ 53) (hb : 0 < b) :
    2 ^ 52 * b ≤ a * 2 ^ quotientExponent a b ∧ a * 2 ^ quotientExponent a b < 2 ^ 53 * b := by
  have halog : a.log2 ≤ 52 := by
    have := (Nat.log2_lt (ne_of_gt ha)).mpr ha'
    omega
  have halow := Nat.log2_self_le (ne_of_gt ha)
  have hahigh : a < 2 ^ (a.log2 + 1) := Nat.lt_log2_self
  have hblow := Nat.log2_self_le (ne_of_gt hb)
  have hbhigh : b < 2 ^ (b.log2 + 1) := Nat.lt_log2_self
  obtain ⟨e, he⟩ : ∃ e, 53 + b.log2 - a.log2 = e + 1 := ⟨53 + b.log2 - a.log2 - 1, by omega⟩
  have hlow : 2 ^ 52 * b ≤ a * 2 ^ (e + 1) := by
    calc 2 ^ 52 * b ≤ 2 ^ 52 * 2 ^ (b.log2 + 1) := Nat.mul_le_mul_left _ hbhigh.le
      _ = 2 ^ a.log2 * 2 ^ (e + 1) := by
        rw [← pow_add, ← pow_add]
        congr 1
        omega
      _ ≤ a * 2 ^ (e + 1) := Nat.mul_le_mul_right _ halow
  have hhigh : a * 2 ^ e < 2 ^ 53 * b := by
    calc a * 2 ^ e < 2 ^ (a.log2 + 1) * 2 ^ e := Nat.mul_lt_mul_of_pos_right hahigh (Nat.two_pow_pos e)
      _ = 2 ^ 53 * 2 ^ b.log2 := by
        rw [← pow_add, ← pow_add]
        congr 1
        omega
      _ ≤ 2 ^ 53 * b := Nat.mul_le_mul_left _ hblow
  unfold quotientExponent
  dsimp only
  rw [he]
  split_ifs with h
  · exact ⟨hlow, h⟩
  · rw [Nat.add_sub_cancel]
    refine ⟨?_, hhigh⟩
    rw [pow_succ, ← mul_assoc] at h
    omega

def roundQuotient (a b : ℕ) : ℕ :=
  let e := quotientExponent a b
  let significand := roundHalfEven (a * 2 ^ e) b
  (2 * significand + 2 ^ e) / 2 ^ (e + 1)

/-- **The first rounding does not show.** For dividends below `2 ^ 52` the result is the integer
nearest to the quotient. -/
theorem roundQuotient_eq {a b : ℕ} (ha : 0 < a) (ha' : a < 2 ^ 52) (hb : 0 < b) :
    roundQuotient a b = (2 * a + b) / (2 * b) := by
  obtain ⟨hscale, -⟩ := quotientExponent_spec ha (by omega) hb
  unfold roundQuotient
  dsimp only
  generalize quotientExponent a b = e at hscale ⊢
  -- one unit of the quotient is more than one unit of the divisor
  have hfine : b < 2 ^ e := by
    have hlt : a * b < a * 2 ^ e := by
      calc a * b < 2 ^ 52 * b := Nat.mul_lt_mul_of_pos_right ha' hb
        _ ≤ a * 2 ^ e := hscale
    exact Nat.lt_of_mul_lt_mul_left hlt
  obtain ⟨f, rfl⟩ : ∃ f, e = f + 1 := by
    refine Nat.exists_eq_add_one_of_ne_zero fun he => ?_
    rw [he] at hfine
    omega
  have hpow : 2 ^ (f + 1) = 2 * 2 ^ f := by ring
  set m := roundHalfEven (a * 2 ^ (f + 1)) b
  set r := (2 * a + b) / (2 * b)
  have hlow : r * (2 * b) ≤ 2 * a + b := Nat.div_mul_le_self _ _
  have hhigh : 2 * a + b < (r + 1) * (2 * b) := Nat.lt_mul_of_div_lt (Nat.lt_succ_self _) (by omega)
  -- the halves around the result are multiples of `2 ^ f`, and not crossed by the first rounding
  have hge : (2 * r - 1) * 2 ^ f ≤ m := by
    refine le_roundHalfEven hb ?_
    have hr : (2 * r - 1) * b ≤ 2 * a := by
      rw [Nat.sub_mul]
      have : 2 * r * b = r * (2 * b) := by ring
      omega
    calc (2 * r - 1) * 2 ^ f * b = (2 * r - 1) * b * 2 ^ f := by ring
      _ ≤ 2 * a * 2 ^ f := Nat.mul_le_mul_right _ hr
      _ = a * 2 ^ (f + 1) := by ring
  have hlt : m < (2 * r + 1) * 2 ^ f := by
    refine roundHalfEven_lt hb ?_
    have hr : 2 * a + 1 ≤ (2 * r + 1) * b := by
      have : (r + 1) * (2 * b) = (2 * r + 1) * b + b := by ring
      omega
    calc 2 * (a * 2 ^ (f + 1)) + b < 2 * (a * 2 ^ (f + 1)) + 2 ^ (f + 1) := by omega
      _ = (2 * a + 1) * 2 ^ (f + 1) := by ring
      _ ≤ (2 * r + 1) * b * 2 ^ (f + 1) := Nat.mul_le_mul_right _ hr
      _ = 2 * ((2 * r + 1) * 2 ^ f * b) := by ring
  refine Nat.div_eq_of_lt_le ?_ ?_
  · have hsplit : r * 2 ^ (f + 1 + 1) = 2 * ((2 * r) * 2 ^ f) := by ring
    rw [Nat.sub_mul, one_mul] at hge
    omega
  · have hsplit : (r + 1) * 2 ^ (f + 1 + 1) = 2 * ((2 * r + 1) * 2 ^ f) + 2 * 2 ^ f := by ring
    omega

end MediasoupWorker.Library
