import Mathlib.Data.BitVec

/-!
# Fields of a machine word

A word of `n` bits has fields of `w` bits, and the field `j` starts at the bit `w * j`. Codes are packed
into the fields from one of them downwards.
-/

namespace MediasoupWorker.Library

open BitVec

open List

variable {w n : ℕ}

def field (w j : ℕ) (word : BitVec n) : BitVec w := word.extractLsb' (w * j) w

def packFields : List (BitVec w) → (top : ℕ) → BitVec n → BitVec n
  | [], _, word => word
  | code :: codes, top, word => packFields codes (top - 1) (word ||| code.setWidth n <<< (w * top))

theorem field_or (j : ℕ) (x y : BitVec n) : field w j (x ||| y) = field w j x ||| field w j y :=
  extractLsb'_or

theorem field_shiftLeft (code : BitVec w) {j k : ℕ} (hk : w * (k + 1) ≤ n) :
    field w j (code.setWidth n <<< (w * k)) = if j = k then code else 0#w := by
  refine eq_of_getLsbD_eq fun i hi => ?_
  rw [field, getLsbD_extractLsb', getLsbD_shiftLeft, getLsbD_setWidth,
    decide_eq_true hi, Bool.true_and]
  rw [Nat.mul_succ] at hk
  rcases Nat.lt_trichotomy j k with hlt | rfl | hgt
  · have hle : w * (j + 1) ≤ w * k := Nat.mul_le_mul_left w hlt
    rw [Nat.mul_succ] at hle
    rw [if_neg hlt.ne, decide_eq_true (p := w * j + i < w * k) (by omega)]
    simp
  · have hin : w * j + i < n := by omega
    have hi' : i < n := by omega
    rw [if_pos rfl, Nat.add_sub_cancel_left]
    simp [hin, hi']
  · have hle : w * (k + 1) ≤ w * j := Nat.mul_le_mul_left w hgt
    rw [Nat.mul_succ] at hle
    rw [if_neg hgt.ne', getLsbD_of_ge code _ (by omega)]
    simp

variable {codes : List (BitVec w)}

theorem field_packFields_of_lt {top j : ℕ} (htop : w * (top + 1) ≤ n) (hlen : codes.length ≤ top + 1)
    (hj : top < j) (word : BitVec n) : field w j (packFields codes top word) = field w j word := by
  induction codes generalizing top word with
  | nil => rfl
  | cons code codes ih =>
    have hfirst : field w j (word ||| code.setWidth n <<< (w * top)) = field w j word := by
      rw [field_or, field_shiftLeft code htop, if_neg hj.ne', or_zero]
    rw [packFields]
    cases top with
    | zero =>
      obtain rfl : codes = [] := eq_nil_of_length_eq_zero (by rw [length_cons] at hlen; omega)
      exact hfirst
    | succ top =>
      rw [length_cons] at hlen
      have htop' : w * (top + 1) ≤ n := (Nat.mul_le_mul_left w (Nat.le_succ _)).trans htop
      rw [Nat.add_sub_cancel, ih htop' (by omega) (by omega), hfirst]

/-- **Each code is found in its field**, if these were empty. -/
theorem field_packFields {top : ℕ} (htop : w * (top + 1) ≤ n) (hlen : codes.length ≤ top + 1)
    {word : BitVec n} (hnil : ∀ j ≤ top, field w j word = 0#w) {i : ℕ} {code : BitVec w}
    (hi : codes[i]? = some code) : field w (top - i) (packFields codes top word) = code := by
  induction codes generalizing top word i with
  | nil => cases hi
  | cons head codes ih =>
    rw [packFields]
    cases i with
    | zero =>
      obtain rfl : head = code := Option.some.inj hi
      have hfirst : field w top (word ||| head.setWidth n <<< (w * top)) = head := by
        rw [field_or, field_shiftLeft head htop, if_pos rfl, hnil top le_rfl, zero_or]
      cases top with
      | zero =>
        obtain rfl : codes = [] :=
          List.eq_nil_of_length_eq_zero (by rw [List.length_cons] at hlen; omega)
        exact hfirst
      | succ top =>
        rw [List.length_cons] at hlen
        have htop' : w * (top + 1) ≤ n := (Nat.mul_le_mul_left w (Nat.le_succ _)).trans htop
        rw [Nat.add_sub_cancel, Nat.sub_zero,
          field_packFields_of_lt htop' (by omega) (Nat.lt_succ_self _), hfirst]
    | succ i =>
      obtain ⟨hlt, -⟩ := List.getElem?_eq_some_iff.mp hi
      rw [List.length_cons] at hlen hlt
      obtain ⟨top, rfl⟩ : ∃ below, top = below + 1 := ⟨top - 1, by omega⟩
      have htop' : w * (top + 1) ≤ n := (Nat.mul_le_mul_left w (Nat.le_succ _)).trans htop
      rw [Nat.add_sub_cancel, Nat.add_sub_add_right]
      refine ih htop' (by omega) (fun j hj => ?_) hi
      rw [field_or, field_shiftLeft head htop, if_neg (by omega), hnil j (by omega), zero_or]

end MediasoupWorker.Library
