import Mathlib.Data.List.Nodup
import MediasoupWorker.Library.Fallible

/-!
# One object that many components work on

An object is handed to the components of a list, one after the other, each of which may change it. Two
lists that contain a component make the same of its state as long as it cannot tell the objects that it gets
from each other.
-/

namespace MediasoupWorker.Library

open List

universe u

variable {ι : Type u} {σ : ι → Type u} {ω : Type u} {φ : Type*}

/-! ## Effects -/

def afterEffects (effect : ∀ i, σ i → ω → ω) (s : ∀ i, σ i) (is : List ι) (x : ω) : ω :=
  is.foldl (fun x i => effect i (s i) x) x

variable {effect : ∀ i, σ i → ω → ω}

theorem afterEffects_congr {s s' : ∀ i, σ i} {is : List ι} (h : ∀ i ∈ is, s i = s' i) (x : ω) :
    afterEffects effect s is x = afterEffects effect s' is x := by
  induction is generalizing x with
  | nil => rfl
  | cons i is ih =>
    show afterEffects effect s is (effect i (s i) x) = afterEffects effect s' is (effect i (s' i) x)
    rw [h i mem_cons_self]
    exact ih (fun j hj => h j (mem_cons_of_mem i hj)) _

theorem afterEffects_inv {s : ∀ i, σ i} {is : List ι} {K : ω → Prop}
    (h : ∀ i ∈ is, ∀ x, K x → K (effect i (s i) x)) {x : ω} (hx : K x) : K (afterEffects effect s is x) := by
  induction is generalizing x with
  | nil => exact hx
  | cons i is ih =>
    exact ih (fun j hj => h j (mem_cons_of_mem i hj)) (h i mem_cons_self x hx)

/-! ## The pass -/

variable [DecidableEq ι]

def passAll (pass : ∀ i, σ i → ω → Except φ (σ i × ω)) :
    List ι → (∀ i, σ i) → ω → Except φ ((∀ i, σ i) × ω)
  | [], s, x => .ok (s, x)
  | i :: is, s, x => do
    let (t, x) ← pass i (s i) x
    passAll pass is (Function.update s i t) x

def before (i : ι) (is : List ι) : List ι := is.takeWhile fun j => decide (j ≠ i)

theorem before_cons_self (i : ι) (is : List ι) : before i (i :: is) = [] := by
  rw [before, takeWhile_cons, if_neg (by simp)]

theorem before_cons_of_ne {i j : ι} (h : j ≠ i) (is : List ι) : before i (j :: is) = j :: before i is := by
  rw [before, takeWhile_cons, if_pos (decide_eq_true h)]
  rfl

theorem mem_of_mem_before {i j : ι} {is : List ι} (h : j ∈ before i is) : j ∈ is :=
  (takeWhile_sublist _).subset h

variable {pass : ∀ i, σ i → ω → Except φ (σ i × ω)} {s s' : ∀ i, σ i} {x x' : ω} {i : ι}
  {is : List ι}

theorem passAll_of_notMem (hi : i ∉ is) (h : passAll pass is s x = .ok (s', x')) : s' i = s i := by
  induction is generalizing s x with
  | nil =>
    cases h
    rfl
  | cons j is ih =>
    obtain ⟨⟨t, y⟩, -, h⟩ := bind_eq_ok.mp h
    obtain ⟨hij, hi⟩ := ne_and_not_mem_of_not_mem_cons hi
    rw [ih hi h]
    exact Function.update_of_ne hij t s

/-- **What a component of the list gets**: the object after the effects of the components before it,
and the component is in its first state then. -/
theorem pass_of_passAll {J : ω → Prop}
    (heffect : ∀ i t x t' x', J x → pass i t x = .ok (t', x') → x' = effect i t x ∧ J x') (hnd : is.Nodup)
    (hi : i ∈ is) (hx : J x) (h : passAll pass is s x = .ok (s', x')) :
    J (afterEffects effect s (before i is) x) ∧
      ∃ y, pass i (s i) (afterEffects effect s (before i is) x) = .ok (s' i, y) := by
  induction is generalizing s x with
  | nil => cases hi
  | cons j is ih =>
    obtain ⟨hj, hnd⟩ := nodup_cons.mp hnd
    obtain ⟨⟨t, y⟩, hpass, h⟩ := bind_eq_ok.mp h
    by_cases hji : j = i
    · subst hji
      rw [before_cons_self, passAll_of_notMem hj h, Function.update_self]
      exact ⟨hx, y, hpass⟩
    · obtain ⟨hy, hJ⟩ := heffect j (s j) x t y hx hpass
      have hi : i ∈ is := (mem_cons.mp hi).resolve_left fun heq => hji heq.symm
      -- the components behind `j` are still in their first states
      have hstates : ∀ k ∈ before i is, Function.update s j t k = s k := by
        intro k hk
        have hkj : k ≠ j := ne_of_mem_of_not_mem (mem_of_mem_before hk) hj
        exact Function.update_of_ne hkj t s
      have hnext := ih hnd hi hJ h
      rw [Function.update_of_ne (Ne.symm hji), afterEffects_congr hstates, hy] at hnext
      rw [before_cons_of_ne hji]
      exact hnext

end MediasoupWorker.Library
