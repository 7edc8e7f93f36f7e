import Mathlib.Data.List.Nodup
import Mathlib.Data.List.Perm.Subperm
import Mathlib.Data.List.Pairwise
import Mathlib.Data.List.Count

/-!
# Ordered sets with a comparator

The elements of an ordered set, in their order, as a list. Nothing here asks the comparator `lt` to be an
order; what the operations mean needs it to agree, on the elements at hand, with a `key` into the natural
numbers.
-/

namespace MediasoupWorker.Library

open List

variable {α : Type*}

def lowerBound (lt : α → α → Bool) (s : List α) (k : α) : ℕ :=
  s.findIdx fun e => !lt e k

def insertOrdered (lt : α → α → Bool) (x : α) : List α → List α
  | [] => [x]
  | e :: s =>
    if lt e x then e :: insertOrdered lt x s
    else if lt x e then x :: e :: s
    else e :: s

section Search

variable {lt : α → α → Bool} {s : List α} {k : α}

@[simp] theorem lowerBound_nil : lowerBound lt ([] : List α) k = 0 := rfl

theorem lowerBound_cons (e : α) : lowerBound lt (e :: s) k = if lt e k then lowerBound lt s k + 1 else 0 := by
  rw [lowerBound, findIdx_cons, lowerBound]
  cases lt e k <;> rfl

theorem lowerBound_eq_length (h : ∀ e ∈ s, lt e k = true) : lowerBound lt s k = s.length := by
  induction s with
  | nil => rfl
  | cons e s ih =>
    rw [lowerBound_cons, if_pos (h e (mem_cons_self ..)),
      ih fun e' he' => h e' (mem_cons_of_mem _ he'), length_cons]

theorem lowerBound_eq_zero (h : ∀ e ∈ s, lt e k = false) : lowerBound lt s k = 0 := by
  cases s with
  | nil => rfl
  | cons e s =>
    rw [lowerBound_cons, h e (mem_cons_self ..)]
    rfl

theorem lowerBound_eq_countP {key : α → ℕ} {n : ℕ} (hs : s.Pairwise fun a b => key a < key b)
    (hlt : ∀ e ∈ s, (lt e k = true ↔ key e < n)) : lowerBound lt s k = s.countP fun e => key e < n := by
  induction s with
  | nil => rfl
  | cons e s ih =>
    obtain ⟨he, hs'⟩ := pairwise_cons.mp hs
    have ih' := ih hs' fun a ha => hlt a (mem_cons_of_mem _ ha)
    have hhead := hlt e (mem_cons_self ..)
    rw [lowerBound_cons, countP_cons]
    by_cases h : key e < n
    · rw [if_pos (hhead.mpr h), ih', if_pos (decide_eq_true h)]
    · -- the head is at or above the key, and so is all that follows it
      rw [if_neg fun h' => h (hhead.mp h')]
      have hzero : (s.countP fun e => key e < n) = 0 := by
        rw [countP_eq_zero]
        intro a ha hlt'
        have := he a ha
        have := of_decide_eq_true hlt'
        omega
      rw [hzero, if_neg (by simpa using h)]

theorem not_of_mem_dropWhile {R : α → α → Prop} {p : α → Bool} {l : List α} (hl : l.Pairwise R)
    (hp : ∀ a ∈ l, ∀ b ∈ l, R a b → p b = true → p a = true) {x : α} (hx : x ∈ l.dropWhile p) :
    ¬ p x = true := by
  induction l with
  | nil => cases hx
  | cons a l ih =>
    obtain ⟨ha, hl'⟩ := pairwise_cons.mp hl
    by_cases hpa : p a = true
    · rw [dropWhile_cons_of_pos hpa] at hx
      exact ih hl' (fun b hb c hc => hp b (mem_cons_of_mem a hb) c (mem_cons_of_mem a hc)) hx
    · rw [dropWhile_cons_of_neg hpa] at hx
      rcases mem_cons.mp hx with rfl | hx'
      · exact hpa
      · exact fun hpx => hpa (hp a (mem_cons_self ..) x hx (ha x hx') hpx)

end Search

section Insert

variable {lt : α → α → Bool} {x : α}

variable {s : List α}

theorem insertOrdered_eq_append (h : ∀ e ∈ s, lt e x = true) : insertOrdered lt x s = s ++ [x] := by
  induction s with
  | nil => rfl
  | cons e s ih =>
    rw [insertOrdered, if_pos (h e (mem_cons_self ..)),
      ih fun e' he' => h e' (mem_cons_of_mem _ he'), cons_append]

theorem mem_of_mem_insertOrdered {y : α} (h : y ∈ insertOrdered lt x s) : y = x ∨ y ∈ s := by
  induction s with
  | nil => exact .inl (mem_singleton.mp h)
  | cons e s ih =>
    rw [insertOrdered] at h
    split_ifs at h
    · rcases mem_cons.mp h with rfl | h'
      · exact .inr (mem_cons_self ..)
      · exact (ih h').imp_right (mem_cons_of_mem _)
    · exact mem_cons.mp h
    · exact .inr h

theorem countP_insertOrdered_of_neg {q : α → Bool} (hx : ¬ q x = true) :
    (insertOrdered lt x s).countP q = s.countP q := by
  induction s with
  | nil => rw [insertOrdered, countP_cons_of_neg hx]
  | cons e s ih =>
    rw [insertOrdered]
    split_ifs
    · rw [countP_cons, countP_cons, ih]
    · rw [countP_cons_of_neg hx]
    · rfl

theorem pairwise_insertOrdered {key : α → ℕ} (hs : s.Pairwise fun a b => key a < key b)
    (hlt : ∀ e ∈ s, (lt e x = true ↔ key e < key x) ∧ (lt x e = true ↔ key x < key e)) :
    (insertOrdered lt x s).Pairwise fun a b => key a < key b := by
  induction s with
  | nil => exact pairwise_singleton _ _
  | cons e s ih =>
    obtain ⟨he, hs'⟩ := pairwise_cons.mp hs
    obtain ⟨hex, hxe⟩ := hlt e (mem_cons_self ..)
    rw [insertOrdered]
    split_ifs with h1 h2
    · refine pairwise_cons.mpr ⟨fun a ha => ?_, ih hs' fun a ha =>
        hlt a (mem_cons_of_mem _ ha)⟩
      rcases mem_of_mem_insertOrdered ha with rfl | ha'
      · exact hex.mp h1
      · exact he a ha'
    · have hlt' := hxe.mp h2
      exact pairwise_cons.mpr ⟨forall_mem_cons.mpr ⟨hlt', fun a ha => Nat.lt_trans hlt' (he a ha)⟩, hs⟩
    · exact hs

end Insert

theorem countP_key_range_le {key : α → ℕ} {s : List α} (hs : s.Pairwise fun a b => key a < key b) (a b : ℕ) :
    (s.countP fun e => a ≤ key e ∧ key e < b) ≤ b - a := by
  set t := (s.filter fun e => a ≤ key e ∧ key e < b).map key with ht
  have hnd : t.Nodup := by
    refine List.Pairwise.imp (R := fun m n => m < n) (fun h => Nat.ne_of_lt h) ?_
    exact pairwise_map.mpr (hs.sublist filter_sublist)
  have hsub : t ⊆ range' a (b - a) := by
    intro n hn
    obtain ⟨e, he, rfl⟩ := mem_map.mp hn
    have h := of_decide_eq_true (mem_filter.mp he).2
    exact mem_range'_1.mpr ⟨h.1, by omega⟩
  have hlen := (subperm_of_subset hnd hsub).length_le
  rw [ht, length_map, length_range'] at hlen
  rw [countP_eq_length_filter]
  exact hlen

theorem countP_key_split {key : α → ℕ} (s : List α) {a b : ℕ} (hab : a ≤ b) : (s.countP fun e => key e < b) =
      (s.countP fun e => key e < a) + s.countP fun e => a ≤ key e ∧ key e < b := by
  induction s with
  | nil => rfl
  | cons e s ih =>
    simp only [countP_cons, ih, decide_eq_true_eq]
    split_ifs <;> omega

end MediasoupWorker.Library
