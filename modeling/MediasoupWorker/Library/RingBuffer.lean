import Mathlib.Algebra.BigOperators.Group.List.Basic
import Mathlib.Data.List.Rotate
import Mathlib.Data.Nat.ModEq

/-!
# Queues in a ring

A queue of bounded length that is kept in an array: its first value is in the slot `first`, the others follow
it around the array, and the slots behind the last one are empty. Read from the slot `first` on, the array is
the queue and then empty slots, which is what `Ring` says.
-/

namespace MediasoupWorker.Library

open List

variable {α : Type*}

theorem rotate_set {slots : List α} (first : ℕ) {i : ℕ} (hi : i < slots.length) (x : α) :
    (slots.set ((first + i) % slots.length) x).rotate first = (slots.rotate first).set i x := by
  have hpos : 0 < slots.length := by omega
  refine ext_getElem? fun k => ?_
  rcases lt_or_ge k slots.length with hk | hk
  · rw [getElem?_rotate (by simpa using hk), length_set, getElem?_set, getElem?_set,
      length_rotate, getElem?_rotate hk]
    have hmod : (first + i) % slots.length = (k + first) % slots.length ↔ i = k := by
      rw [add_comm k first]
      constructor
      · intro h
        have h' : i % slots.length = k % slots.length := Nat.ModEq.add_left_cancel' first h
        rwa [Nat.mod_eq_of_lt hi, Nat.mod_eq_of_lt hk] at h'
      · rintro rfl
        rfl
    simp only [hmod, hi, if_true, Nat.mod_lt _ hpos]
  · rw [getElem?_eq_none (by simpa using hk), getElem?_eq_none (by simpa using hk)]

structure Ring (empty : α) (slots : List α) (first : ℕ) (queue : List α) : Prop where
  first_lt : first < slots.length
  length_le : queue.length ≤ slots.length
  rotate_eq : slots.rotate first = queue ++ List.replicate (slots.length - queue.length) empty

namespace Ring

variable {empty : α} {slots queue : List α} {first : ℕ}

theorem of_replicate {n : ℕ} (hn : 0 < n) : Ring empty (replicate n empty) 0 [] :=
  ⟨by simpa using hn, by simp, by simp⟩

theorem getElem?_eq (h : Ring empty slots first queue) {i : ℕ} (hi : i < queue.length) :
    slots[(first + i) % slots.length]? = queue[i]? := by
  have hlt : i < slots.length := lt_of_lt_of_le hi h.length_le
  rw [add_comm, ← getElem?_rotate hlt, h.rotate_eq, getElem?_append_left hi]

variable {x : α}

theorem getElem?_first (h : Ring empty slots first (x :: queue)) : slots[first]? = some x := by
  have hget := h.getElem?_eq (i := 0) (by simp)
  rwa [add_zero, Nat.mod_eq_of_lt h.first_lt] at hget

theorem getElem?_last (h : Ring empty slots first (queue ++ [x])) :
    slots[(first + queue.length) % slots.length]? = some x := by
  rw [h.getElem?_eq (by simp)]
  simp

theorem pop (h : Ring empty slots first (x :: queue)) :
    Ring empty (slots.set first empty) ((first + 1) % slots.length) queue := by
  have hpos : 0 < slots.length := lt_of_le_of_lt (Nat.zero_le _) h.first_lt
  have hlen : queue.length + 1 ≤ slots.length := h.length_le
  have hset := rotate_set first hpos empty
  rw [add_zero, Nat.mod_eq_of_lt h.first_lt] at hset
  refine ⟨by simpa using Nat.mod_lt _ hpos, by simpa using (by omega : queue.length ≤ slots.length), ?_⟩
  have hn : slots.length - queue.length = slots.length - (queue.length + 1) + 1 := by omega
  calc (slots.set first empty).rotate ((first + 1) % slots.length)
      = (slots.set first empty).rotate (first + 1) := by
        have hmod := rotate_mod (slots.set first empty) (first + 1)
        rwa [length_set] at hmod
    _ = ((slots.rotate first).set 0 empty).rotate 1 := by rw [← rotate_rotate, hset]
    _ = queue ++ replicate (slots.length - (queue.length + 1)) empty ++ [empty] := by
        rw [h.rotate_eq]
        simp
    _ = queue ++ replicate ((slots.set first empty).length - queue.length) empty := by
        rw [length_set, hn, replicate_succ', append_assoc]

theorem push (h : Ring empty slots first queue) (hroom : queue.length < slots.length) (x : α) :
    Ring empty (slots.set ((first + queue.length) % slots.length) x) first (queue ++ [x]) := by
  refine ⟨by simpa using h.first_lt, by simpa using Nat.succ_le_of_lt hroom, ?_⟩
  have hn : slots.length - queue.length = slots.length - (queue.length + 1) + 1 := by omega
  rw [rotate_set first hroom, h.rotate_eq, set_append_right _ _ le_rfl, Nat.sub_self, hn,
    replicate_succ, set_cons_zero]
  simp

theorem setLast (h : Ring empty slots first (queue ++ [x])) (y : α) :
    Ring empty (slots.set ((first + queue.length) % slots.length) y) first (queue ++ [y]) := by
  have hlen : queue.length < slots.length := Nat.lt_of_succ_le (by simpa using h.length_le)
  refine ⟨by simpa using h.first_lt, by simpa using Nat.succ_le_of_lt hlen, ?_⟩
  rw [rotate_set first hlen, h.rotate_eq, append_assoc, set_append_right _ _ le_rfl, Nat.sub_self]
  simp

theorem succ_last_eq_first_iff (h : Ring empty slots first queue) (hne : queue ≠ []) :
    (first + queue.length) % slots.length = first ↔ queue.length = slots.length := by
  have hpos : 0 < queue.length := length_pos_iff.mpr hne
  have hfirst := h.first_lt
  have hlen := h.length_le
  constructor
  · intro hmod
    by_contra hroom
    rcases lt_or_ge (first + queue.length) slots.length with hlt | hge
    · rw [Nat.mod_eq_of_lt hlt] at hmod
      omega
    · rw [Nat.mod_eq_sub_mod hge, Nat.mod_eq_of_lt (by omega)] at hmod
      omega
  · intro hfull
    rw [hfull, Nat.add_mod_right, Nat.mod_eq_of_lt hfirst]

theorem sum_eq {f : α → ℕ} (h : Ring empty slots first queue) (hnil : f empty = 0) :
    (slots.map f).sum = (queue.map f).sum := by
  have hperm := ((rotate_perm slots first).map f).sum_eq
  rw [← hperm, h.rotate_eq]
  simp [hnil]

end Ring
end MediasoupWorker.Library
