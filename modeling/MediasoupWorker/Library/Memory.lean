import Mathlib.Data.List.Basic

/-!
# Memory as a function of the address

Each has its lemmas for the addresses inside and outside of the region that it touches.
-/

namespace MediasoupWorker.Library

open List

variable {α : Type*} {m : ℕ → α} {a p dst src n i : ℕ} {l : List α}

def store (m : ℕ → α) (p : ℕ) (l : List α) : ℕ → α :=
  fun a => if p ≤ a then (l[a - p]?).getD (m a) else m a

def move (m : ℕ → α) (dst src n : ℕ) : ℕ → α :=
  fun a => if dst ≤ a ∧ a < dst + n then m (src + (a - dst)) else m a

def fetch (m : ℕ → α) (p n : ℕ) : List α := (List.range n).map fun i => m (p + i)

theorem store_of_lt (h : a < p) : store m p l a = m a := if_neg (Nat.not_le.mpr h)

theorem store_of_ge (h : p + l.length ≤ a) : store m p l a = m a := by
  unfold store
  rw [if_pos (by omega), getElem?_eq_none (by omega)]
  rfl

theorem store_add (h : i < l.length) : store m p l (p + i) = l[i] := by
  unfold store
  rw [if_pos (Nat.le_add_right _ _), Nat.add_sub_cancel_left, getElem?_eq_getElem h]
  rfl

theorem store_append (m : ℕ → α) (p : ℕ) (l l' : List α) :
    store (store m p l) (p + l.length) l' = store m p (l ++ l') := by
  funext a
  by_cases hlow : a < p
  · rw [store_of_lt (by omega), store_of_lt hlow, store_of_lt hlow]
  by_cases hmid : a < p + l.length
  · have hget : (l ++ l')[a - p]? = l[a - p]? := getElem?_append_left (by omega)
    rw [store_of_lt hmid, store, store, if_pos (by omega), if_pos (by omega), hget]
  · have hget : (l ++ l')[a - p]? = l'[a - (p + l.length)]? := by
      rw [getElem?_append_right (by omega), Nat.sub_sub]
    calc store (store m p l) (p + l.length) l' a = (l'[a - (p + l.length)]?).getD (store m p l a) :=
          if_pos (by omega)
      _ = ((l ++ l')[a - p]?).getD (m a) := by rw [hget, store_of_ge (by omega)]
      _ = store m p (l ++ l') a := (if_pos (by omega)).symm

theorem store_singleton (m : ℕ → α) (p : ℕ) (x : α) : store m p [x] p = x := by
  simp [store]

theorem move_of_not (h : a < dst ∨ dst + n ≤ a) : move m dst src n a = m a := if_neg (by omega)

theorem move_add (h : i < n) : move m dst src n (dst + i) = m (src + i) := by
  unfold move
  rw [if_pos (by omega), Nat.add_sub_cancel_left]

theorem move_last {b : ℕ} (hn : 0 < n) (ha : a + 1 = dst + n) (hb : b + 1 = src + n) :
    move m dst src n a = m b := by
  obtain rfl : a = dst + (n - 1) := by omega
  obtain rfl : b = src + (n - 1) := by omega
  exact move_add (by omega)

theorem length_fetch : (fetch m p n).length = n := by
  rw [fetch, length_map, length_range]

theorem fetch_congr {m' : ℕ → α} (h : ∀ a, p ≤ a → a < p + n → m a = m' a) : fetch m p n = fetch m' p n := by
  refine map_congr_left fun i hi => ?_
  have hlt := mem_range.mp hi
  exact h _ (Nat.le_add_right _ _) (by omega)

theorem fetch_add (m : ℕ → α) (p n k : ℕ) : fetch m p (n + k) = fetch m p n ++ fetch m (p + n) k := by
  rw [fetch, range_add, map_append, map_map]
  refine congrArg (fetch m p n ++ ·) (map_congr_left fun i _ => ?_)
  rw [Function.comp_apply, Nat.add_assoc]

section

variable (m : ℕ → α) (p : ℕ)

theorem drop_fetch {k : ℕ} (h : k ≤ n) : (fetch m p n).drop k = fetch m (p + k) (n - k) := by
  obtain ⟨j, rfl⟩ := Nat.exists_eq_add_of_le h
  rw [fetch_add, drop_left' length_fetch, Nat.add_sub_cancel_left]

theorem take_fetch {k : ℕ} (h : k ≤ n) : (fetch m p n).take k = fetch m p k := by
  obtain ⟨j, rfl⟩ := Nat.exists_eq_add_of_le h
  rw [fetch_add, take_left' length_fetch]

theorem fetch_store_self (l : List α) : fetch (store m p l) p l.length = l := by
  refine ext_getElem length_fetch fun i hi _ => ?_
  rw [length_fetch] at hi
  simp [fetch, store_add hi]

end

theorem fetch_store_of_le {q : ℕ} (h : q + n ≤ p) : fetch (store m p l) q n = fetch m q n :=
  fetch_congr fun _ _ ha => store_of_lt (by omega)

theorem fetch_store_of_ge {q : ℕ} (h : p + l.length ≤ q) : fetch (store m p l) q n = fetch m q n :=
  fetch_congr fun _ ha _ => store_of_ge (by omega)

theorem fetch_move (m : ℕ → α) (dst src n : ℕ) : fetch (move m dst src n) dst n = fetch m src n := by
  refine map_congr_left fun i hi => ?_
  exact move_add (mem_range.mp hi)

theorem fetch_store_append (m : ℕ → α) (n : ℕ) (l : List α) (k : ℕ) :
    fetch (store m n l) 0 (n + (l.length + k)) = fetch m 0 n ++ (l ++ fetch m (n + l.length) k) := by
  rw [fetch_add, fetch_store_of_le (by omega), Nat.zero_add, fetch_add, fetch_store_self,
    fetch_store_of_ge (Nat.le_refl _)]

theorem store_fetch {m' : ℕ → α} (h : i < n) : store m dst (fetch m' src n) (dst + i) = m' (src + i) := by
  rw [store_add (by rwa [length_fetch])]
  simp [fetch]

theorem store_fetch_self (m : ℕ → α) (p n : ℕ) : store m p (fetch m p n) = m := by
  funext a
  by_cases hlow : a < p
  · exact store_of_lt hlow
  by_cases hhigh : p + n ≤ a
  · exact store_of_ge (by rwa [length_fetch])
  · obtain ⟨i, rfl⟩ := Nat.exists_eq_add_of_le (Nat.not_lt.mp hlow)
    exact store_fetch (by omega)

theorem store_store {l' : List α} (h : l.length = l'.length) : store (store m p l) p l' = store m p l' := by
  funext a
  by_cases hlow : a < p
  · rw [store_of_lt hlow, store_of_lt hlow, store_of_lt hlow]
  by_cases hhigh : p + l'.length ≤ a
  · rw [store_of_ge hhigh, store_of_ge hhigh, store_of_ge (by rwa [h])]
  · obtain ⟨i, rfl⟩ := Nat.exists_eq_add_of_le (Nat.not_lt.mp hlow)
    have hi : i < l'.length := by omega
    rw [store_add hi, store_add hi]

end MediasoupWorker.Library
