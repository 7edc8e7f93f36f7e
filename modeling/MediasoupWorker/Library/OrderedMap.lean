import Mathlib.Data.List.Pairwise
import Mathlib.Order.Lattice

/-!
# Ordered maps

The ordered map of a container library: its entries in the order of their keys, which are
different. The order is a field of the structure, so that only such a list can be built.
-/

namespace MediasoupWorker.Library

open List

variable {κ β : Type*} [LinearOrder κ]

def insertEntry (k : κ) (v : β) : List (κ × β) → List (κ × β)
  | [] => [(k, v)]
  | (k', v') :: m =>
    if k < k' then (k, v) :: (k', v') :: m
    else if k = k' then (k, v) :: m
    else (k', v') :: insertEntry k v m

variable {m : List (κ × β)}

theorem fst_of_mem_insertEntry {k : κ} {v : β} {e : κ × β} (h : e ∈ insertEntry k v m) :
    e = (k, v) ∨ e ∈ m := by
  induction m with
  | nil => exact .inl (mem_singleton.mp h)
  | cons e' m ih =>
    rw [insertEntry] at h
    split_ifs at h
    · exact mem_cons.mp h
    · rcases mem_cons.mp h with rfl | h'
      · exact .inl rfl
      · exact .inr (mem_cons_of_mem _ h')
    · rcases mem_cons.mp h with rfl | h'
      · exact .inr (mem_cons_self ..)
      · exact (ih h').imp_right (mem_cons_of_mem _)

theorem pairwise_insertEntry {k : κ} {v : β} (hm : m.Pairwise fun a b => a.1 < b.1) :
    (insertEntry k v m).Pairwise fun a b => a.1 < b.1 := by
  induction m with
  | nil => exact pairwise_singleton _ _
  | cons e m ih =>
    obtain ⟨he, hm'⟩ := pairwise_cons.mp hm
    rw [insertEntry]
    split_ifs with hlt heq
    · exact pairwise_cons.mpr ⟨forall_mem_cons.mpr ⟨hlt, fun a ha => lt_trans hlt (he a ha)⟩, hm⟩
    · subst heq
      exact pairwise_cons.mpr ⟨he, hm'⟩
    · refine pairwise_cons.mpr ⟨fun a ha => ?_, ih hm'⟩
      rcases fst_of_mem_insertEntry ha with rfl | ha'
      · exact lt_of_le_of_ne (not_lt.mp hlt) (Ne.symm heq)
      · exact he a ha'

theorem lookup_cons_eq_ite (k : κ) (e : κ × β) (m : List (κ × β)) :
    (e :: m).lookup k = if k = e.1 then some e.2 else m.lookup k := by
  rw [lookup_cons]
  by_cases h : k = e.1
  · rw [if_pos h, beq_iff_eq.mpr h]
  · rw [if_neg h, beq_eq_false_iff_ne.mpr h]

theorem lookup_insertEntry (k k' : κ) (v : β) (m : List (κ × β)) :
    (insertEntry k v m).lookup k' = if k' = k then some v else m.lookup k' := by
  induction m with
  | nil => rw [insertEntry, lookup_cons_eq_ite]
  | cons e m ih =>
    rw [insertEntry]
    by_cases hlt : k < e.1
    · rw [if_pos hlt, lookup_cons_eq_ite]
    · rw [if_neg hlt]
      by_cases heq : k = e.1
      · rw [if_pos heq, lookup_cons_eq_ite, lookup_cons_eq_ite, ← heq]
        split_ifs <;> rfl
      · rw [if_neg heq, lookup_cons_eq_ite, lookup_cons_eq_ite, ih]
        by_cases hk : k' = k
        · rw [hk, if_neg heq, if_pos rfl, if_pos rfl]
        · rw [if_neg hk, if_neg hk]

structure OrderedMap (κ β : Type*) [LinearOrder κ] where
  entries : List (κ × β)
  sorted : entries.Pairwise fun a b => a.1 < b.1

namespace OrderedMap

def empty : OrderedMap κ β := ⟨[], List.Pairwise.nil⟩

def find (m : OrderedMap κ β) (k : κ) : Option β := m.entries.lookup k

def insert (m : OrderedMap κ β) (k : κ) (v : β) : OrderedMap κ β :=
  ⟨insertEntry k v m.entries, pairwise_insertEntry m.sorted⟩

theorem find_insert (m : OrderedMap κ β) (k k' : κ) (v : β) :
    (m.insert k v).find k' = if k' = k then some v else m.find k' :=
  lookup_insertEntry k k' v m.entries

theorem find_insert_self (m : OrderedMap κ β) (k : κ) (v : β) : (m.insert k v).find k = some v := by
  rw [find_insert, if_pos rfl]

variable {k : κ}

theorem find_insert_of_ne (m : OrderedMap κ β) {k' : κ} (v : β) (h : k' ≠ k) :
    (m.insert k v).find k' = m.find k' := by
  rw [find_insert, if_neg h]

theorem find_insert_ne_none (m : OrderedMap κ β) (k : κ) (v : β) {k' : κ} (h : m.find k' ≠ none) :
    (m.insert k v).find k' ≠ none := by
  rw [find_insert]
  split
  · simp
  · exact h

variable {v : β}

theorem mem_entries_iff (m : OrderedMap κ β) : (k, v) ∈ m.entries ↔ m.find k = some v := by
  obtain ⟨entries, sorted⟩ := m
  show (k, v) ∈ entries ↔ entries.lookup k = some v
  induction entries with
  | nil => simp
  | cons e entries ih =>
    obtain ⟨he, hs⟩ := pairwise_cons.mp sorted
    rw [mem_cons, lookup_cons_eq_ite]
    by_cases hk : k = e.1
    · rw [if_pos hk]
      have hnot : (k, v) ∉ entries := by
        intro hmem
        have hlt : e.1 < k := he (k, v) hmem
        exact absurd hk (ne_of_gt hlt)
      constructor
      · rintro (heq | hmem)
        · rw [← heq]
        · exact absurd hmem hnot
      · intro hv
        exact .inl (Prod.ext hk (Option.some.inj hv).symm)
    · rw [if_neg hk, ← ih hs]
      constructor
      · rintro (heq | hmem)
        · exact absurd (congrArg Prod.fst heq) hk
        · exact hmem
      · exact .inr

theorem entries_eq_nil_iff (m : OrderedMap κ β) : m.entries = [] ↔ ∀ k, m.find k = none := by
  constructor
  · intro h k
    rw [find, h]
    rfl
  · intro h
    rw [eq_nil_iff_forall_not_mem]
    rintro ⟨k, v⟩ hmem
    rw [mem_entries_iff, h k] at hmem
    cases hmem

def size (m : OrderedMap κ β) : ℕ := m.entries.length

def erase (m : OrderedMap κ β) (k : κ) : OrderedMap κ β :=
  ⟨m.entries.filter fun e => decide (e.1 ≠ k), m.sorted.filter _⟩

def mapValues {γ : Type*} (f : κ → β → γ) (m : OrderedMap κ β) : OrderedMap κ γ :=
  ⟨m.entries.map fun e => (e.1, f e.1 e.2), List.pairwise_map.mpr m.sorted⟩

variable {m : OrderedMap κ β}

theorem find_eq_some_of_erase {k' : κ} (h : (m.erase k).find k' = some v) : k' ≠ k ∧ m.find k' = some v := by
  rw [← mem_entries_iff, erase, mem_filter] at h
  exact ⟨by simpa using h.2, m.mem_entries_iff.mp h.1⟩

theorem find_erase_self (m : OrderedMap κ β) (k : κ) : (m.erase k).find k = none := by
  cases h : (m.erase k).find k with
  | none => rfl
  | some v => exact absurd rfl (find_eq_some_of_erase h).1

theorem find_erase (m : OrderedMap κ β) (k k' : κ) :
    (m.erase k).find k' = if k' = k then none else m.find k' := by
  by_cases hk : k' = k
  · rw [if_pos hk, hk, find_erase_self]
  · rw [if_neg hk]
    refine Option.ext fun v => ⟨fun h => (find_eq_some_of_erase h).2, fun h => ?_⟩
    rw [← mem_entries_iff, erase, mem_filter]
    exact ⟨m.mem_entries_iff.mpr h, by simpa using hk⟩

theorem mem_iff_of_erase {P : β → Prop} {l : List κ} (hk : k ∉ l)
    (h : ∀ k', k' ∈ k :: l ↔ ∃ v, m.find k' = some v ∧ P v) (k' : κ) :
    k' ∈ l ↔ ∃ v, (m.erase k).find k' = some v ∧ P v := by
  rw [find_erase]
  by_cases heq : k' = k
  · subst heq
    simp [hk]
  · rw [if_neg heq, ← h k', mem_cons, or_iff_right heq]

theorem size_erase (h : m.find k = some v) : (m.erase k).size + 1 = m.size := by
  have hmem := m.mem_entries_iff.mpr h
  obtain ⟨entries, sorted⟩ := m
  show (entries.filter _).length + 1 = entries.length
  change (k, v) ∈ entries at hmem
  clear h
  induction entries with
  | nil => exact absurd hmem not_mem_nil
  | cons e entries ih =>
    obtain ⟨he, hs⟩ := pairwise_cons.mp sorted
    rcases mem_cons.mp hmem with rfl | hmem'
    · -- the keys after it are larger
      have hrest : (entries.filter fun e => decide (e.1 ≠ k)) = entries :=
        filter_eq_self.mpr fun e' he' => decide_eq_true (ne_of_gt (he e' he'))
      rw [filter_cons_of_neg (by simp), hrest, length_cons]
    · have hne : e.1 ≠ k := ne_of_lt (he (k, v) hmem')
      rw [filter_cons_of_pos (by simpa using hne), length_cons, length_cons, ih hs hmem']

theorem find_mapValues {γ : Type*} (f : κ → β → γ) (m : OrderedMap κ β) (k : κ) :
    (m.mapValues f).find k = (m.find k).map (f k) := by
  obtain ⟨es, sorted⟩ := m
  show (es.map fun e => (e.1, f e.1 e.2)).lookup k = (es.lookup k).map (f k)
  clear sorted
  induction es with
  | nil => rfl
  | cons e es ih =>
    rw [map_cons, lookup_cons_eq_ite, lookup_cons_eq_ite, ih]
    by_cases hk : k = e.1
    · rw [if_pos hk, if_pos hk, hk]
      rfl
    · rw [if_neg hk, if_neg hk]

theorem size_mapValues {γ : Type*} (f : κ → β → γ) (m : OrderedMap κ β) : (m.mapValues f).size = m.size :=
  length_map _

end OrderedMap

end MediasoupWorker.Library
