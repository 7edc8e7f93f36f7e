import Mathlib.Data.Set.Card

/-!
# Tables of pointers into a fixed number of slots

A table gives some of its keys a slot. The slots are taken in their order, and no two keys have the
same one, so that with `size` keys in the table the used slots are those below `size`.
-/

namespace MediasoupWorker.Library

open Function

open Option

variable {κ : Type*} {n : ℕ}

structure SlotsUsed (table : κ → Option (Fin n)) (size : ℕ) : Prop where
  size_le : size ≤ n
  lt : ∀ k slot, table k = some slot → slot.val < size
  surj : ∀ slot : Fin n, slot.val < size → ∃ k, table k = some slot
  inj : ∀ k k' slot, table k = some slot → table k' = some slot → k = k'

namespace SlotsUsed

variable {table : κ → Option (Fin n)} {size : ℕ}

theorem empty : SlotsUsed (fun _ : κ => (none : Option (Fin n))) 0 where
  size_le := Nat.zero_le n
  lt := by simp
  surj := by simp
  inj := by simp

theorem ncard (h : SlotsUsed table size) : {k | table k ≠ none}.ncard = size := by
  have hslot : ∀ k ∈ {k | table k ≠ none}, ∃ slot, table k = some slot := by
    intro k hk
    exact ne_none_iff_exists'.mp hk
  choose slot hslot using hslot
  have hcard : {k | table k ≠ none}.ncard = (↑(Finset.range size) : Set ℕ).ncard := by
    refine Set.ncard_congr (fun k hk => (slot k hk).val) ?_ ?_ ?_
    · intro k hk
      exact Finset.mem_coe.mpr (Finset.mem_range.mpr (h.lt k (slot k hk) (hslot k hk)))
    · intro k k' hk hk' heq
      have hsame : slot k hk = slot k' hk' := Fin.ext heq
      exact h.inj k k' (slot k hk) (hslot k hk) (hsame ▸ hslot k' hk')
    · intro i hi
      have hlt : i < size := Finset.mem_range.mp (Finset.mem_coe.mp hi)
      obtain ⟨k, hk⟩ := h.surj ⟨i, hlt.trans_le h.size_le⟩ hlt
      have hmem : k ∈ {k | table k ≠ none} := by
        rw [Set.mem_ofPred_eq, hk]
        exact some_ne_none _
      have hsame : slot k hmem = ⟨i, hlt.trans_le h.size_le⟩ :=
        some.inj ((hslot k hmem).symm.trans hk)
      exact ⟨k, hmem, congrArg Fin.val hsame⟩
  rw [hcard, Set.ncard_coe_finset, Finset.card_range]

theorem exists_ne (h : SlotsUsed table size) (hsize : 2 ≤ size) (k : κ) : ∃ k', k' ≠ k ∧ table k' ≠ none := by
  obtain ⟨a, ha⟩ := h.surj ⟨0, by have := h.size_le; omega⟩ (by show 0 < size; omega)
  obtain ⟨b, hb⟩ := h.surj ⟨1, by have := h.size_le; omega⟩ (by show 1 < size; omega)
  by_cases hak : a = k
  · refine ⟨b, ?_, by rw [hb]; exact some_ne_none _⟩
    rintro rfl
    rw [hak, hb] at ha
    simp at ha
  · exact ⟨a, hak, by rw [ha]; exact some_ne_none _⟩

variable [DecidableEq κ]

theorem add (h : SlotsUsed table size) {k : κ} (hk : table k = none) {slot : Fin n}
    (hslot : slot.val = size) : SlotsUsed (update table k (some slot)) (size + 1) where
  size_le := by
    have := slot.isLt
    omega
  lt := by
    intro a s ha
    by_cases hak : a = k
    · subst hak
      rw [update_self, some.injEq] at ha
      subst ha
      omega
    · rw [update_of_ne hak] at ha
      exact (h.lt a s ha).trans (Nat.lt_succ_self size)
  surj := by
    intro s hs
    rcases lt_or_ge s.val size with hlt | hge
    · obtain ⟨a, ha⟩ := h.surj s hlt
      refine ⟨a, ?_⟩
      rw [update_of_ne, ha]
      rintro rfl
      rw [hk] at ha
      cases ha
    · refine ⟨k, ?_⟩
      rw [update_self, some.injEq]
      exact Fin.ext (by omega)
  inj := by
    intro a b s ha hb
    -- the new slot is above those of all other keys
    have hother : ∀ c, c ≠ k → update table k (some slot) c = some s → s ≠ slot := by
      intro c hc hcs hsame
      rw [update_of_ne hc] at hcs
      have := h.lt c s hcs
      rw [hsame] at this
      omega
    by_cases hak : a = k <;> by_cases hbk : b = k
    · rw [hak, hbk]
    · subst hak
      rw [update_self, some.injEq] at ha
      exact absurd ha.symm (hother b hbk hb)
    · subst hbk
      rw [update_self, some.injEq] at hb
      exact absurd hb.symm (hother a hak ha)
    · rw [update_of_ne hak] at ha
      rw [update_of_ne hbk] at hb
      exact h.inj a b s ha hb

theorem move (h : SlotsUsed table size) {old new : κ} {slot : Fin n} (hold : table old = some slot)
    (hnew : table new = none) : SlotsUsed (update (update table old none) new (some slot)) size := by
  have hne : old ≠ new := by
    rintro rfl
    rw [hold] at hnew
    cases hnew
  -- the keys of a slot, before and after
  have hother : ∀ a, a ≠ new → a ≠ old → update (update table old none) new (some slot) a = table a := by
    intro a ha ha'
    rw [update_of_ne ha, update_of_ne ha']
  have hgone : update (update table old none) new (some slot) old = none := by
    rw [update_of_ne hne, update_self]
  have hcases : ∀ a s, update (update table old none) new (some slot) a = some s →
      (a = new ∧ s = slot) ∨ (a ≠ new ∧ a ≠ old ∧ table a = some s) := by
    intro a s ha
    by_cases hnewa : a = new
    · subst hnewa
      rw [update_self, some.injEq] at ha
      exact .inl ⟨rfl, ha.symm⟩
    · by_cases holda : a = old
      · subst holda
        rw [hgone] at ha
        cases ha
      · rw [hother a hnewa holda] at ha
        exact .inr ⟨hnewa, holda, ha⟩
  refine ⟨h.size_le, fun a s ha => ?_, fun s hs => ?_, fun a b s ha hb => ?_⟩
  · rcases hcases a s ha with ⟨-, rfl⟩ | ⟨-, -, ha'⟩
    · exact h.lt old _ hold
    · exact h.lt a s ha'
  · obtain ⟨a, ha⟩ := h.surj s hs
    by_cases holda : a = old
    · refine ⟨new, ?_⟩
      rw [update_self, ← ha, holda, hold]
    · refine ⟨a, ?_⟩
      rw [hother a ?_ holda, ha]
      rintro rfl
      rw [hnew] at ha
      cases ha
  · rcases hcases a s ha with ⟨rfl, rfl⟩ | ⟨-, holda, ha'⟩
    · rcases hcases b _ hb with ⟨rfl, -⟩ | ⟨-, holdb, hb'⟩
      · rfl
      · exact absurd (h.inj b old _ hb' hold) holdb
    · rcases hcases b s hb with ⟨rfl, rfl⟩ | ⟨-, -, hb'⟩
      · exact absurd (h.inj a old _ ha' hold) holda
      · exact h.inj a b s ha' hb'

end SlotsUsed

end MediasoupWorker.Library
