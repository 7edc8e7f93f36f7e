import MediasoupWorker.Library.OrderedMap
import Mathlib.Data.Set.Basic
import Mathlib.Tactic.Tauto

/-!
# Tables whose entries belong to owners

An owner claims keys that are free, and gives up everything it has at once. Of keys that two owners claim,
the first one has them: when it gives them up, the table is not as if there had been the second one alone.
-/

namespace MediasoupWorker.Library

variable {κ β : Type*} [LinearOrder κ]

namespace OrderedMap

theorem ext_find {m m' : OrderedMap κ β} (h : ∀ k, m.find k = m'.find k) : m = m' := by
  have hmem : ∀ e, e ∈ m.entries ↔ e ∈ m'.entries := by
    rintro ⟨k, v⟩
    rw [mem_entries_iff, mem_entries_iff, h k]
  obtain ⟨entries, sorted⟩ := m
  obtain ⟨entries', sorted'⟩ := m'
  have hnd : entries.Nodup := sorted.imp fun hlt heq => absurd (congrArg Prod.fst heq) (ne_of_lt hlt)
  have hnd' : entries'.Nodup :=
    sorted'.imp fun hlt heq => absurd (congrArg Prod.fst heq) (ne_of_lt hlt)
  have hperm : entries.Perm entries' := (List.perm_ext_iff_of_nodup hnd hnd').mpr hmem
  obtain rfl : entries = entries' :=
    hperm.eq_of_pairwise (fun a b _ _ hlt hlt' => absurd hlt (lt_asymm hlt')) sorted sorted'
  rfl

variable [DecidableEq β]

def release (m : OrderedMap κ β) (owner : β) : OrderedMap κ β :=
  ⟨m.entries.filter fun e => decide (e.2 ≠ owner), m.sorted.filter _⟩

variable {m : OrderedMap κ β} {owner : β} {owners : Set β}

theorem find_release_eq_some {v : β} {k : κ} :
    (m.release owner).find k = some v ↔ m.find k = some v ∧ v ≠ owner := by
  rw [← mem_entries_iff, ← mem_entries_iff, release, List.mem_filter, decide_eq_true_iff]

theorem release_of_forall_ne (h : ∀ k, m.find k ≠ some owner) : m.release owner = m := by
  refine ext_find fun k => Option.ext fun v => ?_
  rw [find_release_eq_some]
  constructor
  · exact And.left
  · intro hv
    refine ⟨hv, ?_⟩
    rintro rfl
    exact h k hv

theorem release_insert {k : κ} (h : m.find k = none) :
    (m.insert k owner).release owner = m.release owner := by
  refine ext_find fun k' => Option.ext fun v => ?_
  rw [find_release_eq_some, find_release_eq_some, find_insert]
  by_cases hk : k' = k
  · subst hk
    rw [if_pos rfl, h]
    constructor
    · rintro ⟨heq, hne⟩
      exact absurd (Option.some.inj heq).symm hne
    · rintro ⟨hnone, -⟩
      cases hnone
  · rw [if_neg hk]

/-! ## Claiming keys -/

section Claims

variable {m₁ m₂ m₃ : OrderedMap κ β} {owner' : β} {keys keys' : List κ}

def Claims (m m₁ : OrderedMap κ β) (owner : β) (keys : List κ) : Prop :=
  ∀ k v, m₁.find k = some v ↔ m.find k = some v ∨ (m.find k = none ∧ k ∈ keys ∧ v = owner)

omit [DecidableEq β]

theorem claims_empty (m : OrderedMap κ β) (owner : β) : m.Claims m owner [] := by
  intro k v
  simp

theorem claims_insert {k : κ} (h : m.find k = none) (owner : β) : m.Claims (m.insert k owner) owner [k] := by
  intro k' v
  rw [find_insert, List.mem_singleton]
  split_ifs with hk
  · subst hk
    simp [h, eq_comm]
  · simp [hk]

theorem claims_of_taken {k : κ} (h : m.find k ≠ none) (owner : β) : m.Claims m owner [k] := by
  intro k' v
  constructor
  · exact .inl
  · rintro (hv | ⟨hnone, hk, -⟩)
    · exact hv
    · exact absurd (List.mem_singleton.mp hk ▸ hnone) h

theorem Claims.find_eq_none (h : m.Claims m₁ owner keys) (k : κ) :
    m₁.find k = none ↔ m.find k = none ∧ k ∉ keys := by
  have hk := h k
  cases hfind : m.find k with
  | some v => simp [(hk v).mpr (.inl hfind)]
  | none =>
    rw [Option.eq_none_iff_forall_ne_some]
    constructor
    · exact fun hne => ⟨rfl, fun hmem => hne owner ((hk owner).mpr (.inr ⟨hfind, hmem, rfl⟩))⟩
    · rintro ⟨-, hmem⟩ v hv
      rcases (hk v).mp hv with hsome | ⟨-, hmem', -⟩
      · rw [hfind] at hsome
        cases hsome
      · exact hmem hmem'

theorem Claims.trans (h : m.Claims m₁ owner keys) (h' : m₁.Claims m₂ owner keys') :
    m.Claims m₂ owner (keys ++ keys') := by
  intro k v
  rw [h' k v, h k v, h.find_eq_none, List.mem_append]
  tauto

variable [DecidableEq β]

/-- **Giving up what was claimed** is as if nothing had been claimed, unless the owner had something
before, or another one would have claimed a key that it got. -/
theorem Claims.release_eq_iff (hne : owner ≠ owner') (h₁ : m.Claims m₁ owner keys)
    (h₂ : m₁.Claims m₂ owner' keys') (h₃ : m.Claims m₃ owner' keys') :
    m₂.release owner = m₃ ↔ m.release owner = m ∧ ∀ k ∈ keys, k ∈ keys' → m.find k ≠ none := by
  have hfind (k : κ) (v : β) : (m₂.release owner).find k = some v ↔
      (m.find k = some v ∨ (m.find k = none ∧ k ∉ keys ∧ k ∈ keys' ∧ v = owner')) ∧ v ≠ owner := by
    rw [find_release_eq_some, h₂ k v, h₁ k v, h₁.find_eq_none]
    grind
  constructor
  · rintro rfl
    constructor
    · refine release_of_forall_ne fun k hk => ?_
      exact (find_release_eq_some.mp ((h₃ k owner).mpr (.inl hk))).2 rfl
    · intro k hk hk' hnone
      have h := (h₃ k owner').mpr (.inr ⟨hnone, hk', rfl⟩)
      rw [hfind] at h
      grind
  · rintro ⟨hnone, hfree⟩
    refine ext_find fun k => Option.ext fun v => ?_
    have howner : m.find k ≠ some owner := by
      intro hk
      rw [← hnone] at hk
      exact (find_release_eq_some.mp hk).2 rfl
    rw [hfind, h₃ k v]
    grind

end Claims

/-! ## Who owns the entries -/

def OwnedBy (m : OrderedMap κ β) (owners : Set β) : Prop := ∀ k v, m.find k = some v → v ∈ owners

omit [DecidableEq β] in
theorem ownedBy_empty (owners : Set β) : (empty : OrderedMap κ β).OwnedBy owners := by
  intro k v h
  cases h

omit [DecidableEq β] in
theorem OwnedBy.mono {owners' : Set β} (h : m.OwnedBy owners) (hsub : owners ⊆ owners') : m.OwnedBy owners' :=
  fun k v hv => hsub (h k v hv)

omit [DecidableEq β] in
theorem OwnedBy.insert (h : m.OwnedBy owners) (k : κ) {v : β} (hv : v ∈ owners) :
    (m.insert k v).OwnedBy owners := by
  intro k' v' h'
  rw [find_insert] at h'
  split_ifs at h' with hk
  · obtain rfl := Option.some.inj h'
    exact hv
  · exact h k' v' h'

theorem OwnedBy.release (h : m.OwnedBy owners) (owner : β) :
    (m.release owner).OwnedBy (owners \ {owner}) := by
  intro k v hv
  obtain ⟨hfind, hne⟩ := find_release_eq_some.mp hv
  exact ⟨h k v hfind, hne⟩

theorem OwnedBy.of_release (h : (m.release owner).OwnedBy owners) : m.OwnedBy (Set.insert owner owners) := by
  intro k v hv
  by_cases hne : v = owner
  · exact .inl hne
  · exact .inr (h k v (find_release_eq_some.mpr ⟨hv, hne⟩))

theorem OwnedBy.release_eq_self (h : m.OwnedBy owners) (howner : owner ∉ owners) : m.release owner = m :=
  release_of_forall_ne fun k hk => howner (h k owner hk)

end OrderedMap

end MediasoupWorker.Library
