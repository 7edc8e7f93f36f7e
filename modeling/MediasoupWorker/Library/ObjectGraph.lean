import Mathlib.Data.Finset.Basic
import Mathlib.Data.List.MinMax
import MediasoupWorker.Library.OwnedTable

/-!
# Objects and the tables that point to them

Objects are on a heap, a table of addresses, and other tables point to them. `Names` is a table from the
names of some of the objects, `SameKeys` a table about all of them, `Links` a table of targets with one of
the sources of each target, and in `Owns` each owner has a table of names for its objects. One owner may be
left out: while it is closed, its table still has the objects that have gone.
-/

namespace MediasoupWorker.Library

open OrderedMap

variable {κ α β τ : Type*} [LinearOrder κ]

/-! ## Addresses -/

def unusedAddress (heap : OrderedMap ℕ α) : ℕ := (heap.entries.map Prod.fst).foldr max 0 + 1

theorem find_unusedAddress (heap : OrderedMap ℕ α) : heap.find (unusedAddress heap) = none := by
  cases h : heap.find (unusedAddress heap) with
  | none => rfl
  | some o =>
    have hmem := List.mem_map_of_mem (f := Prod.fst) (heap.mem_entries_iff.mpr h)
    exact absurd (List.le_max_of_le' 0 hmem le_rfl) (Nat.not_succ_le_self _)

def newAddress (heap : OrderedMap ℕ α) (wanted : ℕ) : ℕ :=
  if heap.find wanted = none then wanted else unusedAddress heap

theorem find_newAddress (heap : OrderedMap ℕ α) (wanted : ℕ) : heap.find (newAddress heap wanted) = none := by
  unfold newAddress
  split
  · next h => exact h
  · exact find_unusedAddress heap

theorem erase_insert_newAddress (heap : OrderedMap ℕ α) (wanted : ℕ) (o : α) :
    (heap.insert (newAddress heap wanted) o).erase (newAddress heap wanted) = heap := by
  refine ext_find fun k => ?_
  rw [find_erase]
  split
  · next hk => rw [hk, find_newAddress]
  · next hk => rw [find_insert_of_ne _ _ hk]

/-! ## Names -/

def Names (name : α → κ) (P : α → Prop) (table : OrderedMap κ ℕ) (heap : OrderedMap ℕ α) : Prop :=
  ∀ k p, table.find k = some p ↔ ∃ o, heap.find p = some o ∧ P o ∧ name o = k

namespace Names

variable {name : α → κ} {P : α → Prop} {table : OrderedMap κ ℕ} {heap : OrderedMap ℕ α} {p : ℕ} {o o' : α}

theorem of_empty (h : ∀ p o, heap.find p = some o → ¬ P o) : Names name P .empty heap := by
  intro k p
  constructor
  · intro hfind
    cases hfind
  · rintro ⟨o, ho, hP, -⟩
    exact absurd hP (h p o ho)

section

variable (h : Names name P table heap)

include h

theorem find (ho : heap.find p = some o) (hP : P o) : table.find (name o) = some p :=
  (h _ _).mpr ⟨o, ho, hP, rfl⟩

theorem insert (hp : heap.find p = none) (hP : P o) (hname : table.find (name o) = none) :
    Names name P (table.insert (name o) p) (heap.insert p o) := by
  intro k q
  rw [find_insert]
  constructor
  · intro hfind
    split at hfind
    · next hk =>
      cases hfind
      exact ⟨o, find_insert_self _ _ _, hP, hk.symm⟩
    · obtain ⟨o', ho', hP', hk'⟩ := (h k q).mp hfind
      refine ⟨o', ?_, hP', hk'⟩
      rw [find_insert_of_ne _ _ (by rintro rfl; rw [hp] at ho'; cases ho'), ho']
  · rintro ⟨o', ho', hP', rfl⟩
    rw [find_insert] at ho'
    split at ho'
    · next hq =>
      cases ho'
      rw [if_pos rfl, hq]
    · rw [if_neg, h.find ho' hP']
      intro heq
      rw [← heq, h.find ho' hP'] at hname
      cases hname

theorem insert_of_not (hp : heap.find p = none) (hP : ¬ P o) : Names name P table (heap.insert p o) := by
  intro k q
  rw [h k q, find_insert]
  constructor
  · rintro ⟨o', ho', hrest⟩
    refine ⟨o', ?_, hrest⟩
    rw [if_neg (by rintro rfl; rw [hp] at ho'; cases ho'), ho']
  · rintro ⟨o', ho', hP', hk⟩
    split at ho'
    · cases ho'
      exact absurd hP' hP
    · exact ⟨o', ho', hP', hk⟩

section

variable (hp : heap.find p = some o)

include hp

theorem erase (hP : P o) : Names name P (table.erase (name o)) (heap.erase p) := by
  intro k q
  rw [find_erase, find_erase]
  constructor
  · intro hfind
    split at hfind
    · cases hfind
    · next hk =>
      obtain ⟨o', ho', hP', hk'⟩ := (h k q).mp hfind
      refine ⟨o', ?_, hP', hk'⟩
      rw [if_neg, ho']
      rintro rfl
      rw [hp] at ho'
      cases ho'
      exact hk hk'.symm
  · rintro ⟨o', ho', hP', rfl⟩
    split at ho'
    · cases ho'
    · next hq =>
      rw [if_neg, h.find ho' hP']
      intro heq
      have hsame := h.find ho' hP'
      rw [heq, h.find hp hP] at hsame
      exact hq (Option.some.inj hsame).symm

theorem erase_of_not (hP : ¬ P o) : Names name P table (heap.erase p) := by
  intro k q
  rw [h k q, find_erase]
  constructor
  · rintro ⟨o', ho', hP', hk⟩
    refine ⟨o', ?_, hP', hk⟩
    rw [if_neg, ho']
    rintro rfl
    rw [hp] at ho'
    cases ho'
    exact hP hP'
  · rintro ⟨o', ho', hrest⟩
    split at ho'
    · cases ho'
    · exact ⟨o', ho', hrest⟩

theorem update (hname : name o' = name o) (hP : P o' ↔ P o) : Names name P table (heap.insert p o') := by
  intro k q
  rw [h k q, find_insert]
  by_cases hq : q = p
  · subst hq
    rw [if_pos rfl, hp]
    constructor
    · rintro ⟨o'', heq, hP'', hk⟩
      cases heq
      exact ⟨o', rfl, hP.mpr hP'', hname.trans hk⟩
    · rintro ⟨o'', heq, hP'', hk⟩
      cases heq
      exact ⟨o, rfl, hP.mp hP'', hname.symm.trans hk⟩
  · rw [if_neg hq]

end

theorem mem_values_iff : p ∈ table.entries.map Prod.snd ↔ ∃ o, heap.find p = some o ∧ P o := by
  simp only [List.mem_map, Prod.exists, exists_eq_right, mem_entries_iff]
  constructor
  · rintro ⟨k, hk⟩
    obtain ⟨o, ho, hP, -⟩ := (h k p).mp hk
    exact ⟨o, ho, hP⟩
  · rintro ⟨o, ho, hP⟩
    exact ⟨name o, h.find ho hP⟩

theorem nodup_values : (table.entries.map Prod.snd).Nodup := by
  have hes : table.entries.Nodup :=
    table.sorted.imp fun hlt heq => absurd (congrArg Prod.fst heq) (ne_of_lt hlt)
  refine hes.map_on ?_
  rintro ⟨k, p⟩ hp ⟨k', p'⟩ hp' heq
  obtain rfl : p = p' := heq
  obtain ⟨o, ho, -, rfl⟩ := (h k p).mp (table.mem_entries_iff.mp hp)
  obtain ⟨o', ho', -, rfl⟩ := (h k' p).mp (table.mem_entries_iff.mp hp')
  rw [ho] at ho'
  cases ho'
  rfl

end

end Names

/-! ## Tables with the same keys -/

def SameKeys (m : OrderedMap κ α) (m' : OrderedMap κ β) : Prop :=
  ∀ k, m.find k = none ↔ m'.find k = none

namespace SameKeys

variable {m : OrderedMap κ α} {m' : OrderedMap κ β} {k : κ}

variable (h : SameKeys m m')

include h

theorem insert (k : κ) (a : α) (b : β) : SameKeys (m.insert k a) (m'.insert k b) := by
  intro k'
  rw [find_insert, find_insert]
  split
  · simp
  · exact h k'

theorem erase (k : κ) : SameKeys (m.erase k) (m'.erase k) := by
  intro k'
  rw [find_erase, find_erase]
  split
  · simp
  · exact h k'

theorem update_left (hk : m'.find k ≠ none) (a : α) : SameKeys (m.insert k a) m' := by
  intro k'
  rw [find_insert]
  split
  · next heq =>
    subst heq
    simp [hk]
  · exact h k'

theorem exists_left {b : β} (hk : m'.find k = some b) : ∃ a, m.find k = some a :=
  Option.ne_none_iff_exists'.mp (mt (h k).mp (by simp [hk]))

theorem exists_right {a : α} (hk : m.find k = some a) : ∃ b, m'.find k = some b :=
  Option.ne_none_iff_exists'.mp (mt (h k).mpr (by simp [hk]))

theorem mapValues {γ : Type*} (f : κ → α → γ) : SameKeys (m.mapValues f) m' := by
  intro k'
  rw [find_mapValues, ← h k']
  simp

end SameKeys

/-! ## Links -/

def Links (target : OrderedMap ℕ ℕ) (sources : OrderedMap ℕ (Finset ℕ)) : Prop :=
  ∀ c p, target.find c = some p ↔ ∃ cs, sources.find p = some cs ∧ c ∈ cs

namespace Links

variable {tgt tgt' : OrderedMap ℕ ℕ} {sources : OrderedMap ℕ (Finset ℕ)} {c p : ℕ} {cs : Finset ℕ}

theorem empty : Links .empty .empty := by
  intro c p
  constructor
  · intro h
    cases h
  · rintro ⟨cs, h, -⟩
    cases h

section

variable (h : Links tgt sources)

include h

theorem update (hp : ∀ c, tgt'.find c = some p ↔ c ∈ cs)
    (hother : ∀ c q, q ≠ p → (tgt'.find c = some q ↔ tgt.find c = some q)) :
    Links tgt' (sources.insert p cs) := by
  intro c q
  rw [find_insert]
  by_cases hq : q = p
  · subst hq
    simp [hp]
  · rw [if_neg hq, hother c q hq, h c q]

theorem addTarget (hp : sources.find p = none) : Links tgt (sources.insert p ∅) :=
  h.update (fun c => by simp [h c p, hp]) fun _ _ _ => Iff.rfl

theorem link (hc : tgt.find c = none) (hp : sources.find p = some cs) :
    Links (tgt.insert c p) (sources.insert p (insert c cs)) := by
  refine h.update (fun d => ?_) fun d q hq => ?_
  all_goals
    rw [find_insert]
    by_cases hd : d = c
  · simp [hd]
  · simp [hd, h d p, hp]
  · simp [hd, hc, hq.symm]
  · rw [if_neg hd]

theorem unlink (hc : tgt.find c = some p) (hp : sources.find p = some cs) :
    Links (tgt.erase c) (sources.insert p (cs.erase c)) := by
  refine h.update (fun d => ?_) fun d q hq => ?_
  all_goals
    rw [find_erase]
    by_cases hd : d = c
  · simp [hd]
  · simp [hd, h d p, hp]
  · simp [hd, hc, hq.symm]
  · rw [if_neg hd]

theorem removeTarget (hp : sources.find p = some cs)
    (hgone : ∀ c, tgt'.find c = if c ∈ cs then none else tgt.find c) : Links tgt' (sources.erase p) := by
  intro c q
  rw [hgone, find_erase]
  by_cases hq : q = p
  · subst hq
    rw [if_pos rfl]
    split
    · simp
    · next hc =>
      rw [h c q, hp]
      simp [hc]
  · rw [if_neg hq, ← h c q]
    split
    · next hc =>
      have hcp : tgt.find c = some p := (h c p).mpr ⟨cs, hp, hc⟩
      rw [hcp]
      constructor
      · intro heq
        cases heq
      · intro heq
        exact absurd (Option.some.inj heq).symm hq
    · rfl

end

end Links

/-! ## Owners -/

section Owners

variable (owner : α → ℕ) (name : α → κ) (tableOf : τ → OrderedMap κ ℕ)

def Owns (leftOut : Option ℕ) (owners : OrderedMap ℕ τ) (heap : OrderedMap ℕ α) : Prop :=
  ∀ t o, leftOut ≠ some t → owners.find t = some o → Names name (owner · = t) (tableOf o) heap

def Housed (owners : OrderedMap ℕ τ) (heap : OrderedMap ℕ α) : Prop :=
  ∀ p q, heap.find p = some q → owners.find (owner q) ≠ none

variable {owner name tableOf} {leftOut : Option ℕ} {owners : OrderedMap ℕ τ} {heap : OrderedMap ℕ α}
  {t p : ℕ} {o o' : τ} {q : α}

namespace Owns

section

variable (h : Owns owner name tableOf leftOut owners heap)

include h

theorem addOwner (hhoused : Housed owner owners heap) (ht : owners.find t = none) (ho : tableOf o = .empty) :
    Owns owner name tableOf leftOut (owners.insert t o) heap := by
  intro t' o' hout hfind
  rw [find_insert] at hfind
  split at hfind
  · next heq =>
    cases hfind
    rw [ho]
    refine Names.of_empty fun p q hq hown => hhoused p q hq ?_
    rw [hown, heq, ht]
  · exact h t' o' hout hfind

theorem update (hnames : leftOut ≠ some t → Names name (owner · = t) (tableOf o) heap) :
    Owns owner name tableOf leftOut (owners.insert t o) heap := by
  intro t' o' hout hfind
  rw [find_insert] at hfind
  split at hfind
  · next heq =>
    cases hfind
    subst heq
    exact hnames hout
  · exact h t' o' hout hfind

theorem update_of_eq (ht : owners.find t = some o) (ho : tableOf o' = tableOf o) :
    Owns owner name tableOf leftOut (owners.insert t o') heap :=
  h.update fun hout => ho ▸ h t o hout ht

theorem add (ht : owners.find (owner q) = some o) (hp : heap.find p = none)
    (hname : (tableOf o).find (name q) = none) (ho : tableOf o' = (tableOf o).insert (name q) p) :
    Owns owner name tableOf leftOut (owners.insert (owner q) o') (heap.insert p q) := by
  intro t' o'' hout hfind
  rw [find_insert] at hfind
  split at hfind
  · next heq =>
    cases hfind
    subst heq
    rw [ho]
    exact (h _ o hout ht).insert hp rfl hname
  · next hne => exact (h t' o'' hout hfind).insert_of_not hp (Ne.symm hne)

theorem remove (ht : owners.find (owner q) = some o) (hp : heap.find p = some q)
    (ho : tableOf o' = (tableOf o).erase (name q)) :
    Owns owner name tableOf leftOut (owners.insert (owner q) o') (heap.erase p) := by
  intro t' o'' hout hfind
  rw [find_insert] at hfind
  split at hfind
  · next heq =>
    cases hfind
    subst heq
    rw [ho]
    exact (h _ o hout ht).erase hp rfl
  · next hne => exact (h t' o'' hout hfind).erase_of_not hp (Ne.symm hne)

end

theorem leaveOut (h : Owns owner name tableOf none owners heap) (t : ℕ) :
    Owns owner name tableOf (some t) owners heap :=
  fun t' o' _ hfind => h t' o' (by simp) hfind

theorem erase (h : Owns owner name tableOf (some (owner q)) owners heap) (hp : heap.find p = some q) :
    Owns owner name tableOf (some (owner q)) owners (heap.erase p) := by
  intro t' o' hout hfind
  exact (h t' o' hout hfind).erase_of_not hp fun heq => hout (congrArg some heq)

theorem restore (h : Owns owner name tableOf (some t) owners heap)
    (ht : ∀ o, owners.find t = some o → Names name (owner · = t) (tableOf o) heap) :
    Owns owner name tableOf none owners heap := by
  intro t' o' _ hfind
  by_cases heq : t' = t
  · subst heq
    exact ht o' hfind
  · exact h t' o' (fun hsome => heq (Option.some.inj hsome).symm) hfind

theorem removeOwner (h : Owns owner name tableOf leftOut owners heap) (t : ℕ) :
    Owns owner name tableOf leftOut (owners.erase t) heap :=
  fun t' o' hout hfind => h t' o' hout (find_eq_some_of_erase hfind).2

end Owns

namespace Housed

variable (h : Housed owner owners heap)

include h

theorem insert_owner (t : ℕ) (o : τ) : Housed owner (owners.insert t o) heap :=
  fun p q hq => owners.find_insert_ne_none t o (h p q hq)

theorem insert (hq : owners.find (owner q) ≠ none) (p : ℕ) : Housed owner owners (heap.insert p q) := by
  intro p' q' hfind
  rw [find_insert] at hfind
  split at hfind
  · cases hfind
    exact hq
  · exact h p' q' hfind

theorem erase (p : ℕ) : Housed owner owners (heap.erase p) :=
  fun p' q' hfind => h p' q' (find_eq_some_of_erase hfind).2

theorem removeOwner (ht : ∀ p q, heap.find p = some q → owner q ≠ t) :
    Housed owner (owners.erase t) heap := by
  intro p q hq
  rw [find_erase, if_neg (ht p q hq)]
  exact h p q hq

end Housed

end Owners

end MediasoupWorker.Library
