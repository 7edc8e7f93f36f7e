import MediasoupWorker.Library.OrderedMap
import Mathlib.Data.Finset.Max

/-!
# The greatest items, through a map that is ordered by their values

Of several items with one value the map has the last one only. The items and values that are wanted (`s`,
`f`) may differ from those that are measured (`s'`, `f'`), as long as no measured value is below the wanted
one. `forall_isTop_iff` says exactly when the entries are the greatest items all the same.
-/

namespace MediasoupWorker.Library

open List

variable {α κ : Type*} [LinearOrder κ]

/-! ## The entries with the greatest keys -/

theorem mem_take_iff_of_pairwise {l : List (κ × α)} (hl : l.Pairwise fun a b => b.1 < a.1) {n : ℕ}
    {e : κ × α} : e ∈ l.take n ↔ e ∈ l ∧ l.countP (fun a => decide (e.1 < a.1)) < n := by
  induction l generalizing n with
  | nil => simp
  | cons a l ih =>
    obtain ⟨ha, hl'⟩ := pairwise_cons.mp hl
    cases n with
    | zero => simp
    | succ n =>
      rw [take_succ_cons, mem_cons, mem_cons, ih hl']
      constructor
      · rintro (rfl | ⟨hmem, hn⟩)
        · refine ⟨.inl rfl, ?_⟩
          have hzero : (e :: l).countP (fun a => decide (e.1 < a.1)) = 0 := by
            rw [countP_eq_zero]
            exact forall_mem_cons.mpr ⟨by simp, fun b hb => by simpa using (ha b hb).le⟩
          rw [hzero]
          exact Nat.succ_pos n
        · refine ⟨.inr hmem, ?_⟩
          rw [countP_cons_of_pos (by simpa using ha e hmem)]
          exact Nat.succ_lt_succ hn
      · rintro ⟨rfl | hmem, hn⟩
        · exact .inl rfl
        · rw [countP_cons_of_pos (by simpa using ha e hmem)] at hn
          exact .inr ⟨hmem, Nat.lt_of_succ_lt_succ hn⟩

namespace OrderedMap

def top (n : ℕ) (m : OrderedMap κ α) : List (κ × α) := m.entries.reverse.take n

variable (n : ℕ) (m : OrderedMap κ α)

theorem pairwise_reverse : m.entries.reverse.Pairwise fun a b => b.1 < a.1 :=
  List.pairwise_reverse.mpr m.sorted

theorem pairwise_top : (m.top n).Pairwise fun a b => b.1 < a.1 := m.pairwise_reverse.take

theorem nodup_keys : (m.entries.map Prod.fst).Nodup :=
  pairwise_map.mpr (m.sorted.imp fun h => ne_of_lt h)

theorem length_top : (m.top n).length = min n m.entries.length := by
  rw [top, length_take, length_reverse]

theorem mem_top {n : ℕ} {m : OrderedMap κ α} {k : κ} {x : α} :
    (k, x) ∈ m.top n ↔ m.find k = some x ∧ m.entries.countP (fun e => decide (k < e.1)) < n := by
  rw [top, mem_take_iff_of_pairwise m.pairwise_reverse, mem_reverse, mem_entries_iff, countP_reverse]

end OrderedMap

/-! ## Items by their values -/

section IndexBy

variable (f : α → κ)

def indexBy (l : List α) : OrderedMap κ α := l.foldl (fun m x => m.insert (f x) x) .empty

theorem indexBy_append (l : List α) (x : α) : indexBy f (l ++ [x]) = (indexBy f l).insert (f x) x := by
  rw [indexBy, foldl_append]
  rfl

variable {f}

theorem find_indexBy {l : List α} {k : κ} {x : α} (h : (indexBy f l).find k = some x) : x ∈ l ∧ f x = k := by
  induction l using reverseRecOn with
  | nil => cases h
  | append_singleton l y ih =>
    rw [indexBy_append, OrderedMap.find_insert] at h
    split at h
    · rename_i hk
      cases h
      exact ⟨by simp, hk.symm⟩
    · exact ⟨mem_append_left _ (ih h).1, (ih h).2⟩

theorem exists_find_indexBy {l : List α} {x : α} (hx : x ∈ l) : ∃ y, (indexBy f l).find (f x) = some y := by
  induction l using reverseRecOn with
  | nil => cases hx
  | append_singleton l y ih =>
    rw [indexBy_append, OrderedMap.find_insert]
    split
    · exact ⟨y, rfl⟩
    · rename_i hne
      rcases mem_append.mp hx with hx' | hx'
      · exact ih hx'
      · exact absurd (congrArg f (mem_singleton.mp hx')) hne

def above (f : α → κ) (s : Finset α) (k : κ) : Finset α := s.filter fun x => k < f x

theorem above_mono {s : Finset α} {k k' : κ} (h : k ≤ k') : above f s k' ⊆ above f s k := by
  intro x hx
  rw [above, Finset.mem_filter] at hx ⊢
  exact ⟨hx.1, lt_of_le_of_lt h hx.2⟩

variable [DecidableEq α]

theorem toFinset_keys (l : List α) : ((indexBy f l).entries.map Prod.fst).toFinset = l.toFinset.image f := by
  ext k
  simp only [mem_toFinset, mem_map, Prod.exists, exists_and_right, exists_eq_right, Finset.mem_image,
    OrderedMap.mem_entries_iff]
  constructor
  · rintro ⟨x, hx⟩
    exact ⟨x, find_indexBy hx⟩
  · rintro ⟨x, hx, rfl⟩
    exact exists_find_indexBy hx

theorem length_indexBy (l : List α) : (indexBy f l).entries.length = (l.toFinset.image f).card := by
  rw [← toFinset_keys, toFinset_card_of_nodup (OrderedMap.nodup_keys _), length_map]

theorem countP_indexBy (l : List α) (k : κ) :
    (indexBy f l).entries.countP (fun e => decide (k < e.1)) = ((above f l.toFinset k).image f).card := by
  have hkeys : (indexBy f l).entries.countP (fun e => decide (k < e.1)) =
      (((indexBy f l).entries.map Prod.fst).filter fun k' => decide (k < k')).length := by
    rw [← countP_eq_length_filter, countP_map]
    rfl
  rw [hkeys, ← toFinset_card_of_nodup ((OrderedMap.nodup_keys _).filter _), toFinset_filter, toFinset_keys,
    Finset.filter_image]
  simp only [decide_eq_true_eq, above]

end IndexBy

/-! ## The greatest items -/

structure IsTop (n : ℕ) (s : Finset α) (f : α → κ) (report : List (α × κ)) : Prop where
  nodup : (report.map Prod.fst).Nodup
  own : ∀ e ∈ report, e.1 ∈ s ∧ e.2 = f e.1
  length_eq : report.length = min n s.card
  sorted : report.Pairwise fun a b => b.2 ≤ a.2
  greatest : ∀ x ∈ s, x ∉ report.map Prod.fst → ∀ e ∈ report, f x ≤ e.2

def ranking (n : ℕ) (f : α → κ) (l : List α) : List (α × κ) :=
  ((indexBy f l).top n).map fun e => (e.2, e.1)

theorem pairwise_ranking {n : ℕ} {f : α → κ} {l : List α} : (ranking n f l).Pairwise fun a b => b.2 < a.2 :=
  pairwise_map.mpr ((indexBy f l).pairwise_top n)

section Ranking

variable [DecidableEq α] {n : ℕ} {f f' : α → κ} {s s' : Finset α} {l : List α} {x y : α} {k : κ}

/-- **The items in the ranking** are those with few values above them. -/
theorem mem_ranking : (x, k) ∈ ranking n f l ↔
    (indexBy f l).find k = some x ∧ ((above f l.toFinset k).image f).card < n := by
  rw [← countP_indexBy, ← OrderedMap.mem_top, ranking]
  simp

theorem length_ranking : (ranking n f l).length = min n (l.toFinset.image f).card := by
  rw [ranking, length_map, OrderedMap.length_top, length_indexBy]

theorem fst_mem_of_mem_ranking (h : (x, k) ∈ ranking n f l) :
    x ∈ l ∧ f x = k := find_indexBy (mem_ranking.mp h).1

theorem nodup_ranking : ((ranking n f l).map Prod.fst).Nodup := by
  refine pairwise_map.mpr (pairwise_ranking.imp_of_mem fun ha hb hlt heq => ?_)
  rw [← (fst_mem_of_mem_ranking ha).2, ← (fst_mem_of_mem_ranking hb).2, heq] at hlt
  exact lt_irrefl _ hlt

theorem eq_of_mem_ranking (hx : x ∈ (ranking n f l).map Prod.fst) (hy : y ∈ (ranking n f l).map Prod.fst)
    (hxy : f x = f y) : x = y := by
  obtain ⟨⟨x, k⟩, hk, rfl⟩ := mem_map.mp hx
  obtain ⟨⟨y, k'⟩, hk', rfl⟩ := mem_map.mp hy
  obtain rfl : k = k' := by
    rw [← (fst_mem_of_mem_ranking hk).2, ← (fst_mem_of_mem_ranking hk').2]
    exact hxy
  exact Option.some.inj ((mem_ranking.mp hk).1.symm.trans (mem_ranking.mp hk').1)

theorem length_ranking_le (h : ∀ e ∈ ranking n f l, k ≤ e.2) :
    (ranking n f l).length ≤ (above f l.toFinset k).card + 1 := by
  have hvalues : ((ranking n f l).map Prod.snd).Nodup :=
    pairwise_map.mpr (pairwise_ranking.imp fun hlt => ne_of_gt hlt)
  have hsub : ((ranking n f l).map Prod.snd).toFinset ⊆ insert k ((above f l.toFinset k).image f) := by
    intro k' hk'
    obtain ⟨⟨x, k'⟩, hx, rfl⟩ := mem_map.mp (mem_toFinset.mp hk')
    obtain ⟨hxl, rfl⟩ := fst_mem_of_mem_ranking hx
    rcases (h _ hx).eq_or_lt with rfl | hlt
    · exact Finset.mem_insert_self _ _
    · refine Finset.mem_insert_of_mem (Finset.mem_image_of_mem f ?_)
      exact Finset.mem_filter.mpr ⟨mem_toFinset.mpr hxl, hlt⟩
  rw [← length_map (f := Prod.snd), ← toFinset_card_of_nodup hvalues]
  calc ((ranking n f l).map Prod.snd).toFinset.card
      ≤ (insert k ((above f l.toFinset k).image f)).card := Finset.card_le_card hsub
    _ ≤ ((above f l.toFinset k).image f).card + 1 := Finset.card_insert_le _ _
    _ ≤ (above f l.toFinset k).card + 1 := Nat.succ_le_succ Finset.card_image_le

omit [DecidableEq α] in
theorem card_above_lt {k' : κ} (h : k < f x) (hx : x ∈ s) (hk' : f x = k') :
    ((above f s k').image f).card < ((above f s k).image f).card := by
  subst hk'
  refine Finset.card_lt_card (Finset.ssubset_iff_of_subset (Finset.image_subset_image (above_mono h.le)) |>.mpr ?_)
  refine ⟨f x, Finset.mem_image_of_mem f (Finset.mem_filter.mpr ⟨hx, h⟩), ?_⟩
  rw [Finset.mem_image]
  rintro ⟨y, hy, hxy⟩
  exact absurd hxy (ne_of_gt (Finset.mem_filter.mp hy).2)

def Untied (n : ℕ) (f : α → κ) (s : Finset α) : Prop :=
  ∀ x ∈ s, ∀ y ∈ s, x ≠ y → f x = f y → n ≤ (above f s (f x)).card + 1

instance : Decidable (Untied n f s) :=
  inferInstanceAs (Decidable (∀ x ∈ s, ∀ y ∈ s, x ≠ y → f x = f y → n ≤ _))

/-- **Few values are few items**: with fewer than `n` values, no two items have the same one. -/
theorem injOn_of_card_lt (huntied : Untied n f s) {t : Finset α} (hts : t ⊆ s)
    (hup : ∀ x ∈ t, ∀ y ∈ s, f x < f y → y ∈ t) (hcard : (t.image f).card < n) : Set.InjOn f t := by
  by_contra hnot
  -- Take the greatest value that two items have.
  have hties : (t.filter fun x => ∃ y ∈ t, x ≠ y ∧ f x = f y).Nonempty := by
    simp only [Set.InjOn, not_forall] at hnot
    obtain ⟨x, hx, y, hy, hxy, hne⟩ := hnot
    exact ⟨x, Finset.mem_filter.mpr ⟨hx, y, hy, hne, hxy⟩⟩
  obtain ⟨x, hx, hmax⟩ := Finset.exists_max_image _ f hties
  obtain ⟨hxt, y, hyt, hne, hxy⟩ := Finset.mem_filter.mp hx
  have hsub : above f s (f x) ⊆ t := fun z hz =>
    hup x hxt z (Finset.mem_filter.mp hz).1 (Finset.mem_filter.mp hz).2
  have hinj : Set.InjOn f (above f s (f x)) := by
    intro a ha b hb hab
    by_contra hne'
    have hle := hmax a (Finset.mem_filter.mpr ⟨hsub ha, b, hsub hb, hne', hab⟩)
    exact absurd (Finset.mem_filter.mp ha).2 (not_lt.mpr hle)
  have hnotMem : f x ∉ (above f s (f x)).image f := by
    rw [Finset.mem_image]
    rintro ⟨z, hz, hzx⟩
    exact absurd hzx (ne_of_gt (Finset.mem_filter.mp hz).2)
  have hle : (insert (f x) ((above f s (f x)).image f)).card ≤ (t.image f).card := by
    refine Finset.card_le_card (Finset.insert_subset (Finset.mem_image_of_mem f hxt) ?_)
    exact Finset.image_subset_image hsub
  rw [Finset.card_insert_of_notMem hnotMem, Finset.card_image_of_injOn hinj] at hle
  have := huntied x (hts hxt) y (hts hyt) hne hxy
  omega

theorem card_above_of_lt (huntied : Untied n f s) (hcard : ((above f s k).image f).card < n) :
    ((above f s k).image f).card = (above f s k).card := by
  refine Finset.card_image_of_injOn (injOn_of_card_lt huntied (Finset.filter_subset _ _) ?_ hcard)
  intro x hx y hy hxy
  exact Finset.mem_filter.mpr ⟨hy, (Finset.mem_filter.mp hx).2.trans hxy⟩

structure Overestimates (s : Finset α) (f : α → κ) (s' : Finset α) (f' : α → κ) : Prop where
  subset : s ⊆ s'
  le : ∀ x ∈ s', f x ≤ f' x
  mem : ∀ x ∈ s', f x = f' x → x ∈ s

def Right (n : ℕ) (f : α → κ) (s' : Finset α) (f' : α → κ) : Prop :=
  ∀ x ∈ s', (above f' s' (f' x)).card < n → f x = f' x

omit [DecidableEq α] in
instance : Decidable (Right n f s' f') := inferInstanceAs (Decidable (∀ x ∈ s', _ < n → f x = f' x))

section Sufficient

variable (hover : Overestimates s f l.toFinset f') (hright : Right n f l.toFinset f')
  (huntied : Untied n f' l.toFinset)

include hover hright huntied

theorem own_of_right (h : (x, k) ∈ ranking n f' l) : x ∈ s ∧ k = f x := by
  obtain ⟨hx, rfl⟩ := fst_mem_of_mem_ranking h
  have hx' := mem_toFinset.mpr hx
  have hcard := (mem_ranking.mp h).2
  have htrue := hright x hx' (by rwa [← card_above_of_lt huntied hcard])
  exact ⟨hover.mem x hx' htrue, htrue.symm⟩

theorem length_of_right : (ranking n f' l).length = min n s.card := by
  rw [length_ranking]
  by_cases hfew : (l.toFinset.image f').card < n
  · -- All items are in the ranking.
    have hinj := injOn_of_card_lt huntied (Finset.Subset.refl _) (fun _ _ y hy _ => hy) hfew
    rw [Finset.card_image_of_injOn hinj] at hfew ⊢
    have heq : s = l.toFinset := by
      refine Finset.Subset.antisymm hover.subset fun x hx => hover.mem x hx (hright x hx ?_)
      exact lt_of_le_of_lt (Finset.card_le_card (Finset.filter_subset _ _)) hfew
    rw [heq]
  · rw [min_eq_left (not_lt.mp hfew), eq_comm, min_eq_left]
    have hlen : (ranking n f' l).length = n := by rw [length_ranking, min_eq_left (not_lt.mp hfew)]
    rw [← hlen, ← length_map (f := Prod.fst), ← toFinset_card_of_nodup nodup_ranking]
    refine Finset.card_le_card fun x hx => ?_
    obtain ⟨⟨x, k⟩, he, rfl⟩ := mem_map.mp (mem_toFinset.mp hx)
    exact (own_of_right hover hright huntied he).1

omit hright in
theorem greatest_of_right (hx : x ∈ s) (hnot : x ∉ (ranking n f' l).map Prod.fst)
    (hy : (y, k) ∈ ranking n f' l) : f x ≤ k := by
  have hx' := hover.subset hx
  refine (hover.le x hx').trans ?_
  by_contra hlt
  rw [not_le] at hlt
  have hless := card_above_lt hlt hx' rfl
  have hcard := (mem_ranking.mp hy).2
  -- The value of `x` is in the ranking, with another item.
  obtain ⟨z, hz⟩ := exists_find_indexBy (f := f') (mem_toFinset.mp hx')
  have hzmem : (z, f' x) ∈ ranking n f' l := mem_ranking.mpr ⟨hz, hless.trans hcard⟩
  have hne : x ≠ z := by
    rintro rfl
    exact hnot (mem_map_of_mem hzmem)
  obtain ⟨hzl, hfz⟩ := find_indexBy hz
  have htie := huntied x hx' z (mem_toFinset.mpr hzl) hne hfz.symm
  rw [card_above_of_lt huntied (hless.trans hcard)] at hless
  omega

/-- **The ranking is right** if what comes into it is measured right and is not tied. -/
theorem isTop_of_right : IsTop n s f (ranking n f' l) where
  nodup := nodup_ranking
  own := fun _ he => own_of_right hover hright huntied he
  length_eq := length_of_right hover hright huntied
  sorted := pairwise_ranking.imp le_of_lt
  greatest := fun _ hx hnot _ hy => greatest_of_right hover huntied hx hnot hy

end Sufficient

section Necessary

variable {all : Finset α} {c : α → Bool} (htop : ∀ order : List α, order.Nodup → order.toFinset = all →
  IsTop n s f (ranking n f' (order.filter c)))

include htop

theorem right_of_isTop : Right n f (all.filter fun x => c x) f' := by
  intro x hx hcard
  obtain ⟨hxall, hxc⟩ := Finset.mem_filter.mp hx
  have hord : ((all.erase x).toList ++ [x]).toFinset = all := by
    rw [toFinset_append, Finset.toList_toFinset, toFinset_cons, toFinset_nil,
      insert_empty_eq, Finset.union_comm, ← Finset.insert_eq, Finset.insert_erase hxall]
  have hnd : ((all.erase x).toList ++ [x]).Nodup :=
    nodup_append.mpr ⟨Finset.nodup_toList _, nodup_singleton x, by
      intro a ha b hb
      rw [mem_singleton.mp hb]
      exact Finset.ne_of_mem_erase (Finset.mem_toList.mp ha)⟩
  have h := htop _ hnd hord
  have hset : (((all.erase x).toList ++ [x]).filter c).toFinset = all.filter fun x => c x := by
    rw [toFinset_filter, hord]
  refine ((h.own (x, f' x) (mem_ranking.mpr ⟨?_, ?_⟩)).2).symm
  · rw [filter_append, filter_cons_of_pos hxc, filter_nil, indexBy_append, OrderedMap.find_insert_self]
  · rw [hset]
    exact lt_of_le_of_lt Finset.card_image_le hcard

theorem untied_of_isTop (hover : Overestimates s f (all.filter fun x => c x) f') :
    Untied n f' (all.filter fun x => c x) := by
  intro x hx y hy hne hxy
  by_contra hfew
  have hright := right_of_isTop htop
  have hfx := hright x hx (by omega)
  have hfy := hright y hy (by rw [← hxy]; omega)
  have h := htop all.toList (Finset.nodup_toList _) (Finset.toList_toFinset _)
  have hset : (all.toList.filter c).toFinset = all.filter fun x => c x := by
    rw [toFinset_filter, Finset.toList_toFinset]
  generalize all.toList.filter c = l at h hset
  obtain ⟨z, hz, hznot, hfz⟩ : ∃ z ∈ s, z ∉ (ranking n f' l).map Prod.fst ∧ f z = f' x := by
    by_cases hxin : x ∈ (ranking n f' l).map Prod.fst
    · exact ⟨y, hover.mem y hy hfy, fun hyin => hne (eq_of_mem_ranking hxin hyin hxy), hfy.trans hxy.symm⟩
    · exact ⟨x, hover.mem x hx hfx, hxin, hfx⟩
  -- There is no smaller value in the ranking, and it is too short.
  have hshort : (ranking n f' l).length ≤ (above f' (all.filter fun x => c x) (f' x)).card + 1 := by
    rw [← hset]
    exact length_ranking_le fun e he => hfz ▸ h.greatest z hz hznot e he
  have hmany : (ranking n f' l).length + 1 ≤ s.card := by
    rw [← length_map (f := Prod.fst), ← toFinset_card_of_nodup h.nodup,
      ← Finset.card_insert_of_notMem (fun hmem => hznot (mem_toFinset.mp hmem))]
    refine Finset.card_le_card (Finset.insert_subset hz fun w hw => ?_)
    obtain ⟨e, he, rfl⟩ := mem_map.mp (mem_toFinset.mp hw)
    exact (h.own e he).1
  have := h.length_eq
  omega

end Necessary

/-- **When the entries of the map are the greatest items**, in whatever order the items are put into
it. -/
theorem forall_isTop_iff {all : Finset α} {c : α → Bool}
    (hover : Overestimates s f (all.filter fun x => c x) f') :
    (∀ order : List α, order.Nodup → order.toFinset = all → IsTop n s f (ranking n f' (order.filter c))) ↔
      Right n f (all.filter fun x => c x) f' ∧ Untied n f' (all.filter fun x => c x) := by
  constructor
  · exact fun htop => ⟨right_of_isTop htop, untied_of_isTop htop hover⟩
  · rintro ⟨hright, huntied⟩ order - rfl
    rw [← toFinset_filter] at hover hright huntied
    exact isTop_of_right hover hright huntied

end Ranking

end MediasoupWorker.Library
