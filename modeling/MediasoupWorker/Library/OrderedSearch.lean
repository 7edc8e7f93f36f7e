import Mathlib.Data.List.Chain

/-!
# Searching an ordered container of which only the comparator is known

Where the comparator of a balanced tree is not an order, as for counters that run around a circle, a search
ends wherever the tree leads it. All that is known of its result is what the last two comparisons said: the
element before it was less than the key, and the element at it was not.
-/

namespace MediasoupWorker.Library

open List

variable {α β : Type*}

structure Search (lt : α → α → Bool) where
  lowerBound : List α → α → ℕ
  insertPosition : List α → α → ℕ
  lowerBound_le : ∀ l k, lowerBound l k ≤ l.length
  lt_before : ∀ l k i e, lowerBound l k = i + 1 → l[i]? = some e → lt e k = true
  not_lt_at : ∀ l k e, l[lowerBound l k]? = some e → lt e k = false
  insertPosition_le : ∀ l k, insertPosition l k ≤ l.length
  not_gt_before : ∀ l k i e, insertPosition l k = i + 1 → l[i]? = some e → lt k e = false
  gt_at : ∀ l k e, l[insertPosition l k]? = some e → lt k e = true

namespace Search

variable {lt : α → α → Bool}

variable {l : List α} {e : α}

theorem findIdx_before {p : α → Bool} {i : ℕ} (h : l.findIdx p = i + 1) (he : l[i]? = some e) :
    p e = false := by
  obtain ⟨hlt, rfl⟩ := List.getElem?_eq_some_iff.mp he
  have hlt' : i < l.findIdx p := by omega
  simpa using List.not_of_lt_findIdx hlt'

theorem findIdx_at {p : α → Bool} (he : l[l.findIdx p]? = some e) : p e = true := by
  obtain ⟨hlt, rfl⟩ := List.getElem?_eq_some_iff.mp he
  exact List.findIdx_getElem

def linear (lt : α → α → Bool) : Search lt where
  lowerBound l k := l.findIdx fun e => !lt e k
  insertPosition l k := l.findIdx fun e => lt k e
  lowerBound_le _ _ := List.findIdx_le_length
  lt_before _ _ _ _ h he := by simpa using findIdx_before h he
  not_lt_at _ _ _ he := by simpa using findIdx_at he
  insertPosition_le _ _ := List.findIdx_le_length
  not_gt_before _ _ _ _ h he := findIdx_before h he
  gt_at _ _ _ he := findIdx_at he

/-! ## The operations of the containers -/

def find (search : Search lt) (l : List α) (k : α) : Option ℕ :=
  let it := search.lowerBound l k
  match l[it]? with
  | some e => if lt k e then none else some it
  | none => none

def contains (search : Search lt) (l : List α) (k : α) : Bool := (search.find l k).isSome

def emplace (search : Search lt) (key : β → α) (x : β) (l : List β) : List β :=
  let it := search.insertPosition (l.map key) (key x)
  match it with
  | 0 => x :: l
  | i + 1 =>
    match l[i]? with
    | some e => if lt (key e) (key x) then l.take it ++ x :: l.drop it else l
    | none => l

def insert (search : Search lt) (x : α) (l : List α) : List α := search.emplace id x l

/-! ## What they do -/

variable {search : Search lt}

variable {key : α → ℕ} {k : α}

section

variable (hl : l.Pairwise fun a b => key a < key b)

include hl

theorem le_of_mem_drop_lowerBound {n : ℕ} (hlt : ∀ e ∈ l, (lt e k = true ↔ key e < n))
    (he : e ∈ l.drop (search.lowerBound l k)) : n ≤ key e := by
  have hat := search.not_lt_at l k
  generalize search.lowerBound l k = i at he hat
  obtain ⟨j, hj, rfl⟩ := mem_drop_iff_getElem.mp he
  have hi : i < l.length := by omega
  have hfirst : n ≤ key l[i] := by
    by_contra h
    have := hat l[i] (getElem?_eq_getElem hi)
    rw [(hlt _ (getElem_mem hi)).mpr (not_le.mp h)] at this
    cases this
  rcases Nat.eq_zero_or_pos j with rfl | hpos
  · exact hfirst
  · have := pairwise_iff_getElem.mp hl i (i + j) hi (by omega) (by omega)
    omega

theorem exists_lt_of_mem_take_lowerBound (he : e ∈ l.take (search.lowerBound l k)) :
    ∃ last ∈ l, lt last k = true ∧ key e ≤ key last := by
  have hpre := search.lt_before l k
  have hle := search.lowerBound_le l k
  generalize search.lowerBound l k = i at he hpre hle
  cases i with
  | zero => simp at he
  | succ i =>
    have hi : i < l.length := hle
    refine ⟨l[i], getElem_mem hi, hpre i _ rfl (getElem?_eq_getElem hi), ?_⟩
    obtain ⟨j, hj, rfl⟩ := mem_take_iff_getElem.mp he
    rcases lt_or_ge j i with hji | hij
    · exact le_of_lt (pairwise_iff_getElem.mp hl j i (by omega) hi hji)
    · have hsame : j = i := by omega
      subst hsame
      exact le_rfl

theorem find_of_mem (hlt : ∀ e ∈ l, (lt e k = true ↔ key e < key k)) (hirrefl : lt k k = false) (hk : k ∈ l) :
    ∃ it, search.find l k = some it ∧ l[it]? = some k := by
  have hdrop : k ∈ l.drop (search.lowerBound l k) := by
    rw [← take_append_drop (search.lowerBound l k) l] at hk
    refine (mem_append.mp hk).resolve_left fun htake => ?_
    obtain ⟨last, hlast, hlow, hle⟩ := exists_lt_of_mem_take_lowerBound hl htake
    exact absurd ((hlt last hlast).mp hlow) (not_lt.mpr hle)
  -- the first element from the result on is not below the key, and the key is not before it
  obtain ⟨first, rest, hsplit⟩ := exists_cons_of_ne_nil (ne_nil_of_mem hdrop)
  have hfirst : first = k := by
    have hle : key k ≤ key first :=
      le_of_mem_drop_lowerBound hl hlt (by rw [hsplit]; exact mem_cons_self)
    rw [hsplit] at hdrop
    rcases mem_cons.mp hdrop with heq | hrest
    · exact heq.symm
    · have hpair := hl.sublist (drop_sublist (search.lowerBound l k) l)
      rw [hsplit] at hpair
      exact absurd ((pairwise_cons.mp hpair).1 k hrest) (not_lt.mpr hle)
  have hat : l[search.lowerBound l k]? = some k := by
    have hhead := congrArg head? hsplit
    rw [head?_drop, head?_cons, hfirst] at hhead
    exact hhead
  refine ⟨search.lowerBound l k, ?_, hat⟩
  rw [find, hat]
  simp [hirrefl]

end

theorem not_lt_of_find {it : ℕ} (h : search.find l k = some it) :
    ∃ e, l[it]? = some e ∧ lt e k = false ∧ lt k e = false := by
  have hat := search.not_lt_at l k
  unfold find at h
  dsimp only at h
  split at h
  next e he =>
    split_ifs at h with hke
    obtain rfl := Option.some.inj h
    exact ⟨e, he, hat e he, Bool.eq_false_iff.mpr hke⟩
  next => cases h

theorem exists_of_contains (h : search.contains l k = true) : ∃ e ∈ l, lt e k = false ∧ lt k e = false := by
  obtain ⟨it, hit⟩ := Option.isSome_iff_exists.mp h
  obtain ⟨e, he, hlow, hhi⟩ := not_lt_of_find hit
  exact ⟨e, mem_of_getElem? he, hlow, hhi⟩

theorem contains_eq_false (h : ∀ e ∈ l, lt e k = true) : search.contains l k = false := by
  cases hc : search.contains l k with
  | false => rfl
  | true =>
    obtain ⟨e, he, hlt, -⟩ := exists_of_contains hc
    rw [h e he] at hlt
    cases hlt

variable {x : β}

theorem emplace_eq_append {key : β → α} {l : List β}
    (h : ∀ e ∈ l, lt (key e) (key x) = true ∧ lt (key x) (key e) = false) :
    search.emplace key x l = l ++ [x] := by
  have hle := search.insertPosition_le (l.map key) (key x)
  rw [length_map] at hle
  have hend : search.insertPosition (l.map key) (key x) = l.length := by
    refine le_antisymm hle (not_lt.mp fun hlt => ?_)
    have hgt := search.gt_at (l.map key) (key x) (key l[search.insertPosition (l.map key) (key x)])
      (by rw [getElem?_map, getElem?_eq_getElem hlt]; rfl)
    rw [(h _ (getElem_mem hlt)).2] at hgt
    cases hgt
  unfold emplace
  dsimp only
  rw [hend]
  rcases eq_nil_or_concat' l with rfl | ⟨l', e, rfl⟩
  · rfl
  · have hlast := (h e (by simp)).1
    simp [hlast, take_of_length_le]

theorem emplace_cases (search : Search lt) (key : β → α) (x : β) (l : List β) :
    search.emplace key x l = l ∨ ∃ pre after, l = pre ++ after ∧
      search.emplace key x l = pre ++ x :: after ∧ (∀ e ∈ pre.getLast?, lt (key e) (key x) = true) ∧
      ∀ e ∈ after.head?, lt (key x) (key e) = true := by
  have hgt := search.gt_at (l.map key) (key x)
  unfold emplace
  dsimp only
  generalize search.insertPosition (l.map key) (key x) = it at hgt
  have hafter : ∀ e ∈ (l.drop it).head?, lt (key x) (key e) = true := by
    intro e he
    refine hgt (key e) ?_
    rw [head?_drop] at he
    rw [getElem?_map, Option.mem_def.mp he]
    rfl
  cases it with
  | zero => exact .inr ⟨[], l, rfl, rfl, by simp, by simpa using hafter⟩
  | succ i =>
    dsimp only
    split
    next e he =>
      split_ifs with hlt
      · refine .inr ⟨_, _, (take_append_drop _ _).symm, rfl, ?_, hafter⟩
        intro e' he'
        rw [getLast?_take, if_neg (Nat.succ_ne_zero i), Nat.add_sub_cancel, he] at he'
        obtain rfl : e = e' := by simpa using he'
        exact hlt
      · exact .inl rfl
    next => exact .inl rfl

theorem mem_of_mem_emplace {key : β → α} {y : β} {l : List β} (h : y ∈ search.emplace key x l) :
    y = x ∨ y ∈ l := by
  rcases search.emplace_cases key x l with hsame | ⟨pre, after, rfl, hins, -, -⟩
  · rw [hsame] at h
    exact .inr h
  · rw [hins] at h
    simp only [mem_append, mem_cons] at h ⊢
    tauto

theorem mem_emplace_of_mem {key : β → α} {y : β} {l : List β} (h : y ∈ l) : y ∈ search.emplace key x l := by
  rcases search.emplace_cases key x l with hsame | ⟨pre, after, rfl, hins, -, -⟩
  · rw [hsame]
    exact h
  · rw [hins]
    simp only [mem_append, mem_cons] at h ⊢
    tauto

theorem isChain_insert {x : α} (hl : l.IsChain fun a b => lt a b = true) :
    (search.insert x l).IsChain fun a b => lt a b = true := by
  rw [insert]
  rcases search.emplace_cases id x l with hsame | ⟨pre, after, rfl, hins, hpre, hafter⟩
  · rw [hsame]
    exact hl
  · rw [hins]
    obtain ⟨hb, ha, -⟩ := isChain_append.mp hl
    refine isChain_append.mpr ⟨hb, isChain_cons.mpr ⟨hafter, ha⟩, ?_⟩
    intro e he e' he'
    obtain rfl : x = e' := by simpa using he'
    exact hpre e he

end Search

end MediasoupWorker.Library
