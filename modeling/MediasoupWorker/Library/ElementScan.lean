import MediasoupWorker.Library.Memory
import MediasoupWorker.Library.OrderedMap

/-!
# Scanning a region of memory for elements

A region of memory holds elements, each with a head that gives its id and the length of its value, and
padding between them. A scan steps over the padding value by value and over an element as a whole, and ends
where the region does, at an element that would leave it, or at a head that says so.
-/

namespace MediasoupWorker.Library

open List

variable {α : Type*}

structure ElementFormat (α : Type*) where
  head : ℕ
  head_pos : 0 < head
  isPadding : α → Bool
  read : List α → Option (ℕ × ℕ)

namespace ElementFormat

variable (F : ElementFormat α)

def readAt (m : ℕ → α) (ptr : ℕ) : Option (ℕ × ℕ) := F.read (fetch m ptr F.head)

def scan (m : ℕ → α) (stop ptr : ℕ) : List (ℕ × ℕ) :=
  if ptr + F.head ≤ stop then
    if F.isPadding (m ptr) then scan m stop (ptr + 1)
    else
      match F.readAt m ptr with
      | none => []
      | some (id, length) =>
        if stop < ptr + F.head + length then []
        else (id, ptr) :: scan m stop (ptr + F.head + length)
  else []
termination_by stop - ptr
decreasing_by
  · have := F.head_pos
    omega
  · have := F.head_pos
    omega

variable {F} {m m' : ℕ → α} {stop ptr : ℕ}

/-! ## Steps -/

theorem scan_of_lt (h : stop < ptr + F.head) : F.scan m stop ptr = [] := by
  rw [scan, if_neg (not_le.mpr h)]

theorem scan_padding (hroom : ptr + F.head ≤ stop) (h : F.isPadding (m ptr) = true) :
    F.scan m stop ptr = F.scan m stop (ptr + 1) := by
  rw [scan, if_pos hroom, if_pos h]

variable {id : ℕ}

theorem scan_element {len : ℕ} (h : F.isPadding (m ptr) = false) (hread : F.readAt m ptr = some (id, len))
    (hroom : ptr + F.head + len ≤ stop) :
    F.scan m stop ptr = (id, ptr) :: F.scan m stop (ptr + F.head + len) := by
  rw [scan, if_pos ((Nat.le_add_right _ _).trans hroom), h, hread]
  exact if_neg (not_lt.mpr hroom)

theorem scan_of_end (h : F.isPadding (m ptr) = false)
    (hend : ∀ id len, F.readAt m ptr = some (id, len) → stop < ptr + F.head + len) :
    F.scan m stop ptr = [] := by
  by_cases hroom : ptr + F.head ≤ stop
  · rw [scan, if_pos hroom, if_neg (Bool.eq_false_iff.mp h)]
    cases hread : F.readAt m ptr with
    | none => rfl
    | some e => exact if_pos (hend e.1 e.2 hread)
  · exact scan_of_lt (not_le.mp hroom)

theorem scan_skip {q : ℕ} (hle : ptr ≤ q) (h : ∀ a, ptr ≤ a → a < q → F.isPadding (m a) = true) :
    F.scan m stop ptr = F.scan m stop q := by
  induction hn : q - ptr generalizing ptr with
  | zero => rw [le_antisymm hle (Nat.le_of_sub_eq_zero hn)]
  | succ n ih =>
    by_cases hroom : ptr + F.head ≤ stop
    · rw [scan_padding hroom (h ptr le_rfl (by omega))]
      exact ih (by omega) (fun a ha => h a (Nat.le_of_succ_le ha)) (by omega)
    · rw [scan_of_lt (not_le.mp hroom), scan_of_lt (by omega)]

/-! ## Where the elements are -/

theorem readAt_congr (h : ∀ a, ptr ≤ a → a < ptr + F.head → m a = m' a) :
    F.readAt m ptr = F.readAt m' ptr := by
  unfold readAt fetch
  refine congrArg F.read (map_congr_left fun i hi => ?_)
  have hlt := mem_range.mp hi
  exact h _ (Nat.le_add_right _ _) (by omega)

/-- **Every element lies inside of the region.** -/
theorem mem_scan {e : ℕ × ℕ} (he : e ∈ F.scan m stop ptr) : ptr ≤ e.2 ∧ F.isPadding (m e.2) = false ∧
      ∃ len, F.readAt m e.2 = some (e.1, len) ∧ e.2 + F.head + len ≤ stop := by
  fun_induction F.scan m stop ptr with
  | case1 ptr hroom hpad ih =>
    obtain ⟨hle, hrest⟩ := ih he
    exact ⟨Nat.le_of_succ_le hle, hrest⟩
  | case2 | case3 | case5 => cases he
  | case4 ptr hroom hpad id len hread hlong ih =>
    rcases mem_cons.mp he with rfl | he
    · exact ⟨Nat.le_refl _, Bool.eq_false_iff.mpr hpad, len, hread, not_lt.mp hlong⟩
    · obtain ⟨hle, hrest⟩ := ih he
      exact ⟨by omega, hrest⟩

/-- **A scan depends on the region alone.** -/
theorem scan_congr (h : ∀ a, ptr ≤ a → a < stop → m' a = m a) : F.scan m' stop ptr = F.scan m stop ptr := by
  have hpos := F.head_pos
  have hread (ptr : ℕ) (h : ∀ a, ptr ≤ a → a < stop → m' a = m a) (hroom : ptr + F.head ≤ stop) :
      F.readAt m' ptr = F.readAt m ptr := readAt_congr fun a ha hlt => h a ha (by omega)
  fun_induction F.scan m stop ptr with
  | case1 ptr hroom hpad ih =>
    rw [← h ptr le_rfl (by omega)] at hpad
    rw [scan_padding hroom hpad]
    exact ih fun a ha => h a (by omega)
  | case2 ptr hroom hpad hnone =>
    rw [← h ptr le_rfl (by omega)] at hpad
    refine scan_of_end (Bool.eq_false_iff.mpr hpad) fun id len hsome => ?_
    rw [hread ptr h hroom, hnone] at hsome
    cases hsome
  | case3 ptr hroom hpad id len hsome hlong =>
    rw [← h ptr le_rfl (by omega)] at hpad
    refine scan_of_end (Bool.eq_false_iff.mpr hpad) fun id' len' hsome' => ?_
    rw [hread ptr h hroom, hsome] at hsome'
    cases hsome'
    exact hlong
  | case4 ptr hroom hpad id len hsome hlong ih =>
    rw [← h ptr le_rfl (by omega)] at hpad
    rw [scan_element (Bool.eq_false_iff.mpr hpad) ((hread ptr h hroom).trans hsome)
      (not_lt.mp hlong), ih fun a ha => h a (by omega)]
  | case5 ptr hroom => exact scan_of_lt (not_le.mp hroom)

theorem mem_scan_of_lt {a e : ℕ × ℕ} {len : ℕ} (ha : a ∈ F.scan m stop ptr) (he : e ∈ F.scan m stop ptr)
    (hlt : a.2 < e.2) (hread : F.readAt m a.2 = some (a.1, len)) :
    e ∈ F.scan m stop (a.2 + F.head + len) := by
  fun_induction F.scan m stop ptr with
  | case1 ptr hroom hpad ih => exact ih ha he
  | case2 | case3 | case5 => cases he
  | case4 ptr hroom hpad id len' hread' hlong ih =>
    rcases mem_cons.mp ha with rfl | ha
    · rw [hread'] at hread
      cases hread
      rcases mem_cons.mp he with rfl | he
      · exact absurd hlt (lt_irrefl _)
      · exact he
    · rcases mem_cons.mp he with rfl | he
      · have hle := (mem_scan ha).1
        exact absurd hlt (by omega)
      · exact ih ha he

/-! ## Changing an element -/

structure HasRoom (F : ElementFormat α) (m : ℕ → α) (stop ptr id room : ℕ) : Prop where
  start : F.isPadding (m ptr) = false
  element : ∃ length, F.readAt m ptr = some (id, length) ∧ length ≤ room ∧
    ∀ a, ptr + F.head + length ≤ a → a < ptr + F.head + room → F.isPadding (m a) = true
  room : ptr + F.head + room ≤ stop

variable {room : ℕ}

theorem HasRoom.scan_eq (h : F.HasRoom m stop ptr id room) :
    F.scan m stop ptr = (id, ptr) :: F.scan m stop (ptr + F.head + room) := by
  obtain ⟨len, hread, hle, hpad⟩ := h.element
  have hroom := h.room
  rw [scan_element h.start hread (by omega), scan_skip (by omega) hpad]

theorem HasRoom.congr (h : F.HasRoom m stop ptr id room)
    (hsame : ∀ a, ptr ≤ a → a < ptr + F.head + room → m' a = m a) : F.HasRoom m' stop ptr id room := by
  have hpos := F.head_pos
  obtain ⟨len, hread, hle, hpad⟩ := h.element
  refine ⟨?_, ⟨len, ?_, hle, fun a ha hlt => ?_⟩, h.room⟩
  · rw [hsame ptr le_rfl (by omega)]
    exact h.start
  · exact (readAt_congr fun a ha hlt => hsame a ha (by omega)).trans hread
  · rw [hsame a (by omega) hlt]
    exact hpad a ha hlt

/-- **An element with room can be changed in place.** -/
theorem scan_update {e : ℕ} (he : (id, e) ∈ F.scan m stop ptr) (h : F.HasRoom m stop e id room)
    (h' : F.HasRoom m' stop e id room) (hsame : ∀ a, a < e ∨ e + F.head + room ≤ a → m' a = m a) :
    F.scan m' stop ptr = F.scan m stop ptr := by
  have hpos := F.head_pos
  fun_induction F.scan m stop ptr with
  | case1 ptr hroom hpad ih =>
    have hle := (mem_scan he).1
    rw [← hsame ptr (.inl hle)] at hpad
    rw [scan_padding hroom hpad, ih he]
  | case2 | case3 | case5 => cases he
  | case4 ptr hroom hpad id' len hread hlong ih =>
    rcases mem_cons.mp he with heq | he
    · cases heq
      rw [h'.scan_eq, scan_congr fun a ha _ => hsame a (.inr ha), ← h.scan_eq]
      exact scan_element (Bool.eq_false_iff.mpr hpad) hread (not_lt.mp hlong)
    · -- the element is behind the one at `ptr`, which is as before
      have hle := (mem_scan he).1
      rw [← hsame ptr (.inl (by omega))] at hpad
      have hread' : F.readAt m' ptr = some (id', len) :=
        (readAt_congr fun a _ hlt => hsame a (.inl (by omega))).trans hread
      rw [scan_element (Bool.eq_false_iff.mpr hpad) hread' (not_lt.mp hlong), ih he]

theorem HasRoom.le_of_lt {a e id' : ℕ} (h : F.HasRoom m stop a id room) (ha : (id, a) ∈ F.scan m stop ptr)
    (he : (id', e) ∈ F.scan m stop ptr) (hlt : a < e) : a + F.head + room ≤ e := by
  obtain ⟨len, hread, hle, hpad⟩ := h.element
  have hmem := mem_scan_of_lt ha he hlt hread
  rw [scan_skip (by omega) hpad] at hmem
  exact (mem_scan hmem).1

end ElementFormat
end MediasoupWorker.Library
