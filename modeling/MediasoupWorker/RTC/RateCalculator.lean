import Mathlib.Algebra.Order.BigOperators.Group.List
import Mathlib.Algebra.Order.Group.Nat
import MediasoupWorker.Library.BoundedLoop
import MediasoupWorker.Library.RingBuffer
import MediasoupWorker.Library.Runs

/-!
# Rates over a sliding window

`src/src/RTC/RateCalculator.cpp`, `src/include/RTC/RateCalculator.hpp`. The sizes of the last
`windowSizeMs` milliseconds are kept in a ring of `windowItems` items. An item goes because its time is out
of the window, because the ring is full, or because the item before it has left its time behind in
`oldestItemStartTime`. In the last two cases the newest item is `windowItems - 1` items away (`old_of_full`).
-/

namespace MediasoupWorker.RTC

open Library List

/-! ## The calculator -/

structure RateCalculator.BufferItem where
  count : ℕ := 0
  time : ℕ := 0
  deriving DecidableEq, Repr

structure RateCalculator.Config where
  windowSizeMs : ℕ
  scale : Float32
  windowItems : ℕ
  itemSizeMs : ℕ

structure RateCalculator extends RateCalculator.Config where
  buffer : List RateCalculator.BufferItem
  newestItemStartTime : ℕ := 0
  newestItemIndex : Option ℕ := none
  oldestItemStartTime : ℕ := 0
  oldestItemIndex : Option ℕ := none
  totalCount : ℕ := 0
  bytes : ℕ := 0
  lastRate : ℕ := 0
  lastTime : ℕ := 0

namespace RateCalculator

inductive Stop where
  | outOfTurns
  deriving DecidableEq, Repr

def difference (a b : ℕ) : ℕ := (a + 2 ^ 64 - b) % 2 ^ 64

def reset (s : RateCalculator) : RateCalculator :=
  { s with
    buffer := List.replicate s.windowItems {}
    newestItemStartTime := 0
    newestItemIndex := none
    oldestItemStartTime := 0
    oldestItemIndex := none
    totalCount := 0
    lastRate := 0
    lastTime := 0 }

def new (windowSizeMs : ℕ) (scale : Float32) (windowItems : ℕ) : RateCalculator :=
  { windowSizeMs, scale, windowItems
    itemSizeMs := max (windowSizeMs / windowItems) 1
    buffer := List.replicate windowItems {} }

def nextIndex (windowItems : ℕ) : Option ℕ → ℕ
  | none => 0
  | some index => if index + 1 ≥ windowItems then 0 else index + 1

def evictOldest (s : RateCalculator) : RateCalculator :=
  match s.oldestItemIndex with
  | none => s
  | some index =>
    { s with
      totalCount := s.totalCount - (s.buffer.getD index {}).count
      buffer := s.buffer.set index {}
      oldestItemIndex := some (nextIndex s.windowItems (some index)) }

def removeOldest (s : RateCalculator) : RateCalculator :=
  let s := s.evictOldest
  { s with oldestItemStartTime := (s.buffer.getD (s.oldestItemIndex.getD 0) {}).time }

def removeBody (newoldestTime : ℕ) (s : RateCalculator) : Except Stop (RateCalculator × Bool) :=
  if s.oldestItemStartTime < newoldestTime then .ok (s.removeOldest, true) else .ok (s, false)

def removeOldData (turns nowMs : ℕ) (s : RateCalculator) : Except Stop RateCalculator :=
  if s.newestItemIndex = none ∨ s.oldestItemIndex = none then .ok s
  else if difference nowMs s.windowSizeMs ≤ s.oldestItemStartTime then .ok s
  -- A whole window size time has elapsed since the last entry.
  else if s.newestItemStartTime < difference nowMs s.windowSizeMs then .ok s.reset
  else loop .outOfTurns (removeBody (difference nowMs s.windowSizeMs)) turns s

def startItem (size nowMs : ℕ) (s : RateCalculator) : RateCalculator :=
  let newest := nextIndex s.windowItems s.newestItemIndex
  let s := { s with newestItemIndex := some newest, newestItemStartTime := nowMs }
  -- The calculation buffer is full.
  let s := if s.oldestItemIndex = some newest then s.evictOldest else s
  { s with buffer := s.buffer.set newest ⟨size, nowMs⟩ }

def updateItem (size : ℕ) (s : RateCalculator) : RateCalculator :=
  let newest := s.newestItemIndex.getD 0
  let item := s.buffer.getD newest {}
  { s with buffer := s.buffer.set newest { item with count := item.count + size } }

def addSize (size nowMs : ℕ) (s : RateCalculator) : RateCalculator :=
  let s :=
    if s.newestItemIndex = none ∨ s.itemSizeMs ≤ difference nowMs s.newestItemStartTime then
      s.startItem size nowMs
    else s.updateItem size
  let s :=
    if s.oldestItemIndex = none then
      { s with oldestItemIndex := s.newestItemIndex, oldestItemStartTime := nowMs }
    else s
  { s with totalCount := s.totalCount + size, lastRate := 0, lastTime := 0 }

def update (turns size nowMs : ℕ) (s : RateCalculator) : Except Stop RateCalculator :=
  if nowMs < s.oldestItemStartTime then .ok s
  else do
    let s ← removeOldData turns nowMs { s with bytes := s.bytes + size }
    return s.addSize size nowMs

def getRate (turns nowMs : ℕ) (s : RateCalculator) : Except Stop (ℕ × RateCalculator) :=
  if nowMs = s.lastTime then .ok (s.lastRate, s)
  else do
    let s ← removeOldData turns nowMs s
    let scale := s.scale / Float32.ofNat s.windowSizeMs
    let rate := (Float32.ofNat s.totalCount * scale + 0.5).toUInt32.toNat
    return (rate, { s with lastTime := nowMs, lastRate := rate })

inductive Event where
  | update (size nowMs : ℕ)
  | getRate (nowMs : ℕ)
  deriving DecidableEq, Repr

namespace Event

def time : Event → ℕ
  | update _ nowMs => nowMs
  | getRate nowMs => nowMs

def sizeSince (start : ℕ) : Event → ℕ
  | update size nowMs => if start ≤ nowMs then size else 0
  | getRate _ => 0

end Event

def step (turns : ℕ) (s : RateCalculator) : Event → Except Stop RateCalculator
  | .update size nowMs => s.update turns size nowMs
  | .getRate nowMs => (s.getRate turns nowMs).map Prod.snd

def sizesSince (start : ℕ) (events : List Event) : ℕ := (events.map (Event.sizeSince start)).sum

def Config.reach (c : Config) : ℕ := min c.windowSizeMs (c.windowItems * c.itemSizeMs)

structure Timely (windowSizeMs : ℕ) (events : List Event) : Prop where
  sorted : events.Pairwise fun e f => e.time ≤ f.time
  window_le : ∀ e ∈ events, windowSizeMs ≤ e.time
  lt : ∀ e ∈ events, e.time < 2 ^ 64

def CountsWindow (turns : ℕ) (s : RateCalculator) (reach : ℕ) (events : List Event) : Prop :=
  ∃ s', run (step turns) s events = .ok s' ∧ s'.totalCount = (s'.buffer.map BufferItem.count).sum ∧
    ∀ e ∈ events.getLast?, s'.totalCount ≤ sizesSince (e.time - s.windowSizeMs) events ∧
      sizesSince (e.time - reach + 2 * s.itemSizeMs) events ≤ s'.totalCount

/-! ## Items and the updates that they count -/

structure Arrival where
  size : ℕ
  time : ℕ

def sizes (arrivals : List Arrival) : ℕ := (arrivals.map Arrival.size).sum

@[simp] theorem sizes_append (as bs : List Arrival) : sizes (as ++ bs) = sizes as + sizes bs := by
  simp [sizes]

@[simp] theorem sizes_singleton (a : Arrival) : sizes [a] = a.size := by
  simp [sizes]

structure Chunk where
  time : ℕ
  arrivals : List Arrival

def Chunk.item (c : Chunk) : BufferItem := ⟨sizes c.arrivals, c.time⟩

def arrivals (chunks : List Chunk) : List Arrival := chunks.flatMap Chunk.arrivals

@[simp] theorem arrivals_cons (c : Chunk) (chunks : List Chunk) :
    arrivals (c :: chunks) = c.arrivals ++ arrivals chunks := rfl

@[simp] theorem arrivals_append (cs ds : List Chunk) : arrivals (cs ++ ds) = arrivals cs ++ arrivals ds := by
  simp [arrivals]

@[simp] theorem arrivals_nil : arrivals [] = [] := rfl

structure Chunked (itemSize : ℕ) (chunks : List Chunk) : Prop where
  spaced : chunks.Pairwise fun c d => c.time + itemSize ≤ d.time
  within : ∀ c ∈ chunks, ∀ a ∈ c.arrivals, c.time ≤ a.time ∧ a.time < c.time + itemSize

namespace Chunked

variable {itemSize now : ℕ} {c new : Chunk} {chunks older : List Chunk}

theorem tail (h : Chunked itemSize (c :: chunks)) : Chunked itemSize chunks :=
  ⟨(pairwise_cons.mp h.spaced).2, fun d hd => h.within d (mem_cons_of_mem c hd)⟩

theorem spread (h : Chunked itemSize (c :: older ++ [new])) :
    c.time + itemSize * (older.length + 1) ≤ new.time := by
  induction older generalizing c with
  | nil =>
    have := (pairwise_cons.mp h.spaced).1 new (by simp)
    simpa using this
  | cons d older ih =>
    have hd := ih h.tail
    have hcd := (pairwise_cons.mp h.spaced).1 d (by simp)
    rw [length_cons, Nat.mul_succ itemSize (older.length + 1)]
    omega

section

variable (h : Chunked itemSize (older ++ [new]))

include h

theorem time_le_last (hc : c ∈ older ++ [new]) : c.time ≤ new.time := by
  rcases mem_append.mp hc with hc | hc
  · exact le_trans (Nat.le_add_right _ _) ((pairwise_append.mp h.spaced).2.2 c hc new (by simp))
  · rw [mem_singleton.mp hc]

theorem push (hnow : new.time + itemSize ≤ now) (hpos : 0 < itemSize) (size : ℕ) :
    Chunked itemSize (older ++ [new] ++ [⟨now, [⟨size, now⟩]⟩]) := by
  constructor
  · refine pairwise_append.mpr ⟨h.spaced, pairwise_singleton _ _, ?_⟩
    intro c hc
    have hle : c.time ≤ new.time := h.time_le_last hc
    exact forall_mem_singleton.mpr (show c.time + itemSize ≤ now by omega)
  · refine forall_mem_append.mpr ⟨h.within, forall_mem_singleton.mpr (forall_mem_singleton.mpr ?_)⟩
    exact ⟨le_rfl, Nat.lt_add_of_pos_right hpos⟩

theorem amend (hnow : new.time ≤ now) (hlt : now < new.time + itemSize) (size : ℕ) :
    Chunked itemSize (older ++ [⟨new.time, new.arrivals ++ [⟨size, now⟩]⟩]) := by
  constructor
  · have hspaced := pairwise_append.mp h.spaced
    refine pairwise_append.mpr ⟨hspaced.1, pairwise_singleton _ _, ?_⟩
    exact fun c hc => forall_mem_singleton.mpr (hspaced.2.2 c hc new (by simp))
  · obtain ⟨holder, hnew⟩ := forall_mem_append.mp h.within
    refine forall_mem_append.mpr ⟨holder, forall_mem_singleton.mpr (forall_mem_append.mpr ⟨?_, ?_⟩)⟩
    · exact hnew new (by simp)
    · exact forall_mem_singleton.mpr ⟨hnow, hlt⟩

end

end Chunked

/-! ## The buffer -/

structure Stored (s : RateCalculator) (first : ℕ) (chunks : List Chunk) : Prop where
  ring : Ring {} s.buffer first (chunks.map Chunk.item)
  length : s.buffer.length = s.windowItems
  oldest_index : s.oldestItemIndex = some first
  total : s.totalCount = sizes (arrivals chunks)

theorem nextIndex_some {n i : ℕ} (hi : i < n) : nextIndex n (some i) = (i + 1) % n := by
  rw [nextIndex]
  split
  · rw [show i + 1 = n by omega, Nat.mod_self]
  · rw [Nat.mod_eq_of_lt (by omega)]

section

variable (s : RateCalculator)

@[simp] theorem evictOldest_toConfig : s.evictOldest.toConfig = s.toConfig := by
  unfold evictOldest
  split <;> rfl

@[simp] theorem evictOldest_newestItemIndex : s.evictOldest.newestItemIndex = s.newestItemIndex := by
  unfold evictOldest
  split <;> rfl

@[simp] theorem evictOldest_newestItemStartTime :
    s.evictOldest.newestItemStartTime = s.newestItemStartTime := by
  unfold evictOldest
  split <;> rfl

@[simp] theorem evictOldest_oldestItemStartTime :
    s.evictOldest.oldestItemStartTime = s.oldestItemStartTime := by
  unfold evictOldest
  split <;> rfl

@[simp] theorem evictOldest_lastTime : s.evictOldest.lastTime = s.lastTime := by
  unfold evictOldest
  split <;> rfl

end

namespace Stored

variable {s : RateCalculator} {first : ℕ} {c : Chunk} {chunks : List Chunk}

theorem getD_first (h : Stored s first (c :: chunks)) : s.buffer.getD first {} = c.item := by
  rw [getD_eq_getElem?_getD, h.ring.getElem?_first, Option.getD_some]

theorem evictOldest (h : Stored s first (c :: chunks)) :
    Stored s.evictOldest ((first + 1) % s.windowItems) chunks := by
  have hfirst : first < s.windowItems := h.length ▸ h.ring.first_lt
  have htotal : s.totalCount - c.item.count = sizes (arrivals chunks) := by
    rw [h.total, arrivals_cons, sizes_append]
    exact Nat.add_sub_cancel_left (sizes c.arrivals) _
  simp only [RateCalculator.evictOldest, h.oldest_index, h.getD_first, nextIndex_some hfirst]
  have hring := h.ring.pop
  rw [h.length] at hring
  exact ⟨hring, by simpa using h.length, rfl, htotal⟩

theorem push (h : Stored s first chunks) (hroom : chunks.length < s.windowItems) (c : Chunk) : Stored { s with
      buffer := s.buffer.set ((first + chunks.length) % s.windowItems) c.item
      totalCount := s.totalCount + sizes c.arrivals } first (chunks ++ [c]) := by
  have hring := h.ring.push (by simpa [h.length] using hroom) c.item
  rw [length_map, h.length] at hring
  refine ⟨?_, by simpa using h.length, h.oldest_index, ?_⟩
  · simpa using hring
  · simp [h.total]

theorem amend (h : Stored s first (chunks ++ [c])) (a : Arrival) : Stored { s with
      buffer := s.buffer.set ((first + chunks.length) % s.windowItems) ⟨c.item.count + a.size, c.item.time⟩
      totalCount := s.totalCount + a.size } first (chunks ++ [⟨c.time, c.arrivals ++ [a]⟩]) := by
  have hlast : Ring {} s.buffer first (chunks.map Chunk.item ++ [c.item]) := by simpa using h.ring
  have hring := hlast.setLast ⟨c.item.count + a.size, c.item.time⟩
  rw [length_map, h.length] at hring
  refine ⟨?_, by simpa using h.length, h.oldest_index, ?_⟩
  · simpa [Chunk.item] using hring
  · simp [h.total, add_assoc]

theorem getD_last (h : Stored s first (chunks ++ [c])) :
    s.buffer.getD ((first + chunks.length) % s.windowItems) {} = c.item := by
  have hlast : Ring {} s.buffer first (chunks.map Chunk.item ++ [c.item]) := by simpa using h.ring
  have hget := hlast.getElem?_last
  rw [length_map, h.length] at hget
  rw [getD_eq_getElem?_getD, hget, Option.getD_some]

theorem length_le (h : Stored s first chunks) : chunks.length ≤ s.windowItems := by
  have := h.ring.length_le
  rwa [length_map, h.length] at this

end Stored

structure Holds (s : RateCalculator) (first : ℕ) (older : List Chunk) (newest : Chunk) : Prop where
  stored : Stored s first (older ++ [newest])
  chunked : Chunked s.itemSizeMs (older ++ [newest])
  newest_index : s.newestItemIndex = some ((first + older.length) % s.windowItems)
  newest_time : s.newestItemStartTime = newest.time
  oldest_le : ∀ c ∈ older ++ [newest], s.oldestItemStartTime ≤ c.time
  oldest_eq : s.oldestItemStartTime = (older.headD newest).time ∨ older.length + 1 = s.windowItems

structure Blank (s : RateCalculator) : Prop where
  buffer : s.buffer = List.replicate s.windowItems {}
  newest_index : s.newestItemIndex = none
  oldest_index : s.oldestItemIndex = none
  oldest_time : s.oldestItemStartTime = 0
  total : s.totalCount = 0

inductive Kept (s : RateCalculator) (now : ℕ) : List Arrival → Prop
  | blank (h : Blank s) : Kept s now []
  | holds {first : ℕ} {older : List Chunk} {newest : Chunk} (h : Holds s first older newest)
      (hnow : newest.time ≤ now) : Kept s now (arrivals (older ++ [newest]))

def Old (c : Config) (now : ℕ) (a : Arrival) : Prop :=
  a.time + c.reach < now + 2 * c.itemSizeMs

theorem Old.mono {c : Config} {now later : ℕ} {a : Arrival} (h : Old c now a) (hle : now ≤ later) :
    Old c later a := by
  unfold Old at h ⊢
  omega

/-! ## Removing old data -/

section Removal

variable {s : RateCalculator} {first now : ℕ} {c newest : Chunk} {older : List Chunk}

theorem old_of_lt {cfg : Config} {a : Arrival} {time : ℕ} (ha : a.time < time + cfg.itemSizeMs)
    (htime : time + cfg.windowSizeMs ≤ now) : Old cfg now a := by
  have hmin := min_le_left cfg.windowSizeMs (cfg.windowItems * cfg.itemSizeMs)
  unfold Old Config.reach
  omega

theorem old_of_full (h : Holds s first (c :: older) newest) (hnow : newest.time ≤ now)
    (hfull : older.length + 2 = s.windowItems) {a : Arrival} (ha : a ∈ c.arrivals) :
    Old s.toConfig now a := by
  have hlt := (h.chunked.within c (by simp) a ha).2
  have hspread := h.chunked.spread
  have hmin := min_le_right s.windowSizeMs (s.windowItems * s.itemSizeMs)
  have hits : s.windowItems * s.itemSizeMs = s.itemSizeMs * (older.length + 1) + s.itemSizeMs := by
    rw [← hfull, mul_comm]
    exact Nat.mul_succ _ _
  unfold Old Config.reach
  omega

theorem Holds.removeOldest (h : Holds s first (c :: older) newest) :
    Holds s.removeOldest ((first + 1) % s.windowItems) older newest := by
  have hst : Stored s.evictOldest ((first + 1) % s.windowItems) (older ++ [newest]) :=
    h.stored.evictOldest
  have hchunked : Chunked s.itemSizeMs (older ++ [newest]) := h.chunked.tail
  have htime : s.removeOldest.oldestItemStartTime = (older.headD newest).time := by
    simp only [RateCalculator.removeOldest, hst.oldest_index, Option.getD_some]
    cases older with
    | nil => rw [hst.getD_first]; rfl
    | cons d older => rw [hst.getD_first]; rfl
  refine ⟨⟨hst.ring, hst.length, hst.oldest_index, hst.total⟩, ?_, ?_, ?_, ?_, .inl htime⟩
  · simpa [RateCalculator.removeOldest] using hchunked
  · show s.evictOldest.newestItemIndex = some ((_ % s.windowItems + _) % s.evictOldest.windowItems)
    rw [evictOldest_newestItemIndex, evictOldest_toConfig, h.newest_index, Nat.mod_add_mod,
      length_cons, add_assoc, add_comm 1]
  · show s.evictOldest.newestItemStartTime = newest.time
    rw [evictOldest_newestItemStartTime, h.newest_time]
  · rw [htime]
    intro d hd
    cases older with
    | nil => simp_all
    | cons e older =>
      rcases mem_cons.mp hd with rfl | hd
      · exact le_rfl
      · exact le_trans (Nat.le_add_right _ _) ((pairwise_cons.mp hchunked.spaced).1 d hd)

/-- **The removal ends**: while the time that is stored is before the window, the oldest item is not the newest
one, and goes with nothing but old updates. -/
theorem Holds.exists_older (h : Holds s first older newest) (hits : 2 ≤ s.windowItems)
    (hnow : newest.time ≤ now) (hold : s.oldestItemStartTime + s.windowSizeMs < now)
    (hnew : now ≤ newest.time + s.windowSizeMs) :
    ∃ c rest, older = c :: rest ∧ ∀ a ∈ c.arrivals, Old s.toConfig now a := by
  cases older with
  | nil =>
    rcases h.oldest_eq with heq | hfull
    · have heq : s.oldestItemStartTime = newest.time := heq
      omega
    · have hfull : 0 + 1 = s.windowItems := hfull
      omega
  | cons c rest =>
    refine ⟨c, rest, rfl, fun a ha => ?_⟩
    rcases h.oldest_eq with heq | hfull
    · have heq : s.oldestItemStartTime = c.time := heq
      exact old_of_lt (h.chunked.within c (by simp) a ha).2 (show c.time + s.windowSizeMs ≤ now by omega)
    · exact old_of_full h hnow hfull ha

end Removal

def Accounts (s : RateCalculator) (now : ℕ) (history : List Arrival) : Prop :=
  ∃ forgotten kept, history = forgotten ++ kept ∧ (∀ a ∈ forgotten, Old s.toConfig now a) ∧ Kept s now kept

def Current (s : RateCalculator) (now : ℕ) : Prop :=
  s.oldestItemIndex ≠ none → now ≤ s.oldestItemStartTime + s.windowSizeMs

theorem difference_eq {a b : ℕ} (hle : b ≤ a) (ha : a < 2 ^ 64) : difference a b = a - b := by
  rw [difference, show a + 2 ^ 64 - b = a - b + 2 ^ 64 by omega, Nat.add_mod_right,
    Nat.mod_eq_of_lt (by omega)]

section

variable {s : RateCalculator} {now later turns : ℕ} {history : List Arrival}

theorem Accounts.mono (h : Accounts s now history) (hle : now ≤ later) : Accounts s later history := by
  obtain ⟨gone, kept, hhist, hold, hkept⟩ := h
  refine ⟨gone, kept, hhist, fun a ha => (hold a ha).mono hle, ?_⟩
  cases hkept with
  | blank h => exact .blank h
  | holds h hnow => exact .holds h (hnow.trans hle)

theorem Accounts.oldestItemStartTime_le (h : Accounts s now history) : s.oldestItemStartTime ≤ now := by
  obtain ⟨_, _, _, _, hkept⟩ := h
  cases hkept with
  | blank h => exact h.oldest_time ▸ Nat.zero_le now
  | holds h hnow => exact (h.oldest_le _ (by simp)).trans hnow

theorem blank_reset (s : RateCalculator) : Blank s.reset :=
  ⟨rfl, rfl, rfl, rfl, rfl⟩

theorem Holds.accounts_reset {first : ℕ} {older : List Chunk} {newest : Chunk} {gone : List Arrival}
    (h : Holds s first older newest) (hnew : newest.time + s.windowSizeMs < now)
    (hold : ∀ a ∈ gone, Old s.toConfig now a) :
    Accounts s.reset now (gone ++ arrivals (older ++ [newest])) := by
  refine ⟨_, [], (append_nil _).symm, fun a ha => ?_, .blank (blank_reset s)⟩
  rcases mem_append.mp ha with ha | ha
  · exact hold a ha
  · obtain ⟨c, hc, ha⟩ := mem_flatMap.mp ha
    have hle := h.chunked.time_le_last hc
    exact old_of_lt (h.chunked.within c hc a ha).2 (show c.time + s.windowSizeMs ≤ now by omega)

structure Valid (cfg : Config) (now : ℕ) (history : List Arrival) (s : RateCalculator) : Prop where
  config : s.toConfig = cfg
  accounts : Accounts s now history
  current : Current s now
  lastTime_le : s.lastTime ≤ now

theorem loop_removeBody_ok {first : ℕ} {older : List Chunk} {newest : Chunk} {gone : List Arrival}
    (hits : 2 ≤ s.windowItems) (hwin : s.windowSizeMs ≤ now) (h : Holds s first older newest)
    (hnow : newest.time ≤ now) (hnew : now ≤ newest.time + s.windowSizeMs)
    (hold : ∀ a ∈ gone, Old s.toConfig now a) (hlast : s.lastTime ≤ now) (hturns : older.length < turns) :
    ∃ s', loop .outOfTurns (removeBody (now - s.windowSizeMs)) turns s = .ok s' ∧
      Valid s.toConfig now (gone ++ arrivals (older ++ [newest])) s' := by
  -- The stage of the loop is the number of items before the newest one.
  refine loop_ok_of_stages (I := fun k s' => s'.toConfig = s.toConfig ∧ s'.lastTime ≤ now ∧
    ∃ first' older' gone', older'.length = k ∧ Holds s' first' older' newest ∧
      gone ++ arrivals (older ++ [newest]) = gone' ++ arrivals (older' ++ [newest]) ∧
      ∀ a ∈ gone', Old s.toConfig now a) ?_
    ⟨rfl, hlast, first, older, gone, rfl, h, rfl, hold⟩ hturns
  rintro k s' ⟨hcfg, hlast', first', older', gone', rfl, h', heq, hold'⟩
  by_cases htime : s'.oldestItemStartTime < now - s.windowSizeMs
  · refine ⟨s'.removeOldest, true, if_pos htime, fun _ => ?_, (absurd · (Ne.symm Bool.false_ne_true))⟩
    obtain ⟨c, rest, rfl, hc⟩ := h'.exists_older (by rw [hcfg]; exact hits) hnow
      (by rw [hcfg]; omega) (by rw [hcfg]; exact hnew)
    refine ⟨rest.length, Nat.lt_succ_self _, ?_, ?_, _, rest, gone' ++ c.arrivals, rfl, h'.removeOldest,
      ?_, ?_⟩
    · exact (evictOldest_toConfig s').trans hcfg
    · exact (evictOldest_lastTime s').trans_le hlast'
    · simpa using heq
    · exact forall_mem_append.mpr ⟨hold', hcfg ▸ hc⟩
  · refine ⟨s', false, if_neg htime, (absurd · Bool.false_ne_true), fun _ => ?_⟩
    refine ⟨hcfg, ⟨gone', _, heq, hcfg.symm ▸ hold', .holds h' hnow⟩, fun _ => ?_, hlast'⟩
    rw [hcfg]
    omega

/-- **The removal ends**, and what is left is in the window. -/
theorem removeOldData_ok (hits : 2 ≤ s.windowItems) (hturns : s.windowItems < turns)
    (hwin : s.windowSizeMs ≤ now) (hnow : now < 2 ^ 64) (h : Accounts s now history)
    (hlast : s.lastTime ≤ now) :
    ∃ s', removeOldData turns now s = .ok s' ∧ Valid s.toConfig now history s' := by
  obtain ⟨gone, kept, rfl, hold, hkept⟩ := h
  cases hkept with
  | blank h =>
    refine ⟨s, if_pos (.inl h.newest_index), rfl, ⟨gone, [], rfl, hold, .blank h⟩, ?_, hlast⟩
    exact fun hne => absurd h.oldest_index hne
  | @holds first older newest h hle =>
    have hlen : older.length + 1 ≤ s.windowItems := by simpa using h.stored.length_le
    rw [removeOldData, if_neg (by simp [h.newest_index, h.stored.oldest_index]),
      difference_eq hwin hnow, h.newest_time]
    split
    · next hcur =>
      refine ⟨s, rfl, rfl, ⟨gone, _, rfl, hold, .holds h hle⟩, fun _ => ?_, hlast⟩
      omega
    · split
      · next hnew =>
        refine ⟨s.reset, rfl, rfl, h.accounts_reset (by omega) hold, fun hne => ?_, Nat.zero_le _⟩
        exact absurd rfl hne
      · next hnew =>
        exact loop_removeBody_ok hits hwin h hle (by omega) hold hlast (by omega)

end

/-! ## Counting an update -/

section

variable {s : RateCalculator} {first size now : ℕ} {older : List Chunk} {c new : Chunk}

theorem evictOldest_setNewest (s : RateCalculator) (index : Option ℕ) (time : ℕ) :
    evictOldest { s with newestItemIndex := index, newestItemStartTime := time } =
      { s.evictOldest with newestItemIndex := index, newestItemStartTime := time } := by
  unfold evictOldest
  split
  all_goals simp_all

theorem Holds.nextIndex_newest (h : Holds s first older new) :
    nextIndex s.windowItems s.newestItemIndex = (first + (older.length + 1)) % s.windowItems := by
  have hpos : 0 < s.windowItems := lt_of_lt_of_le (by simp) h.stored.length_le
  rw [h.newest_index, nextIndex_some (Nat.mod_lt _ hpos), Nat.mod_add_mod, add_assoc]

theorem Holds.next_eq_oldest_iff (h : Holds s first older new) :
    s.oldestItemIndex = some ((first + (older.length + 1)) % s.windowItems) ↔
      older.length + 1 = s.windowItems := by
  have hring := h.stored.ring.succ_last_eq_first_iff (by simp)
  simp only [length_map, length_append, length_singleton, h.stored.length] at hring
  rw [h.stored.oldest_index, Option.some_inj, eq_comm, hring]

theorem addSize_of_blank (h : Blank s) : s.addSize size now = { s with
        buffer := s.buffer.set 0 ⟨size, now⟩
        newestItemIndex := some 0
        newestItemStartTime := now
        oldestItemIndex := some 0
        oldestItemStartTime := now
        totalCount := s.totalCount + size
        lastRate := 0
        lastTime := 0 } := by
  simp [addSize, startItem, h.newest_index, h.oldest_index, nextIndex]

theorem Holds.addSize_of_room (h : Holds s first older new)
    (hstart : s.itemSizeMs ≤ difference now s.newestItemStartTime)
    (hroom : older.length + 1 ≠ s.windowItems) : s.addSize size now = { s with
        buffer := s.buffer.set ((first + (older.length + 1)) % s.windowItems) ⟨size, now⟩
        newestItemIndex := some ((first + (older.length + 1)) % s.windowItems)
        newestItemStartTime := now
        totalCount := s.totalCount + size
        lastRate := 0
        lastTime := 0 } := by
  have hne : ¬ s.oldestItemIndex = some ((first + (older.length + 1)) % s.windowItems) :=
    mt h.next_eq_oldest_iff.mp hroom
  have hset : ¬ s.oldestItemIndex = none := by simp [h.stored.oldest_index]
  simp only [addSize, startItem, h.nextIndex_newest, hstart, or_true, if_true, if_neg hne, if_neg hset]

theorem Holds.addSize_of_full (h : Holds s first (c :: older) new)
    (hstart : s.itemSizeMs ≤ difference now s.newestItemStartTime)
    (hfull : older.length + 2 = s.windowItems) : s.addSize size now = { s.evictOldest with
        buffer := s.evictOldest.buffer.set
          (((first + 1) % s.windowItems + (older.length + 1)) % s.windowItems) ⟨size, now⟩
        newestItemIndex := some (((first + 1) % s.windowItems + (older.length + 1)) % s.windowItems)
        newestItemStartTime := now
        totalCount := s.evictOldest.totalCount + size
        lastRate := 0
        lastTime := 0 } := by
  have hindex : (first + ((c :: older).length + 1)) % s.windowItems =
      ((first + 1) % s.windowItems + (older.length + 1)) % s.windowItems := by
    rw [Nat.mod_add_mod, length_cons]
    congr 1
    omega
  have heq := hindex ▸ h.next_eq_oldest_iff.mpr hfull
  have hset : ¬ s.evictOldest.oldestItemIndex = none := by simp [h.stored.evictOldest.oldest_index]
  simp only [addSize, startItem, h.nextIndex_newest, hindex, hstart, or_true, if_true, if_pos heq,
    evictOldest_setNewest, if_neg hset]

theorem Holds.addSize_of_newest (h : Holds s first older new)
    (hsame : ¬ s.itemSizeMs ≤ difference now s.newestItemStartTime) : s.addSize size now = { s with
        buffer := s.buffer.set ((first + older.length) % s.windowItems)
          ⟨new.item.count + size, new.item.time⟩
        totalCount := s.totalCount + size
        lastRate := 0
        lastTime := 0 } := by
  have hset : ¬ s.oldestItemIndex = none := by simp [h.stored.oldest_index]
  have hnew : ¬ (s.newestItemIndex = none ∨ s.itemSizeMs ≤ difference now s.newestItemStartTime) := by
    simp [h.newest_index, hsame]
  have hitem : s.updateItem size = { s with
      buffer := s.buffer.set ((first + older.length) % s.windowItems)
        ⟨new.item.count + size, new.item.time⟩ } := by
    simp only [updateItem, h.newest_index, Option.getD_some, h.stored.getD_last]
  simp only [addSize, if_neg hnew, hitem, if_neg hset]

theorem Holds.oldest_le_push (h : Holds s first older new) (hnow : new.time ≤ now) (size : ℕ) :
    ∀ c ∈ older ++ [new] ++ [⟨now, [⟨size, now⟩]⟩], s.oldestItemStartTime ≤ c.time := by
  refine forall_mem_append.mpr ⟨h.oldest_le, forall_mem_singleton.mpr ?_⟩
  exact (h.oldest_le new (by simp)).trans hnow

theorem Blank.holds_addSize (h : Blank s) (hpos : 0 < s.itemSizeMs) (hits : 0 < s.windowItems) :
    Holds (s.addSize size now) 0 [] ⟨now, [⟨size, now⟩]⟩ := by
  have hst : Stored { s with oldestItemIndex := some 0 } 0 [] := by
    refine ⟨?_, by simp [h.buffer], rfl, h.total⟩
    simpa [h.buffer] using Ring.of_replicate hits
  have hpush := hst.push hits ⟨now, [⟨size, now⟩]⟩
  rw [addSize_of_blank h]
  refine ⟨⟨?_, hpush.length, rfl, hpush.total⟩, ?_, ?_, rfl, ?_, .inl rfl⟩
  · simpa [Chunk.item] using hpush.ring
  · exact ⟨pairwise_singleton _ _, by simpa using hpos⟩
  · simp
  · simp

theorem Holds.holds_addSize_of_room (h : Holds s first older new) (hpos : 0 < s.itemSizeMs)
    (hnow : new.time + s.itemSizeMs ≤ now) (hstart : s.itemSizeMs ≤ difference now s.newestItemStartTime)
    (hroom : older.length + 1 ≠ s.windowItems) :
    Holds (s.addSize size now) first (older ++ [new]) ⟨now, [⟨size, now⟩]⟩ := by
  have hlen := h.stored.length_le
  rw [length_append, length_singleton] at hlen
  have hpush := h.stored.push (by simp; omega) ⟨now, [⟨size, now⟩]⟩
  rw [h.addSize_of_room hstart hroom]
  refine ⟨⟨?_, ?_, h.stored.oldest_index, hpush.total⟩, h.chunked.push hnow hpos size, ?_, rfl, ?_, .inl ?_⟩
  · simpa [Chunk.item] using hpush.ring
  · simpa using h.stored.length
  · simp
  · exact h.oldest_le_push (by omega) size
  · have heq := h.oldest_eq.resolve_right hroom
    cases older with
    | nil => exact heq
    | cons d older => exact heq

theorem Holds.holds_addSize_of_full (h : Holds s first (c :: older) new) (hpos : 0 < s.itemSizeMs)
    (hnow : new.time + s.itemSizeMs ≤ now) (hstart : s.itemSizeMs ≤ difference now s.newestItemStartTime)
    (hfull : older.length + 2 = s.windowItems) :
    Holds (s.addSize size now) ((first + 1) % s.windowItems) (older ++ [new]) ⟨now, [⟨size, now⟩]⟩ := by
  have hevict : Stored s.evictOldest ((first + 1) % s.windowItems) (older ++ [new]) :=
    h.stored.evictOldest
  have hpush := hevict.push (by simp; omega) ⟨now, [⟨size, now⟩]⟩
  have hchunked : Chunked s.itemSizeMs (older ++ [new]) := h.chunked.tail
  rw [h.addSize_of_full hstart hfull]
  refine ⟨⟨?_, ?_, hevict.oldest_index, hpush.total⟩, ?_, ?_, rfl, ?_, .inr ?_⟩
  · simpa [Chunk.item] using hpush.ring
  · simpa using hevict.length
  · simpa using hchunked.push hnow hpos size
  · simp
  · intro d hd
    show s.evictOldest.oldestItemStartTime ≤ d.time
    rw [evictOldest_oldestItemStartTime]
    exact h.oldest_le_push (show new.time ≤ now by omega) size d (mem_cons_of_mem c hd)
  · simpa using hfull

theorem Holds.holds_addSize_of_newest (h : Holds s first older new) (hnow : new.time ≤ now)
    (hlt : now < new.time + s.itemSizeMs) (hsame : ¬ s.itemSizeMs ≤ difference now s.newestItemStartTime) :
    Holds (s.addSize size now) first older ⟨new.time, new.arrivals ++ [⟨size, now⟩]⟩ := by
  have hamend := h.stored.amend ⟨size, now⟩
  rw [h.addSize_of_newest hsame]
  refine ⟨⟨hamend.ring, hamend.length, h.stored.oldest_index, hamend.total⟩, h.chunked.amend hnow hlt size,
    h.newest_index, h.newest_time, ?_, ?_⟩
  · obtain ⟨holder, hnew⟩ := forall_mem_append.mp h.oldest_le
    exact forall_mem_append.mpr ⟨holder, forall_mem_singleton.mpr (hnew new (by simp))⟩
  · cases older with
    | nil => exact h.oldest_eq
    | cons d older => exact h.oldest_eq

theorem startItem_toConfig (s : RateCalculator) (size now : ℕ) :
    (s.startItem size now).toConfig = s.toConfig := by
  simp only [startItem]
  split <;> simp

theorem addSize_toConfig (s : RateCalculator) (size now : ℕ) :
    (s.addSize size now).toConfig = s.toConfig := by
  simp only [addSize]
  split <;> split <;> simp [startItem_toConfig, updateItem]

/-- **An update is counted**, and what is forgotten for it is old. -/
theorem Valid.addSize {cfg : Config} {history : List Arrival} (h : Valid cfg now history s)
    (hits : 2 ≤ cfg.windowItems) (hpos : 0 < cfg.itemSizeMs) (hnow : now < 2 ^ 64) :
    Valid cfg now (history ++ [⟨size, now⟩]) (s.addSize size now) := by
  obtain ⟨rfl, ⟨gone, kept, rfl, hold, hkept⟩, hcur, -⟩ := h
  have hcfg := addSize_toConfig s size now
  cases hkept with
  | blank h =>
    have hholds : Holds (s.addSize size now) 0 [] ⟨now, [⟨size, now⟩]⟩ := h.holds_addSize hpos (by omega)
    refine ⟨hcfg, ⟨gone, _, ?_, hcfg.symm ▸ hold, .holds hholds le_rfl⟩, fun _ => ?_, Nat.zero_le _⟩
    · simp
    · rw [addSize_of_blank h]
      exact Nat.le_add_right _ _
  | @holds first older new h hle =>
    have hcur := hcur (by simp [h.stored.oldest_index])
    have hdiff : difference now s.newestItemStartTime = now - new.time := by
      rw [h.newest_time, difference_eq hle hnow]
    by_cases hstart : s.itemSizeMs ≤ difference now s.newestItemStartTime
    · by_cases hfull : older.length + 1 = s.windowItems
      · cases older with
        | nil =>
          have hfull : 0 + 1 = s.windowItems := hfull
          omega
        | cons c older =>
          have hholds : Holds (s.addSize size now) _ _ ⟨now, [⟨size, now⟩]⟩ :=
            h.holds_addSize_of_full hpos (by omega) hstart hfull
          refine ⟨hcfg, ⟨gone ++ c.arrivals, _, ?_, ?_, .holds hholds le_rfl⟩, fun _ => ?_, Nat.zero_le _⟩
          · simp
          · rw [hcfg]
            exact forall_mem_append.mpr ⟨hold, fun a ha => old_of_full h hle hfull ha⟩
          · rw [h.addSize_of_full hstart hfull]
            simpa using hcur
      · have hholds : Holds (s.addSize size now) _ _ ⟨now, [⟨size, now⟩]⟩ :=
          h.holds_addSize_of_room hpos (by omega) hstart hfull
        refine ⟨hcfg, ⟨gone, _, ?_, hcfg.symm ▸ hold, .holds hholds le_rfl⟩, fun _ => ?_, Nat.zero_le _⟩
        · simp
        · rw [h.addSize_of_room hstart hfull]
          exact hcur
    · have hholds : Holds (s.addSize size now) _ _ ⟨new.time, new.arrivals ++ [⟨size, now⟩]⟩ :=
        h.holds_addSize_of_newest hle (by omega) hstart
      refine ⟨hcfg, ⟨gone, _, ?_, hcfg.symm ▸ hold, .holds hholds hle⟩, fun _ => ?_, Nat.zero_le _⟩
      · simp
      · rw [h.addSize_of_newest hstart]
        exact hcur

end

/-! ## Runs -/

section

variable {s : RateCalculator} {cfg : Config} {pre now turns : ℕ} {history : List Arrival}

theorem Accounts.set (h : Accounts s now history) (bytes lastRate lastTime : ℕ) :
    Accounts { s with bytes, lastRate, lastTime } now history := by
  obtain ⟨gone, kept, hhist, hold, hkept⟩ := h
  refine ⟨gone, kept, hhist, hold, ?_⟩
  cases hkept with
  | blank h => exact .blank ⟨h.buffer, h.newest_index, h.oldest_index, h.oldest_time, h.total⟩
  | holds h hnow =>
    have hst := h.stored
    exact .holds ⟨⟨hst.ring, hst.length, hst.oldest_index, hst.total⟩, h.chunked,
      h.newest_index, h.newest_time, h.oldest_le, h.oldest_eq⟩ hnow

section

variable (h : Valid cfg pre history s) (hits : 2 ≤ cfg.windowItems)

include h hits

theorem Valid.update_ok (hpos : 0 < cfg.itemSizeMs) (hturns : cfg.windowItems < turns) (hle : pre ≤ now)
    (hwin : cfg.windowSizeMs ≤ now) (hnow : now < 2 ^ 64) (size : ℕ) :
    ∃ s', s.update turns size now = .ok s' ∧ Valid cfg now (history ++ [⟨size, now⟩]) s' := by
  obtain ⟨rfl, hacc, -, hlast⟩ := h
  have hacc := hacc.mono hle
  obtain ⟨s', hok, hs'⟩ := removeOldData_ok (s := { s with bytes := s.bytes + size }) hits hturns hwin hnow
    (hacc.set (s.bytes + size) s.lastRate s.lastTime) (hlast.trans hle)
  refine ⟨s'.addSize size now, ?_, hs'.addSize hits hpos hnow⟩
  rw [update, if_neg (not_lt.mpr hacc.oldestItemStartTime_le), hok]
  rfl

theorem Valid.getRate_ok (hturns : cfg.windowItems < turns) (hle : pre ≤ now) (hwin : cfg.windowSizeMs ≤ now)
    (hnow : now < 2 ^ 64) : ∃ rate s', s.getRate turns now = .ok (rate, s') ∧ Valid cfg now history s' := by
  by_cases hsame : now = s.lastTime
  · -- The rate is the one of the last call, which was at the same time.
    have heq : pre = now := le_antisymm hle (hsame ▸ h.lastTime_le)
    exact ⟨s.lastRate, s, if_pos hsame, heq ▸ h⟩
  · obtain ⟨rfl, hacc, -, hlast⟩ := h
    obtain ⟨s', hok, hs'⟩ := removeOldData_ok hits hturns hwin hnow (hacc.mono hle) (hlast.trans hle)
    rw [getRate, if_neg hsame, hok]
    exact ⟨_, _, rfl, hs'.config, hs'.accounts.set _ _ _, hs'.current, le_rfl⟩

end

def Event.arrival : Event → List Arrival
  | update size nowMs => [⟨size, nowMs⟩]
  | getRate _ => []

def lastCall (events : List Event) : ℕ := (events.getLast?.map Event.time).getD 0

@[simp] theorem lastCall_append_singleton (evs : List Event) (e : Event) :
    lastCall (evs ++ [e]) = e.time := by
  simp [lastCall]

theorem Timely.lastCall_le {window : ℕ} {evs : List Event} {e : Event} (h : Timely window (evs ++ [e])) :
    lastCall evs ≤ e.time := by
  rw [lastCall]
  cases hlast : evs.getLast? with
  | none => exact Nat.zero_le _
  | some f =>
    exact (pairwise_append.mp h.sorted).2.2 f (mem_of_getLast? hlast) e (by simp)

variable {es : List Event}

theorem Timely.of_prefix {window : ℕ} {fs : List Event} (h : Timely window fs) (hpre : es <+: fs) :
    Timely window es :=
  ⟨h.sorted.sublist hpre.sublist, fun e he => h.window_le e (hpre.subset he),
    fun e he => h.lt e (hpre.subset he)⟩

theorem Valid.step_ok {e : Event} (h : Valid cfg (lastCall es) (es.flatMap Event.arrival) s)
    (hits : 2 ≤ cfg.windowItems) (hpos : 0 < cfg.itemSizeMs) (hturns : cfg.windowItems < turns)
    (htimely : Timely cfg.windowSizeMs (es ++ [e])) : ∃ s', step turns s e = .ok s' ∧
      Valid cfg (lastCall (es ++ [e])) ((es ++ [e]).flatMap Event.arrival) s' := by
  have hle := htimely.lastCall_le
  have hwin := htimely.window_le e (by simp)
  have hlt := htimely.lt e (by simp)
  rw [lastCall_append_singleton, flatMap_append, flatMap_singleton]
  cases e with
  | update size now => exact h.update_ok hits hpos hturns hle hwin hlt size
  | getRate now =>
    obtain ⟨rate, s', hok, hs'⟩ := h.getRate_ok hits hturns hle hwin hlt
    have hok : s.getRate turns now = .ok (rate, s') := hok
    refine ⟨s', ?_, by simpa [Event.arrival] using hs'⟩
    rw [step, hok]
    rfl

/-! ## The count -/

variable {kept : List Arrival}

theorem Kept.total_eq (h : Kept s now kept) : s.totalCount = sizes kept := by
  cases h with
  | blank h => exact h.total
  | holds h _ => exact h.stored.total

theorem Kept.total_eq_sum (h : Kept s now kept) : s.totalCount = (s.buffer.map BufferItem.count).sum := by
  cases h with
  | blank h => simp [h.total, h.buffer]
  | @holds first older newest h _ =>
    rw [h.stored.ring.sum_eq rfl, h.stored.total]
    generalize older ++ [newest] = chunks
    induction chunks with
    | nil => rfl
    | cons c chunks ih => simp [ih, Chunk.item]

theorem Kept.le_time (h : Kept s now kept) (hcur : Current s now) {a : Arrival} (ha : a ∈ kept) :
    now ≤ a.time + s.windowSizeMs := by
  cases h with
  | blank h => exact absurd ha not_mem_nil
  | holds h _ =>
    obtain ⟨c, hc, ha⟩ := mem_flatMap.mp ha
    have := hcur (by simp [h.stored.oldest_index])
    have := h.oldest_le c hc
    have := (h.chunked.within c hc a ha).1
    omega

def Arrival.sizeSince (start : ℕ) (a : Arrival) : ℕ := if start ≤ a.time then a.size else 0

theorem sizesSince_eq (start : ℕ) (evs : List Event) :
    sizesSince start evs = ((evs.flatMap Event.arrival).map (Arrival.sizeSince start)).sum := by
  induction evs with
  | nil => rfl
  | cons e evs ih =>
    rw [flatMap_cons, map_append, sum_append, ← ih]
    cases e <;> simp [sizesSince, Event.sizeSince, Event.arrival, Arrival.sizeSince]

theorem sum_sizeSince_eq {start : ℕ} {as : List Arrival} (h : ∀ a ∈ as, start ≤ a.time) :
    (as.map (Arrival.sizeSince start)).sum = sizes as := by
  have hsize : ∀ a ∈ as, Arrival.sizeSince start a = a.size := fun a ha => if_pos (h a ha)
  rw [sizes, map_congr_left hsize]

theorem sum_sizeSince_eq_zero {start : ℕ} {as : List Arrival} (h : ∀ a ∈ as, a.time < start) :
    (as.map (Arrival.sizeSince start)).sum = 0 := by
  refine sum_eq_zero fun n hn => ?_
  obtain ⟨a, ha, rfl⟩ := mem_map.mp hn
  exact if_neg (not_le.mpr (h a ha))

theorem Valid.bounds (h : Valid cfg now (es.flatMap Event.arrival) s) (hreach : cfg.reach ≤ now) :
    s.totalCount ≤ sizesSince (now - cfg.windowSizeMs) es ∧
      sizesSince (now - cfg.reach + 2 * cfg.itemSizeMs) es ≤ s.totalCount := by
  obtain ⟨rfl, ⟨gone, kept, heq, hold, hkept⟩, hcur, -⟩ := h
  rw [sizesSince_eq, sizesSince_eq, heq, map_append, map_append, sum_append, sum_append, hkept.total_eq]
  constructor
  · have hwin : ∀ a ∈ kept, now - s.windowSizeMs ≤ a.time := fun a ha => by
      have := hkept.le_time hcur ha
      omega
    rw [sum_sizeSince_eq hwin]
    exact Nat.le_add_left _ _
  · have hpre : ∀ a ∈ gone, a.time < now - s.toConfig.reach + 2 * s.itemSizeMs := fun a ha => by
      have hold := hold a ha
      unfold Old at hold
      omega
    rw [sum_sizeSince_eq_zero hpre, zero_add]
    refine sum_le_sum fun a _ => ?_
    rw [Arrival.sizeSince]
    split
    · exact le_rfl
    · exact Nat.zero_le _

end

theorem valid_new {window windowItems : ℕ} {scale : Float32} :
    Valid (new window scale windowItems).toConfig (lastCall []) ([].flatMap Event.arrival)
      (new window scale windowItems) :=
  ⟨rfl, ⟨[], [], rfl, by simp, .blank ⟨rfl, rfl, rfl, rfl, rfl⟩⟩, fun h => absurd rfl h, le_rfl⟩

/-- **The count follows the window**, over any calls whose times do not go back, with at least two
items. -/
theorem counts_window {windowSizeMs windowItems turns : ℕ} {scale : Float32} {events : List Event}
    (hitems : 2 ≤ windowItems) (hturns : windowItems < turns) (htimely : Timely windowSizeMs events) :
    CountsWindow turns (new windowSizeMs scale windowItems) (new windowSizeMs scale windowItems).reach events := by
  have hpos : 0 < (new windowSizeMs scale windowItems).itemSizeMs :=
    lt_of_lt_of_le Nat.zero_lt_one (le_max_right _ _)
  have hvalid : ∃ s, run (step turns) (new windowSizeMs scale windowItems) events = .ok s ∧
      Valid (new windowSizeMs scale windowItems).toConfig (lastCall events) (events.flatMap Event.arrival) s :=
    run_ok_of_history_inv (I := fun es s => Valid (new windowSizeMs scale windowItems).toConfig (lastCall es)
      (es.flatMap Event.arrival) s) valid_new
      (fun es e s hpre hs => hs.step_ok hitems hpos hturns (htimely.of_prefix hpre))
  obtain ⟨s, hrun, hs⟩ := hvalid
  refine ⟨s, hrun, ?_, fun e he => ?_⟩
  · obtain ⟨_, _, _, _, hkept⟩ := hs.accounts
    exact hkept.total_eq_sum
  · have hlast : lastCall events = e.time := by simp [lastCall, Option.mem_def.mp he]
    have hwindow := htimely.window_le e (List.mem_of_getLast? he)
    rw [hlast] at hs
    exact hs.bounds ((min_le_left _ _).trans hwindow)

def steady : List Event :=
  [.update 1 10, .update 1 11, .update 1 12, .update 1 13, .update 1 14, .update 1 15, .update 1 16, .getRate 17]

theorem counts_window_steady : CountsWindow 4 (new 6 8000 3) (new 6 8000 3).reach steady :=
  counts_window (by decide) (by decide) ⟨by decide, by decide, by decide⟩

def everyMillisecond : List Event := [.update 1 10, .update 1 11, .update 1 12, .update 1 13]

theorem not_counts_window : ¬ ∀ windowSizeMs windowItems turns events, 2 ≤ windowItems → windowItems < turns →
    (new windowSizeMs 8000 windowItems).itemSizeMs ∣ windowSizeMs → Timely windowSizeMs events →
    CountsWindow turns (new windowSizeMs 8000 windowItems) windowSizeMs events := by
  intro h
  obtain ⟨s, hrun, -, hbounds⟩ := h 5 3 4 everyMillisecond (by decide) (by decide) (by decide)
    ⟨by decide, by decide, by decide⟩
  have htotal : (run (step 4) (new 5 8000 3) everyMillisecond).map totalCount = .ok 3 := rfl
  rw [hrun] at htotal
  have htotal : s.totalCount = 3 := by simpa [Except.map] using htotal
  have hlower := (hbounds (.update 1 13) rfl).2
  have hsizes : sizesSince (13 - 5 + 2 * (new 5 8000 3).itemSizeMs) everyMillisecond = 4 := by decide
  have hlower : sizesSince (13 - 5 + 2 * (new 5 8000 3).itemSizeMs) everyMillisecond ≤ s.totalCount := hlower
  omega

end RateCalculator
end MediasoupWorker.RTC
