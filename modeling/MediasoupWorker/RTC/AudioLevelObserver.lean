import MediasoupWorker.Library.Ranking
import MediasoupWorker.Library.Runs
import MediasoupWorker.RTC.Producer
import Mathlib.Algebra.Order.BigOperators.Group.List
import Mathlib.Algebra.Order.Ring.Nat
import Mathlib.Algebra.Group.Action.Defs

/-!
# The audio level observer

`src/src/RTC/AudioLevelObserver.cpp`. The observer sums up the levels of the packets of each producer, and
reports the loudest producers. A level is the distance from the overload point: a greater sum means less
volume. `mapProducerDBovs` is a `std::unordered_map`, so `update` brings an order along.

The report goes through a map from volumes to producers, in which producers with the same volume take the
place of one another, and the sum has 16 bits, so that a producer with many low levels can look loud.
-/

namespace MediasoupWorker.RTC

open Library BitVec List

structure AudioLevelObserver.DBovs where
  totalSum : BitVec 16 := 0
  count : ℕ := 0
  deriving DecidableEq, Repr

structure AudioLevelObserver (P : Type) where
  maxEntries : ℕ
  threshold : ℤ
  paused : Bool := false
  mapProducerDBovs : P → Option AudioLevelObserver.DBovs := fun _ => none
  silence : Bool := true

namespace AudioLevelObserver

variable {P : Type}

inductive Notification (P : Type) where
  | volumes (data : List (P × ℤ))
  | silence

def Notification.data : Option (Notification P) → List (P × ℤ)
  | some (.volumes data) => data
  | some .silence => []
  | none => []

def toInt8 (x : ℤ) : ℤ := (BitVec.ofInt 8 x).toInt

def level (byte : Byte) : ℕ := (byte &&& 0x7F).toNat

def DBovs.add (dBovs : DBovs) (volume : ℕ) : DBovs where
  totalSum := dBovs.totalSum + BitVec.ofNat 16 volume
  count := dBovs.count + 1

def DBovs.avgDBov (dBovs : DBovs) : ℤ := -1 * toInt8 (dBovs.totalSum.toNat / dBovs.count : ℕ)

def resetMapProducerDBovs (s : AudioLevelObserver P) : AudioLevelObserver P :=
  { s with mapProducerDBovs := fun producer => (s.mapProducerDBovs producer).map fun _ => {} }

section Members

variable [DecidableEq P]

def addProducer (s : AudioLevelObserver P) (producer : P) (kind : Media.Kind) :
    Except Fault (AudioLevelObserver P) := do
  throwTypeErrorIf (kind != .audio) "not an audio Producer"
  .ok { s with
    mapProducerDBovs := Function.update s.mapProducerDBovs producer
      (some ((s.mapProducerDBovs producer).getD {})) }

def removeProducer (s : AudioLevelObserver P) (producer : P) : AudioLevelObserver P :=
  { s with mapProducerDBovs := Function.update s.mapProducerDBovs producer none }

def producerResumed (s : AudioLevelObserver P) (producer : P) : AudioLevelObserver P :=
  { s with
    mapProducerDBovs := Function.update s.mapProducerDBovs producer
      (some ((s.mapProducerDBovs producer).getD {})) }

def receiveRtpPacket (s : AudioLevelObserver P) (packet : P × Option Byte) :
    Except Fault (AudioLevelObserver P) :=
  if s.paused then .ok s
  else
    match packet.2 with
    | none => .ok s
    | some byte =>
      match s.mapProducerDBovs packet.1 with
      | none => .error (.exception "std::out_of_range")
      | some dBovs =>
        .ok { s with
          mapProducerDBovs := Function.update s.mapProducerDBovs packet.1 (some (dBovs.add (level byte))) }

end Members

def pause (s : AudioLevelObserver P) : AudioLevelObserver P × Option (Notification P) :=
  if s.paused then (s, none)
  else
    let s := { s with paused := true }.resetMapProducerDBovs
    if s.silence then (s, none) else ({ s with silence := true }, some .silence)

def resume (s : AudioLevelObserver P) : AudioLevelObserver P := { s with paused := false }

def enter (threshold : ℤ) (m : OrderedMap ℤ P) (producer : P) (dBovs : DBovs) : OrderedMap ℤ P :=
  if dBovs.count < 10 then m
  else if dBovs.avgDBov ≥ threshold then m.insert (toInt8 dBovs.avgDBov) producer
  else m

def mapDBovsProducer (s : AudioLevelObserver P) (order : List P) : OrderedMap ℤ P :=
  order.foldl
    (fun m producer => (s.mapProducerDBovs producer).elim m (enter s.threshold m producer)) .empty

def update (s : AudioLevelObserver P) (order : List P) : AudioLevelObserver P × Option (Notification P) :=
  let mapDBovsProducer := s.mapDBovsProducer order
  let s := s.resetMapProducerDBovs
  if !mapDBovsProducer.entries.isEmpty then
    ({ s with silence := false },
      some (.volumes ((mapDBovsProducer.entries.reverse.take s.maxEntries).map fun e => (e.2, e.1))))
  else if !s.silence then ({ s with silence := true }, some .silence)
  else (s, none)

/-! ## An interval -/

structure Fresh (s : AudioLevelObserver P) (producers : Finset P) : Prop where
  running : s.paused = false
  mem : ∀ producer ∈ producers, s.mapProducerDBovs producer = some {}
  notMem : ∀ producer ∉ producers, s.mapProducerDBovs producer = none

def DBovs.ofLevels (levels : List ℕ) : DBovs where
  totalSum := BitVec.ofNat 16 levels.sum
  count := levels.length

variable [DecidableEq P]

def levels (packets : List (P × Option Byte)) (producer : P) : List ℕ :=
  packets.filterMap fun packet => if packet.1 = producer then packet.2.map level else none

def volume (packets : List (P × Option Byte)) (producer : P) : ℤ :=
  -((levels packets producer).sum / (levels packets producer).length : ℕ)

def measuredVolume (packets : List (P × Option Byte)) (producer : P) : ℤ :=
  -((levels packets producer).sum % 2 ^ 16 / (levels packets producer).length : ℕ)

def Reaches (threshold : ℤ) (packets : List (P × Option Byte)) (v : P → ℤ) (producer : P) : Prop :=
  10 ≤ (levels packets producer).length ∧ threshold ≤ v producer

instance (threshold : ℤ) (packets : List (P × Option Byte)) (v : P → ℤ) :
    DecidablePred (Reaches threshold packets v) := fun _ => inferInstanceAs (Decidable (_ ∧ _))

theorem level_le (b : Byte) : level b ≤ 127 := by
  unfold level
  revert b
  decide +kernel

theorem le_of_mem_levels {packets : List (P × Option Byte)} {pr : P} {n : ℕ} (h : n ∈ levels packets pr) :
    n ≤ 127 := by
  obtain ⟨p, -, hp⟩ := mem_filterMap.mp h
  split at hp
  · obtain ⟨b, -, rfl⟩ := Option.map_eq_some_iff.mp hp
    exact level_le b
  · cases hp

theorem average_le (packets : List (P × Option Byte)) (pr : P) {n : ℕ} (h : n ≤ (levels packets pr).sum) :
    n / (levels packets pr).length ≤ 127 := by
  have hsum := sum_le_card_nsmul (levels packets pr) 127 fun _ hn => le_of_mem_levels hn
  rw [smul_eq_mul] at hsum
  exact Nat.div_le_of_le_mul (h.trans hsum)

theorem toInt8_eq_self {x : ℤ} (hlow : -127 ≤ x) (hhigh : x ≤ 127) : toInt8 x = x := by
  rw [toInt8, toInt_ofInt, Int.bmod_eq_of_le (by omega) (by omega)]

theorem avgDBov_ofLevels (packets : List (P × Option Byte)) (producer : P) :
    (DBovs.ofLevels (levels packets producer)).avgDBov = measuredVolume packets producer := by
  have hle := average_le packets producer (Nat.mod_le _ (2 ^ 16))
  simp only [DBovs.avgDBov, DBovs.ofLevels, measuredVolume, toNat_ofNat, neg_one_mul]
  rw [toInt8_eq_self ((neg_nonpos.mpr (by decide)).trans (Int.natCast_nonneg _)) (Int.ofNat_le.mpr hle)]

theorem toInt8_measuredVolume (packets : List (P × Option Byte)) (producer : P) :
    toInt8 (measuredVolume packets producer) = measuredVolume packets producer := by
  have hle := Int.ofNat_le.mpr (average_le packets producer (Nat.mod_le _ (2 ^ 16)))
  exact toInt8_eq_self (neg_le_neg hle) ((neg_nonpos.mpr (Int.natCast_nonneg _)).trans (by decide))

theorem ofLevels_add (l : List ℕ) (n : ℕ) : (DBovs.ofLevels l).add n = DBovs.ofLevels (l ++ [n]) := by
  simp [DBovs.add, DBovs.ofLevels, ofNat_add]

structure Sums (s : AudioLevelObserver P) (producers : Finset P) (packets : List (P × Option Byte))
    (s' : AudioLevelObserver P) : Prop where
  maxEntries_eq : s'.maxEntries = s.maxEntries
  threshold_eq : s'.threshold = s.threshold
  running : s'.paused = false
  sum : ∀ producer ∈ producers, s'.mapProducerDBovs producer = some (.ofLevels (levels packets producer))
  notMem : ∀ producer ∉ producers, s'.mapProducerDBovs producer = none

theorem levels_append (packets : List (P × Option Byte)) (p : P × Option Byte) (pr : P) :
    levels (packets ++ [p]) pr = levels packets pr ++ (if p.1 = pr then p.2.map level else none).toList := by
  rw [levels, filterMap_append]
  rfl

theorem receiveRtpPacket_spec {s s' : AudioLevelObserver P} {producers : Finset P}
    {packets : List (P × Option Byte)} {p : P × Option Byte} (h : Sums s producers packets s')
    (hmem : p.1 ∈ producers) :
    ∃ s'', s'.receiveRtpPacket p = .ok s'' ∧ Sums s producers (packets ++ [p]) s'' := by
  obtain ⟨sender, ext⟩ := p
  rw [receiveRtpPacket, h.running, if_neg Bool.false_ne_true]
  cases ext with
  | none =>
    refine ⟨s', rfl, h.maxEntries_eq, h.threshold_eq, h.running, fun pr hpr => ?_, h.notMem⟩
    rw [h.sum pr hpr, levels_append]
    simp
  | some b =>
    simp only [h.sum sender hmem]
    refine ⟨_, rfl, h.maxEntries_eq, h.threshold_eq, rfl, fun pr hpr => ?_, fun pr hpr => ?_⟩
    rotate_left
    · have hne : pr ≠ sender := fun heq => hpr (heq ▸ hmem)
      exact (Function.update_of_ne hne _ _).trans (h.notMem pr hpr)
    rw [levels_append]
    by_cases hsame : pr = sender
    · subst hsame
      simp [ofLevels_add]
    · simp [Function.update_of_ne hsame, Ne.symm hsame, h.sum pr hpr]

/-- **The sums at the end of an interval.** -/
theorem run_receiveRtpPacket {s : AudioLevelObserver P} {producers : Finset P} (hfresh : s.Fresh producers)
    {packets : List (P × Option Byte)} (hps : ∀ p ∈ packets, p.1 ∈ producers) :
    ∃ s', run receiveRtpPacket s packets = .ok s' ∧ Sums s producers packets s' := by
  refine run_ok_of_history_inv (I := fun pre s' => Sums s producers pre s') ?_ ?_
  · exact ⟨rfl, rfl, hfresh.running, hfresh.mem, hfresh.notMem⟩
  · intro pre p s' hpre hs'
    refine receiveRtpPacket_spec hs' (hps p ( hpre.subset ?_))
    exact mem_append_right _ (mem_singleton_self p)

/-! ## The report -/

theorem enter_ofLevels (thr : ℤ) (packets : List (P × Option Byte)) (m : OrderedMap ℤ P) (producer : P) :
    enter thr m producer (.ofLevels (levels packets producer)) =
      if Reaches thr packets (measuredVolume packets) producer then
        m.insert (measuredVolume packets producer) producer
      else m := by
  rw [enter, avgDBov_ofLevels, toInt8_measuredVolume]
  by_cases hn : (DBovs.ofLevels (levels packets producer)).count < 10
  · rw [if_pos hn, if_neg fun h => absurd h.1 (not_le.mpr hn)]
  · rw [if_neg hn]
    have hten : 10 ≤ (levels packets producer).length := not_lt.mp hn
    exact if_congr (by simp [Reaches, hten]) rfl rfl

variable {s s' : AudioLevelObserver P} {producers : Finset P} {packets : List (P × Option Byte)}

theorem mapDBovsProducer_eq (h : Sums s producers packets s') (order : List P)
    (hord : ∀ pr ∈ order, pr ∈ producers) : s'.mapDBovsProducer order = indexBy (measuredVolume packets)
      (order.filter fun p => decide (Reaches s.threshold packets (measuredVolume packets) p)) := by
  rw [mapDBovsProducer, indexBy, foldl_filter]
  refine foldl_ext _ _ _ fun m pr hpr => ?_
  rw [h.sum pr (hord pr hpr), h.threshold_eq]
  simp only [Option.elim_some, enter_ofLevels, decide_eq_true_eq]

/-- **The report is a ranking** of the volumes that are measured. -/
theorem report_eq_ranking (h : Sums s producers packets s') {order : List P}
    (hord : order.toFinset = producers) :
    Notification.data (s'.update order).2 = ranking s.maxEntries (measuredVolume packets)
      (order.filter fun p => decide (Reaches s.threshold packets (measuredVolume packets) p)) := by
  have hmap := mapDBovsProducer_eq h order fun p hp => hord ▸ List.mem_toFinset.mpr hp
  rw [ranking, ← hmap, OrderedMap.top, ← h.maxEntries_eq]
  unfold update
  simp only
  split_ifs with hnil hsilence
  · rfl
  all_goals
    rw [Bool.not_eq_true, Bool.not_eq_false', List.isEmpty_iff] at hnil
    rw [hnil]
    simp [Notification.data]

theorem overestimates (thr : ℤ) (producers : Finset P) (packets : List (P × Option Byte)) :
    Overestimates (producers.filter (Reaches thr packets (volume packets))) (volume packets)
      (producers.filter fun p => decide (Reaches thr packets (measuredVolume packets) p))
      (measuredVolume packets) := by
  have hle (p : P) : volume packets p ≤ measuredVolume packets p :=
    neg_le_neg (Int.ofNat_le.mpr (Nat.div_le_div_right (Nat.mod_le _ _)))
  refine ⟨fun p hp => ?_, fun p _ => hle p, fun p hp heq => ?_⟩
  · obtain ⟨hmem, hn, hreach⟩ := Finset.mem_filter.mp hp
    exact Finset.mem_filter.mpr ⟨hmem, decide_eq_true ⟨hn, hreach.trans (hle p)⟩⟩
  · obtain ⟨hmem, hreaches⟩ := Finset.mem_filter.mp hp
    obtain ⟨hn, hreach⟩ := of_decide_eq_true hreaches
    exact Finset.mem_filter.mpr ⟨hmem, hn, heq ▸ hreach⟩

variable (s producers packets) in
def ReportsLoudest (order : List P) : Prop :=
  ∃ s', run receiveRtpPacket s packets = .ok s' ∧
    IsTop s.maxEntries (producers.filter (Reaches s.threshold packets (volume packets))) (volume packets)
      (Notification.data (s'.update order).2)

theorem reportsLoudest_iff (hfresh : s.Fresh producers) (hps : ∀ pkt ∈ packets, pkt.1 ∈ producers)
    {order : List P} (hord : order.toFinset = producers) : s.ReportsLoudest producers packets order ↔
      IsTop s.maxEntries (producers.filter (Reaches s.threshold packets (volume packets))) (volume packets)
        (ranking s.maxEntries (measuredVolume packets)
          (order.filter fun p => decide (Reaches s.threshold packets (measuredVolume packets) p))) := by
  obtain ⟨s', hrun, hsums⟩ := run_receiveRtpPacket hfresh hps
  rw [← report_eq_ranking hsums hord]
  constructor
  · rintro ⟨t, ht, htop⟩
    rw [hrun] at ht
    cases ht
    exact htop
  · exact fun htop => ⟨s', hrun, htop⟩

def considered (threshold : ℤ) (producers : Finset P) (packets : List (P × Option Byte)) : Finset P :=
  producers.filter fun p => decide (Reaches threshold packets (measuredVolume packets) p)

variable (s producers packets) in
structure Discernible : Prop where
  right : Right s.maxEntries (volume packets) (considered s.threshold producers packets) (measuredVolume packets)
  untied : Untied s.maxEntries (measuredVolume packets) (considered s.threshold producers packets)

/-- **When the report has the loudest producers**, in whatever order the map is walked. -/
theorem reports_loudest_iff (s : AudioLevelObserver P) (producers : Finset P)
    (hfresh : s.Fresh producers) (packets : List (P × Option Byte))
    (hpackets : ∀ packet ∈ packets, packet.1 ∈ producers) :
    (∀ order : List P, order.Nodup → order.toFinset = producers → s.ReportsLoudest producers packets order) ↔
      s.Discernible producers packets := by
  have hiff := forall_isTop_iff (n := s.maxEntries) (overestimates s.threshold producers packets)
  constructor
  · intro h
    obtain ⟨hright, huntied⟩ := hiff.mp fun order hnodup horder =>
      (reportsLoudest_iff hfresh hpackets horder).mp (h order hnodup horder)
    exact ⟨hright, huntied⟩
  · intro h order hnodup horder
    exact (reportsLoudest_iff hfresh hpackets horder).mpr (hiff.mpr ⟨h.right, h.untied⟩ order hnodup horder)

def observer : AudioLevelObserver Bool where
  maxEntries := 2
  threshold := -80
  mapProducerDBovs := fun _ => some {}

theorem observer_fresh : observer.Fresh Finset.univ where
  running := rfl
  mem := fun _ _ => rfl
  notMem := fun pr h => absurd (Finset.mem_univ pr) h

def packetsOf (n m : ℕ) (byte byte' : Byte) : List (Bool × Option Byte) :=
  List.replicate n (false, some byte) ++ List.replicate m (true, some byte')

theorem reports_both : observer.ReportsLoudest Finset.univ (packetsOf 10 10 0x0A 0x14) [false, true] :=
  (reports_loudest_iff observer Finset.univ observer_fresh _ fun _ _ => Finset.mem_univ _).mpr
    ⟨by decide +kernel, by decide +kernel⟩ [false, true] (by decide) (by decide)

/-- **Two producers with the same volume take the place of one another**, and a producer that is silent, with
517 packets of level 127, is reported as a loud one. -/
theorem not_reports_loudest :
    ¬ observer.ReportsLoudest Finset.univ (packetsOf 10 10 0x0A 0x0A) [false, true] ∧
    ¬ observer.ReportsLoudest Finset.univ (packetsOf 517 0 0x7F 0x7F) [false, true] := by
  constructor
  all_goals
    rw [reportsLoudest_iff observer_fresh (fun _ _ => Finset.mem_univ _) (by decide)]
    intro h
    exact absurd h.length_eq (by decide +kernel)

end AudioLevelObserver

end MediasoupWorker.RTC
