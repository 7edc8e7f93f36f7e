import MediasoupWorker.Library.Runs
import MediasoupWorker.RTC.SeqManagerSegments

/-!
# `SeqManager` when packets arrive out of order

After one `Sync(x - 1)`, `Input` and `Drop` come in any order on the half circle above `x`. `Input` erases
what `SeqLowerThan` puts below `input - MaxValue / 2`. For a late input a dropped input ahead of it is,
around the circle, below that value as well, and two packets leave with one sequence number
(`reordering_duplicate_output`).
-/

namespace MediasoupWorker.RTC

open Library List

@[ext]
structure SeqTrace (w : ℕ) where
  manager : SeqManager w
  sent : List (BitVec w × BitVec w) := []
  deriving DecidableEq, Repr

namespace SeqTrace

variable {w : ℕ}

def sentBy (s : SeqManager w) : SeqOp w → List (BitVec w × BitVec w)
  | .drop _ => []
  | .input v => ((s.input v).2.map fun output => (v, output)).toList

def step (t : SeqTrace w) (op : SeqOp w) : SeqTrace w :=
  { manager := t.manager.apply op, sent := t.sent ++ sentBy t.manager op }

def ErasesNothing (t : SeqTrace w) : SeqOp w → Prop
  | .drop _ => True
  | .input v => t.manager.NothingErased v

instance (t : SeqTrace w) : (op : SeqOp w) → Decidable (t.ErasesNothing op)
  | .drop _ => isTrue trivial
  | .input v => inferInstanceAs (Decidable (t.manager.NothingErased v))

end SeqTrace

def droppedBefore {w : ℕ} (p : BitVec w) (dropped : List (BitVec w)) (v : BitVec w) : ℕ :=
  dropped.countP fun d => cdist p d < cdist p v

/-! ## The invariant -/

structure ReorderInv {w : ℕ} (p b : BitVec w) (ops : List (SeqOp w)) (t : SeqTrace w) : Prop where
  base : t.manager.base = b
  maxInput_window : cdist p t.manager.maxInput < maxValue w / 2
  dropped_sorted : t.manager.dropped.Pairwise fun d e => cdist p d < cdist p e
  dropped_window : ∀ d ∈ t.manager.dropped, cdist p d < maxValue w / 2
  dropped_seen : ∀ d ∈ t.manager.dropped, d ∈ ops.map SeqOp.value
  sent_seen : ∀ u a, (u, a) ∈ t.sent → u ∈ ops.map SeqOp.value
  sent_le : ∀ u a, (u, a) ∈ t.sent → cdist p u ≤ cdist p t.manager.maxInput
  sent_not_dropped : ∀ u a, (u, a) ∈ t.sent → u ∉ t.manager.dropped
  sent_output : ∀ u a, (u, a) ∈ t.sent → a = u + b - BitVec.ofNat w (droppedBefore p t.manager.dropped u)

section Dropping

variable {w : ℕ} {p v : BitVec w} {dropped : List (BitVec w)}

theorem droppedBefore_insertOrdered {u : BitVec w} (h : cdist p u ≤ cdist p v) :
    droppedBefore p (insertOrdered isSeqLowerThan v dropped) u = droppedBefore p dropped u := by
  rw [droppedBefore, countP_insertOrdered_of_neg (by simpa using h), droppedBefore]

end Dropping

namespace ReorderInv

variable {w : ℕ} {p b : BitVec w} {ops : List (SeqOp w)} {t : SeqTrace w} {v : BitVec w}

theorem lower_iff (hw : 0 < w) {d e : BitVec w} (hd : cdist p d < maxValue w / 2)
    (he : cdist p e < maxValue w / 2) : isSeqLowerThan d e = true ↔ cdist p d < cdist p e :=
  isSeqLowerThan_iff_cdist hw (le_of_lt hd) (le_of_lt he)

variable {u : BitVec w}

theorem mem_values_snoc (op : SeqOp w) (hu : u ∈ ops.map SeqOp.value) :
    u ∈ (ops ++ [op]).map SeqOp.value := by
  rw [map_append]
  exact mem_append_left _ hu

section

variable (hw : 0 < w) (h : ReorderInv p b ops t) (hv : cdist p v < maxValue w / 2)

include hw h hv

theorem step_drop (hnew : v ∉ ops.map SeqOp.value) :
    ReorderInv p b (ops ++ [.drop v]) (t.step (.drop v)) := by
  have hsent : (t.step (.drop v)).sent = t.sent := by simp [SeqTrace.step, SeqTrace.sentBy]
  by_cases hhigh : isSeqLowerThan t.manager.maxInput v = true
  · have hman : (t.step (.drop v)).manager = { t.manager with
        dropped := insertOrdered isSeqLowerThan v t.manager.dropped } :=
      SeqManager.drop_of_higher hhigh
    have hlt := (lower_iff hw h.maxInput_window hv).mp hhigh
    constructor
    case base => rw [hman]; exact h.base
    case maxInput_window => rw [hman]; exact h.maxInput_window
    case dropped_sorted =>
      rw [hman]
      refine pairwise_insertOrdered h.dropped_sorted fun d hd => ⟨?_, ?_⟩
      · exact lower_iff hw (h.dropped_window d hd) hv
      · exact lower_iff hw hv (h.dropped_window d hd)
    case dropped_window =>
      rw [hman]
      intro d hd
      rcases mem_of_mem_insertOrdered hd with rfl | hd'
      · exact hv
      · exact h.dropped_window d hd'
    case dropped_seen =>
      rw [hman]
      intro d hd
      rcases mem_of_mem_insertOrdered hd with rfl | hd'
      · simp
      · exact mem_values_snoc _ (h.dropped_seen d hd')
    case sent_seen =>
      rw [hsent]
      exact fun u a hu => mem_values_snoc _ (h.sent_seen u a hu)
    case sent_le =>
      rw [hsent, hman]
      exact h.sent_le
    case sent_not_dropped =>
      rw [hsent, hman]
      intro u a hu hmem
      rcases mem_of_mem_insertOrdered hmem with rfl | hd'
      · exact hnew (h.sent_seen u a hu)
      · exact h.sent_not_dropped u a hu hd'
    case sent_output =>
      rw [hsent, hman]
      intro u a hu
      have hle : cdist p u ≤ cdist p v := le_of_lt (lt_of_le_of_lt (h.sent_le u a hu) hlt)
      rw [h.sent_output u a hu, droppedBefore_insertOrdered hle]
  · have hman : (t.step (.drop v)).manager = t.manager := SeqManager.drop_of_not_higher hhigh
    rw [show t.step (.drop v) = t from SeqTrace.ext hman hsent]
    exact { h with
      dropped_seen := fun d hd => mem_values_snoc _ (h.dropped_seen d hd)
      sent_seen := fun u a hu => mem_values_snoc _ (h.sent_seen u a hu) }

theorem input_eq (hnew : v ∉ ops.map SeqOp.value) (hno : t.manager.NothingErased v) :
    t.manager.input v = t.manager.accept (b - BitVec.ofNat w (droppedBefore p t.manager.dropped v)) v := by
  have hn : lowerBound isSeqLowerThan t.manager.dropped v = droppedBefore p t.manager.dropped v :=
    lowerBound_eq_countP h.dropped_sorted fun d hd => lower_iff hw (h.dropped_window d hd) hv
  have hfresh : t.manager.dropped[lowerBound isSeqLowerThan t.manager.dropped v]? ≠ some v :=
    fun hget => hnew (h.dropped_seen v (mem_of_getElem? hget))
  rw [SeqManager.input_of_nothing_erased hno, if_neg hfresh, hn, h.base]

theorem cdist_maxInput_accept (b' : BitVec w) :
    cdist p (t.manager.accept b' v).1.maxInput = max (cdist p t.manager.maxInput) (cdist p v) := by
  have hmax := h.maxInput_window
  have hdbl := two_pow_eq_double hw
  rw [SeqManager.accept_maxInput]
  rcases lt_or_ge (cdist p v) (cdist p t.manager.maxInput) with hlt | hge
  · have e : cdist t.manager.maxInput v = 2 ^ w - (cdist p t.manager.maxInput - cdist p v) :=
      toNat_sub_of_cdist_lt hlt
    rw [if_neg (by omega), max_eq_left (le_of_lt hlt)]
  · have e : cdist t.manager.maxInput v = cdist p v - cdist p t.manager.maxInput :=
      toNat_sub_of_cdist_le hge
    rw [if_pos (by omega), max_eq_right hge]

theorem step_input (hnew : v ∉ ops.map SeqOp.value) (hno : t.manager.NothingErased v) :
    ReorderInv p b (ops ++ [.input v]) (t.step (.input v)) := by
  set n := droppedBefore p t.manager.dropped v with hn
  have hin := h.input_eq hw hv hnew hno
  have hman : (t.step (.input v)).manager = (t.manager.accept (b - BitVec.ofNat w n) v).1 := by
    rw [SeqTrace.step, SeqManager.apply, hin]
  have hsent : (t.step (.input v)).sent = t.sent ++ [(v, v + (b - BitVec.ofNat w n))] := by
    rw [SeqTrace.step, SeqTrace.sentBy, hin]
    rfl
  have hmax := h.cdist_maxInput_accept hw hv (b - BitVec.ofNat w n)
  -- every fact about a sent pair is the old one, or about the new pair
  have hcases : ∀ u a, (u, a) ∈ (t.step (.input v)).sent →
      (u, a) ∈ t.sent ∨ (u = v ∧ a = v + (b - BitVec.ofNat w n)) := by
    intro u a hu
    rw [hsent] at hu
    rcases mem_append.mp hu with hold | hlast
    · exact .inl hold
    · exact .inr (Prod.mk.injEq .. ▸ mem_singleton.mp hlast)
  constructor
  case base => rw [hman, SeqManager.accept_base, h.base]
  case maxInput_window => rw [hman, hmax]; exact max_lt h.maxInput_window hv
  case dropped_sorted => rw [hman]; exact h.dropped_sorted
  case dropped_window => rw [hman]; exact h.dropped_window
  case dropped_seen =>
    rw [hman]
    exact fun d hd => mem_values_snoc _ (h.dropped_seen d hd)
  case sent_seen =>
    intro u a hu
    rcases hcases u a hu with hold | ⟨rfl, -⟩
    · exact mem_values_snoc _ (h.sent_seen u a hold)
    · simp
  case sent_le =>
    intro u a hu
    rw [hman, hmax]
    rcases hcases u a hu with hold | ⟨rfl, -⟩
    · exact le_max_of_le_left (h.sent_le u a hold)
    · exact le_max_right _ _
  case sent_not_dropped =>
    rw [hman, SeqManager.accept_dropped]
    intro u a hu
    rcases hcases u a hu with hold | ⟨rfl, -⟩
    · exact h.sent_not_dropped u a hold
    · exact fun hd => hnew (h.dropped_seen _ hd)
  case sent_output =>
    rw [hman, SeqManager.accept_dropped]
    intro u a hu
    rcases hcases u a hu with hold | ⟨rfl, rfl⟩
    · exact h.sent_output u a hold
    · rw [hn]
      ring

end

theorem step (hw : 0 < w) (h : ReorderInv p b ops t) {op : SeqOp w} (hv : cdist p op.value < maxValue w / 2)
    (hnew : op.value ∉ ops.map SeqOp.value) (hno : t.ErasesNothing op) :
    ReorderInv p b (ops ++ [op]) (t.step op) := by
  cases op with
  | drop v => exact h.step_drop hw hv hnew
  | input v => exact h.step_input hw hv hnew hno

theorem exists_droppedBefore_eq_add (h : ReorderInv p b ops t) (hu : u ∉ t.manager.dropped)
    (huv : cdist p u < cdist p v) :
    ∃ n, droppedBefore p t.manager.dropped v = droppedBefore p t.manager.dropped u + n ∧
      cdist p u + n < cdist p v := by
  refine ⟨_, countP_key_split t.manager.dropped (le_of_lt huv), ?_⟩
  -- `u` itself was not dropped, so the range starts one position later
  have hskip : (t.manager.dropped.countP fun d => cdist p u ≤ cdist p d ∧ cdist p d < cdist p v) =
      t.manager.dropped.countP fun d => cdist p u + 1 ≤ cdist p d ∧ cdist p d < cdist p v := by
    refine countP_congr fun d hd => ?_
    have hne : cdist p u ≠ cdist p d := by
      intro he
      exact hu (cdist_inj.mp he ▸ hd)
    simp only [decide_eq_true_eq]
    omega
  have hle := countP_key_range_le h.dropped_sorted (cdist p u + 1) (cdist p v)
  rw [hskip]
  omega

/-- **Two outputs are in the order of their inputs.** -/
theorem outputs_lt (hw : 0 < w) (h : ReorderInv p b ops t) {a c : BitVec w} (hu : (u, a) ∈ t.sent)
    (hv : (v, c) ∈ t.sent) (huv : isSeqLowerThan u v = true) : a ≠ c ∧ isSeqLowerThan a c = true := by
  have hdbl := two_pow_eq_double hw
  have hmax := h.maxInput_window
  have hule := h.sent_le u a hu
  have hvle := h.sent_le v c hv
  have hlt : cdist p u < cdist p v := (lower_iff hw (by omega) (by omega)).mp huv
  obtain ⟨n, hn, hroom⟩ := h.exists_droppedBefore_eq_add (h.sent_not_dropped u a hu) hlt
  have hdist : cdist a c = cdist p v - cdist p u - n := by
    have hpos : (v - u).toNat = cdist p v - cdist p u := toNat_sub_of_cdist_le (le_of_lt hlt)
    have hofNat : (BitVec.ofNat w n).toNat = n := by
      rw [BitVec.toNat_ofNat, Nat.mod_eq_of_lt (by omega)]
    have hsplit : c - a = (v - u) - BitVec.ofNat w n := by
      rw [h.sent_output u a hu, h.sent_output v c hv, hn, BitVec.ofNat_add]
      ring
    have e : 2 ^ w - n + (cdist p v - cdist p u) = (cdist p v - cdist p u - n) + 2 ^ w := by
      omega
    rw [cdist, hsplit, BitVec.toNat_sub, hofNat, hpos, e, Nat.add_mod_right, Nat.mod_eq_of_lt (by omega)]
  have hlow : isSeqLowerThan a c = true := by
    rw [isSeqLowerThan_iff_cdist_self hw, hdist]
    omega
  refine ⟨?_, hlow⟩
  rintro rfl
  rw [cdist_self] at hdist
  omega

end ReorderInv

section Run

variable {w : ℕ}

theorem reorderInv_sync (hw : 1 < w) (s : SeqManager w) (p : BitVec w) :
    ReorderInv p (s.maxOutput - p) [] { manager := s.sync p } where
  base := rfl
  maxInput_window := by
    have hpow : 2 ^ (2 - 1) ≤ 2 ^ (w - 1) := Nat.pow_le_pow_right (by omega) (by omega)
    have hhalf := maxValue_div_two (w := w) (by omega)
    rw [SeqManager.sync_maxInput, cdist_self]
    omega
  dropped_sorted := List.Pairwise.nil
  dropped_window := by simp
  dropped_seen := by simp
  sent_seen := by simp
  sent_le := by simp
  sent_not_dropped := by simp
  sent_output := by simp

theorem reorderInv_foldl (hw : 1 < w) (s : SeqManager w) (x : BitVec w) {ops : List (SeqOp w)}
    (hwindow : ∀ op ∈ ops, cdist x op.value + 2 ≤ maxValue w / 2) (hdist : (ops.map SeqOp.value).Nodup)
    (hsteps : StepsMeet SeqTrace.step SeqTrace.ErasesNothing { manager := s.sync (x - 1) } ops) :
    ReorderInv (x - 1) (s.maxOutput - (x - 1)) ops
      (ops.foldl SeqTrace.step { manager := s.sync (x - 1) }) := by
  have hdbl := two_pow_eq_double (w := w) (by omega)
  refine foldl_inv (reorderInv_sync hw s (x - 1)) (fun pre op t hpre hinv hno => ?_) hsteps
  have hmem : op ∈ ops := hpre.subset (by simp)
  have hwin := hwindow op hmem
  have hnd : (pre.map SeqOp.value ++ [op.value]).Nodup := by
    have hsub := (hpre.map SeqOp.value).sublist.nodup hdist
    rwa [map_append] at hsub
  refine hinv.step (by omega) ?_ ?_ hno
  · rw [cdist_sub_one (by omega)]
    omega
  · exact fun hin => (nodup_append.mp hnd).2.2 _ hin _ (by simp) rfl

end Run

/-- **Reordering keeps the order of the outputs, as long as nothing is erased**, for inputs and
drops in any order on different values of the half circle. -/
theorem reordering_outputs_ordered (s : SeqManager 16) (x : BitVec 16) (ops : List (SeqOp 16))
    (hwindow : ∀ op ∈ ops, cdist x op.value ≤ 32765)
    (hdistinct : (ops.map SeqOp.value).Nodup)
    (hsteps : StepsMeet SeqTrace.step SeqTrace.ErasesNothing { manager := s.sync (x - 1) } ops)
    (u v a c : BitVec 16)
    (hu : (u, a) ∈ (ops.foldl SeqTrace.step { manager := s.sync (x - 1) }).sent)
    (hv : (v, c) ∈ (ops.foldl SeqTrace.step { manager := s.sync (x - 1) }).sent)
    (huv : isSeqLowerThan u v = true) : a ≠ c ∧ isSeqLowerThan a c = true := by
  have hhalf : maxValue 16 / 2 = 32767 := rfl
  refine (reorderInv_foldl (by decide) s x (fun op hop => ?_) hdistinct hsteps).outputs_lt
    (by decide) hu hv huv
  have := hwindow op hop
  omega

theorem reordering_outputs_ordered_late :
    ([.drop 10, .input 12, .input 11].foldl SeqTrace.step
      { manager := ({} : SeqManager 16).sync (10 - 1) }).sent = [(12, 2), (11, 1)] ∧
    (1 : BitVec 16) ≠ 2 ∧ isSeqLowerThan (1 : BitVec 16) 2 = true := by
  have hsent : ([.drop 10, .input 12, .input 11].foldl SeqTrace.step
      { manager := ({} : SeqManager 16).sync (10 - 1) }).sent = [(12, 2), (11, 1)] := by
    decide
  refine ⟨hsent, ?_⟩
  exact reordering_outputs_ordered {} 10 [.drop 10, .input 12, .input 11] (by decide) (by decide)
    (by decide) 11 12 1 2 (by rw [hsent]; simp) (by rw [hsent]; simp) (by decide)

/-- **The late input `2` leaves with the sequence number of `1`**: the drop of `5` ahead of it
counts as old, and is erased. -/
theorem reordering_duplicate_output :
    (∀ op ∈ ([.input 1, .drop 5, .input 2] : List (SeqOp 16)), cdist 0 op.value ≤ 32765) ∧
    (([.input 1, .drop 5, .input 2] : List (SeqOp 16)).map SeqOp.value).Nodup ∧
    ([.input 1, .drop 5, .input 2].foldl SeqTrace.step
      { manager := ({} : SeqManager 16).sync (0 - 1) }).sent = [(1, 2), (2, 2)] ∧
    isSeqLowerThan (1 : BitVec 16) 2 = true := by
  decide

end MediasoupWorker.RTC
