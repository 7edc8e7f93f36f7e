import MediasoupWorker.Library.Runs
import MediasoupWorker.RTC.SeqManagerSegments

/-!
# `SeqManager`: the order of the dropped inputs

`src/src/RTC/SeqManager.cpp`. The dropped inputs are a `std::set` with the circular comparison, which is an
order only on half a circle, and what is older is erased by `Input` alone. A `Drop` half a circle
after a dropped input that is still there puts two values into the set that compare the wrong way round.
-/

namespace MediasoupWorker.RTC

open Library List

structure OrderedRun (w : ℕ) where
  manager : SeqManager w
  newest : BitVec w
  drops : ℕ := 0
  deriving DecidableEq, Repr

namespace OrderedRun

variable {w : ℕ}

def sync (s : SeqManager w) (x : BitVec w) : OrderedRun w where
  manager := s.sync x
  newest := x

def step (t : OrderedRun w) (op : SeqOp w) : OrderedRun w where
  manager := t.manager.apply op
  newest := op.value
  drops := t.drops + if op.isDrop then 1 else 0

def InOrder (t : OrderedRun w) (op : SeqOp w) : Prop :=
  0 < cdist t.newest op.value ∧ cdist t.newest op.value ≤ maxValue w / 2

def Close (t : OrderedRun w) (op : SeqOp w) : Prop :=
  op.isDrop = true → isSeqHigherThan op.value t.manager.maxInput = true ∧
    ∀ d ∈ t.manager.dropped, cdist d op.value ≤ maxValue w / 2

instance (t : OrderedRun w) (op : SeqOp w) : Decidable (t.InOrder op) :=
  inferInstanceAs (Decidable (_ ∧ _))

instance (t : OrderedRun w) (op : SeqOp w) : Decidable (t.Close op) :=
  have := List.decidableBAll (fun d => cdist d op.value ≤ maxValue w / 2) t.manager.dropped
  inferInstanceAs (Decidable (_ → _ ∧ _))

/-! ## One call -/

structure Aged (b : BitVec w) (t : OrderedRun w) : Prop where
  window : ∀ d ∈ t.manager.dropped, cdist d t.newest ≤ maxValue w / 2
  sorted : t.manager.dropped.Pairwise fun d e => cdist e t.newest < cdist d t.newest
  base : t.manager.base - BitVec.ofNat w t.manager.dropped.length = b - BitVec.ofNat w t.drops

namespace Aged

variable {b v : BitVec w} {t : OrderedRun w}

section

variable (hw : 0 < w) (h : t.Aged b) (hle : cdist t.newest v ≤ maxValue w / 2)

include hw h hle

theorem later {d : BitVec w} (hd : d ∈ t.manager.dropped) :
    cdist d v = cdist d t.newest + cdist t.newest v := by
  have hdbl := two_pow_eq_double hw
  have := h.window d hd
  exact cdist_trans (by omega)

theorem sorted_later : t.manager.dropped.Pairwise fun d e => cdist e v < cdist d v :=
  h.sorted.imp_of_mem fun hd he hlt => by
    rw [later hw h hle hd, later hw h hle he]
    omega

theorem lower_of_close (hpos : 0 < cdist t.newest v) {l : List (BitVec w)}
    (hl : ∀ d ∈ l, d ∈ t.manager.dropped) (hclose : ∀ d ∈ l, cdist d v ≤ maxValue w / 2) :
    ∀ d ∈ l, isSeqLowerThan d v = true := by
  intro d hd
  rw [isSeqLowerThan_iff_cdist_to hw (v := v) (by simp) (by simpa using hclose d hd), cdist_self,
    later hw h hle (hl d hd)]
  exact Nat.lt_add_left _ hpos

theorem drop (hpos : 0 < cdist t.newest v) (hhi : isSeqHigherThan v t.manager.maxInput = true)
    (hclose : ∀ d ∈ t.manager.dropped, cdist d v ≤ maxValue w / 2) : (t.step (.drop v)).Aged b := by
  have hs : t.step (.drop v) = ⟨{ t.manager with dropped := t.manager.dropped ++ [v] }, v, t.drops + 1⟩ := by
    rw [step, SeqManager.apply, SeqManager.drop_of_higher hhi,
      insertOrdered_eq_append (lower_of_close hw h hle hpos (fun _ => id) hclose)]
    rfl
  rw [hs]
  refine ⟨?_, ?_, ?_⟩
  · refine forall_mem_append.mpr ⟨hclose, forall_mem_singleton.mpr ?_⟩
    rw [cdist_self]
    exact Nat.zero_le _
  · refine pairwise_append.mpr ⟨sorted_later hw h hle, pairwise_singleton _ _, ?_⟩
    intro d hd e he
    rw [mem_singleton.mp he, cdist_self, later hw h hle hd]
    exact Nat.lt_add_left _ hpos
  · have hbase := h.base
    simp only [length_append, length_singleton, BitVec.ofNat_add, ← sub_sub] at hbase ⊢
    rw [hbase]

theorem erase : (∀ d ∈ (t.manager.erase v).dropped, d ∈ t.manager.dropped ∧ cdist d v ≤ maxValue w / 2) ∧
    (t.manager.erase v).dropped.Pairwise (fun d e => cdist e v < cdist d v) ∧
    (t.manager.erase v).base - BitVec.ofNat w (t.manager.erase v).dropped.length =
      b - BitVec.ofNat w t.drops := by
  have hdbl := two_pow_eq_double hw
  have hdrop : (t.manager.erase v).dropped =
      t.manager.dropped.dropWhile (isSeqLowerThan · (SeqManager.eraseKey v)) :=
    (dropWhile_eq_drop_findIdx_not ..).symm
  have hsub : (t.manager.erase v).dropped.Sublist t.manager.dropped := drop_sublist _ _
  refine ⟨fun d hd => ⟨hsub.subset hd, ?_⟩, (sorted_later hw h hle).sublist hsub, ?_⟩
  · rw [hdrop] at hd
    refine not_lt.mp fun hold => ?_
    have hlow (d : BitVec w) (hd : d ∈ t.manager.dropped) :
        isSeqLowerThan d (SeqManager.eraseKey v) = true ↔ maxValue w / 2 < cdist d v := by
      have hkey := cdist_eraseKey hw v
      have hwin := h.window d hd
      rw [isSeqLowerThan_iff_cdist_to hw (v := v) hkey.le (by rw [later hw h hle hd]; omega), hkey]
    have hnot := not_of_mem_dropWhile (sorted_later hw h hle) (fun d hd e he hlt hp => by
      rw [hlow _ hd]
      rw [hlow _ he] at hp
      omega) hd
    exact hnot ((hlow d (dropWhile_sublist _ |>.subset hd)).mpr hold)
  · have hlen : (t.manager.erase v).dropped.length ≤ t.manager.dropped.length := hsub.length_le
    have hbase : (t.manager.erase v).base = t.manager.base -
      BitVec.ofNat w (t.manager.dropped.length - (t.manager.erase v).dropped.length) := rfl
    rw [hbase, ← h.base, sub_sub, ← BitVec.ofNat_add, Nat.sub_add_cancel hlen]

variable (hpos : 0 < cdist t.newest v)

include hpos

theorem input_eq : t.manager.input v = (t.manager.erase v).accept (b - BitVec.ofNat w t.drops) v := by
  obtain ⟨hmem, -, hbase⟩ := erase hw h hle
  have hall : lowerBound isSeqLowerThan (t.manager.erase v).dropped v = (t.manager.erase v).dropped.length :=
    lowerBound_eq_length (lower_of_close hw h hle hpos (fun d hd => (hmem d hd).1) fun d hd =>
      (hmem d hd).2)
  rw [SeqManager.input]
  split_ifs with hnil
  · have hnone : t.manager.dropped = [] := isEmpty_iff.mp hnil
    have hsame : t.manager.erase v = t.manager :=
      SeqManager.erase_of_nothing_erased fun d hd => absurd (hnone ▸ hd) not_mem_nil
    rw [hsame, hnone, length_nil, show BitVec.ofNat w 0 = 0 from rfl, sub_zero] at hbase
    rw [hsame, hbase]
  · dsimp only
    rw [hall, if_neg (by simp), Nat.sub_self, Nat.sub_zero, hbase]

theorem input : (t.step (.input v)).Aged b := by
  obtain ⟨hmem, hsorted, hbase⟩ := erase hw h hle
  have hs : (t.step (.input v)).manager = ((t.manager.erase v).accept (b - BitVec.ofNat w t.drops) v).1 :=
    congrArg Prod.fst (input_eq hw h hle hpos)
  refine ⟨?_, ?_, ?_⟩
  all_goals rw [hs]
  · exact fun d hd => (hmem d hd).2
  · exact hsorted
  · exact hbase

end

theorem step (hw : 0 < w) (h : t.Aged b) {op : SeqOp w} (hop : t.InOrder op) (hclose : t.Close op) :
    (t.step op).Aged b := by
  obtain ⟨hpos, hle⟩ := hop
  cases op with
  | drop v =>
    obtain ⟨hhi, hclose⟩ := hclose rfl
    exact drop hw h hle hpos hhi hclose
  | input v => exact input hw h hle hpos

end Aged

def spacedDrops : List (SeqOp 16) :=
  [.input 65534, .drop 65535, .drop 0, .input 20000, .input 33000, .drop 33001, .input 33003]

def lateDrop : List (SeqOp 8) :=
  .drop 1 :: (List.range 127).map (fun i => .input (BitVec.ofNat 8 (i + 2))) ++ [.drop 129]

def lateDropAfterLoss : List (SeqOp 16) := [.drop 1, .input 16384, .input 32768, .drop 32769]

end OrderedRun

end MediasoupWorker.RTC
