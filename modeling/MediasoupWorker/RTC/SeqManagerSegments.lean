import MediasoupWorker.RTC.SeqManager

/-!
# `SeqManager` over segments: no gaps in the output

A segment starts with `Sync(x - 1)` and goes on with `Input` and `Drop`. When its packets arrive in order
within half a circle of `x`, the outputs continue from the highest output before, and skip exactly the
dropped inputs.
-/

namespace MediasoupWorker.RTC

open Library List

inductive SeqOp (w : ℕ) where
  | drop (value : BitVec w)
  | input (value : BitVec w)
  deriving DecidableEq, Repr

namespace SeqOp

variable {w : ℕ}

def value : SeqOp w → BitVec w
  | .drop v => v
  | .input v => v

def isDrop : SeqOp w → Bool
  | .drop _ => true
  | .input _ => false

@[simp] theorem value_drop (v : BitVec w) : (drop v).value = v := rfl

@[simp] theorem value_input (v : BitVec w) : (input v).value = v := rfl

@[simp] theorem isDrop_drop (v : BitVec w) : (drop v).isDrop = true := rfl

@[simp] theorem isDrop_input (v : BitVec w) : (input v).isDrop = false := rfl

end SeqOp

namespace SeqManager

variable {w : ℕ}

def apply (s : SeqManager w) : SeqOp w → SeqManager w
  | .drop v => s.drop v
  | .input v => (s.input v).1

def runOps (s : SeqManager w) (ops : List (SeqOp w)) : SeqManager w := ops.foldl apply s

@[simp] theorem runOps_snoc (s : SeqManager w) (ops : List (SeqOp w)) (op : SeqOp w) :
    s.runOps (ops ++ [op]) = (s.runOps ops).apply op := by
  simp [runOps, foldl_append]

end SeqManager

structure Segment (w : ℕ) where
  start : BitVec w
  ops : List (SeqOp w)
  deriving DecidableEq, Repr

namespace Segment

variable {w : ℕ}

structure InOrder (g : Segment w) : Prop where
  window : ∀ op ∈ g.ops, cdist g.start op.value + 2 ≤ maxValue w / 2
  increasing : g.ops.Pairwise fun a b => cdist g.start a.value < cdist g.start b.value

def dropCount (ops : List (SeqOp w)) : ℕ := ops.countP SeqOp.isDrop

end Segment

def runSegment {w : ℕ} (s : SeqManager w) (g : Segment w) : SeqManager w :=
  (s.sync (g.start - 1)).runOps g.ops

def runSegments {w : ℕ} (s : SeqManager w) (gs : List (Segment w)) : SeqManager w :=
  gs.foldl runSegment s

/-! ## Positions in a segment -/

section Positions

variable {w : ℕ}

theorem cdist_sub_one {x v : BitVec w} (h : cdist x v + 1 < 2 ^ w) : cdist (x - 1) v = cdist x v + 1 := by
  have hsplit : v - (x - 1) = v - x + 1 := by ring
  have hone : (1 : BitVec w).toNat = 1 := by
    have hw : 1 < 2 ^ w := by omega
    have hmod : (1 : BitVec w).toNat = 1 % 2 ^ w := rfl
    rw [hmod, Nat.mod_eq_of_lt hw]
  unfold cdist at h ⊢
  rw [hsplit, BitVec.toNat_add, hone, Nat.mod_eq_of_lt h]

theorem cdist_eraseKey (hw : 0 < w) (v : BitVec w) : cdist (SeqManager.eraseKey v) v = maxValue w / 2 := by
  have hdbl := two_pow_eq_double hw
  exact cdist_sub_self (by omega)

theorem not_lower_eraseKey (hw : 0 < w) {p d v : BitVec w} (hdv : cdist p d ≤ cdist p v)
    (hv : cdist p v < maxValue w / 2) : isSeqLowerThan d (SeqManager.eraseKey v) = false := by
  have hkey := cdist_eraseKey hw v
  have hk : cdist d v = cdist p v - cdist p d := toNat_sub_of_cdist_le hdv
  rw [Bool.eq_false_iff, Ne, isSeqLowerThan_iff_cdist_to hw hkey.le (by omega), hkey]
  omega

end Positions

/-! ## Inside a segment -/

structure SegmentInv {w : ℕ} (m x : BitVec w) (ops : List (SeqOp w)) (s : SeqManager w) : Prop where
  base : s.base = m - (x - 1)
  dropped : s.dropped = (ops.filter SeqOp.isDrop).map SeqOp.value
  maxInput : s.maxInput = x - 1 ∨ ∃ op ∈ ops, s.maxInput = op.value

namespace SegmentInv

variable {w : ℕ} {m x : BitVec w} {ops : List (SeqOp w)} {s : SeqManager w}

theorem length_dropped (h : SegmentInv m x ops s) : s.dropped.length = Segment.dropCount ops := by
  rw [h.dropped, length_map, Segment.dropCount, countP_eq_length_filter]

theorem exists_op_of_mem_dropped (h : SegmentInv m x ops s) {d : BitVec w} (hd : d ∈ s.dropped) :
    ∃ op ∈ ops, d = op.value := by
  rw [h.dropped] at hd
  obtain ⟨op, hop, rfl⟩ := mem_map.mp hd
  exact ⟨op, (mem_filter.mp hop).1, rfl⟩

variable {v : BitVec w}

section

variable (hw : 0 < w) (h : SegmentInv m x ops s) (hv : cdist x v + 2 ≤ maxValue w / 2)
  (hlast : ∀ op ∈ ops, cdist x op.value < cdist x v)

include hw h hv hlast

theorem lower_next : (∀ d ∈ s.dropped, isSeqLowerThan d v = true) ∧ isSeqLowerThan s.maxInput v = true := by
  have hdbl := two_pow_eq_double hw
  have hlow : ∀ op ∈ ops, isSeqLowerThan op.value v = true := fun op hop =>
    (isSeqLowerThan_iff_cdist hw (p := x) (by have := hlast op hop; omega) (by omega)).mpr
      (hlast op hop)
  constructor
  · intro d hd
    obtain ⟨op, hop, rfl⟩ := h.exists_op_of_mem_dropped hd
    exact hlow op hop
  · rcases h.maxInput with he | ⟨op, hop, he⟩
    · rw [he, isSeqLowerThan_iff_cdist hw (p := x - 1) (by simp)
        (by rw [cdist_sub_one (by omega)]; omega), cdist_self, cdist_sub_one (by omega)]
      omega
    · rw [he]
      exact hlow op hop

theorem nothingErased_next : s.NothingErased v := by
  intro d hd
  obtain ⟨op, hop, rfl⟩ := h.exists_op_of_mem_dropped hd
  exact not_lower_eraseKey hw (p := x) (le_of_lt (hlast op hop)) (by omega)

theorem input_eq : s.input v = s.accept (s.base - BitVec.ofNat w (Segment.dropCount ops)) v := by
  have hall := lowerBound_eq_length (h.lower_next hw hv hlast).1
  rw [SeqManager.input_of_nothing_erased (h.nothingErased_next hw hv hlast), hall,
    if_neg (by simp), h.length_dropped]

end

theorem apply (hw : 0 < w) (h : SegmentInv m x ops s) {op : SeqOp w}
    (hv : cdist x op.value + 2 ≤ maxValue w / 2) (hlast : ∀ o ∈ ops, cdist x o.value < cdist x op.value) :
    SegmentInv m x (ops ++ [op]) (s.apply op) := by
  have hmax : s.maxInput = x - 1 ∨ ∃ o ∈ ops ++ [op], s.maxInput = o.value :=
    h.maxInput.imp_right fun ⟨o, ho, he⟩ => ⟨o, mem_append_left _ ho, he⟩
  cases op with
  | drop v =>
    obtain ⟨hd, hm⟩ := h.lower_next hw hv hlast
    rw [SeqOp.value_drop] at hd hm
    have hs : s.apply (.drop v) = { s with dropped := s.dropped ++ [v] } := by
      rw [SeqManager.apply, SeqManager.drop_of_higher hm, insertOrdered_eq_append hd]
    rw [hs]
    exact ⟨h.base, by simp [h.dropped, filter_cons], hmax⟩
  | input v =>
    have hs : s.apply (.input v) = (s.accept (s.base - BitVec.ofNat w (Segment.dropCount ops)) v).1 := by
      rw [SeqManager.apply, h.input_eq (v := v) hw hv hlast]
    rw [hs]
    refine ⟨h.base, ?_, ?_⟩
    · rw [SeqManager.accept_dropped, h.dropped, filter_append]
      simp
    · rw [SeqManager.accept_maxInput]
      split_ifs
      · exact .inr ⟨.input v, by simp, rfl⟩
      · exact hmax

end SegmentInv

section Run

variable {w : ℕ}

theorem segmentInv_sync (s : SeqManager w) (x : BitVec w) : SegmentInv s.maxOutput x [] (s.sync (x - 1)) :=
  ⟨rfl, rfl, .inl rfl⟩

theorem segmentInv_runOps (hw : 0 < w) (s : SeqManager w) (x : BitVec w) (ops : List (SeqOp w))
    (hwin : ∀ op ∈ ops, cdist x op.value + 2 ≤ maxValue w / 2)
    (hinc : ops.Pairwise fun a b => cdist x a.value < cdist x b.value) :
    SegmentInv s.maxOutput x ops ((s.sync (x - 1)).runOps ops) := by
  induction ops using reverseRecOn with
  | nil => exact segmentInv_sync s x
  | append_singleton ops op ih =>
    obtain ⟨hinc', -, hlast⟩ := pairwise_append.mp hinc
    have ih' := ih (fun o ho => hwin o (mem_append_left _ ho)) hinc'
    rw [SeqManager.runOps_snoc]
    exact ih'.apply hw (hwin op (by simp)) fun o ho => hlast o ho op (by simp)

theorem input_of_inOrder (hw : 0 < w) (s : SeqManager w) {g : Segment w} (hg : g.InOrder)
    {pre after : List (SeqOp w)} {v : BitVec w} (hops : g.ops = pre ++ .input v :: after) :
    (((s.sync (g.start - 1)).runOps pre).input v).2 =
      some (s.maxOutput + 1 + (v - g.start) - BitVec.ofNat w (Segment.dropCount pre)) := by
  have hwin := hg.window
  have hinc := hg.increasing
  rw [hops] at hwin hinc
  obtain ⟨hinc', -, hlast⟩ := pairwise_append.mp hinc
  have h := segmentInv_runOps hw s g.start pre
    (fun o ho => hwin o (mem_append_left _ ho)) hinc'
  rw [h.input_eq (v := v) hw (hwin (.input v) (by simp))
    fun o ho => hlast o ho (.input v) (by simp), SeqManager.accept_snd, h.base]
  congr 1
  ring

end Run

/-- **The output stream is gapless across syncs**: an output is the highest one before the segment,
plus the distance from there, less the values dropped before it. -/
theorem segments_output_closed_form (segments earlier later : List (Segment 16)) (g : Segment 16)
    (hsegments : segments = earlier ++ g :: later) (hinorder : ∀ g' ∈ segments, g'.InOrder)
    (before after : List (SeqOp 16)) (v : BitVec 16) (hops : g.ops = before ++ .input v :: after) :
    (((runSegments {} earlier).sync (g.start - 1)).runOps before |>.input v).2 =
      some ((runSegments {} earlier).maxOutput + 1 + (v - g.start) -
        BitVec.ofNat 16 (Segment.dropCount before)) :=
  input_of_inOrder (by decide) _ (hinorder g (by simp [hsegments])) hops

theorem segments_output_across_wrap :
    (((runSegments ({} : SeqManager 16) [⟨7, [.input 7, .drop 8, .input 9]⟩]).sync
      (65534 - 1)).runOps [.input 65534, .drop 65535] |>.input 0).2 = some 4 := by
  have h := segments_output_closed_form
    [⟨7, [.input 7, .drop 8, .input 9]⟩, ⟨65534, [.input 65534, .drop 65535, .input 0]⟩]
    [⟨7, [.input 7, .drop 8, .input 9]⟩] [] ⟨65534, [.input 65534, .drop 65535, .input 0]⟩ rfl
    (by
      intro g hg
      simp only [List.mem_cons, List.not_mem_nil, or_false] at hg
      rcases hg with rfl | rfl
      · exact ⟨by decide, by decide⟩
      · exact ⟨by decide, by decide⟩)
    [.input 65534, .drop 65535] [] 0 rfl
  rw [h]
  decide

end MediasoupWorker.RTC
