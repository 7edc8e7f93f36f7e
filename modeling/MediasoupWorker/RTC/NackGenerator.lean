import MediasoupWorker.Common
import MediasoupWorker.Library.OrderedSearch
import MediasoupWorker.Library.Runs
import MediasoupWorker.RTC.SeqManager

/-!
# `NackGenerator`: which packets of a received stream to ask for again

`src/src/RTC/NackGenerator.cpp`. When a packet leaves a gap behind the highest one so far, the missing
sequence numbers enter the NACK list, and are asked for until the packet comes, `MaxNackRetries` is reached,
or the list is cut. The lists are ordered by `SeqLowerThan`, which is an order within half a circle only,
so what a search in them returns is up to the shape of the tree; every step of a run brings its own
`NackGenerator.Trees`.
-/

namespace MediasoupWorker.RTC

open Library List

def maxPacketAge : ℕ := 10000
def maxNackPackets : ℕ := 1000
def defaultRtt : BitVec 32 := 100
def maxNackRetries : ℕ := 10

structure NackInfo where
  seq : BitVec 16
  sendAtSeq : BitVec 16
  sentAtMs : BitVec 64 := 0
  retries : ℕ := 0
  deriving DecidableEq, Repr

def NackInfo.missing (seq : BitVec 16) : NackInfo where
  seq := seq
  sendAtSeq := seq

inductive NackFilter where
  | seq | time
  deriving DecidableEq, Repr

structure NackGenerator where
  nackList : List NackInfo := []
  keyFrameList : List (BitVec 16) := []
  recoveredList : List (BitVec 16) := []
  started : Bool := false
  lastSeq : BitVec 16 := 0
  rtt : BitVec 32 := defaultRtt
  timerActive : Bool := false
  deriving DecidableEq, Repr

namespace NackGenerator

inductive Output where
  | nackRequired (seqNumbers : List (BitVec 16))
  | keyFrameRequired
  deriving DecidableEq, Repr

structure Trees where
  nackList : Search (@isSeqLowerThan 16)
  keyFrameList : Search (@isSeqLowerThan 16)
  recoveredList : Search (@isSeqLowerThan 16)

def Trees.linear : Trees where
  nackList := .linear isSeqLowerThan
  keyFrameList := .linear isSeqLowerThan
  recoveredList := .linear isSeqLowerThan

def nackSeqs (generator : NackGenerator) : List (BitVec 16) := generator.nackList.map NackInfo.seq

/-! ## The functions -/

def removeNackItemsUntilKeyFrame (trees : Trees) (nackList : List NackInfo) :
    List (BitVec 16) → List NackInfo × List (BitVec 16) × Bool
  | [] => (nackList, [], false)
  | keyFrame :: keyFrameList =>
    let it := trees.nackList.lowerBound (nackList.map NackInfo.seq) keyFrame
    if it ≠ 0 then (nackList.drop it, keyFrame :: keyFrameList, true)
    -- so old that it does not remove any packet
    else removeNackItemsUntilKeyFrame trees nackList keyFrameList

def makeRoom (trees : Trees) (numNewNacks : ℕ) :
    ℕ → List NackInfo → List (BitVec 16) → List NackInfo × List (BitVec 16)
  | 0, nackList, keyFrameList => (nackList, keyFrameList)
  | rounds + 1, nackList, keyFrameList =>
    let (nackList, keyFrameList, removed) :=
      removeNackItemsUntilKeyFrame trees nackList keyFrameList
    if removed && decide (nackList.length + numNewNacks > maxNackPackets) then
      makeRoom trees numNewNacks rounds nackList keyFrameList
    else (nackList, keyFrameList)

def addMissing (trees : Trees) (recoveredList : List (BitVec 16)) :
    ℕ → BitVec 16 → List NackInfo → Except Fault (List NackInfo)
  | 0, _, nackList => .ok nackList
  | n + 1, seq, nackList => do
    msAssert (!trees.nackList.contains (nackList.map NackInfo.seq) seq)
      "packet already in the NACK list"
    if trees.recoveredList.contains recoveredList seq then
      addMissing trees recoveredList n (seq + 1) nackList
    else
      addMissing trees recoveredList n (seq + 1)
        (trees.nackList.emplace NackInfo.seq (.missing seq) nackList)

def removeOld (trees : Trees) (seqEnd : BitVec 16) (generator : NackGenerator) : List NackInfo :=
  generator.nackList.drop
    (trees.nackList.lowerBound generator.nackSeqs (seqEnd - BitVec.ofNat 16 maxPacketAge))

def addPacketsToNackList (trees : Trees) (seqStart seqEnd : BitVec 16) (generator : NackGenerator) :
    Except Fault (NackGenerator × List Output) :=
  let nackList := generator.removeOld trees seqEnd
  let numNewNacks := (seqEnd - seqStart).toNat
  let (nackList, keyFrameList) :=
    if nackList.length + numNewNacks > maxNackPackets then
      makeRoom trees numNewNacks (nackList.length + 1) nackList generator.keyFrameList
    else (nackList, generator.keyFrameList)
  if nackList.length + numNewNacks > maxNackPackets then
    .ok ({ generator with nackList := [], keyFrameList }, [.keyFrameRequired])
  else do
    let nackList ← addMissing trees generator.recoveredList numNewNacks seqStart nackList
    return ({ generator with nackList, keyFrameList }, [])

def isDue (generator : NackGenerator) (filter : NackFilter) (nowMs : BitVec 64) (info : NackInfo) :
    Bool :=
  match filter with
  | .seq =>
    info.sentAtMs == 0 &&
      (info.sendAtSeq == generator.lastSeq || isSeqHigherThan generator.lastSeq info.sendAtSeq)
  | .time => decide (generator.rtt.toNat ≤ (nowMs - info.sentAtMs).toNat)

def nackBatch (due : NackInfo → Bool) (nowMs : BitVec 64) :
    List NackInfo → List NackInfo × List (BitVec 16)
  | [] => ([], [])
  | info :: nackList =>
    let (kept, batch) := nackBatch due nowMs nackList
    if due info then
      let asked := { info with retries := info.retries + 1, sentAtMs := nowMs }
      (if asked.retries ≥ maxNackRetries then kept else asked :: kept, info.seq :: batch)
    else (info :: kept, batch)

def getNackBatch (filter : NackFilter) (nowMs : BitVec 64) (generator : NackGenerator) :
    NackGenerator × List (BitVec 16) :=
  let (nackList, batch) := nackBatch (generator.isDue filter nowMs) nowMs generator.nackList
  ({ generator with nackList }, batch)

def notify (batch : List (BitVec 16)) : List Output :=
  if batch.isEmpty then [] else [.nackRequired batch]

def mayRunTimer (generator : NackGenerator) : NackGenerator :=
  if generator.nackList.isEmpty then generator else { generator with timerActive := true }

def updateKeyFrameList (trees : Trees) (seq : BitVec 16) (isKeyFrame : Bool)
    (generator : NackGenerator) : NackGenerator :=
  let keyFrameList :=
    if isKeyFrame then trees.keyFrameList.insert seq generator.keyFrameList
    else generator.keyFrameList
  let it := trees.keyFrameList.lowerBound keyFrameList (seq - BitVec.ofNat 16 maxPacketAge)
  { generator with keyFrameList := keyFrameList.drop it }

def updateRecoveredList (trees : Trees) (seq : BitVec 16) (generator : NackGenerator) :
    NackGenerator :=
  let recoveredList := trees.recoveredList.insert seq generator.recoveredList
  let it := trees.recoveredList.lowerBound recoveredList (seq - BitVec.ofNat 16 maxPacketAge)
  { generator with recoveredList := recoveredList.drop it }

def receivePacket (trees : Trees) (nowMs : BitVec 64) (seq : BitVec 16)
    (isKeyFrame isRecovered : Bool) (generator : NackGenerator) :
    Except Fault (NackGenerator × List Output × Bool) :=
  if !generator.started then
    let keyFrameList :=
      if isKeyFrame then trees.keyFrameList.insert seq generator.keyFrameList
      else generator.keyFrameList
    .ok ({ generator with started := true, lastSeq := seq, keyFrameList }, [], false)
  else if seq = generator.lastSeq then .ok (generator, [], false)
  else if isSeqLowerThan seq generator.lastSeq then
    match trees.nackList.find generator.nackSeqs seq with
    | some it => .ok ({ generator with nackList := generator.nackList.eraseIdx it }, [], true)
    | none => .ok (generator, [], false)
  else
    let generator := generator.updateKeyFrameList trees seq isKeyFrame
    -- a packet that is newer than the last one and came via RTX does not pass
    if isRecovered then .ok (generator.updateRecoveredList trees seq, [], false)
    else do
      let (generator, output) ← generator.addPacketsToNackList trees (generator.lastSeq + 1) seq
      let (generator, batch) := { generator with lastSeq := seq }.getNackBatch .seq nowMs
      let generator := if generator.timerActive then generator else generator.mayRunTimer
      return (generator, output ++ notify batch, false)

def onTimer (nowMs : BitVec 64) (generator : NackGenerator) : NackGenerator × List Output :=
  let (generator, batch) := { generator with timerActive := false }.getNackBatch .time nowMs
  (generator.mayRunTimer, notify batch)

def updateRtt (rtt : BitVec 32) (generator : NackGenerator) : NackGenerator := { generator with rtt }

def reset (generator : NackGenerator) : NackGenerator :=
  { generator with
    nackList := [], keyFrameList := [], recoveredList := [], started := false, lastSeq := 0 }

inductive Event where
  | receivePacket (trees : Trees) (nowMs : BitVec 64) (seq : BitVec 16)
      (isKeyFrame isRecovered : Bool)
  | timer (nowMs : BitVec 64)
  | updateRtt (rtt : BitVec 32)
  | reset

def step (generator : NackGenerator) : Event → Except Fault (NackGenerator × List Output)
  | .receivePacket trees nowMs seq isKeyFrame isRecovered => do
    let (generator, output, _) ← generator.receivePacket trees nowMs seq isKeyFrame isRecovered
    return (generator, output)
  | .timer nowMs =>
    if generator.timerActive then .ok (generator.onTimer nowMs) else .ok (generator, [])
  | .updateRtt rtt => .ok (generator.updateRtt rtt, [])
  | .reset => .ok (generator.reset, [])

def next (generator : NackGenerator) (event : Event) : Except Fault NackGenerator :=
  Prod.fst <$> generator.step event

end NackGenerator

/-! ## The order of the NACK list -/

theorem lower_or_lower {a b : BitVec 16} (hne : a ≠ b) :
    isSeqLowerThan a b = true ∨ isSeqLowerThan b a = true := by
  by_contra h
  rw [not_or] at h
  have hlow := mt (isSeqLowerThan_iff_cdist_self (by decide) a b).mpr h.1
  have hhi := mt (isSeqLowerThan_iff_cdist_self (by decide) b a).mpr h.2
  have hmax : maxValue 16 / 2 = 32767 := by decide
  unfold cdist at hlow hhi
  rw [hmax] at hlow hhi
  bv_omega

def oldestSeq (lastSeq : BitVec 16) : BitVec 16 := lastSeq - BitVec.ofNat 16 maxPacketAge

def NackOrder (lastSeq : BitVec 16) (seqs : List (BitVec 16)) : Prop :=
  IncreasingFrom (oldestSeq lastSeq) maxPacketAge seqs

@[simp] theorem cdist_oldestSeq (lastSeq : BitVec 16) : cdist (oldestSeq lastSeq) lastSeq = maxPacketAge :=
  cdist_sub_self (by decide)

variable {lastSeq v : BitVec 16} {seqs : List (BitVec 16)}

section

variable (h : NackOrder lastSeq seqs)

include h

theorem NackOrder.lower (hv : v ∈ seqs) : isSeqLowerThan v lastSeq = true := by
  have hpos := h.below v hv
  have hage : maxPacketAge ≤ maxValue 16 / 2 := by decide
  rw [isSeqLowerThan_iff_cdist (p := oldestSeq lastSeq) (by decide) (by omega) (by simpa using hage),
    cdist_oldestSeq]
  exact hpos

theorem NackOrder.age_le (hv : v ∈ seqs) : (lastSeq - v).toNat ≤ maxPacketAge := by
  have hpos := h.below v hv
  rw [toNat_sub_of_cdist_le (p := oldestSeq lastSeq) (by rw [cdist_oldestSeq]; exact hpos.le),
    cdist_oldestSeq]
  exact Nat.sub_le _ _

theorem NackOrder.not_mem (hv : isSeqLowerThan v lastSeq = false) : v ∉ seqs := by
  intro hmem
  rw [h.lower hmem] at hv
  cases hv

theorem NackOrder.nodup : seqs.Nodup :=
  h.increasing.imp fun hlt heq => (ne_of_lt hlt) (congrArg _ heq)

end

theorem oldestSeq_advance (lastSeq seq : BitVec 16) :
    oldestSeq seq = oldestSeq lastSeq + BitVec.ofNat 16 (cdist lastSeq seq) := by
  unfold oldestSeq cdist
  rw [BitVec.ofNat_toNat, BitVec.setWidth_eq]
  ring

theorem toNat_gap {seq : BitVec 16} (hne : seq ≠ lastSeq) :
    (seq - (lastSeq + 1)).toNat + 1 = cdist lastSeq seq := by
  have hpos : 0 < cdist lastSeq seq := by
    refine pos_of_ne_zero fun h => hne ?_
    exact cdist_inj.mp (h.trans (cdist_self lastSeq).symm)
  have hgap : cdist (lastSeq + BitVec.ofNat 16 1) seq = cdist lastSeq seq - 1 := cdist_add_left hpos
  have : (seq - (lastSeq + 1)).toNat = cdist lastSeq seq - 1 := hgap
  omega

theorem cdist_oldestSeq_gap {seq : BitVec 16} (hne : seq ≠ lastSeq)
    (hgap : cdist lastSeq seq ≤ maxPacketAge + 1) :
    cdist (oldestSeq seq) (lastSeq + 1) + (seq - (lastSeq + 1)).toNat = maxPacketAge := by
  have hsize := toNat_gap hne
  have hfirst : cdist (oldestSeq lastSeq) (lastSeq + 1) = maxPacketAge + 1 := by
    rw [← cdist_oldestSeq lastSeq]
    exact cdist_add (n := 1) (by rw [cdist_oldestSeq]; decide)
  rw [oldestSeq_advance lastSeq seq, cdist_add_left (by omega), hfirst]
  omega

namespace NackGenerator

section Lists

variable {trees : Trees} {recov keyFrameList : List (BitVec 16)} {p seq : BitVec 16} {n : ℕ}
  {nackList nackList' : List NackInfo}

theorem removeNackItemsUntilKeyFrame_suffix (trees : Trees) (nackList : List NackInfo)
    (keyFrameList : List (BitVec 16)) :
    (removeNackItemsUntilKeyFrame trees nackList keyFrameList).1 <:+ nackList ∧
      (removeNackItemsUntilKeyFrame trees nackList keyFrameList).2.1 <:+ keyFrameList := by
  induction keyFrameList with
  | nil => exact ⟨suffix_refl _, suffix_refl _⟩
  | cons key keyFrameList ih =>
    rw [removeNackItemsUntilKeyFrame]
    split_ifs
    · exact ⟨drop_suffix _ _, suffix_refl _⟩
    · exact ⟨ih.1, ih.2.trans (suffix_cons _ _)⟩

theorem makeRoom_suffix (n rs : ℕ) (nackList : List NackInfo) (keyFrameList : List (BitVec 16)) :
    (makeRoom trees n rs nackList keyFrameList).1 <:+ nackList ∧
      (makeRoom trees n rs nackList keyFrameList).2 <:+ keyFrameList := by
  induction rs generalizing nackList keyFrameList with
  | zero => exact ⟨suffix_refl _, suffix_refl _⟩
  | succ rs ih =>
    have hround := removeNackItemsUntilKeyFrame_suffix trees nackList keyFrameList
    rw [makeRoom]
    dsimp only
    split_ifs
    · exact ⟨(ih _ _).1.trans hround.1, (ih _ _).2.trans hround.2⟩
    · exact hround

theorem removeNackItemsUntilKeyFrame_length
    (h : (removeNackItemsUntilKeyFrame trees nackList keyFrameList).2.2 = true) :
    (removeNackItemsUntilKeyFrame trees nackList keyFrameList).1.length < nackList.length := by
  induction keyFrameList with
  | nil => cases h
  | cons key keyFrameList ih =>
    rw [removeNackItemsUntilKeyFrame] at h ⊢
    split_ifs at h ⊢ with hit
    · have hle := trees.nackList.lowerBound_le (nackList.map NackInfo.seq) key
      rw [length_map] at hle
      rw [length_drop]
      omega
    · exact ih h

theorem makeRoom_ends (n : ℕ) {rs : ℕ} (hrounds : nackList.length < rs) (keyFrameList : List (BitVec 16)) :
    makeRoom trees n (rs + 1) nackList keyFrameList = makeRoom trees n rs nackList keyFrameList := by
  induction rs generalizing nackList keyFrameList with
  | zero => exact absurd hrounds (Nat.not_lt_zero _)
  | succ rs ih =>
    rw [makeRoom, makeRoom.eq_def trees n (rs + 1)]
    dsimp only
    split_ifs with h
    · have hshorter := removeNackItemsUntilKeyFrame_length (Bool.and_eq_true_iff.mp h).1
      exact ih (by omega) _
    · rfl

variable {info : NackInfo}

theorem lower_of_increasingFrom (hlist : IncreasingFrom p (cdist p seq) (nackList.map NackInfo.seq))
    (hseq : cdist p seq ≤ maxValue 16 / 2) (hinfo : info ∈ nackList) :
    isSeqLowerThan info.seq seq = true ∧ isSeqLowerThan seq info.seq = false := by
  have hpos := hlist.below info.seq (mem_map_of_mem hinfo)
  have hlow := isSeqLowerThan_iff_cdist (by decide) (hpos.le.trans hseq) hseq
  have hhi := isSeqLowerThan_iff_cdist (by decide) hseq (hpos.le.trans hseq)
  refine ⟨hlow.mpr hpos, ?_⟩
  rw [Bool.eq_false_iff]
  intro h
  exact Nat.lt_asymm hpos (hhi.mp h)

structure Added (trees : Trees) (recoveredList : List (BitVec 16)) (p : BitVec 16) (n : ℕ)
    (seq : BitVec 16) (nackList nackList' : List NackInfo) : Prop where
  ordered : IncreasingFrom p (cdist p seq + n) (nackList'.map NackInfo.seq)
  length_le : nackList'.length ≤ nackList.length + n
  kept : ∀ info ∈ nackList, info ∈ nackList'
  added : ∀ i < n, trees.recoveredList.contains recoveredList (seq + BitVec.ofNat 16 i) = false →
    NackInfo.missing (seq + BitVec.ofNat 16 i) ∈ nackList'

/-- **The last loop of `AddPacketsToNackList`** appends the new numbers that are not recovered. -/
theorem addMissing_spec (trees : Trees) (recov : List (BitVec 16))
    (hlist : IncreasingFrom p (cdist p seq) (nackList.map NackInfo.seq))
    (hbound : cdist p seq + n ≤ maxValue 16 / 2) :
    ∃ nackList', addMissing trees recov n seq nackList = .ok nackList' ∧
      Added trees recov p n seq nackList nackList' := by
  induction n generalizing seq nackList with
  | zero =>
    refine ⟨nackList, rfl, hlist, Nat.le_refl _, fun _ h => h, fun i hi => ?_⟩
    exact absurd hi (Nat.not_lt_zero i)
  | succ n ih =>
    have hhalf : maxValue 16 / 2 < 2 ^ 16 := by decide
    have hnext : cdist p (seq + 1) = cdist p seq + 1 := cdist_add (n := 1) (by omega)
    have hlow : ∀ info ∈ nackList, isSeqLowerThan info.seq seq = true ∧ isSeqLowerThan seq info.seq = false :=
      fun _ hinfo => lower_of_increasingFrom hlist (by omega) hinfo
    have hnew : trees.nackList.contains (nackList.map NackInfo.seq) seq = false := by
      refine Search.contains_eq_false fun v hv => ?_
      obtain ⟨info, hinfo, rfl⟩ := mem_map.mp hv
      exact (hlow info hinfo).1
    have hsucc : ∀ i, seq + 1 + BitVec.ofNat 16 i = seq + BitVec.ofNat 16 (i + 1) :=
      add_one_add_ofNat seq
    rw [addMissing, hnew, Bool.not_false, msAssert_true, ok_bind]
    cases hrecovered : trees.recoveredList.contains recov seq with
    | true =>
      have hlist' : IncreasingFrom p (cdist p (seq + 1)) (nackList.map NackInfo.seq) :=
        hlist.mono (by omega)
      obtain ⟨nackList', hrun, hadd⟩ := ih hlist' (by omega)
      refine ⟨nackList', hrun, hadd.ordered.mono (by omega), ?_, hadd.kept, fun i hi hi' => ?_⟩
      · exact hadd.length_le.trans (by omega)
      · cases i with
        | zero =>
          rw [BitVec.add_zero, hrecovered] at hi'
          cases hi'
        | succ i =>
          rw [← hsucc] at hi' ⊢
          exact hadd.added i (by omega) hi'
    | false =>
      rw [if_neg (by decide), Search.emplace_eq_append hlow]
      have hlist' : IncreasingFrom p (cdist p (seq + 1))
          ((nackList ++ [NackInfo.missing seq]).map NackInfo.seq) := by
        rw [hnext, map_append]
        exact hlist.append_singleton le_rfl
      obtain ⟨nackList', hrun, hadd⟩ := ih hlist' (by omega)
      refine ⟨nackList', hrun, hadd.ordered.mono (by omega), ?_, fun info hinfo => ?_, fun i hi hi' => ?_⟩
      · have := hadd.length_le
        rw [length_append, length_singleton] at this
        omega
      · exact hadd.kept info (mem_append_left _ hinfo)
      · cases i with
        | zero => exact hadd.kept _ (by simp)
        | succ i =>
          rw [← hsucc] at hi' ⊢
          exact hadd.added i (by omega) hi'

section

variable (h : addMissing trees recov n seq nackList = .ok nackList')

include h

theorem mem_of_mem_addMissing (hinfo : info ∈ nackList') :
    info ∈ nackList ∨ ∃ i < n, info = .missing (seq + BitVec.ofNat 16 i) := by
  induction n generalizing seq nackList with
  | zero =>
    cases h
    exact .inl hinfo
  | succ n ih =>
    have hlater : (∃ i < n, info = .missing (seq + 1 + BitVec.ofNat 16 i)) →
        ∃ i < n + 1, info = .missing (seq + BitVec.ofNat 16 i) := by
      rintro ⟨i, hi, rfl⟩
      exact ⟨i + 1, by omega, by rw [add_one_add_ofNat]⟩
    rw [addMissing] at h
    obtain ⟨_, -, h⟩ := bind_eq_ok.mp h
    split_ifs at h
    · exact (ih h).imp_right hlater
    · rcases ih h with hmem | hmem
      · rcases Search.mem_of_mem_emplace hmem with rfl | hold
        · exact .inr ⟨0, Nat.succ_pos n, by rw [BitVec.add_zero]⟩
        · exact .inl hold
      · exact .inr (hlater hmem)

theorem mem_addMissing_of_mem (hinfo : info ∈ nackList) : info ∈ nackList' := by
  induction n generalizing seq nackList with
  | zero =>
    cases h
    exact hinfo
  | succ n ih =>
    rw [addMissing] at h
    obtain ⟨_, -, h⟩ := bind_eq_ok.mp h
    split_ifs at h
    · exact ih h hinfo
    · exact ih h (Search.mem_emplace_of_mem hinfo)

end

def makeRoomFor (trees : Trees) (seqStart seqEnd : BitVec 16) (generator : NackGenerator) :
    List NackInfo × List (BitVec 16) :=
  if (generator.removeOld trees seqEnd).length + (seqEnd - seqStart).toNat > maxNackPackets then
    makeRoom trees (seqEnd - seqStart).toNat ((generator.removeOld trees seqEnd).length + 1)
      (generator.removeOld trees seqEnd) generator.keyFrameList
  else (generator.removeOld trees seqEnd, generator.keyFrameList)

section

variable (trees : Trees) (start seqEnd : BitVec 16) (generator : NackGenerator)

theorem makeRoomFor_suffix :
    (generator.makeRoomFor trees start seqEnd).1 <:+ generator.removeOld trees seqEnd ∧
      (generator.makeRoomFor trees start seqEnd).2 <:+ generator.keyFrameList := by
  rw [makeRoomFor]
  split_ifs
  · exact makeRoom_suffix ..
  · exact ⟨suffix_refl _, suffix_refl _⟩

theorem addPacketsToNackList_eq : generator.addPacketsToNackList trees start seqEnd =
      let kept := generator.makeRoomFor trees start seqEnd
      if kept.1.length + (seqEnd - start).toNat > maxNackPackets then
        .ok ({ generator with nackList := [], keyFrameList := kept.2 }, [.keyFrameRequired])
      else do
        let nackList ← addMissing trees generator.recoveredList (seqEnd - start).toNat start
          kept.1
        return ({ generator with nackList, keyFrameList := kept.2 }, []) := rfl

end

theorem addPacketsToNackList_cases {start seqEnd : BitVec 16} {generator generator' : NackGenerator}
    {output : List Output}
    (h : generator.addPacketsToNackList trees start seqEnd = .ok (generator', output)) :
    let kept := generator.makeRoomFor trees start seqEnd
    (generator' = { generator with nackList := [], keyFrameList := kept.2 } ∧ output = [.keyFrameRequired]) ∨
      kept.1.length + (seqEnd - start).toNat ≤ maxNackPackets ∧ output = [] ∧
        ∃ nackList, addMissing trees generator.recoveredList (seqEnd - start).toNat start
            kept.1 = .ok nackList ∧ generator' = { generator with nackList, keyFrameList := kept.2 } := by
  rw [addPacketsToNackList_eq] at h
  dsimp only at h ⊢
  split_ifs at h with hfull
  · cases h
    exact .inl ⟨rfl, rfl⟩
  · obtain ⟨nackList, hadd, hret⟩ := bind_eq_ok.mp h
    cases hret
    exact .inr ⟨not_lt.mp hfull, rfl, nackList, hadd, rfl⟩

end Lists

structure GapFilled (trees : Trees) (seq : BitVec 16) (generator generator' : NackGenerator)
    (output : List Output) : Prop where
  ordered : NackOrder seq generator'.nackSeqs
  length_le : generator'.nackList.length ≤ maxNackPackets
  rest : generator' = { generator with
    nackList := generator'.nackList, keyFrameList := generator'.keyFrameList }
  missing : .keyFrameRequired ∉ output → ∀ i < (seq - (generator.lastSeq + 1)).toNat,
    trees.recoveredList.contains generator.recoveredList
      (generator.lastSeq + 1 + BitVec.ofNat 16 i) = false →
    NackInfo.missing (generator.lastSeq + 1 + BitVec.ofNat 16 i) ∈ generator'.nackList

theorem cdist_oldestSeq_oldestSeq (lastSeq seq : BitVec 16) :
    cdist (oldestSeq lastSeq) (oldestSeq seq) = cdist lastSeq seq := by
  have hlt := cdist_lt lastSeq seq
  rw [oldestSeq_advance lastSeq seq, cdist_add (by rw [cdist_self]; omega), cdist_self, zero_add]

theorem removeOld_ordered (trees : Trees) {generator : NackGenerator} {seq : BitVec 16}
    (hlist : NackOrder generator.lastSeq generator.nackSeqs)
    (hgap : cdist generator.lastSeq seq ≤ maxNackPackets + 1) :
    IncreasingFrom (oldestSeq seq) (cdist (oldestSeq seq) (generator.lastSeq + 1))
      ((generator.removeOld trees seq).map NackInfo.seq) := by
  have hsizes : maxPacketAge ≤ maxValue 16 / 2 ∧ maxNackPackets + 1 ≤ maxPacketAge ∧
      maxPacketAge + 1 < 2 ^ 16 := by decide
  have hpos := cdist_oldestSeq_oldestSeq generator.lastSeq seq
  set p := oldestSeq generator.lastSeq
  set d := cdist generator.lastSeq seq
  have hfirst : cdist p (generator.lastSeq + 1) = maxPacketAge + 1 := by
    rw [← cdist_oldestSeq generator.lastSeq]
    exact cdist_add (n := 1) (by rw [cdist_oldestSeq]; omega)
  have hdrop : (generator.removeOld trees seq).map NackInfo.seq =
      generator.nackSeqs.drop (trees.nackList.lowerBound generator.nackSeqs (oldestSeq seq)) := by
    rw [removeOld, map_drop]
    rfl
  have hle : ∀ v ∈ (generator.removeOld trees seq).map NackInfo.seq, d ≤ cdist p v := by
    intro v hv
    rw [hdrop] at hv
    refine Search.le_of_mem_drop_lowerBound hlist.increasing (fun e he => ?_) hv
    have hbelow : cdist p e < maxPacketAge := hlist.below e he
    rw [isSeqLowerThan_iff_cdist (p := p) (by decide) (by omega) (by omega), hpos]
  have hkept : IncreasingFrom p maxPacketAge ((generator.removeOld trees seq).map NackInfo.seq) := by
    rw [hdrop]
    exact hlist.sublist (drop_sublist _ _)
  have hoff : oldestSeq seq = p + BitVec.ofNat 16 d := oldestSeq_advance _ _
  rw [hoff, cdist_add_left (by omega), hfirst]
  exact (hkept.advance hle).mono (by omega)

/-- **A gap in front of a new number** keeps the NACK list in order and bounded, and adds every
missing number that is not recovered unless a key frame is asked for. -/
theorem addPacketsToNackList_spec (trees : Trees) {generator : NackGenerator} {seq : BitVec 16}
    (hlist : NackOrder generator.lastSeq generator.nackSeqs) (hne : seq ≠ generator.lastSeq) :
    ∃ generator' output,
      generator.addPacketsToNackList trees (generator.lastSeq + 1) seq = .ok (generator', output) ∧
      GapFilled trees seq generator generator' output := by
  have hsize := toNat_gap hne
  have hsuffix := (makeRoomFor_suffix trees (generator.lastSeq + 1) seq generator).1
  rw [addPacketsToNackList_eq]
  dsimp only
  set n := (seq - (generator.lastSeq + 1)).toNat with hn
  split_ifs with hfull
  · refine ⟨_, _, rfl, IncreasingFrom.nil, Nat.zero_le _, rfl, fun h => ?_⟩
    exact absurd (mem_singleton_self _) h
  · -- there is room, so the gap is small and all numbers lie on less than half a circle
    have hsizes : maxPacketAge + 1 ≤ maxValue 16 / 2 ∧ maxNackPackets < maxPacketAge := by decide
    have hord := (removeOld_ordered trees hlist (by omega)).sublist
      (hsuffix.sublist.map NackInfo.seq)
    have hend : cdist (oldestSeq seq) (generator.lastSeq + 1) + n = maxPacketAge :=
      cdist_oldestSeq_gap hne (by omega)
    obtain ⟨nackList', hrun, hadd⟩ :=
      addMissing_spec trees generator.recoveredList (n := n) hord (by omega)
    rw [hrun]
    refine ⟨_, _, rfl, ?_, hadd.length_le.trans (by omega), rfl, fun _ => hadd.added⟩
    have := hadd.ordered
    rw [hend] at this
    exact this

/-! ## Asking for packets -/

section Batch

variable {due : NackInfo → Bool} {now : BitVec 64}

theorem nackBatch_sublist (nackList : List NackInfo) :
    ((nackBatch due now nackList).1.map NackInfo.seq).Sublist (nackList.map NackInfo.seq) ∧
      (nackBatch due now nackList).2.Sublist (nackList.map NackInfo.seq) := by
  induction nackList with
  | nil => exact ⟨.refl _, .refl _⟩
  | cons info nackList ih =>
    rw [nackBatch]
    dsimp only
    split_ifs
    · exact ⟨ih.1.cons _, ih.2.cons_cons _⟩
    · exact ⟨ih.1.cons_cons _, ih.2.cons_cons _⟩
    · exact ⟨ih.1.cons_cons _, ih.2.cons _⟩

theorem nackBatch_mem {nackList : List NackInfo} {info : NackInfo} (hinfo : info ∈ nackList)
    (hretry : info.retries + 1 < maxNackRetries) :
    info.seq ∈ (nackBatch due now nackList).1.map NackInfo.seq := by
  induction nackList with
  | nil => exact absurd hinfo not_mem_nil
  | cons first nackList ih =>
    rw [nackBatch]
    dsimp only
    rcases mem_cons.mp hinfo with rfl | hrest
    · split_ifs with hdue hmax
      · exact absurd hmax (by omega)
      · simp
      · simp
    · split_ifs
      · exact ih hrest
      · exact mem_cons_of_mem _ (ih hrest)
      · exact mem_cons_of_mem _ (ih hrest)

end Batch

theorem mayRunTimer_eq (generator : NackGenerator) : generator.mayRunTimer =
      { generator with timerActive := generator.timerActive || !generator.nackList.isEmpty } := by
  rw [mayRunTimer]
  cases generator.nackList.isEmpty <;> simp

theorem startTimer_eq (generator : NackGenerator) :
    (if generator.timerActive then generator else generator.mayRunTimer) =
      { generator with timerActive := generator.timerActive || !generator.nackList.isEmpty } := by
  rw [mayRunTimer_eq]
  cases hact : generator.timerActive with
  | false => rfl
  | true => rw [if_pos rfl, Bool.true_or, ← hact]

theorem onTimer_eq (nowMs : BitVec 64) (generator : NackGenerator) : generator.onTimer nowMs =
      let b := ({ generator with timerActive := false } : NackGenerator).getNackBatch .time nowMs
      ({ b.1 with timerActive := !b.1.nackList.isEmpty }, notify b.2) := by
  show ((({ generator with timerActive := false } : NackGenerator).getNackBatch .time
    nowMs).1.mayRunTimer, _) = _
  rw [mayRunTimer_eq]
  rfl

/-! ## What a packet can do -/

def advance (nowMs : BitVec 64) (seq : BitVec 16) (generator : NackGenerator) :
    NackGenerator × List (BitVec 16) :=
  let (generator, batch) := { generator with lastSeq := seq }.getNackBatch .seq nowMs
  ({ generator with timerActive := generator.timerActive || !generator.nackList.isEmpty }, batch)

inductive Received (trees : Trees) (nowMs : BitVec 64) (seq : BitVec 16) (isKeyFrame : Bool)
    (generator : NackGenerator) : Bool → NackGenerator → List Output → Prop where
  | first {isRecovered : Bool} (hstarted : generator.started = false) :
    Received trees nowMs seq isKeyFrame generator isRecovered
      { generator with
        started := true, lastSeq := seq
        keyFrameList :=
          if isKeyFrame then trees.keyFrameList.insert seq generator.keyFrameList
          else generator.keyFrameList } []
  | repeated {isRecovered : Bool} (hstarted : generator.started = true)
      (hseq : seq = generator.lastSeq) :
    Received trees nowMs seq isKeyFrame generator isRecovered generator []
  | found {isRecovered : Bool} {it : ℕ} (hstarted : generator.started = true)
      (hlower : isSeqLowerThan seq generator.lastSeq = true)
      (hfind : trees.nackList.find generator.nackSeqs seq = some it) :
    Received trees nowMs seq isKeyFrame generator isRecovered
      { generator with nackList := generator.nackList.eraseIdx it } []
  | notFound {isRecovered : Bool} (hstarted : generator.started = true)
      (hlower : isSeqLowerThan seq generator.lastSeq = true)
      (hfind : trees.nackList.find generator.nackSeqs seq = none) :
    Received trees nowMs seq isKeyFrame generator isRecovered generator []
  | ahead (hstarted : generator.started = true) (hne : seq ≠ generator.lastSeq)
      (hnewer : isSeqLowerThan seq generator.lastSeq = false) :
    Received trees nowMs seq isKeyFrame generator true
      ((generator.updateKeyFrameList trees seq isKeyFrame).updateRecoveredList trees seq) []
  | newer {generator' : NackGenerator} {output : List Output} (hstarted : generator.started = true)
      (hne : seq ≠ generator.lastSeq) (hnewer : isSeqLowerThan seq generator.lastSeq = false)
      (hadd : (generator.updateKeyFrameList trees seq isKeyFrame).addPacketsToNackList trees
        (generator.lastSeq + 1) seq = .ok (generator', output)) :
    Received trees nowMs seq isKeyFrame generator false (generator'.advance nowMs seq).1
      (output ++ notify (generator'.advance nowMs seq).2)

variable {trees : Trees} {seq : BitVec 16} {key : Bool}
  {generator generator' : NackGenerator} {output : List Output}

theorem received_of_receivePacket {nowMs : BitVec 64} {recov ret : Bool}
    (h : generator.receivePacket trees nowMs seq key recov = .ok (generator', output, ret)) :
    Received trees nowMs seq key generator recov generator' output := by
  unfold receivePacket at h
  split at h
  next hnot =>
    cases h
    exact .first (by simpa using hnot)
  next hnot =>
    have hst : generator.started = true := by simpa using hnot
    split at h
    next hseq =>
      cases h
      exact .repeated hst hseq
    next hne =>
      split at h
      next hlow =>
        split at h
        next it hfind =>
          cases h
          exact .found hst hlow hfind
        next hfind =>
          cases h
          exact .notFound hst hlow hfind
      next hlow =>
        have hnewer : isSeqLowerThan seq generator.lastSeq = false := by simpa using hlow
        cases recov with
        | true =>
          cases h
          exact .ahead hst hne hnewer
        | false =>
          rw [if_neg (by decide)] at h
          obtain ⟨⟨g, out⟩, hadd, hret⟩ := bind_eq_ok.mp h
          set b := ({ g with lastSeq := seq } : NackGenerator).getNackBatch .seq nowMs with hb
          have hret' : Except.ok ((if b.1.timerActive then b.1 else b.1.mayRunTimer),
            out ++ notify b.2, false) = (.ok (generator', output, ret) : Except Fault _) :=
            hret
          rw [startTimer_eq] at hret'
          cases hret'
          exact .newer hst hne hnewer hadd

/-! ## The invariant -/

structure Inv (generator : NackGenerator) : Prop where
  ordered : NackOrder generator.lastSeq generator.nackSeqs
  length_le : generator.nackList.length ≤ maxNackPackets
  empty : generator.started = false → generator.nackList = []

theorem inv_new : Inv {} := ⟨IncreasingFrom.nil, Nat.zero_le _, fun _ => rfl⟩

theorem inv_of_nil (h : generator.nackList = []) : generator.Inv := by
  refine ⟨?_, ?_, fun _ => h⟩
  · rw [nackSeqs, h]
    exact IncreasingFrom.nil
  · rw [h]
    exact Nat.zero_le _

theorem Inv.shrink (h : generator.Inv) (hlast : generator'.lastSeq = generator.lastSeq)
    (hst : generator'.started = generator.started) (hsub : generator'.nackSeqs.Sublist generator.nackSeqs) :
    generator'.Inv := by
  have hlen := hsub.length_le
  rw [nackSeqs, nackSeqs, length_map, length_map] at hlen
  refine ⟨?_, hlen.trans h.length_le, fun hnot => ?_⟩
  · rw [hlast]
    exact h.ordered.sublist hsub
  · rw [hst] at hnot
    rw [h.empty hnot, length_nil] at hlen
    exact eq_nil_of_length_eq_zero (Nat.le_zero.mp hlen)

theorem Inv.getNackBatch (h : generator.Inv) (filter : NackFilter) (nowMs : BitVec 64) :
    (generator.getNackBatch filter nowMs).1.Inv :=
  h.shrink rfl rfl (nackBatch_sublist _).1

theorem Inv.mayRunTimer (h : generator.Inv) : generator.mayRunTimer.Inv := by
  rw [mayRunTimer_eq]
  exact h.shrink rfl rfl (List.Sublist.refl _)

structure Advanced (trees : Trees) (seq : BitVec 16) (generator generator' : NackGenerator)
    (output : List Output) : Prop where
  inv : generator'.Inv
  lastSeq : generator'.lastSeq = seq
  recoveredList : generator'.recoveredList = generator.recoveredList
  missing : .keyFrameRequired ∉ output → ∀ i < (seq - (generator.lastSeq + 1)).toNat,
    trees.recoveredList.contains generator.recoveredList
      (generator.lastSeq + 1 + BitVec.ofNat 16 i) = false →
    generator.lastSeq + 1 + BitVec.ofNat 16 i ∈ generator'.nackSeqs

theorem Inv.advance (nowMs : BitVec 64) {g : NackGenerator} (h : generator.Inv)
    (hst : generator.started = true) (hne : seq ≠ generator.lastSeq)
    (hadd : (generator.updateKeyFrameList trees seq key).addPacketsToNackList trees
      (generator.lastSeq + 1) seq = .ok (g, output)) : Advanced trees seq generator (g.advance nowMs seq).1
      (output ++ notify (g.advance nowMs seq).2) := by
  have hlist : NackOrder (generator.updateKeyFrameList trees seq key).lastSeq
    (generator.updateKeyFrameList trees seq key).nackSeqs := h.ordered
  obtain ⟨_, _, hrun, hfill⟩ := addPacketsToNackList_spec trees hlist hne
  cases hadd.symm.trans hrun
  have hinv : ({ g with lastSeq := seq } : NackGenerator).Inv := by
    refine ⟨hfill.ordered, hfill.length_le, fun hnot => ?_⟩
    have hsame : g.started = generator.started := by rw [hfill.rest]; rfl
    exact absurd ((hsame.symm.trans hnot).symm.trans hst) (by decide)
  refine ⟨(hinv.getNackBatch .seq nowMs).shrink rfl rfl (List.Sublist.refl _), rfl, ?_,
    fun hnokey i hi hi' => ?_⟩
  · show g.recoveredList = generator.recoveredList
    rw [hfill.rest]
    rfl
  · have hretry : (NackInfo.missing (generator.lastSeq + 1 + BitVec.ofNat 16 i)).retries + 1 <
        maxNackRetries := Nat.one_lt_ofNat
    refine nackBatch_mem (hfill.missing ?_ i hi hi') hretry
    intro hmem
    exact hnokey (mem_append_left _ hmem)

theorem receivePacket_ok (trees : Trees) (nowMs : BitVec 64) (seq : BitVec 16) (key isRecovered : Bool)
    (h : generator.Inv) : ∃ result, generator.receivePacket trees nowMs seq key isRecovered = .ok result := by
  unfold receivePacket
  split
  · exact ⟨_, rfl⟩
  split
  · exact ⟨_, rfl⟩
  next hne =>
    split
    · split <;> exact ⟨_, rfl⟩
    · dsimp only
      split
      · exact ⟨_, rfl⟩
      · have hlist : NackOrder (generator.updateKeyFrameList trees seq key).lastSeq
          (generator.updateKeyFrameList trees seq key).nackSeqs := h.ordered
        obtain ⟨g, output, hrun, -⟩ := addPacketsToNackList_spec trees hlist hne
        rw [hrun]
        exact ⟨_, rfl⟩

theorem receivePacket_newer {nowMs : BitVec 64} {ret : Bool} (h : generator.Inv)
    (hst : generator.started = true) (hne : seq ≠ generator.lastSeq)
    (hnewer : isSeqLowerThan seq generator.lastSeq = false)
    (hrecv : generator.receivePacket trees nowMs seq key false =
      .ok (generator', output, ret)) : Advanced trees seq generator generator' output := by
  cases received_of_receivePacket hrecv with
  | first hnot => exact absurd (hnot.symm.trans hst) (by decide)
  | repeated _ hseq => exact absurd hseq hne
  | found _ hlow => exact absurd (hlow.symm.trans hnewer) (by decide)
  | notFound _ hlow => exact absurd (hlow.symm.trans hnewer) (by decide)
  | newer _ _ _ hadd => exact h.advance nowMs hst hne hadd

/-- **No packet makes an assertion fail, and every one keeps the invariant.** -/
theorem receivePacket_inv (trees : Trees) (nowMs : BitVec 64) (seq : BitVec 16) (key isRecovered : Bool)
    (h : generator.Inv) :
    ∃ generator' output returned, generator.receivePacket trees nowMs seq key isRecovered =
        .ok (generator', output, returned) ∧ generator'.Inv := by
  obtain ⟨⟨generator', output, returned⟩, hrun⟩ :=
    receivePacket_ok trees nowMs seq key isRecovered h
  refine ⟨generator', output, returned, hrun, ?_⟩
  cases received_of_receivePacket hrun with
  | first hnot => exact inv_of_nil (h.empty hnot)
  | repeated => exact h
  | @found _ it =>
    exact h.shrink rfl rfl ((eraseIdx_sublist generator.nackList it).map NackInfo.seq)
  | notFound => exact h
  | ahead => exact h.shrink rfl rfl (List.Sublist.refl _)
  | newer hst hne _ hadd => exact (h.advance nowMs hst hne hadd).inv

theorem step_inv (h : generator.Inv) (e : Event) :
    ∃ generator' output, generator.step e = .ok (generator', output) ∧ generator'.Inv := by
  cases e with
  | receivePacket trees nowMs seq key recov =>
    obtain ⟨generator', output, ret, hrun, hinv⟩ :=
      receivePacket_inv trees nowMs seq key recov h
    refine ⟨generator', output, ?_, hinv⟩
    rw [step, hrun]
    rfl
  | timer nowMs =>
    rw [step]
    split_ifs
    · have hidle : ({ generator with timerActive := false } : NackGenerator).Inv :=
        h.shrink rfl rfl (List.Sublist.refl _)
      exact ⟨_, _, rfl, (hidle.getNackBatch .time nowMs).mayRunTimer⟩
    · exact ⟨_, _, rfl, h⟩
  | updateRtt rtt => exact ⟨_, _, rfl, h.shrink rfl rfl (List.Sublist.refl _)⟩
  | reset => exact ⟨_, _, rfl, inv_of_nil rfl⟩

theorem run_inv (es : List Event) : ∃ generator, run next {} es = .ok generator ∧ generator.Inv := by
  refine run_ok_of_history_inv (I := fun _ => Inv) inv_new ?_
  intro _ e generator _ h
  obtain ⟨generator', output, hrun, hinv⟩ := step_inv h e
  refine ⟨generator', ?_, hinv⟩
  rw [next, hrun]
  rfl

/-- **The NACK list after every run**, whatever the searches in the containers return: older than
the last number, at most `MaxPacketAge` behind it, and at most `MaxNackPackets`. -/
theorem nackList_bounded (events : List Event) : ∃ generator, run next {} events = .ok generator ∧
    (∀ info ∈ generator.nackList, isSeqLowerThan info.seq generator.lastSeq = true ∧
      (generator.lastSeq - info.seq).toNat ≤ maxPacketAge) ∧ generator.nackList.length ≤ maxNackPackets := by
  obtain ⟨generator, hrun, hinv⟩ := run_inv events
  refine ⟨generator, hrun, fun info hinfo => ?_, hinv.length_le⟩
  have hmem : info.seq ∈ generator.nackSeqs := List.mem_map_of_mem hinfo
  exact ⟨hinv.ordered.lower hmem, hinv.ordered.age_le hmem⟩

end NackGenerator

end MediasoupWorker.RTC
