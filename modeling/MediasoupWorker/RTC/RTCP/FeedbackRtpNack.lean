import MediasoupWorker.Library.CircularOrder

/-!
# NACK packets

`src/src/RTC/RTCP/FeedbackRtpNack.cpp`, and the loops that build and read the items of such a packet, in
`RtpStreamRecv::OnNackGeneratorNackRequired` and `RtpStreamSend::FillRetransmissionContainer`. An item is a
sequence number and a mask of 16 bits for the sequence numbers that follow it.
-/

namespace MediasoupWorker.RTC.RTCP

open Library BitVec List

structure FeedbackRtpNackItem where
  packetId : BitVec 16
  lostPacketBitmask : BitVec 16
  deriving DecidableEq, Repr

def countSetBits (mask : BitVec 16) : ℕ := (List.range 16).countP mask.getLsbD

namespace FeedbackRtpNackItem

def countRequestedPackets (item : FeedbackRtpNackItem) : ℕ :=
  countSetBits item.lostPacketBitmask + 1

def requestedLoop : ℕ → BitVec 16 → Bool → BitVec 16 → List (BitVec 16)
  | 0, _, _, _ => []
  | rounds + 1, currentSeq, requested, bitmask =>
    if requested || bitmask != 0 then
      let rest := requestedLoop rounds (currentSeq + 1) (bitmask &&& 1#16 != 0) (bitmask >>> 1)
      if requested then currentSeq :: rest else rest
    else []

def requestedSeqs (item : FeedbackRtpNackItem) : List (BitVec 16) :=
  requestedLoop 17 item.packetId true item.lostPacketBitmask

end FeedbackRtpNackItem

def packFrom (seq bitmask : BitVec 16) : List (BitVec 16) → List FeedbackRtpNackItem
  | [] => [⟨seq, bitmask⟩]
  | next :: seqNumbers =>
    let shift := next - seq - 1
    if shift.toNat > 15 then ⟨seq, bitmask⟩ :: packFrom next 0 seqNumbers
    else packFrom seq (bitmask ||| 1#16 <<< shift.toNat) seqNumbers

def nackItems : List (BitVec 16) → List FeedbackRtpNackItem
  | [] => []
  | seq :: seqNumbers => packFrom seq 0 seqNumbers

/-! ## Masks as lists of sequence numbers -/

def maskSeqs (seq bitmask : BitVec 16) : List (BitVec 16) :=
  ((List.range 16).filter bitmask.getLsbD).map fun i => seq + 1 + BitVec.ofNat 16 i

@[simp] theorem maskSeqs_zero (seq : BitVec 16) : maskSeqs seq 0 = [] := by
  simp [maskSeqs]

variable {bitmask : BitVec 16} {b k : ℕ}

theorem getLsbD_of_lt {i : ℕ} (hmask : bitmask.toNat < 2 ^ b) (hi : b ≤ i) : bitmask.getLsbD i = false := by
  rw [getLsbD]
  exact Nat.testBit_lt_two_pow (hmask.trans_le (Nat.pow_le_pow_right (by decide) hi))

theorem filter_range_or_bit (hmask : bitmask.toNat < 2 ^ b) (hbk : b ≤ k) (hk : k < 16) :
    (range 16).filter (bitmask ||| 1#16 <<< k).getLsbD = (range 16).filter bitmask.getLsbD ++ [k] := by
  -- over the first `n` bits, the new one is there or not
  have hfiltered : ∀ n ≤ 16, (range n).filter (bitmask ||| 1#16 <<< k).getLsbD =
      (range n).filter bitmask.getLsbD ++ if k < n then [k] else [] := by
    intro n
    induction n with
    | zero => simp
    | succ n ih =>
      intro hn
      have hbit : (bitmask ||| 1#16 <<< k).getLsbD n = (bitmask.getLsbD n || decide (n = k)) := by
        have hpow : (1#16 <<< k).getLsbD n = decide (n = k) := by
          have h := getLsbD_twoPow (w := 16) k n
          rw [twoPow] at h
          rw [h]
          simp [hk, eq_comm]
        rw [getLsbD_or, hpow]
      rw [range_succ, filter_append, filter_append, ih (by omega)]
      rcases Nat.lt_trichotomy n k with hlt | rfl | hgt
      · have hnot : ¬ k < n := by omega
        have hnot' : ¬ k < n + 1 := by omega
        simp [filter_cons, hbit, hnot, hnot', ne_of_lt hlt]
      · simp [hbit, getLsbD_of_lt hmask hbk]
      · have hzero : bitmask.getLsbD n = false := getLsbD_of_lt hmask (by omega)
        have hlt' : k < n + 1 := by omega
        simp [hbit, hzero, hgt, hlt', ne_of_gt hgt]
  rw [hfiltered 16 le_rfl, if_pos hk]

variable {seq : BitVec 16}

theorem maskSeqs_or_bit (hmask : bitmask.toNat < 2 ^ b) (hbk : b ≤ k) (hk : k < 16) :
    maskSeqs seq (bitmask ||| 1#16 <<< k) = maskSeqs seq bitmask ++ [seq + 1 + BitVec.ofNat 16 k] := by
  rw [maskSeqs, filter_range_or_bit hmask hbk hk, map_append]
  rfl

theorem toNat_or_bit_lt (hmask : bitmask.toNat < 2 ^ b) (hbk : b ≤ k) :
    (bitmask ||| 1#16 <<< k).toNat < 2 ^ (k + 1) := by
  rw [toNat_or]
  refine Nat.or_lt_two_pow (hmask.trans_le (Nat.pow_le_pow_right (by decide) (by omega))) ?_
  rw [toNat_shiftLeft, Nat.shiftLeft_eq]
  refine lt_of_le_of_lt (Nat.mod_le _ _) ?_
  show 1 * 2 ^ k < 2 ^ (k + 1)
  rw [one_mul]
  exact Nat.pow_lt_pow_right (by decide) (Nat.lt_succ_self k)

namespace FeedbackRtpNackItem

theorem requestedLoop_eq {cur : BitVec 16} {asked : Bool} (hmask : bitmask.toNat < 2 ^ k) :
    requestedLoop (k + 1) cur asked bitmask = (if asked then [cur] else []) ++
        ((range k).filter bitmask.getLsbD).map fun i => cur + 1 + BitVec.ofNat 16 i := by
  induction k generalizing cur bitmask asked with
  | zero =>
    obtain rfl : bitmask = 0 := BitVec.eq_of_toNat_eq (by simpa using hmask)
    cases asked <;> simp [requestedLoop]
  | succ k ih =>
    have hshift : (bitmask >>> 1).toNat < 2 ^ k := by
      rw [BitVec.toNat_ushiftRight, Nat.shiftRight_eq_div_pow]
      rw [pow_succ] at hmask
      omega
    have hbits : ∀ i, (bitmask >>> 1).getLsbD i = bitmask.getLsbD (i + 1) := by
      intro i
      rw [BitVec.getLsbD_ushiftRight, add_comm]
    have hlow : (bitmask &&& 1#16 != 0) = bitmask.getLsbD 0 := by
      have hand : bitmask &&& 1#16 = if bitmask.getLsbD 0 then 1 else 0 := by
        rw [BitVec.and_one_eq_setWidth_ofBool_getLsbD]
        cases bitmask.getLsbD 0 <;> rfl
      rw [hand]
      cases bitmask.getLsbD 0 <;> rfl
    have hsucc : ∀ i, cur + 1 + 1 + BitVec.ofNat 16 i = cur + 1 + BitVec.ofNat 16 (i + 1) := by
      intro i
      have hone : (1 : BitVec 16) = BitVec.ofNat 16 1 := rfl
      rw [add_assoc (cur + 1), hone, ← BitVec.ofNat_add, add_comm 1 i]
    have hrest : requestedLoop (k + 1) (cur + 1) (bitmask &&& 1#16 != 0) (bitmask >>> 1) =
        ((range (k + 1)).filter bitmask.getLsbD).map
          fun i => cur + 1 + BitVec.ofNat 16 i := by
      rw [ih hshift, hlow, range_succ_eq_map, filter_cons, filter_map]
      have hfilt : (range k).filter (bitmask >>> 1).getLsbD = (range k).filter (bitmask.getLsbD ∘ Nat.succ) :=
        filter_congr fun i _ => hbits i
      rw [hfilt]
      cases bitmask.getLsbD 0 with
      | false =>
        simp only [Bool.false_eq_true, if_false, nil_append, map_map]
        exact map_congr_left fun i _ => hsucc i
      | true =>
        simp only [if_true, map_cons, map_map, BitVec.add_zero, singleton_append]
        exact congrArg _ (map_congr_left fun i _ => hsucc i)
    rw [requestedLoop]
    dsimp only
    rw [hrest]
    by_cases hnil : (asked || bitmask != 0) = true
    · rw [if_pos hnil]
      cases asked <;> simp
    · have hnone : asked = false ∧ bitmask = 0 := by
        cases asked <;> simp_all
      obtain ⟨rfl, rfl⟩ := hnone
      simp

section

variable (item : FeedbackRtpNackItem)

/-- **What an item asks for**: its own sequence number and those of its mask. -/
theorem requestedSeqs_eq :
    item.requestedSeqs = item.packetId :: maskSeqs item.packetId item.lostPacketBitmask :=
  requestedLoop_eq item.lostPacketBitmask.isLt

theorem requestedSeqs_nodup : item.requestedSeqs.Nodup := by
  rw [requestedSeqs_eq, nodup_cons, maskSeqs]
  have hlt : ∀ i ∈ (range 16).filter item.lostPacketBitmask.getLsbD, i < 16 :=
    fun i hi => mem_range.mp (mem_of_mem_filter hi)
  constructor
  · intro hmem
    obtain ⟨i, hi, heq⟩ := mem_map.mp hmem
    have := hlt i hi
    bv_omega
  · refine List.Nodup.map_on ?_ (nodup_range.filter _)
    intro i hi j hj heq
    have := hlt i hi
    have := hlt j hj
    bv_omega

theorem countRequestedPackets_eq : item.countRequestedPackets = item.requestedSeqs.length := by
  rw [requestedSeqs_eq, countRequestedPackets, countSetBits, length_cons, maskSeqs,
    length_map, countP_eq_length_filter]

end

end FeedbackRtpNackItem

/-! ## Packing and asking -/

theorem toNat_shift {next : BitVec 16} (h : 0 < cdist seq next) :
    (next - seq - 1).toNat + 1 = cdist seq next := by
  have hsub : next - seq - 1 = next - (seq + BitVec.ofNat 16 1) := by
    rw [BitVec.sub_sub]
    rfl
  have hdist : (next - seq - 1).toNat = cdist seq next - 1 := by
    rw [hsub]
    exact cdist_add_left h
  omega

variable {rest : List (BitVec 16)}

theorem packFrom_requestedSeqs (hmask : bitmask.toNat < 2 ^ b) (hrest : IncreasingFrom seq (2 ^ 15) rest)
    (hafter : ∀ v ∈ rest, b < cdist seq v) :
    (packFrom seq bitmask rest).flatMap FeedbackRtpNackItem.requestedSeqs =
      seq :: maskSeqs seq bitmask ++ rest := by
  induction rest generalizing seq bitmask b with
  | nil =>
    rw [packFrom, flatMap_singleton, FeedbackRtpNackItem.requestedSeqs_eq, append_nil]
  | cons next rest ih =>
    obtain ⟨hnext, -⟩ := pairwise_cons.mp hrest.increasing
    have hpos := hafter next (mem_cons_self ..)
    have hshift := toNat_shift (Nat.zero_lt_of_lt hpos)
    rw [packFrom]
    split_ifs with hfar
    · -- too far for the mask: the next number starts an item
      obtain ⟨hrest', hafter'⟩ := hrest.from_head
      rw [flatMap_cons, FeedbackRtpNackItem.requestedSeqs_eq,
        ih (b := 0) (by decide) (hrest'.mono (Nat.sub_le _ _)) hafter', maskSeqs_zero]
      rfl
    · have hsame : seq + 1 + BitVec.ofNat 16 (next - seq - 1).toNat = next := by
        rw [BitVec.ofNat_toNat, BitVec.setWidth_eq, BitVec.sub_sub, add_comm, sub_add_cancel]
      have hpre : b ≤ (next - seq - 1).toNat := by omega
      have hbit : (next - seq - 1).toNat < 16 := by omega
      have hafter' : ∀ v ∈ rest, (next - seq - 1).toNat + 1 < cdist seq v := by
        intro v hv
        rw [hshift]
        exact hnext v hv
      rw [ih (toNat_or_bit_lt hmask hpre) (hrest.sublist (sublist_cons_self ..)) hafter',
        maskSeqs_or_bit hmask hpre hbit, hsame]
      simp

variable {seqNumbers : List (BitVec 16)}

theorem nackItems_requestedSeqs {p : BitVec 16} (h : IncreasingFrom p (2 ^ 15) seqNumbers) :
    (nackItems seqNumbers).flatMap FeedbackRtpNackItem.requestedSeqs = seqNumbers := by
  cases seqNumbers with
  | nil => rfl
  | cons seq seqNumbers =>
    obtain ⟨hrest, hafter⟩ := h.from_head
    rw [nackItems, packFrom_requestedSeqs (b := 0) (by decide) (hrest.mono (Nat.sub_le _ _)) hafter,
      maskSeqs_zero]
    rfl

theorem sum_countRequestedPackets (its : List FeedbackRtpNackItem) :
    (its.map FeedbackRtpNackItem.countRequestedPackets).sum =
      (its.flatMap FeedbackRtpNackItem.requestedSeqs).length := by
  rw [length_flatMap]
  congr 1
  exact map_congr_left fun item _ => item.countRequestedPackets_eq

theorem packFrom_length {bound : ℕ} (hrest : IncreasingFrom seq bound rest)
    (hafter : ∀ v ∈ rest, 0 < cdist seq v) : 17 * (packFrom seq bitmask rest).length ≤ bound + 17 := by
  induction rest generalizing seq bitmask bound with
  | nil =>
    rw [packFrom, length_singleton]
    omega
  | cons next rest ih =>
    have hbelow := hrest.below next (mem_cons_self ..)
    have hshift := toNat_shift (hafter next (mem_cons_self ..))
    rw [packFrom]
    split_ifs with hfar
    · obtain ⟨hrest', hafter'⟩ := hrest.from_head
      have hlen : 17 * (packFrom next 0 rest).length ≤ bound - cdist seq next + 17 :=
        ih hrest' hafter'
      rw [length_cons]
      omega
    · exact ih (hrest.sublist (sublist_cons_self ..)) fun v hv =>
        hafter v (mem_cons_of_mem _ hv)

theorem nackItems_length {p : BitVec 16} {bound : ℕ} (h : IncreasingFrom p bound seqNumbers) :
    17 * (nackItems seqNumbers).length ≤ bound + 17 := by
  cases seqNumbers with
  | nil => exact Nat.zero_le _
  | cons seq seqNumbers =>
    obtain ⟨hrest, hafter⟩ := h.from_head
    exact packFrom_length (hrest.mono (Nat.sub_le _ _)) hafter

end MediasoupWorker.RTC.RTCP
