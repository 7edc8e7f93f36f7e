import MediasoupWorker.Library.ParseLoop
import MediasoupWorker.RTC.RTCP.Packet
import Mathlib.Algebra.BigOperators.Ring.List
import Mathlib.Algebra.Order.BigOperators.Group.List

/-!
# Extended reports

`src/src/RTC/RTCP/XR.cpp`, `XrReceiverReferenceTime.cpp` and `XrDelaySinceLastRr.cpp`.
`DelaySinceLastRr::Parse` advances its offset twice for each sub-block, so that it finds only every second
one, and then goes on in the blocks behind; it keeps the length of the block in bytes in a `uint16_t`.
-/

namespace MediasoupWorker.RTC.RTCP

open Library List

structure SsrcInfo where
  ssrc : BitVec 32
  lrr : BitVec 32
  dlrr : BitVec 32
  deriving DecidableEq, Repr

inductive ExtendedReportBlock where
  | receiverReferenceTime (ntpSec ntpFrac : BitVec 32)
  | delaySinceLastRr (ssrcInfos : List SsrcInfo)
  deriving DecidableEq, Repr

structure ExtendedReportPacket where
  ssrc : BitVec 32 := 0
  reports : List ExtendedReportBlock := []
  deriving DecidableEq, Repr

namespace SsrcInfo

def getSize (_ : SsrcInfo) : ℕ := 12

def serialize (ssrcInfo : SsrcInfo) : List Byte :=
  set4Bytes ssrcInfo.ssrc ++ set4Bytes ssrcInfo.lrr ++ set4Bytes ssrcInfo.dlrr

def parse (data : List Byte) : Option SsrcInfo :=
  if data.length < 12 then none
  else some ⟨read4Bytes data 0, read4Bytes data 4, read4Bytes data 8⟩

theorem length_serialize (info : SsrcInfo) : info.serialize.length = info.getSize := rfl

theorem serialize_injective : Function.Injective serialize := by
  rintro ⟨ssrc, lrr, dlrr⟩ ⟨ssrc', lrr', dlrr'⟩ h
  obtain ⟨h', hdlrr⟩ := append_inj' h rfl
  obtain ⟨hssrc, hlrr⟩ := append_inj' h' rfl
  obtain rfl := set4Bytes_injective hssrc
  obtain rfl := set4Bytes_injective hlrr
  obtain rfl := set4Bytes_injective hdlrr
  rfl

theorem sum_getSize (infos : List SsrcInfo) : (infos.map getSize).sum = 12 * infos.length := by
  rw [show infos.map getSize = infos.map (Function.const _ 12) from rfl, map_const,
    sum_replicate_nat, mul_comm]

theorem parse_eq_some_iff {data : List Byte} {info : SsrcInfo} :
    parse data = some info ↔ data.take 12 = info.serialize := by
  by_cases hlen : data.length < 12
  · rw [parse, if_pos hlen]
    constructor
    · intro h
      cases h
    · intro h
      have hlength := congrArg length h
      rw [length_take, length_serialize, getSize] at hlength
      omega
  · have hwr : data.take 12 = serialize ⟨read4Bytes data 0, read4Bytes data 4, read4Bytes data 8⟩ := by
      rw [serialize, set4Bytes_read4Bytes (by omega), set4Bytes_read4Bytes (by omega),
        set4Bytes_read4Bytes (by omega), drop_zero, ← take_add, ← take_add]
    rw [parse, if_neg hlen, hwr, Option.some.injEq]
    constructor
    · intro h
      rw [h]
    · exact fun h => serialize_injective h

end SsrcInfo

namespace ExtendedReportBlock

def getSize : ExtendedReportBlock → ℕ
  | .receiverReferenceTime _ _ => 4 + 8
  | .delaySinceLastRr ssrcInfos => 4 + (ssrcInfos.map SsrcInfo.getSize).sum

def serialize : ExtendedReportBlock → List Byte
  | .receiverReferenceTime ntpSec ntpFrac =>
    4 :: 0 :: set2Bytes 2 ++ (set4Bytes ntpSec ++ set4Bytes ntpFrac)
  | .delaySinceLastRr ssrcInfos =>
    5 :: 0 :: set2Bytes (BitVec.ofNat 16 (12 * ssrcInfos.length / 4)) ++ ssrcInfos.flatMap SsrcInfo.serialize

def parseReceiverReferenceTime (data : List Byte) : Option ExtendedReportBlock :=
  if data.length < 4 + 8 then none
  else some (.receiverReferenceTime (read4Bytes data 4) (read4Bytes data 8))

def reportLength (data : List Byte) : ℕ := (read2Bytes data 2).toNat * 4 % 2 ^ 16

def parseDelaySinceLastRr (data : List Byte) : ExtendedReportBlock :=
  .delaySinceLastRr
    (parseLoop SsrcInfo.parse (fun ssrcInfo => ssrcInfo.getSize + ssrcInfo.getSize)
      (reportLength data / 12) (data.drop 4))

def parse (data : List Byte) : Option ExtendedReportBlock :=
  if data.length < 4 then none
  else if read1Byte data 0 = 4 then parseReceiverReferenceTime data
  else if read1Byte data 0 = 5 then some (parseDelaySinceLastRr data)
  else none

theorem length_serialize (block : ExtendedReportBlock) : block.serialize.length = block.getSize := by
  cases block with
  | receiverReferenceTime sec frac => rfl
  | delaySinceLastRr infos =>
    rw [serialize, length_append, length_flatMap_write SsrcInfo.length_serialize]
    rfl

theorem getSize_pos (block : ExtendedReportBlock) : 0 < block.getSize := by
  cases block <;> exact lt_of_lt_of_le (by decide) (Nat.le_add_right 4 _)

end ExtendedReportBlock

namespace ExtendedReportPacket

def getSize (packet : ExtendedReportPacket) : ℕ :=
  Packet.commonHeaderSize + 4 + (packet.reports.map ExtendedReportBlock.getSize).sum

def serialize (packet : ExtendedReportPacket) : List Byte :=
  Packet.serialize 0 .xr packet.getSize ++
    (set4Bytes packet.ssrc ++ packet.reports.flatMap ExtendedReportBlock.serialize)

def parse (data : List Byte) : Option ExtendedReportPacket :=
  if data.length < Packet.commonHeaderSize + 4 then none
  else
    some {
      ssrc := read4Bytes data Packet.commonHeaderSize
      reports :=
        parseWhile ExtendedReportBlock.parse ExtendedReportBlock.getSize
          (data.drop (Packet.commonHeaderSize + 4)) }

theorem getSize_mod_four (packet : ExtendedReportPacket) : packet.getSize % 4 = 0 := by
  have hdvd : 4 ∣ (packet.reports.map ExtendedReportBlock.getSize).sum := by
    refine dvd_sum fun size hsize => ?_
    obtain ⟨block, -, rfl⟩ := mem_map.mp hsize
    cases block with
    | receiverReferenceTime sec frac => exact Dvd.intro_left 3 rfl
    | delaySinceLastRr infos =>
      rw [ExtendedReportBlock.getSize, SsrcInfo.sum_getSize]
      omega
  rw [getSize, Packet.commonHeaderSize]
  omega

theorem length_serialize (packet : ExtendedReportPacket) : packet.serialize.length = packet.getSize := by
  rw [serialize, length_append, length_append, Packet.length_serialize, length_set4Bytes,
    length_flatMap_write ExtendedReportBlock.length_serialize, ← add_assoc]
  rfl

end ExtendedReportPacket

/-! ## When a block is read back -/

def SubBlocksAt (ssrcInfos : List SsrcInfo) (bytes : List Byte) : Prop :=
  ∀ (i : ℕ) (hi : i < ssrcInfos.length), (bytes.drop (24 * i)).take 12 = ssrcInfos[i].serialize

instance (ssrcInfos : List SsrcInfo) (bytes : List Byte) : Decidable (SubBlocksAt ssrcInfos bytes) :=
  inferInstanceAs (Decidable (∀ (i : ℕ) (_ : i < ssrcInfos.length), _ = _))

theorem subBlocksAt_cons {info : SsrcInfo} {infos : List SsrcInfo} {bs : List Byte} :
    SubBlocksAt (info :: infos) bs ↔ bs.take 12 = info.serialize ∧ SubBlocksAt infos (bs.drop 24) := by
  constructor
  · intro h
    refine ⟨h 0 (Nat.succ_pos _), fun i hi => ?_⟩
    have hsucc := h (i + 1) (Nat.succ_lt_succ hi)
    rw [Nat.mul_succ, add_comm, ← drop_drop] at hsucc
    exact hsucc
  · rintro ⟨hhead, htail⟩ i hi
    cases i with
    | zero => exact hhead
    | succ i =>
      have hsucc := htail i (Nat.lt_of_succ_lt_succ hi)
      rw [drop_drop, add_comm, ← Nat.mul_succ] at hsucc
      exact hsucc

theorem parse_subBlocks_iff (infos : List SsrcInfo) (bytes : List Byte) :
    parseLoop SsrcInfo.parse (fun info => info.getSize + info.getSize)
        infos.length bytes = infos ↔ SubBlocksAt infos bytes := by
  induction infos generalizing bytes with
  | nil =>
    refine ⟨fun _ i hi => absurd hi (Nat.not_lt_zero i), fun _ => rfl⟩
  | cons info infos ih =>
    rw [subBlocksAt_cons, ← ih, ← SsrcInfo.parse_eq_some_iff, length_cons]
    by_cases hne : bytes = []
    · subst hne
      rw [parseLoop_nil]
      constructor
      · intro h
        cases h
      · rintro ⟨h, -⟩
        cases h
    · cases hparse : SsrcInfo.parse bytes with
      | none =>
        rw [parseLoop_of_none hparse]
        constructor
        · intro h
          cases h
        · rintro ⟨h, -⟩
          cases h
      | some found =>
        rw [parseLoop_of_some hne hparse, cons.injEq, Option.some.injEq]
        rfl

def maxSsrcInfos : ℕ := 5461

def ReadBackBefore : ExtendedReportBlock → List ExtendedReportBlock → Prop
  | .receiverReferenceTime _ _, _ => True
  | .delaySinceLastRr ssrcInfos, behind =>
    ssrcInfos.length ≤ maxSsrcInfos ∧ SubBlocksAt ssrcInfos
        (ssrcInfos.flatMap SsrcInfo.serialize ++ behind.flatMap ExtendedReportBlock.serialize)

instance (block : ExtendedReportBlock) (behind : List ExtendedReportBlock) :
    Decidable (ReadBackBefore block behind) :=
  match block with
  | .receiverReferenceTime _ _ => .isTrue trivial
  | .delaySinceLastRr _ => inferInstanceAs (Decidable (_ ∧ _))

theorem readBackBefore_of_length_le_one {infos : List SsrcInfo} (h : infos.length ≤ 1)
    (behind : List ExtendedReportBlock) : ReadBackBefore (.delaySinceLastRr infos) behind := by
  refine ⟨h.trans (by decide), fun i hi => ?_⟩
  match infos, h, i, hi with
  | [ssrcInfo], _, 0, _ => rfl

namespace ExtendedReportBlock

theorem parse_receiverReferenceTime (ntpSec ntpFrac : BitVec 32) (rest : List Byte) :
    parse (serialize (.receiverReferenceTime ntpSec ntpFrac) ++ rest) =
      some (.receiverReferenceTime ntpSec ntpFrac) := by
  have hsec : read4Bytes (serialize (.receiverReferenceTime ntpSec ntpFrac) ++ rest) 4 = ntpSec :=
    read4Bytes_set4Bytes ntpSec (set4Bytes ntpFrac ++ rest)
  have hfrac : read4Bytes (serialize (.receiverReferenceTime ntpSec ntpFrac) ++ rest) 8 = ntpFrac :=
    read4Bytes_set4Bytes ntpFrac rest
  have hlen : ¬ (serialize (.receiverReferenceTime ntpSec ntpFrac) ++ rest).length < 4 + 8 := by
    rw [length_append, length_serialize, getSize]
    omega
  have htype : read1Byte (serialize (.receiverReferenceTime ntpSec ntpFrac) ++ rest) 0 = 4 := rfl
  rw [parse, if_neg (by omega), if_pos htype, parseReceiverReferenceTime, if_neg hlen, hsec, hfrac]

theorem parse_delaySinceLastRr (infos : List SsrcInfo) (rest : List Byte) :
    parse (serialize (.delaySinceLastRr infos) ++ rest) = some (.delaySinceLastRr
        (parseLoop SsrcInfo.parse (fun info => info.getSize + info.getSize)
          (12 * infos.length / 4 % 2 ^ 16 * 4 % 2 ^ 16 / 12)
          (infos.flatMap SsrcInfo.serialize ++ rest))) := by
  have hlen : ¬ (serialize (.delaySinceLastRr infos) ++ rest).length < 4 := by
    rw [length_append, length_serialize, getSize]
    omega
  have hbs : serialize (.delaySinceLastRr infos) ++ rest =
      5 :: 0 :: (set2Bytes (BitVec.ofNat 16 (12 * infos.length / 4)) ++
        (infos.flatMap SsrcInfo.serialize ++ rest)) := by
    simp only [serialize, cons_append, append_assoc]
  have hlength : reportLength (serialize (.delaySinceLastRr infos) ++ rest) =
      12 * infos.length / 4 % 2 ^ 16 * 4 % 2 ^ 16 := by
    have hread : read2Bytes (serialize (.delaySinceLastRr infos) ++ rest) 2 =
        BitVec.ofNat 16 (12 * infos.length / 4) := by
      rw [hbs]
      exact read2Bytes_set2Bytes _ (infos.flatMap SsrcInfo.serialize ++ rest)
    rw [reportLength, hread, BitVec.toNat_ofNat]
  have hnot : ¬ read1Byte (serialize (.delaySinceLastRr infos) ++ rest) 0 = 4 := by
    rw [hbs]
    exact (by decide : ¬ (5 : Byte) = 4)
  have htype : read1Byte (serialize (.delaySinceLastRr infos) ++ rest) 0 = 5 := by
    rw [hbs]
    rfl
  rw [parse, if_neg hlen, if_neg hnot, if_pos htype, parseDelaySinceLastRr, hlength, hbs]
  rfl

/-- **When a block is read back** in front of others, if its length fits into its header. -/
theorem parse_serialize_iff {block : ExtendedReportBlock} (hfits : block.getSize ≤ 4 * 2 ^ 16)
    (behind : List ExtendedReportBlock) :
    parse (block.serialize ++ behind.flatMap serialize) = some block ↔ ReadBackBefore block behind := by
  cases block with
  | receiverReferenceTime sec frac =>
    exact ⟨fun _ => trivial, fun _ => parse_receiverReferenceTime _ _ _⟩
  | delaySinceLastRr infos =>
    have hsize : 4 + 12 * infos.length ≤ 4 * 2 ^ 16 := by
      rw [getSize, SsrcInfo.sum_getSize] at hfits
      exact hfits
    rw [parse_delaySinceLastRr, Option.some.injEq, ExtendedReportBlock.delaySinceLastRr.injEq,
      ReadBackBefore, ← parse_subBlocks_iff]
    by_cases hmax : infos.length ≤ maxSsrcInfos
    · -- the number of turns is the number of sub-blocks
      have hturns : 12 * infos.length / 4 % 2 ^ 16 * 4 % 2 ^ 16 / 12 = infos.length := by
        rw [maxSsrcInfos] at hmax
        omega
      rw [hturns]
      exact ⟨fun h => ⟨hmax, h⟩, And.right⟩
    · -- there are fewer turns than sub-blocks
      have hturns : 12 * infos.length / 4 % 2 ^ 16 * 4 % 2 ^ 16 / 12 < infos.length := by
        rw [maxSsrcInfos] at hmax
        omega
      constructor
      · intro h
        have hle := parseLoop_length_le SsrcInfo.parse
          (fun info => info.getSize + info.getSize)
          (12 * infos.length / 4 % 2 ^ 16 * 4 % 2 ^ 16 / 12)
          (infos.flatMap SsrcInfo.serialize ++ behind.flatMap serialize)
        rw [h] at hle
        omega
      · exact fun h => absurd h.1 hmax

end ExtendedReportBlock

/-! ## Packets -/

def EndsAfter (data : List Byte) (packet : ExtendedReportPacket) : Prop :=
  let rest := (data.drop (Packet.commonHeaderSize + 4)).drop
    (packet.reports.map ExtendedReportBlock.getSize).sum
  rest = [] ∨ ExtendedReportBlock.parse rest = none

variable {packet : ExtendedReportPacket}

theorem endsAfter_parse {data : List Byte} (h : ExtendedReportPacket.parse data = some packet) :
    EndsAfter data packet := by
  unfold ExtendedReportPacket.parse at h
  split_ifs at h
  obtain rfl := Option.some.inj h
  exact parseWhile_exit ExtendedReportBlock.getSize_pos _

theorem ExtendedReportPacket.parse_serialize_iff (hfits : packet.getSize ≤ 4 * 2 ^ 16) :
    parse packet.serialize = some packet ↔ EachBefore ReadBackBefore packet.reports := by
  have hlen : ¬ packet.serialize.length < Packet.commonHeaderSize + 4 := by
    rw [length_serialize, getSize]
    omega
  have hssrc : read4Bytes packet.serialize Packet.commonHeaderSize = packet.ssrc :=
    read4Bytes_set4Bytes _ (packet.reports.flatMap ExtendedReportBlock.serialize)
  have hdrop : packet.serialize.drop (Packet.commonHeaderSize + 4) =
      packet.reports.flatMap ExtendedReportBlock.serialize := rfl
  have hblocks : ∀ block ∈ packet.reports, block.getSize ≤ 4 * 2 ^ 16 := by
    intro block hblock
    have hle := single_le_sum (fun _ _ => Nat.zero_le _) _
      (mem_map_of_mem (f := ExtendedReportBlock.getSize) hblock)
    rw [getSize] at hfits
    omega
  rw [parse, if_neg hlen, hssrc, hdrop, Option.some.injEq, ← eachBefore_congr fun block hblock =>
      ExtendedReportBlock.parse_serialize_iff (hblocks block hblock),
    ← parseWhile_flatMap_iff ExtendedReportBlock.length_serialize ExtendedReportBlock.getSize_pos]
  obtain ⟨ssrc, reports⟩ := packet
  rw [ExtendedReportPacket.mk.injEq]
  exact ⟨And.right, fun h => ⟨rfl, h⟩⟩

/-- **Extended reports are read back exactly if the sub-blocks are where they are looked for.** For
all data the loop ends. -/
theorem xr_round_trip_iff (packet : ExtendedReportPacket) (hfits : packet.getSize ≤ 4 * 2 ^ 16)
    (data : List Byte) :
    (ExtendedReportPacket.parse packet.serialize = some packet ↔ EachBefore ReadBackBefore packet.reports) ∧
      ∀ result ∈ ExtendedReportPacket.parse data, EndsAfter data result :=
  ⟨ExtendedReportPacket.parse_serialize_iff hfits, fun _ hresult => endsAfter_parse hresult⟩

def twoSubBlocks : ExtendedReportPacket where
  ssrc := 1
  reports := [.delaySinceLastRr [⟨2, 3, 4⟩, ⟨5, 6, 7⟩]]

theorem second_sub_block_lost :
    ExtendedReportPacket.parse twoSubBlocks.serialize ≠ some twoSubBlocks := by
  decide

def singleSubBlocks : ExtendedReportPacket where
  ssrc := 1
  reports := [.delaySinceLastRr [⟨2, 3, 4⟩], .receiverReferenceTime 8 9, .delaySinceLastRr [⟨5, 6, 7⟩]]

theorem xr_round_trip_singleSubBlocks :
    ExtendedReportPacket.parse singleSubBlocks.serialize = some singleSubBlocks :=
  (xr_round_trip_iff singleSubBlocks (by decide) []).1.mpr
    ⟨readBackBefore_of_length_le_one (by decide) _, trivial,
      readBackBefore_of_length_le_one (by decide) _, trivial⟩

end MediasoupWorker.RTC.RTCP
