import MediasoupWorker.RTC.RTCP.FeedbackRtpTransport
import MediasoupWorker.RTC.RTCP.Packet
import MediasoupWorker.RTC.SeqManager
import Mathlib.Algebra.BigOperators.Group.List.Basic
import Mathlib.Data.List.ReduceOption

/-!
# Transport-wide congestion control feedback that is generated here

`src/src/RTC/RTCP/FeedbackRtpTransport.cpp`, the side that sends. The statuses of the packets that
`AddPacket` is told of, and of those missing between them, wait in a context for a run or a vector of seven.
-/

namespace MediasoupWorker.RTC.RTCP

open Library List

namespace FeedbackRtpTransportPacket

inductive AddPacketResult where
  | success
  | maxSizeExceeded
  | fatal
  deriving DecidableEq, Repr

def Status.toBits : Status → BitVec 16
  | .notReceived => 0
  | .smallDelta => 1
  | .largeDelta => 2
  | .reserved => 3
  | .none => 4

structure Context where
  allSameStatus : Bool := true
  currentStatus : Status := .none
  statuses : List Status := []
  deriving DecidableEq, Repr

def maxMissingPackets : ℕ := 2 ^ 13 - 1
def maxPacketStatusCount : ℕ := 2 ^ 16 - 1
def maxPacketDelta : ℤ := 0x7FFF

def deltaStatus (delta : BitVec 16) : Status :=
  if 0 ≤ delta.toInt ∧ delta.toInt ≤ 255 then .smallDelta else .largeDelta

def padding (size : ℕ) : ℕ := (4 - size % 4) % 4

end FeedbackRtpTransportPacket

open FeedbackRtpTransportPacket

structure LocalPacket extends FeedbackRtpTransportPacket where
  baseSequenceNumber := 0
  packetStatusCount := 0
  referenceTime := 0
  feedbackPacketCount := 0
  chunks := []
  deltas := []
  deltasAndChunksSize := 0
  size := 0
  senderSsrc : BitVec 32 := 0
  mediaSsrc : BitVec 32 := 0
  latestSequenceNumber : BitVec 16 := 0
  latestTimestamp : BitVec 64 := 0
  context : Context := {}
  deriving DecidableEq, Repr

namespace LocalPacket

/-! ## Chunks -/

def createRunLengthChunk (status : Status) (count : BitVec 16) (p : LocalPacket) : LocalPacket :=
  { p with
    chunks := p.chunks ++ [.runLength status count]
    packetStatusCount := p.packetStatusCount + count
    deltasAndChunksSize := p.deltasAndChunksSize + 2 }

def createTwoBitVectorChunk (statuses : List Status) (p : LocalPacket) : LocalPacket :=
  { p with
    chunks := p.chunks ++ [.twoBitVector statuses]
    packetStatusCount := p.packetStatusCount + BitVec.ofNat 16 statuses.length
    deltasAndChunksSize := p.deltasAndChunksSize + 2 }

def setStatuses (statuses : List Status) (p : LocalPacket) : LocalPacket :=
  { p with context := { p.context with statuses } }

def setCurrentStatus (currentStatus : Status) (p : LocalPacket) : LocalPacket :=
  { p with context := { p.context with currentStatus } }

def flushRun (p : LocalPacket) : LocalPacket :=
  (p.createRunLengthChunk p.context.currentStatus
    (BitVec.ofNat 16 p.context.statuses.length)).setStatuses []

def flushVector (p : LocalPacket) : LocalPacket :=
  (p.createTwoBitVectorChunk p.context.statuses).setStatuses []

def fillStatuses : (missingPackets : ℕ) → (statuses : List Status) → (representedPackets : ℕ) →
    List Status × ℕ
  | 0, statuses, representedPackets => (statuses, representedPackets)
  | missingPackets + 1, statuses, representedPackets =>
    if statuses.length < 7 then
      fillStatuses missingPackets (statuses ++ [.notReceived]) (representedPackets + 1)
    else (statuses, representedPackets)

def flushLongRun (p : LocalPacket) : LocalPacket :=
  if 7 ≤ p.context.statuses.length ∧ p.context.allSameStatus then p.flushRun.setCurrentStatus .none
  else p

def fillContext (missingPackets : ℕ) (p : LocalPacket) : LocalPacket × ℕ :=
  let (statuses, representedPackets) := fillStatuses missingPackets p.context.statuses 0
  let p := (p.setCurrentStatus .notReceived).setStatuses statuses
  (if p.context.statuses.length = 7 then p.flushVector.setCurrentStatus .none else p, representedPackets)

def fillMissing (missingPackets : BitVec 16) (p : LocalPacket) : LocalPacket :=
  let (p, representedPackets) := p.flushLongRun.fillContext missingPackets.toNat
  let missingPackets := missingPackets - BitVec.ofNat 16 representedPackets
  if missingPackets ≠ 0 then
    ((p.createRunLengthChunk .notReceived missingPackets).setStatuses []).setCurrentStatus .none
  else p

def flushOtherRun (status : Status) (p : LocalPacket) : LocalPacket :=
  if 7 ≤ p.context.statuses.length ∧ p.context.allSameStatus ∧ status ≠ p.context.currentStatus then
    p.flushRun
  else p

def pushReceived (delta : BitVec 16) (p : LocalPacket) : LocalPacket :=
  let status := deltaStatus delta
  { p with
    deltas := p.deltas ++ [delta]
    deltasAndChunksSize := p.deltasAndChunksSize + if status = .smallDelta then 1 else 2
    context := {
      statuses := p.context.statuses ++ [status]
      allSameStatus := p.context.currentStatus == .none ||
        (p.context.allSameStatus && p.context.currentStatus == status)
      currentStatus := status } }

def flushMixedVector (p : LocalPacket) : LocalPacket :=
  if p.context.statuses.length < 7 then p
  else if p.context.statuses.length = 7 ∧ !p.context.allSameStatus then
    (p.setCurrentStatus .none).flushVector
  else p

def fillReceived (delta : BitVec 16) (p : LocalPacket) : LocalPacket :=
  ((p.flushOtherRun (deltaStatus delta)).pushReceived delta).flushMixedVector

def fillChunk (previousSequenceNumber sequenceNumber : BitVec 16) (delta : BitVec 16)
    (p : LocalPacket) : LocalPacket :=
  let missingPackets := sequenceNumber - (previousSequenceNumber + 1)
  let p := if missingPackets > 0 then p.fillMissing missingPackets else p
  p.fillReceived delta

def addPendingChunks (p : LocalPacket) : Except Fault LocalPacket :=
  if p.context.statuses.isEmpty then .ok p
  else if p.context.allSameStatus then .ok p.flushRun
  else do
    msAssert (p.context.statuses.length < 7) "already 7 status packets present"
    return p.flushVector

/-! ## Packets -/

def isFull (p : LocalPacket) : Bool := p.packetStatusCount.toNat ≥ maxPacketStatusCount - 7

def isSerializable (p : LocalPacket) : Bool := p.deltas.length > 0

def getSize (p : LocalPacket) : ℕ :=
  if p.size ≠ 0 then p.size
  else
    let size := headersSize + p.deltasAndChunksSize
    size + padding size

def sizeWithAnother (p : LocalPacket) : ℕ :=
  let size := headersSize + p.deltasAndChunksSize + 2 + 2
  size + padding size

def setBase (sequenceNumber : BitVec 16) (timestamp : BitVec 64) (p : LocalPacket) : LocalPacket :=
  { p with
    baseSequenceNumber := sequenceNumber + 1
    referenceTime := ((timestamp &&& 0x1FFFFFC0) / 64).setWidth 32
    latestSequenceNumber := sequenceNumber
    latestTimestamp := (timestamp >>> 6) * 64 }

def addPacket (sequenceNumber : BitVec 16) (timestamp : BitVec 64) (maxRtcpPacketLen : ℕ)
    (p : LocalPacket) : Except Fault (LocalPacket × AddPacketResult) := do
  msAssert (!p.isFull) "packet is full"
  if p.latestTimestamp = 0 then return (p.setBase sequenceNumber timestamp, .success)
  else if !isSeqHigherThan sequenceNumber p.latestSequenceNumber then return (p, .success)
  else
    let missingPackets : ℤ := sequenceNumber.toNat - (p.latestSequenceNumber.toNat + 1)
    if missingPackets > maxMissingPackets then return (p, .fatal)
    else
      let delta64 := (timestamp - p.latestTimestamp) * 4
      if delta64.toInt > maxPacketDelta ∨ delta64.toInt < -1 * maxPacketDelta then return (p, .fatal)
      else if p.sizeWithAnother > maxRtcpPacketLen then return (p, .maxSizeExceeded)
      else
        let delta := delta64.setWidth 16
        let p := p.fillChunk p.latestSequenceNumber sequenceNumber delta
        return ({ p with latestSequenceNumber := sequenceNumber, latestTimestamp := timestamp }, .success)

end LocalPacket

namespace FeedbackRtpTransportPacket

def twoBitVectorBytes : List Status → (i : ℕ) → (bytes : BitVec 16) → BitVec 16
  | [], _, bytes => bytes
  | status :: statuses, i, bytes => twoBitVectorBytes statuses (i - 2) (bytes ||| status.toBits <<< i)

def oneBitVectorBytes : List Status → (i : ℕ) → (bytes : BitVec 16) → BitVec 16
  | [], _, bytes => bytes
  | status :: statuses, i, bytes => oneBitVectorBytes statuses (i - 1) (bytes ||| status.toBits <<< i)

def Chunk.serialize : Chunk → Except Fault (List Byte)
  | .runLength status count => .ok (set2Bytes (status.toBits <<< 13 ||| count &&& 0x1FFF))
  | .oneBitVector statuses => do
    msAssert (statuses.length ≤ 14) "packet info size must be 14 or less"
    return set2Bytes (oneBitVectorBytes statuses 13 0x8000)
  | .twoBitVector statuses => do
    msAssert (statuses.length ≤ 7) "packet info size must be 7 or less"
    return set2Bytes (twoBitVectorBytes statuses 12 (0x8000 ||| 0x01 <<< 14))

def serializeDelta (delta : BitVec 16) : List Byte :=
  if 0 ≤ delta.toInt ∧ delta.toInt ≤ 255 then [delta.setWidth 8] else set2Bytes delta

end FeedbackRtpTransportPacket

namespace LocalPacket

def messageTypeTcc : ℕ := 15

def serializeHeaders (p : LocalPacket) : List Byte :=
  Packet.serialize messageTypeTcc .rtpfb p.getSize ++ set4Bytes p.senderSsrc ++ set4Bytes p.mediaSsrc ++
    set2Bytes p.baseSequenceNumber ++ set2Bytes p.packetStatusCount ++
    set3Bytes (p.referenceTime.setWidth 24) ++ [p.feedbackPacketCount]

def serialize (p : LocalPacket) : Except Fault (LocalPacket × List Byte) := do
  let p ← p.addPendingChunks
  let chunks ← p.chunks.mapM Chunk.serialize
  let bytes := p.serializeHeaders ++ chunks.flatten ++ p.deltas.flatMap serializeDelta
  return (p, bytes ++ List.replicate (padding bytes.length) 0)

end LocalPacket

/-! ## What the chunks and the context spell out -/

namespace FeedbackRtpTransportPacket

def statusOf : Option (BitVec 16) → Status
  | none => .notReceived
  | some delta => deltaStatus delta

theorem received_deltaStatus (d : BitVec 16) : (deltaStatus d).received = true := by
  unfold deltaStatus
  split_ifs <;> rfl

theorem received_statusOf (d : Option (BitVec 16)) : (statusOf d).received = d.isSome := by
  cases d with
  | none => rfl
  | some d => exact received_deltaStatus d

theorem length_serializeDelta (d : BitVec 16) :
    (serializeDelta d).length = if deltaStatus d = .smallDelta then 1 else 2 := by
  unfold serializeDelta deltaStatus
  split_ifs <;> first | rfl | contradiction

def Chunk.Full (bound : ℕ) : Chunk → Prop
  | .runLength _ count => 0 < count.toNat ∧ count.toNat ≤ bound
  | .oneBitVector _ => False
  | .twoBitVector statuses => statuses.length = 7

def Chunk.Fills (bound remaining : ℕ) : Chunk → Prop
  | .runLength _ count => 0 < count.toNat ∧ count.toNat ≤ bound
  | .oneBitVector _ => False
  | .twoBitVector statuses => statuses ≠ [] ∧ statuses.length = min 7 remaining

def ChunksFill (bound : ℕ) : List Chunk → Prop
  | [] => True
  | chunk :: chunks =>
    chunk.Fills bound ((chunk :: chunks).flatMap Chunk.statuses).length ∧ ChunksFill bound chunks

theorem chunksFill_append {bound : ℕ} {cs last : List Chunk} (hfull : ∀ c ∈ cs, c.Full bound)
    (hlast : ChunksFill bound last) : ChunksFill bound (cs ++ last) := by
  induction cs with
  | nil => exact hlast
  | cons c cs ih =>
    obtain ⟨hc, hcs⟩ := forall_mem_cons.mp hfull
    refine ⟨?_, ih hcs⟩
    cases c with
    | runLength st n => exact hc
    | oneBitVector ss => exact hc
    | twoBitVector ss =>
      have hseven : ss.length = 7 := hc
      refine ⟨ne_nil_of_length_pos (by omega), ?_⟩
      rw [flatMap_cons, length_append, Chunk.statuses]
      omega

theorem chunksFill_of_full {bound : ℕ} {chunks : List Chunk} (hfull : ∀ c ∈ chunks, c.Full bound) :
    ChunksFill bound chunks := by
  have happend : ChunksFill bound (chunks ++ []) := chunksFill_append hfull trivial
  rw [append_nil] at happend
  exact happend

structure Context.Sound (context : Context) : Prop where
  run : 7 ≤ context.statuses.length → context.allSameStatus = true ∧ context.currentStatus.received = true
  same : context.allSameStatus = true → context.currentStatus.received = true →
    ∀ status ∈ context.statuses, status = context.currentStatus
  empty : context.currentStatus = .none → context.statuses = []

theorem Context.Sound.of_empty {c : Context} (h : c.statuses = []) : c.Sound where
  run := by
    rw [h]
    intro hseven
    cases hseven
  same := by
    rw [h]
    intro _ _ st hmem
    cases hmem
  empty := fun _ => h

structure Context.Settled (context : Context) : Prop extends Context.Sound context where
  last : context.statuses ≠ [] → context.currentStatus.received = true

theorem Context.Settled.length_lt {c : Context} (h : c.Settled) (hmixed : c.allSameStatus = false) :
    c.statuses.length < 7 := by
  by_contra hlong
  rw [(h.run (by omega)).1] at hmixed
  cases hmixed

end FeedbackRtpTransportPacket

namespace LocalPacket

structure Built (bound : ℕ) (deltas : List (Option (BitVec 16))) (p : LocalPacket) : Prop where
  statuses : p.statuses ++ p.context.statuses = deltas.map statusOf
  received : p.deltas = deltas.reduceOption
  chunks : ∀ chunk ∈ p.chunks, chunk.Full bound
  count : p.packetStatusCount = BitVec.ofNat 16 p.statuses.length
  size : p.deltasAndChunksSize = 2 * p.chunks.length + (p.deltas.flatMap serializeDelta).length

structure Finished (bound : ℕ) (deltas : List (Option (BitVec 16))) (p : LocalPacket) : Prop where
  statuses : p.statuses = deltas.map statusOf
  received : p.deltas = deltas.reduceOption
  chunks : ChunksFill bound p.chunks
  count : p.packetStatusCount = BitVec.ofNat 16 p.statuses.length
  size : p.deltasAndChunksSize = 2 * p.chunks.length + (p.deltas.flatMap serializeDelta).length

def fixed (p : LocalPacket) : BitVec 16 × BitVec 32 × Byte × ℕ × BitVec 32 × BitVec 32 × BitVec 16 × BitVec 64 :=
  (p.baseSequenceNumber, p.referenceTime, p.feedbackPacketCount, p.size, p.senderSsrc, p.mediaSsrc,
    p.latestSequenceNumber, p.latestTimestamp)

section Built

variable {bound : ℕ} {ds : List (Option (BitVec 16))} {p p' : LocalPacket}

theorem Built.congr (h : Built bound ds p) (hcs : p'.chunks = p.chunks)
    (hsts : p'.context.statuses = p.context.statuses) (hds : p'.deltas = p.deltas)
    (hn : p'.packetStatusCount = p.packetStatusCount)
    (hsize : p'.deltasAndChunksSize = p.deltasAndChunksSize) : Built bound ds p' := by
  have hspell : p'.statuses = p.statuses := by
    rw [FeedbackRtpTransportPacket.statuses, FeedbackRtpTransportPacket.statuses, hcs]
  refine ⟨?_, ?_, ?_, ?_, ?_⟩
  · rw [hspell, hsts]
    exact h.statuses
  · rw [hds]
    exact h.received
  · rw [hcs]
    exact h.chunks
  · rw [hn, hspell]
    exact h.count
  · rw [hsize, hcs, hds]
    exact h.size

theorem statuses_append (c : Chunk) (hcs : p'.chunks = p.chunks ++ [c]) :
    p'.statuses = p.statuses ++ c.statuses := by
  rw [FeedbackRtpTransportPacket.statuses, FeedbackRtpTransportPacket.statuses, hcs,
    flatMap_append, flatMap_singleton]

section

variable (h : Built bound ds p)

include h

theorem Built.of_chunk {c : Chunk} (hfull : c.Full bound) {more : List (Option (BitVec 16))}
    (hgap : more.reduceOption = []) (hc : p.context.statuses ++ more.map statusOf = c.statuses)
    (hcs : p'.chunks = p.chunks ++ [c]) (hsts : p'.context.statuses = []) (hds : p'.deltas = p.deltas)
    (hn : p'.packetStatusCount = p.packetStatusCount + BitVec.ofNat 16 c.statuses.length)
    (hsize : p'.deltasAndChunksSize = p.deltasAndChunksSize + 2) : Built bound (ds ++ more) p' := by
  have hspell := statuses_append c hcs
  refine ⟨?_, ?_, ?_, ?_, ?_⟩
  · rw [hspell, hsts, append_nil, ← hc, ← append_assoc, h.statuses, map_append]
  · rw [hds, h.received, reduceOption_append, hgap, append_nil]
  · rw [hcs]
    exact forall_mem_append.mpr ⟨h.chunks, forall_mem_singleton.mpr hfull⟩
  · rw [hn, h.count, hspell, length_append, BitVec.ofNat_add]
  · rw [hsize, h.size, hcs, hds, length_append, length_singleton]
    omega

theorem Built.flushRun (hbound : bound < 2 ^ 16) (hne : p.context.statuses ≠ [])
    (hle : p.context.statuses.length ≤ bound)
    (hsame : ∀ st ∈ p.context.statuses, st = p.context.currentStatus) : Built bound ds p.flushRun := by
  have hn : (BitVec.ofNat 16 p.context.statuses.length).toNat = p.context.statuses.length := by
    rw [BitVec.toNat_ofNat, Nat.mod_eq_of_lt (by omega)]
  have hrun : p.context.statuses =
      (Chunk.runLength p.context.currentStatus (BitVec.ofNat 16 p.context.statuses.length)).statuses := by
    rw [Chunk.statuses, hn]
    exact eq_replicate_of_mem hsame
  have hfull : (Chunk.runLength p.context.currentStatus
      (BitVec.ofNat 16 p.context.statuses.length)).Full bound :=
    ⟨hn.symm ▸ length_pos_of_ne_nil hne, hn.symm ▸ hle⟩
  have hbuilt : Built bound (ds ++ []) p.flushRun :=
    h.of_chunk hfull rfl ((append_nil _).trans hrun) rfl rfl rfl (by rw [← hrun]; rfl) rfl
  rw [append_nil] at hbuilt
  exact hbuilt

theorem Built.flushVector (hseven : p.context.statuses.length = 7) : Built bound ds p.flushVector := by
  have hfull : (Chunk.twoBitVector p.context.statuses).Full bound := hseven
  have hbuilt : Built bound (ds ++ []) p.flushVector :=
    h.of_chunk hfull rfl (append_nil _) rfl rfl rfl rfl rfl
  rw [append_nil] at hbuilt
  exact hbuilt

theorem Built.missingRun (hnil : p.context.statuses = []) {n : BitVec 16} (hn : 0 < n.toNat)
    (hle : n.toNat ≤ bound) : Built bound (ds ++ replicate n.toNat none)
      ((p.createRunLengthChunk .notReceived n).setStatuses []) := by
  have hfull : (Chunk.runLength .notReceived n).Full bound := ⟨hn, hle⟩
  refine h.of_chunk hfull ?_ ?_ rfl rfl rfl ?_ rfl
  · exact reduceOption_replicate_none
  · rw [hnil, nil_append, map_replicate]
    rfl
  · rw [Chunk.statuses, length_replicate, BitVec.ofNat_toNat, BitVec.setWidth_eq]
    rfl

theorem Built.missingStatuses (n : ℕ) : Built bound (ds ++ replicate n none)
      (p.setStatuses (p.context.statuses ++ replicate n .notReceived)) := by
  refine ⟨?_, ?_, h.chunks, h.count, h.size⟩
  · show p.statuses ++ (p.context.statuses ++ replicate n .notReceived) = _
    rw [← append_assoc, h.statuses, map_append, map_replicate]
    rfl
  · rw [reduceOption_append, reduceOption_replicate_none, append_nil]
    exact h.received

end

/-! ### Missing packets -/

theorem fillStatuses_eq (gap : ℕ) (ss : List Status) (n : ℕ) :
    fillStatuses gap ss n = (ss ++ replicate (min gap (7 - ss.length)) .notReceived,
        n + min gap (7 - ss.length)) := by
  induction gap generalizing ss n with
  | zero => simp [fillStatuses]
  | succ gap ih =>
    rw [fillStatuses]
    split_ifs with hlen
    · have hn : min (gap + 1) (7 - ss.length) = min gap (7 - (ss ++ [Status.notReceived]).length) + 1 := by
        rw [length_append, length_singleton]
        omega
      rw [ih, hn, append_assoc, singleton_append, ← replicate_succ]
      exact Prod.ext rfl (by dsimp only; omega)
    · rw [Nat.sub_eq_zero_of_le (by omega), Nat.min_zero, replicate_zero, append_nil, add_zero]

def room (p : LocalPacket) : ℕ :=
  if 7 ≤ p.context.statuses.length then 7 else 7 - p.context.statuses.length

theorem length_flushLongRun (hsnd : p.context.Sound) :
    p.flushLongRun.context.statuses.length + p.room = 7 := by
  rw [LocalPacket.flushLongRun, room]
  by_cases hlong : 7 ≤ p.context.statuses.length
  · rw [if_pos ⟨hlong, (hsnd.run hlong).1⟩, if_pos hlong]
    rfl
  · rw [if_neg fun hand => hlong hand.1, if_neg hlong]
    omega

theorem Built.flushLongRun (h : Built bound ds p) (hbound : bound < 2 ^ 16) (hsnd : p.context.Sound)
    (hle : p.context.statuses.length ≤ bound) : Built bound ds p.flushLongRun := by
  rw [LocalPacket.flushLongRun]
  split_ifs with hlong
  · have hne : p.context.statuses ≠ [] := ne_nil_of_length_pos (by omega)
    have hsame := hsnd.same hlong.2 (hsnd.run hlong.1).2
    exact (h.flushRun hbound hne hle hsame).congr rfl rfl rfl rfl rfl
  · exact h

theorem fillContext_cases (hlen : p.context.statuses.length < 7) (gap : ℕ) :
    (p.fillContext gap).2 = min gap (7 - p.context.statuses.length) ∧
    (((p.fillContext gap).1.context.statuses = [] ∧
        (p.fillContext gap).1.context.currentStatus = .none) ∨ ((p.fillContext gap).2 = gap ∧
        (p.fillContext gap).1.context.statuses.length < 7 ∧
        (p.fillContext gap).1.context.currentStatus = .notReceived)) := by
  rw [LocalPacket.fillContext, fillStatuses_eq]
  dsimp only
  rw [zero_add]
  refine ⟨rfl, ?_⟩
  split_ifs with hseven
  · exact .inl ⟨rfl, rfl⟩
  · have hne : (p.context.statuses ++ replicate (min gap (7 - p.context.statuses.length))
        Status.notReceived).length ≠ 7 := hseven
    rw [length_append, length_replicate] at hne
    refine .inr ⟨by omega, ?_, rfl⟩
    show (p.context.statuses ++ replicate _ Status.notReceived).length < 7
    rw [length_append, length_replicate]
    omega

theorem Built.fillContext (h : Built bound ds p) (gap : ℕ) :
    Built bound (ds ++ replicate (p.fillContext gap).2 none)
      (p.fillContext gap).1 := by
  rw [LocalPacket.fillContext, fillStatuses_eq]
  dsimp only
  rw [zero_add]
  have hfill : Built bound _ ((p.setCurrentStatus .notReceived).setStatuses _) :=
    (h.missingStatuses (min gap (7 - p.context.statuses.length))).congr rfl rfl rfl rfl rfl
  split_ifs with hseven
  · exact (hfill.flushVector hseven).congr rfl rfl rfl rfl rfl
  · exact hfill

theorem sound_fillMissing (hsnd : p.context.Sound) (gap : BitVec 16) :
    (p.fillMissing gap).context.Sound ∧ (p.fillMissing gap).context.statuses.length < 7 := by
  have hroom := length_flushLongRun hsnd
  have hroom' : 0 < p.room := by
    rw [room]
    split_ifs <;> omega
  obtain ⟨-, hctx⟩ := fillContext_cases (p := p.flushLongRun) (by omega) gap.toNat
  rw [fillMissing]
  generalize p.flushLongRun.fillContext gap.toNat = filled at *
  dsimp only
  split_ifs
  · exact ⟨Context.Sound.of_empty rfl, Nat.succ_pos 6⟩
  · obtain ⟨hnil, -⟩ | ⟨-, hlen, hcur⟩ := hctx
    · refine ⟨Context.Sound.of_empty hnil, ?_⟩
      rw [hnil]
      exact Nat.succ_pos 6
    · refine ⟨⟨fun hseven => by omega, fun _ hrec => ?_, fun hnone => ?_⟩, hlen⟩
      · rw [hcur] at hrec
        cases hrec
      · rw [hcur] at hnone
        cases hnone

/-- **Missing packets**: all of them are spelled out, if those that the context does not take are a
run of allowed length. -/
theorem fillMissing_built (h : Built bound ds p) (hbound : bound < 2 ^ 16) (hsnd : p.context.Sound)
    (hle : p.context.statuses.length ≤ bound) {gap : BitVec 16} (hgap : gap.toNat - p.room ≤ bound) :
    Built bound (ds ++ replicate gap.toNat none) (p.fillMissing gap) := by
  have hroom := length_flushLongRun hsnd
  have hroom' : 0 < p.room := by
    rw [room]
    split_ifs <;> omega
  have hfill := (h.flushLongRun hbound hsnd hle).fillContext gap.toNat
  obtain ⟨hcount, hctx⟩ := fillContext_cases (p := p.flushLongRun) (by omega) gap.toNat
  rw [fillMissing]
  generalize p.flushLongRun.fillContext gap.toNat = filled at *
  obtain ⟨q, count⟩ := filled
  dsimp only at *
  have hle' : count ≤ gap.toNat := hcount ▸ min_le_left _ _
  have hrest : (gap - BitVec.ofNat 16 count).toNat = gap.toNat - count := by
    have := gap.isLt
    rw [BitVec.toNat_sub_of_le, BitVec.toNat_ofNat, Nat.mod_eq_of_lt (by omega)]
    rw [BitVec.le_def, BitVec.toNat_ofNat, Nat.mod_eq_of_lt (by omega)]
    exact hle'
  split_ifs with hmore
  · -- the run of those that the context has not taken
    have hmore' : 0 < (gap - BitVec.ofNat 16 count).toNat :=
      pos_of_ne_zero fun hzero => hmore (BitVec.eq_of_toNat_eq hzero)
    obtain ⟨hnil, -⟩ | ⟨hall, -⟩ := hctx
    · have hrun := hfill.missingRun hnil hmore' (by omega)
      rw [append_assoc, replicate_append_replicate, hrest, Nat.add_sub_cancel' hle'] at hrun
      exact hrun.congr rfl rfl rfl rfl rfl
    · omega
  · have hall : count = gap.toNat := by
      have hzero : (gap - BitVec.ofNat 16 count).toNat = 0 := by
        rw [not_not.mp hmore]
        rfl
      omega
    rw [hall] at hfill
    exact hfill

/-! ### Received packets -/

theorem Built.pushReceived (h : Built bound ds p) (d : BitVec 16) :
    Built bound (ds ++ [some d]) (p.pushReceived d) := by
  refine ⟨?_, ?_, h.chunks, h.count, ?_⟩
  · show p.statuses ++ (p.context.statuses ++ [deltaStatus d]) = _
    rw [← append_assoc, h.statuses, map_append]
    rfl
  · show p.deltas ++ [d] = _
    rw [reduceOption_append, h.received]
    rfl
  · show p.deltasAndChunksSize + _ = 2 * p.chunks.length + ((p.deltas ++ [d]).flatMap serializeDelta).length
    rw [h.size, flatMap_append, length_append, flatMap_singleton, length_serializeDelta]
    omega

theorem Built.flushOtherRun (h : Built bound ds p) (hbound : bound < 2 ^ 16) (hsnd : p.context.Sound)
    (hle : p.context.statuses.length ≤ bound) (st : Status) : Built bound ds (p.flushOtherRun st) := by
  rw [LocalPacket.flushOtherRun]
  split_ifs with hother
  · have hne : p.context.statuses ≠ [] := ne_nil_of_length_pos (by omega)
    exact h.flushRun hbound hne hle (hsnd.same hother.2.1 (hsnd.run hother.1).2)
  · exact h

section

variable (hsnd : p.context.Sound)

include hsnd

theorem sound_flushOtherRun (st : Status) :
    (p.flushOtherRun st).context.Sound ∧ (7 ≤ (p.flushOtherRun st).context.statuses.length →
        (p.flushOtherRun st).context.allSameStatus = true ∧
        (p.flushOtherRun st).context.currentStatus = st) := by
  rw [LocalPacket.flushOtherRun]
  split_ifs with hother
  · exact ⟨Context.Sound.of_empty rfl, fun hseven => by cases hseven⟩
  · refine ⟨hsnd, fun hlong => ?_⟩
    have hsame := (hsnd.run hlong).1
    refine ⟨hsame, ?_⟩
    by_contra hne
    exact hother ⟨hlong, hsame, Ne.symm hne⟩

theorem pushReceived_same (delta : BitVec 16) (hflag : (p.pushReceived delta).context.allSameStatus = true) :
    ∀ st ∈ (p.pushReceived delta).context.statuses, st = deltaStatus delta := by
  intro st hmem
  have hmem : st ∈ p.context.statuses ++ [deltaStatus delta] := hmem
  have hflag : (p.context.currentStatus == .none ||
      (p.context.allSameStatus && p.context.currentStatus == deltaStatus delta)) = true := hflag
  rw [Bool.or_eq_true, Bool.and_eq_true, beq_iff_eq, beq_iff_eq] at hflag
  rcases mem_append.mp hmem with hold | hnew
  · obtain hnone | ⟨hsame, hcur⟩ := hflag
    · rw [hsnd.empty hnone] at hold
      cases hold
    · rw [← hcur]
      refine hsnd.same hsame ?_ st hold
      rw [hcur]
      exact received_deltaStatus delta
  · exact mem_singleton.mp hnew

theorem settled_pushReceived (d : BitVec 16) (hrun : 7 ≤ (p.pushReceived d).context.statuses.length →
      (p.pushReceived d).context.allSameStatus = true) : (p.pushReceived d).context.Settled where
  run hseven := ⟨hrun hseven, received_deltaStatus d⟩
  same hflag _ := pushReceived_same hsnd d hflag
  empty hnone := by
    have hrec := received_deltaStatus d
    have hnone : deltaStatus d = .none := hnone
    rw [hnone] at hrec
    cases hrec
  last _ := received_deltaStatus d

/-- **A received packet** settles the context. -/
theorem settled_fillReceived (d : BitVec 16) : (p.fillReceived d).context.Settled := by
  obtain ⟨hsnd', hrun⟩ := sound_flushOtherRun hsnd (deltaStatus d)
  rw [fillReceived]
  generalize p.flushOtherRun (deltaStatus d) = q at *
  have hlen : (q.pushReceived d).context.statuses.length = q.context.statuses.length + 1 :=
    length_append
  -- more than seven statuses are a longer run
  have hlonger : 7 < (q.pushReceived d).context.statuses.length →
      (q.pushReceived d).context.allSameStatus = true := by
    intro hlong
    obtain ⟨hsame, hcur⟩ := hrun (by omega)
    show (q.context.currentStatus == .none ||
      (q.context.allSameStatus && q.context.currentStatus == deltaStatus d)) = true
    rw [hsame, hcur, beq_self_eq_true, Bool.and_true, Bool.or_true]
  rw [flushMixedVector]
  split_ifs with hsmall hvec
  · exact settled_pushReceived hsnd' d fun hseven => by omega
  · exact ⟨Context.Sound.of_empty rfl, fun hne => absurd rfl hne⟩
  · refine settled_pushReceived hsnd' d fun _ => ?_
    by_contra hflag
    rw [Bool.not_eq_true] at hflag
    refine hvec ⟨?_, by rw [hflag]; rfl⟩
    by_contra hne
    have := hlonger (by omega)
    rw [hflag] at this
    cases this

end

theorem fillReceived_built (h : Built bound ds p) (hbound : bound < 2 ^ 16) (hsnd : p.context.Sound)
    (hle : p.context.statuses.length ≤ bound) (d : BitVec 16) :
    Built bound (ds ++ [some d]) (p.fillReceived d) := by
  have hpushed := (h.flushOtherRun hbound hsnd hle (deltaStatus d)).pushReceived d
  rw [fillReceived, flushMixedVector]
  split_ifs with hsmall hvec
  · exact hpushed
  · exact Built.flushVector (hpushed.congr rfl rfl rfl rfl rfl) hvec.1
  · exact hpushed

/-- **`FillChunk`** leaves a settled context. -/
theorem settled_fillChunk (hset : p.context.Settled) (prev seq d : BitVec 16) :
    (p.fillChunk prev seq d).context.Settled := by
  rw [fillChunk]
  split_ifs
  · exact settled_fillReceived (sound_fillMissing hset.toSound _).1 d
  · exact settled_fillReceived hset.toSound d

/-- **`FillChunk`**: the missing packets and the packet itself are spelled out. -/
theorem fillChunk_built (h : Built bound ds p) (hbound : bound < 2 ^ 16) (hseven : 7 ≤ bound)
    (hset : p.context.Settled) (hle : p.context.statuses.length ≤ bound) {prev seq : BitVec 16}
    (hgap : (seq - (prev + 1)).toNat - p.room ≤ bound) (d : BitVec 16) : Built bound
      (ds ++ replicate (seq - (prev + 1)).toNat none ++ [some d]) (p.fillChunk prev seq d) := by
  rw [fillChunk]
  generalize seq - (prev + 1) = gap at *
  split_ifs with hmissing
  · obtain ⟨hsnd, hlen⟩ := sound_fillMissing hset.toSound gap
    exact fillReceived_built (fillMissing_built h hbound hset.toSound hle hgap) hbound hsnd
      (by omega) d
  · have hzero : gap.toNat = 0 := by
      by_contra hne
      exact hmissing (BitVec.lt_def.mpr (pos_of_ne_zero hne))
    rw [hzero, replicate_zero, append_nil]
    exact fillReceived_built h hbound hset.toSound hle d

/-! ### The last chunk -/

theorem addPendingChunks_finished (h : Built bound ds p) (hbound : bound < 2 ^ 16)
    (hsettled : p.context.Settled) (hle : p.context.statuses.length ≤ bound) :
    ∃ p', p.addPendingChunks = .ok p' ∧ Finished bound ds p' ∧ p'.fixed = p.fixed := by
  rw [addPendingChunks]
  split_ifs with hemp hsame
  · refine ⟨p, rfl, ⟨?_, h.received, chunksFill_of_full h.chunks, h.count, h.size⟩, rfl⟩
    have hsts := h.statuses
    rw [isEmpty_iff.mp hemp, append_nil] at hsts
    exact hsts
  · have hne : p.context.statuses ≠ [] := fun hnil => hemp (isEmpty_iff.mpr hnil)
    have hrun := h.flushRun hbound hne hle (hsettled.same hsame (hsettled.last hne))
    refine ⟨p.flushRun, rfl, ⟨?_, hrun.received, chunksFill_of_full hrun.chunks, hrun.count, hrun.size⟩, rfl⟩
    exact (append_nil _).symm.trans hrun.statuses
  · have hne : p.context.statuses ≠ [] := fun hnil => hemp (isEmpty_iff.mpr hnil)
    have hseven := hsettled.length_lt (Bool.not_eq_true _ ▸ hsame)
    rw [decide_eq_true hseven]
    have hspell : p.flushVector.statuses = p.statuses ++ p.context.statuses :=
      statuses_append (.twoBitVector p.context.statuses) rfl
    refine ⟨p.flushVector, rfl, ⟨hspell.trans h.statuses, h.received, ?_, ?_, ?_⟩, rfl⟩
    · refine chunksFill_append h.chunks ⟨⟨hne, ?_⟩, trivial⟩
      show _ = min 7 ([Chunk.twoBitVector p.context.statuses].flatMap Chunk.statuses).length
      rw [flatMap_singleton, Chunk.statuses]
      omega
    · rw [hspell, length_append, BitVec.ofNat_add, ← h.count]
      rfl
    · show p.deltasAndChunksSize + 2 = 2 * (p.chunks ++ [_]).length + _
      rw [h.size, length_append, length_singleton]
      show _ = _ + (p.deltas.flatMap serializeDelta).length
      omega

/-! ### Bounds -/

theorem Built.pending_le (h : Built bound ds p) (hsnd : p.context.Sound) :
    p.context.statuses.length ≤ max 6 p.deltas.length := by
  by_cases hlong : 7 ≤ p.context.statuses.length
  · obtain ⟨hsame, hrec⟩ := hsnd.run hlong
    have hall : p.context.statuses.countP Status.received = p.context.statuses.length := by
      rw [countP_eq_length]
      intro st hmem
      rw [hsnd.same hsame hrec st hmem]
      exact hrec
    have hds : (ds.map statusOf).countP Status.received = p.deltas.length := by
      rw [h.received, countP_map, reduceOption_length_eq, countP_eq_length_filter]
      exact congrArg (fun f => (ds.filter f).length) (funext received_statusOf)
    have hle : p.context.statuses.countP Status.received ≤ (ds.map statusOf).countP Status.received := by
      rw [← h.statuses, countP_append]
      exact Nat.le_add_left _ _
    omega
  · omega

theorem Built.length_deltas_le (h : Built bound ds p) : p.deltas.length ≤ p.deltasAndChunksSize := by
  have hle : p.deltas.length ≤ (p.deltas.flatMap serializeDelta).length := by
    rw [length_flatMap]
    refine (length_map (f := fun d => (serializeDelta d).length)).symm.le.trans ?_
    refine length_le_sum_of_one_le _ fun n hn => ?_
    obtain ⟨d, -, rfl⟩ := mem_map.mp hn
    rw [length_serializeDelta]
    split_ifs <;> decide
  rw [h.size]
  omega

end Built

/-! ### What stays -/

theorem fixed_flushLongRun (p : LocalPacket) : p.flushLongRun.fixed = p.fixed := by
  rw [flushLongRun]
  split_ifs <;> rfl

theorem fixed_fillContext (gap : ℕ) (p : LocalPacket) : (p.fillContext gap).1.fixed = p.fixed := by
  rw [fillContext]
  dsimp only
  split_ifs <;> rfl

theorem fixed_fillMissing (gap : BitVec 16) (p : LocalPacket) : (p.fillMissing gap).fixed = p.fixed := by
  have hctx := (fixed_fillContext gap.toNat p.flushLongRun).trans (fixed_flushLongRun p)
  rw [fillMissing]
  dsimp only
  split_ifs
  · exact hctx
  · exact hctx

theorem fixed_fillReceived (d : BitVec 16) (p : LocalPacket) : (p.fillReceived d).fixed = p.fixed := by
  rw [fillReceived, flushMixedVector, flushOtherRun]
  split_ifs <;> rfl

theorem fixed_fillChunk (prev seq d : BitVec 16) (p : LocalPacket) :
    (p.fillChunk prev seq d).fixed = p.fixed := by
  rw [fillChunk]
  split_ifs
  · exact (fixed_fillReceived ..).trans (fixed_fillMissing ..)
  · exact fixed_fillReceived ..

end LocalPacket

end MediasoupWorker.RTC.RTCP
