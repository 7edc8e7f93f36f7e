import MediasoupWorker.Common

/-!
# Transport-wide congestion control feedback

`src/src/RTC/RTCP/FeedbackRtpTransport.cpp`, the side that receives. Chunks of two bytes spell out the
packet statuses: a run of one status, or a vector of 14 statuses of one bit or 7 of two bits. A delta
follows for each received status. To read past the end of the packet is a fault.
-/

namespace MediasoupWorker.RTC.RTCP

open Library List

namespace FeedbackRtpTransportPacket

/-! ## Chunks -/

inductive Status where
  | notReceived
  | smallDelta
  | largeDelta
  | reserved
  | none
  deriving DecidableEq, Repr, Inhabited

namespace Status

def ofBits (bits : BitVec 16) : Status :=
  if bits = 0 then .notReceived
  else if bits = 1 then .smallDelta
  else if bits = 2 then .largeDelta
  else .reserved

def received (status : Status) : Bool := status == .smallDelta || status == .largeDelta

end Status

inductive Chunk where
  | runLength (status : Status) (count : BitVec 16)
  | oneBitVector (statuses : List Status)
  | twoBitVector (statuses : List Status)
  deriving DecidableEq, Repr

def oneBitVectorChunk (buffer count : BitVec 16) : Except Fault Chunk := do
  msAssert (buffer &&& 0x8000 != 0) "invalid one bit vector chunk"
  return .oneBitVector <| (List.range (min 14 count.toNat)).map fun i =>
    Status.ofBits ((buffer >>> (14 - 1 - i)) &&& 0x01)

def twoBitVectorChunk (buffer count : BitVec 16) : Except Fault Chunk := do
  msAssert (buffer &&& 0xC000 != 0) "invalid two bit vector chunk"
  return .twoBitVector <| (List.range (min 7 count.toNat)).map fun i =>
    Status.ofBits ((buffer >>> (2 * (7 - 1 - i))) &&& 0x03)

namespace Chunk

def parse (data : List Byte) (len : ℕ) (count : BitVec 16) : Except Fault (Option Chunk) := do
  if len < 2 then return none
  else
    let bytes ← get2Bytes data 0
    let chunkType := (bytes >>> 15) &&& 0x01
    if chunkType = 0 then
      match Status.ofBits ((bytes >>> 13) &&& 0x03) with
      | .reserved | .none => return none
      | status => return some (.runLength status (bytes &&& 0x1FFF))
    else
      let symbolSize := (← get1Byte data 0) &&& 0x40
      if symbolSize = 0 then some <$> oneBitVectorChunk bytes count
      else some <$> twoBitVectorChunk bytes count

def getCount : Chunk → BitVec 16
  | runLength _ count => count
  | oneBitVector statuses | twoBitVector statuses => BitVec.ofNat 16 statuses.length

def getReceivedStatusCount : Chunk → BitVec 16
  | runLength status count => if status.received then count else 0
  | oneBitVector statuses | twoBitVector statuses =>
    BitVec.ofNat 16 (statuses.countP Status.received)

def runDeltas (read : ℕ → Except Fault (BitVec 16)) (width : ℕ) :
    (n : ℕ) → (deltas : List (BitVec 16)) → (offset : ℕ) → Except Fault (List (BitVec 16) × ℕ)
  | 0, deltas, offset => .ok (deltas, offset)
  | n + 1, deltas, offset => do
    let delta ← read offset
    runDeltas read width n (deltas ++ [delta]) (offset + width)

def smallDelta (data : List Byte) (offset : ℕ) : Except Fault (BitVec 16) := do
  return (← get1Byte data offset).setWidth 16

def vectorDeltas (twoBit : Bool) (data : List Byte) :
    (statuses : List Status) → (len : ℕ) → (deltas : List (BitVec 16)) → (offset : ℕ) →
    Except Fault (Option (List (BitVec 16) × ℕ))
  | [], _, deltas, offset => .ok (some (deltas, offset))
  | .notReceived :: statuses, len, deltas, offset =>
    vectorDeltas twoBit data statuses len deltas offset
  | .smallDelta :: statuses, len, deltas, offset =>
    if len < 1 then .ok none
    else do
      let delta ← smallDelta data offset
      vectorDeltas twoBit data statuses (len - 1) (deltas ++ [delta]) (offset + 1)
  | .largeDelta :: statuses, len, deltas, offset =>
    if !twoBit || len < 2 then .ok none
    else do
      let delta ← get2Bytes data offset
      vectorDeltas twoBit data statuses (len - 2) (deltas ++ [delta]) (offset + 2)
  | .reserved :: statuses, len, deltas, offset
  | .none :: statuses, len, deltas, offset =>
    if !twoBit then .ok none
    else vectorDeltas twoBit data statuses len deltas offset

def addDeltas (chunk : Chunk) (data : List Byte) (len : ℕ) (deltas : List (BitVec 16)) :
    Except Fault (Option (List (BitVec 16) × ℕ)) :=
  match chunk with
  | .runLength .smallDelta count =>
    if len < count.toNat * 1 then .ok none
    else some <$> runDeltas (smallDelta data) 1 count.toNat deltas 0
  | .runLength .largeDelta count =>
    if len < count.toNat * 2 then .ok none
    else some <$> runDeltas (get2Bytes data) 2 count.toNat deltas 0
  | .runLength _ _ => .ok (some (deltas, 0))
  | .oneBitVector statuses => vectorDeltas false data statuses len deltas 0
  | .twoBitVector statuses => vectorDeltas true data statuses len deltas 0

def statuses : Chunk → List Status
  | runLength status count => List.replicate count.toNat status
  | oneBitVector statuses | twoBitVector statuses => statuses

end Chunk

structure PacketResult where
  sequenceNumber : BitVec 16
  delta : BitVec 16 := 0
  received : Bool
  receivedAtMs : ℤ := 0
  deriving DecidableEq, Repr

def fillResults : List Status → (currentSequenceNumber : BitVec 16) → List PacketResult × BitVec 16
  | [], currentSequenceNumber => ([], currentSequenceNumber)
  | status :: statuses, currentSequenceNumber =>
    let next := currentSequenceNumber + 1
    let rest := fillResults statuses next
    ({ sequenceNumber := next, received := status.received } :: rest.1, rest.2)

end FeedbackRtpTransportPacket

open FeedbackRtpTransportPacket

/-! ## The packet -/

structure FeedbackRtpTransportPacket where
  baseSequenceNumber : BitVec 16
  packetStatusCount : BitVec 16
  referenceTime : BitVec 32
  feedbackPacketCount : Byte
  chunks : List Chunk
  deltas : List (BitVec 16)
  deltasAndChunksSize : ℕ
  size : ℕ
  deriving DecidableEq, Repr

namespace FeedbackRtpTransportPacket

def parseReferenceTime (buffer : BitVec 24) : BitVec 32 :=
  let unsignedVal := buffer.setWidth 32
  if (unsignedVal >>> 16) &&& 0x80 ≠ 0 then ~~~(0xFFFFFF#32) ||| unsignedVal else unsignedVal

structure ChunkScan where
  contentData : List Byte
  contentLen : ℕ
  chunks : List Chunk := []
  count : BitVec 16 := 0
  receivedPacketStatusCount : BitVec 16 := 0

def parseChunks (packetStatusCount : BitVec 16) :
    (contentData : List Byte) → (contentLen : ℕ) → (chunks : List Chunk) →
    (count receivedPacketStatusCount : BitVec 16) → Except Fault (Option ChunkScan)
  | contentData, contentLen, chunks, count, receivedPacketStatusCount =>
    if count < packetStatusCount ∧ 0 < contentLen then
      if contentLen < 2 then .ok none
      else
        match contentData with
        | high :: low :: rest => do
          match ← Chunk.parse (high :: low :: rest) contentLen (packetStatusCount - count) with
          | none => return none
          | some chunk =>
            parseChunks packetStatusCount rest (contentLen - 2) (chunks ++ [chunk])
              (count + chunk.getCount)
              (receivedPacketStatusCount + chunk.getReceivedStatusCount)
        | _ => .error .outOfBounds
    else .ok (some { contentData, contentLen, chunks, count, receivedPacketStatusCount })

def parseDeltas : (chunks : List Chunk) → (contentData : List Byte) → (contentLen : ℕ) →
    (deltas : List (BitVec 16)) → (size : ℕ) → Except Fault (Option (List (BitVec 16) × ℕ))
  | [], _, _, deltas, size => .ok (some (deltas, size))
  | chunk :: chunks, contentData, contentLen, deltas, size =>
    if 0 < contentLen then do
      match ← chunk.addDeltas contentData contentLen deltas with
      | none => return none
      | some (deltas, deltasOffset) =>
        parseDeltas chunks (contentData.drop deltasOffset) (contentLen - deltasOffset) deltas
          (size + deltasOffset)
    else .ok (some (deltas, size))

def headersSize : ℕ := 4 + 8 + 8

def announcedLength (length : BitVec 16) : ℕ := (length.toNat + 1) * 4

def parse (data : List Byte) : Except Fault (Option FeedbackRtpTransportPacket) := do
  if data.length < headersSize then return none
  else
    let len := announcedLength (← get2Bytes data 2)
    if len > data.length then return none
    else
      let baseSequenceNumber ← get2Bytes data 12
      let packetStatusCount ← get2Bytes data 14
      let referenceTime ← get3Bytes data 16
      let feedbackPacketCount ← get1Byte data 19
      let contentLen := (len + 2 ^ 64 - headersSize) % 2 ^ 64
      match ← parseChunks packetStatusCount (data.drop headersSize) contentLen [] 0 0 with
      | none => return none
      | some scan =>
        if scan.count ≠ packetStatusCount then return none
        else
          match ← parseDeltas scan.chunks scan.contentData scan.contentLen [] 0 with
          | none => return none
          | some (deltas, deltasSize) =>
            if deltas.length ≠ scan.receivedPacketStatusCount.toNat then return none
            else return some {
              baseSequenceNumber, packetStatusCount, feedbackPacketCount, deltas
              referenceTime := parseReferenceTime referenceTime
              chunks := scan.chunks
              deltasAndChunksSize := 2 * scan.chunks.length + deltasSize
              size := len }

def fillDeltas (deltas : List (BitVec 16)) :
    List PacketResult → (deltaIdx : ℕ) → (currentReceivedAtMs : ℤ) → Except Fault (List PacketResult)
  | [], _, _ => .ok []
  | result :: results, deltaIdx, currentReceivedAtMs =>
    if !result.received then do
      return result :: (← fillDeltas deltas results deltaIdx currentReceivedAtMs)
    else
      match deltas[deltaIdx]? with
      | none => .error (.exception "std::out_of_range")
      | some delta => do
        let receivedAtMs := currentReceivedAtMs + delta.toInt.tdiv 4
        return { result with delta, receivedAtMs } ::
          (← fillDeltas deltas results (deltaIdx + 1) receivedAtMs)

def statuses (p : FeedbackRtpTransportPacket) : List Status := p.chunks.flatMap Chunk.statuses

def getPacketResults (p : FeedbackRtpTransportPacket) : Except Fault (List PacketResult) :=
  fillDeltas p.deltas (fillResults p.statuses (p.baseSequenceNumber - 1)).1 0
    (p.referenceTime.toInt * 64)

/-! ## The statuses of the chunks -/

namespace Chunk

def announcedCount (high low : Byte) (remaining : ℕ) : ℕ :=
  if ((high ++ low : BitVec 16) >>> 15) &&& 0x01 = 0 then
    ((high ++ low : BitVec 16) &&& 0x1FFF).toNat
  else if high &&& 0x40 = 0 then min 14 remaining
  else min 7 remaining

variable {c : Chunk}

theorem parse_cases {high low : Byte} {rest : List Byte} {len : ℕ} {n : BitVec 16} (h : parse (high :: low :: rest) len n = .ok (some c)) :
    (((high ++ low : BitVec 16) >>> 15) &&& 0x01 = 0 ∧ ∃ st, st ≠ .reserved ∧ st ≠ .none ∧
      c = .runLength st ((high ++ low : BitVec 16) &&& 0x1FFF)) ∨
    (((high ++ low : BitVec 16) >>> 15) &&& 0x01 ≠ 0 ∧ high &&& 0x40 = 0 ∧
      c = .oneBitVector ((range (min 14 n.toNat)).map fun i =>
        Status.ofBits (((high ++ low : BitVec 16) >>> (14 - 1 - i)) &&& 0x01))) ∨
    (((high ++ low : BitVec 16) >>> 15) &&& 0x01 ≠ 0 ∧ high &&& 0x40 ≠ 0 ∧
      c = .twoBitVector ((range (min 7 n.toNat)).map fun i =>
        Status.ofBits (((high ++ low : BitVec 16) >>> (2 * (7 - 1 - i))) &&& 0x03))) := by
  unfold parse at h
  split_ifs at h with hlen
  · cases h
  change (if ((high ++ low : BitVec 16) >>> 15) &&& 0x01 = 0 then _ else
    if high &&& 0x40 = 0 then _ else _) = _ at h
  split_ifs at h with hrun hbit
  · refine .inl ⟨hrun, ?_⟩
    split at h
    · cases h
    · cases h
    · rename_i hreserved hnone
      cases h
      exact ⟨_, hreserved, hnone, rfl⟩
  · obtain ⟨c', hc, hsome⟩ := map_eq_ok.mp h
    obtain ⟨u, -, hc⟩ := bind_eq_ok.mp hc
    cases hsome
    cases hc
    exact .inr (.inl ⟨hrun, hbit, rfl⟩)
  · obtain ⟨c', hc, hsome⟩ := map_eq_ok.mp h
    obtain ⟨u, -, hc⟩ := bind_eq_ok.mp hc
    cases hsome
    cases hc
    exact .inr (.inr ⟨hrun, hbit, rfl⟩)

structure Counted (chunk : Chunk) : Prop where
  count : chunk.getCount.toNat = chunk.statuses.length
  received : chunk.getReceivedStatusCount.toNat = chunk.statuses.countP Status.received

theorem counted_runLength (st : Status) (n : BitVec 16) : (runLength st n).Counted := by
  refine ⟨length_replicate.symm, ?_⟩
  rw [statuses, getReceivedStatusCount, countP_replicate]
  split_ifs <;> rfl

theorem counted_of_vector {l : List Status} (hl : l.length < 2 ^ 16)
    (h : c = .oneBitVector l ∨ c = .twoBitVector l) : c.Counted := by
  have hle : l.countP Status.received ≤ l.length := countP_le_length
  have hn : (BitVec.ofNat 16 l.length).toNat = l.length := by
    rw [BitVec.toNat_ofNat, Nat.mod_eq_of_lt hl]
  have hrec : (BitVec.ofNat 16 (l.countP Status.received)).toNat = l.countP Status.received := by
    rw [BitVec.toNat_ofNat, Nat.mod_eq_of_lt (by omega)]
  rcases h with rfl | rfl
  · exact ⟨hn, hrec⟩
  · exact ⟨hn, hrec⟩

theorem getCount_of_vector {l : List Status} {n : ℕ} (hl : l.length = n) (hn : n < 2 ^ 16)
    (h : c = .oneBitVector l ∨ c = .twoBitVector l) : c.getCount.toNat = n ∧ c.Counted := by
  have hcnt := counted_of_vector (hl ▸ hn) h
  refine ⟨hcnt.count.trans ?_, hcnt⟩
  rcases h with rfl | rfl
  · exact hl
  · exact hl

theorem counted_of_parse {high low : Byte} {rest : List Byte} {len : ℕ} {n : BitVec 16} (h : parse (high :: low :: rest) len n = .ok (some c)) :
    c.getCount.toNat = announcedCount high low n.toNat ∧ c.Counted := by
  unfold announcedCount
  rcases parse_cases h with ⟨hrun, st, -, -, rfl⟩ | ⟨hrun, hbit, rfl⟩ | ⟨hrun, hbit, rfl⟩
  · rw [if_pos hrun]
    exact ⟨rfl, counted_runLength _ _⟩
  · rw [if_neg hrun, if_pos hbit]
    exact getCount_of_vector (by simp) (by omega) (.inl rfl)
  · rw [if_neg hrun, if_neg hbit]
    exact getCount_of_vector (by simp) (by omega) (.inr rfl)

end Chunk

def totalCount (chunks : List Chunk) : ℕ := (chunks.map fun chunk => chunk.getCount.toNat).sum

def totalReceived (chunks : List Chunk) : ℕ :=
  (chunks.map fun chunk => chunk.getReceivedStatusCount.toNat).sum

def FitIn : (remaining : ℕ) → List Byte → Prop
  | remaining, high :: low :: rest =>
    remaining = 0 ∨ Chunk.announcedCount high low remaining ≤ remaining ∧
      FitIn (remaining - Chunk.announcedCount high low remaining) rest
  | _, _ => True

def ChunksFit (data : List Byte) : Prop :=
  FitIn ((data.getD 14 0 ++ data.getD 15 0 : BitVec 16)).toNat (data.drop headersSize)

theorem totalCount_cons (ch : Chunk) (chunks : List Chunk) :
    totalCount (ch :: chunks) = ch.getCount.toNat + totalCount chunks := by
  rw [totalCount, map_cons, sum_cons]
  rfl

theorem totalReceived_cons (ch : Chunk) (chunks : List Chunk) :
    totalReceived (ch :: chunks) = ch.getReceivedStatusCount.toNat + totalReceived chunks := by
  rw [totalReceived, map_cons, sum_cons]
  rfl

structure Scanned (packetStatusCount count received : BitVec 16) (data : List Byte)
    (scan : ChunkScan) (new : List Chunk) : Prop where
  counted : ∀ chunk ∈ new, chunk.Counted
  count_eq : scan.count = count + BitVec.ofNat 16 (totalCount new)
  received_eq : scan.receivedPacketStatusCount = received + BitVec.ofNat 16 (totalReceived new)
  fits : ∀ remaining, count.toNat + remaining = packetStatusCount.toNat →
    scan.count = packetStatusCount → (FitIn remaining data ↔ totalCount new = remaining)

variable {scan : ChunkScan}

theorem Scanned.cons {cnt n got : BitVec 16} {high low : Byte} {rest : List Byte} {ch : Chunk}
    {new : List Chunk} {len : ℕ} (hchunk : Chunk.parse (high :: low :: rest) len (cnt - n) = .ok (some ch))
    (hlt : n < cnt) (h : Scanned cnt (n + ch.getCount)
      (got + ch.getReceivedStatusCount) rest scan new) :
    Scanned cnt n got (high :: low :: rest) scan (ch :: new) := by
  obtain ⟨hann, hcounted⟩ := Chunk.counted_of_parse hchunk
  refine ⟨forall_mem_cons.mpr ⟨hcounted, h.counted⟩, ?_, ?_, ?_⟩
  · rw [h.count_eq, totalCount_cons, BitVec.ofNat_add, BitVec.ofNat_toNat, BitVec.setWidth_eq,
      add_assoc]
  · rw [h.received_eq, totalReceived_cons, BitVec.ofNat_add, BitVec.ofNat_toNat, BitVec.setWidth_eq,
      add_assoc]
  · intro remaining hremaining hend
    have hpos : n.toNat < cnt.toNat := BitVec.lt_def.mp hlt
    have hleft : (cnt - n).toNat = remaining := by
      rw [BitVec.toNat_sub_of_le (BitVec.le_of_lt hlt)]
      omega
    rw [hleft] at hann
    rw [FitIn, ← hann, totalCount_cons, or_iff_right (by omega)]
    by_cases hle : ch.getCount.toNat ≤ remaining
    · -- no counter wraps while the chunks fit
      have hsum : (n + ch.getCount).toNat = n.toNat + ch.getCount.toNat := by
        have hbound := cnt.isLt
        rw [BitVec.toNat_add, Nat.mod_eq_of_lt (by omega)]
      have hrest := h.fits (remaining - ch.getCount.toNat) (by omega) hend
      rw [hrest, and_iff_right hle]
      omega
    · constructor
      · exact fun hfit => absurd hfit.1 hle
      · intro htotal
        omega

variable {data : List Byte} {chunks : List Chunk}

theorem scanned_of_parseChunks {packetStatusCount n got : BitVec 16} {len : ℕ}
    (h : parseChunks packetStatusCount data len chunks n got = .ok (some scan)) :
    ∃ new, scan.chunks = chunks ++ new ∧ Scanned packetStatusCount n got data scan new := by
  fun_induction parseChunks packetStatusCount data len chunks n got with
  | case1 => cases h
  | case2 len chunks n got hloop hlen high low rest ih =>
    obtain ⟨r, hchunk, h⟩ := bind_eq_ok.mp h
    cases r with
    | none => cases h
    | some ch =>
      obtain ⟨new, hnew, hscanned⟩ := ih ch h
      refine ⟨ch :: new, ?_, hscanned.cons hchunk hloop.1⟩
      rw [hnew, append_assoc]
      rfl
  | case3 => cases h
  | case4 data len chunks n got hstop =>
    cases h
    refine ⟨[], (append_nil _).symm, by simp, by simp [totalCount], by simp [totalReceived], ?_⟩
    intro left hrem hend
    obtain rfl : left = 0 := by
      have hcount : n = packetStatusCount := hend
      rw [hcount] at hrem
      omega
    refine iff_of_true ?_ rfl
    unfold FitIn
    split
    · exact .inl rfl
    · trivial

/-! ## The results -/

theorem length_fst_fillResults (l : List Status) (cur : BitVec 16) :
    (fillResults l cur).1.length = l.length := by
  induction l generalizing cur with
  | nil => rfl
  | cons st l ih => rw [fillResults, length_cons, ih, length_cons]

theorem countP_fst_fillResults (l : List Status) (cur : BitVec 16) :
    (fillResults l cur).1.countP PacketResult.received = l.countP Status.received := by
  induction l generalizing cur with
  | nil => rfl
  | cons st l ih => rw [fillResults, countP_cons, ih, countP_cons]

theorem fillDeltas_ok (ds : List (BitVec 16)) (rs : List PacketResult) (idx : ℕ)
    (h : idx + rs.countP PacketResult.received ≤ ds.length) (now : ℤ) :
    ∃ filled, fillDeltas ds rs idx now = .ok filled ∧ filled.length = rs.length := by
  induction rs generalizing idx now with
  | nil => exact ⟨[], rfl, rfl⟩
  | cons r rs ih =>
    rw [countP_cons] at h
    rw [fillDeltas]
    by_cases hrec : r.received = true
    · rw [if_pos hrec] at h
      have hin : idx < ds.length := by omega
      obtain ⟨filled, hfill, hlen⟩ := ih (idx + 1) (by omega)
        (now + ds[idx].toInt.tdiv 4)
      rw [hrec, getElem?_eq_getElem hin]
      simp only [Bool.not_true, Bool.false_eq_true, if_false, hfill, ok_bind]
      exact ⟨_, rfl, by simp [hlen]⟩
    · rw [if_neg hrec] at h
      obtain ⟨filled, hfill, hlen⟩ := ih idx (by omega) now
      rw [Bool.eq_false_iff.mpr hrec]
      simp only [Bool.not_false, if_true, hfill, ok_bind]
      exact ⟨_, rfl, by simp [hlen]⟩

theorem length_statuses (h : ∀ ch ∈ chunks, ch.Counted) :
    (chunks.flatMap Chunk.statuses).length = totalCount chunks := by
  rw [length_flatMap, totalCount]
  congr 1
  exact map_congr_left fun ch hc => (h ch hc).count.symm

theorem countP_statuses (h : ∀ ch ∈ chunks, ch.Counted) :
    (chunks.flatMap Chunk.statuses).countP Status.received = totalReceived chunks := by
  rw [countP_flatMap, totalReceived]
  congr 1
  exact map_congr_left fun ch hc => (h ch hc).received.symm

theorem and_ne_zero_of_chunkType {bs mask : BitVec 16} (hmask : mask[15] = true)
    (h : (bs >>> 15) &&& 0x01 ≠ 0) : (bs &&& mask != 0) = true := by
  rw [bne_iff_ne]
  intro hzero
  have hbit : bs[15] = false := by
    have hbits := congrArg (BitVec.getLsbD · 15) hzero
    simpa [hmask] using hbits
  apply h
  ext i hi
  rw [BitVec.getElem_and, BitVec.getElem_ushiftRight]
  rcases Nat.eq_zero_or_pos i with rfl | hpos
  · simp [hbit]
  · rw [BitVec.getLsbD_of_ge _ _ (by omega)]
    simp

-- With an announced length of 4 bytes the length of the content wraps.
example : parse [0x8F, 205, 0, 0, 0, 0, 0, 1, 0, 0, 0, 2, 0, 7, 0, 1, 0, 0, 1, 0] =
    .error .outOfBounds := by decide +kernel

/-! ## Accepted packets -/

structure Accepted (data : List Byte) (p : FeedbackRtpTransportPacket) (length : BitVec 16)
    (referenceTime : BitVec 24) (scan : ChunkScan) (deltasSize : ℕ) : Prop where
  headers : headersSize ≤ data.length
  announced : get2Bytes data 2 = .ok length
  size : p.size = announcedLength length
  whole : p.size ≤ data.length
  base : get2Bytes data 12 = .ok p.baseSequenceNumber
  count : get2Bytes data 14 = .ok p.packetStatusCount
  reference : get3Bytes data 16 = .ok referenceTime
  time : p.referenceTime = parseReferenceTime referenceTime
  feedbackPacketCount : get1Byte data 19 = .ok p.feedbackPacketCount
  scans : parseChunks p.packetStatusCount (data.drop headersSize)
    ((p.size + 2 ^ 64 - headersSize) % 2 ^ 64) [] 0 0 = .ok (some scan)
  scanned : scan.count = p.packetStatusCount
  chunks : p.chunks = scan.chunks
  deltas : parseDeltas scan.chunks scan.contentData scan.contentLen [] 0 = .ok (some (p.deltas, deltasSize))
  received : p.deltas.length = scan.receivedPacketStatusCount.toNat
  sized : p.deltasAndChunksSize = 2 * scan.chunks.length + deltasSize

variable {p : FeedbackRtpTransportPacket}

theorem Accepted.parse {len : BitVec 16} {ref : BitVec 24} {dsize : ℕ}
    (h : Accepted data p len ref scan dsize) : parse data = .ok (some p) := by
  have hsize := h.size
  have hwhole := h.whole
  rw [FeedbackRtpTransportPacket.parse, if_neg (not_lt.mpr h.headers), h.announced, ok_bind, ← hsize]
  dsimp only
  rw [if_neg (not_lt.mpr hwhole), h.base, ok_bind, h.count, ok_bind, h.reference, ok_bind,
    h.feedbackPacketCount, ok_bind, h.scans, ok_bind]
  dsimp only
  rw [if_neg (fun hne => hne h.scanned), h.deltas, ok_bind]
  dsimp only
  rw [if_neg (fun hne => hne h.received), ← h.time, ← h.sized, ← h.chunks]
  rfl

theorem accepted_of_parse (h : parse data = .ok (some p)) :
    ∃ len ref scan deltasSize, Accepted data p len ref scan deltasSize := by
  unfold parse at h
  split_ifs at h with hsize
  · cases h
  obtain ⟨len, hlength, h⟩ := bind_eq_ok.mp h
  dsimp only at h
  split_ifs at h with hlen
  · cases h
  obtain ⟨baseSequenceNumber, hbase, h⟩ := bind_eq_ok.mp h
  obtain ⟨packetStatusCount, hstatus, h⟩ := bind_eq_ok.mp h
  obtain ⟨ref, href, h⟩ := bind_eq_ok.mp h
  obtain ⟨feedbackPacketCount, hfeedback, h⟩ := bind_eq_ok.mp h
  obtain ⟨scan, hscan, h⟩ := bind_eq_ok.mp h
  cases scan with
  | none => cases h
  | some scan =>
    dsimp only at h
    split_ifs at h with hcount
    · cases h
    obtain ⟨ds, hdeltas, h⟩ := bind_eq_ok.mp h
    cases ds with
    | none => cases h
    | some ds =>
      obtain ⟨ds, deltasSize⟩ := ds
      dsimp only at h
      split_ifs at h with hrec
      · cases h
      cases h
      exact ⟨len, ref, scan, deltasSize, not_lt.mp hsize, hlength, rfl,
        not_lt.mp hlen, hbase, hstatus, href, rfl, hfeedback, hscan, not_not.mp hcount, rfl,
        hdeltas, not_not.mp hrec, rfl⟩

/-- **When accepted feedback is consistent**: there are as many statuses, deltas and results as
announced exactly when the chunks fit. -/
theorem parse_consistent_iff (data : List Byte) (p : FeedbackRtpTransportPacket)
    (h : parse data = .ok (some p)) :
    (totalCount p.chunks = p.packetStatusCount.toNat ∧ totalReceived p.chunks = p.deltas.length ∧
      ∃ results, p.getPacketResults = .ok results ∧
        results.length = p.packetStatusCount.toNat) ↔ ChunksFit data := by
  obtain ⟨length, referenceTime, scan, deltasSize, haccepted⟩ := accepted_of_parse h
  obtain ⟨new, hnew, hscanned⟩ := scanned_of_parseChunks haccepted.scans
  rw [List.nil_append, ← haccepted.chunks] at hnew
  rw [← hnew] at hscanned
  have hfits := hscanned.fits p.packetStatusCount.toNat (by simp) haccepted.scanned
  rw [ChunksFit, get2Bytes_eq_ok haccepted.count, hfits]
  constructor
  · exact fun hconsistent => hconsistent.1
  · intro htotal
    have hlength := length_statuses hscanned.counted
    have hcountP := countP_statuses hscanned.counted
    have hle := List.countP_le_length (p := Status.received) (l := p.statuses)
    have hreceived : totalReceived p.chunks = p.deltas.length := by
      have hbound := p.packetStatusCount.isLt
      have hzero (x : BitVec 16) : 0 + x = x := BitVec.zero_add x
      rw [statuses] at hle
      rw [haccepted.received, hscanned.received_eq, hzero, BitVec.toNat_ofNat, Nat.mod_eq_of_lt (by omega)]
    refine ⟨htotal, hreceived, ?_⟩
    obtain ⟨filled, hfilled, hfilledLength⟩ :=
      fillDeltas_ok p.deltas (fillResults p.statuses (p.baseSequenceNumber - 1)).1 0
        (by rw [countP_fst_fillResults, statuses, hcountP]; omega) (p.referenceTime.toInt * 64)
    refine ⟨filled, hfilled, ?_⟩
    rw [hfilledLength, length_fst_fillResults, statuses, hlength, htotal]

def twoStatusesBytes : List Byte :=
  [0x8F, 205, 0, 5,  0, 0, 0, 1,  0, 0, 0, 2,  0, 7, 0, 2,  0, 0, 1, 0,  0x20, 0x02, 4, 8]

def twoStatusesPacket : FeedbackRtpTransportPacket where
  baseSequenceNumber := 7
  packetStatusCount := 2
  referenceTime := 1
  feedbackPacketCount := 0
  chunks := [.runLength .smallDelta 2]
  deltas := [4, 8]
  deltasAndChunksSize := 4
  size := 24

theorem parse_consistent_twoStatuses :
    parse twoStatusesBytes = .ok (some twoStatusesPacket) ∧ ChunksFit twoStatusesBytes := by
  have hparse : parse twoStatusesBytes = .ok (some twoStatusesPacket) := by decide +kernel
  refine ⟨hparse, (parse_consistent_iff twoStatusesBytes _ hparse).mp ⟨rfl, rfl, ?_⟩⟩
  exact ⟨[{ sequenceNumber := 7, delta := 4, received := true, receivedAtMs := 65 },
    { sequenceNumber := 8, delta := 8, received := true, receivedAtMs := 67 }], by decide +kernel, rfl⟩

def overshootBytes : List Byte :=
  [0x8F, 205, 0, 13,  0, 0, 0, 1,  0, 0, 0, 2,  0, 7, 0xFF, 0xFF,  0, 0, 1, 0,  0x20, 0x08] ++
    (List.replicate 8 [0x3F#8, 0xFF#8]).flatten ++ (List.replicate 8 [0x1F#8, 0xFF#8]).flatten ++ [0x00, 0x07]

def overshootPacket : FeedbackRtpTransportPacket where
  baseSequenceNumber := 7
  packetStatusCount := 65535
  referenceTime := 1
  feedbackPacketCount := 0
  chunks := .runLength .smallDelta 8 :: List.replicate 8 (.runLength .smallDelta 8191) ++
    List.replicate 8 (.runLength .notReceived 8191) ++ [.runLength .notReceived 7]
  deltas := []
  deltasAndChunksSize := 36
  size := 56

theorem overshoot_accepted :
    parse overshootBytes = .ok (some overshootPacket) ∧ totalCount overshootPacket.chunks = 131071 ∧
      totalReceived overshootPacket.chunks = 65536 ∧
      overshootPacket.getPacketResults = .error (.exception "std::out_of_range") := by
  refine ⟨by decide +kernel, by decide +kernel, by decide +kernel, by decide +kernel⟩

/-! ## Arrival times -/

def arrivalTimes (results : List PacketResult) : List ℤ :=
  (results.filter PacketResult.received).map PacketResult.receivedAtMs

def exactQuarters (deltas : List (BitVec 16)) (idx : ℕ) : ℤ :=
  ((deltas.take (idx + 1)).map BitVec.toInt).sum

def lostQuarters (deltas : List (BitVec 16)) (idx : ℕ) : ℤ :=
  ((deltas.take (idx + 1)).map fun delta => delta.toInt.tmod 4).sum

theorem exactQuarters_cons (d : BitVec 16) (ds : List (BitVec 16)) (idx : ℕ) :
    exactQuarters (d :: ds) (idx + 1) = d.toInt + exactQuarters ds idx := by
  simp [exactQuarters]

theorem lostQuarters_cons (d : BitVec 16) (ds : List (BitVec 16)) (idx : ℕ) :
    lostQuarters (d :: ds) (idx + 1) = d.toInt.tmod 4 + lostQuarters ds idx := by
  simp [lostQuarters]

/-- **The loop over the results**: an arrival time is the exact one less what was lost. -/
theorem fillDeltas_times {ds : List (BitVec 16)} {rs filled : List PacketResult} {i : ℕ} {now : ℤ}
    (h : fillDeltas ds rs i now = .ok filled) :
    ∀ idx time, (arrivalTimes filled)[idx]? = some time → 4 * time = 4 * now +
      exactQuarters (ds.drop i) idx - lostQuarters (ds.drop i) idx := by
  induction rs generalizing i now filled with
  | nil =>
    cases h
    intro idx time htime
    cases htime
  | cons r rs ih =>
    rw [fillDeltas] at h
    split_ifs at h with hrec
    · obtain ⟨rest, hrest, h⟩ := bind_eq_ok.mp h
      cases h
      have hskip : arrivalTimes (r :: rest) = arrivalTimes rest := by
        simp_all [arrivalTimes]
      rw [hskip]
      exact ih hrest
    · split at h
      · cases h
      · next d hdelta =>
        obtain ⟨rest, hrest, h⟩ := bind_eq_ok.mp h
        cases h
        obtain ⟨hin, rfl⟩ := List.getElem?_eq_some_iff.mp hdelta
        have hsplit := Int.mul_tdiv_add_tmod ds[i].toInt 4
        have htimes : arrivalTimes
            ({ r with
              delta := ds[i]
              receivedAtMs := now + ds[i].toInt.tdiv 4 } :: rest) =
            (now + ds[i].toInt.tdiv 4) :: arrivalTimes rest := by
          simp_all [arrivalTimes]
        intro idx time htime
        rw [htimes] at htime
        rw [List.drop_eq_getElem_cons hin]
        cases idx with
        | zero =>
          cases htime
          simp only [exactQuarters, lostQuarters, List.take_succ_cons, List.take_zero, List.map_cons,
            List.map_nil, List.sum_cons, List.sum_nil]
          omega
        | succ idx =>
          rw [exactQuarters_cons, lostQuarters_cons]
          have hlater := ih hrest idx time htime
          omega

/-- **Arrival times drift** by what was lost of the deltas: they are exact to the millisecond exactly as
long as this is less than one. -/
theorem arrival_times_exact_iff (p : FeedbackRtpTransportPacket) :
    Meets (fun results => ∀ idx time, (arrivalTimes results)[idx]? = some time →
        ((4 * time - (4 * (p.referenceTime.toInt * 64) + exactQuarters p.deltas idx)).natAbs < 4 ↔
          (lostQuarters p.deltas idx).natAbs < 4))
      (fun _ => True) p.getPacketResults := by
  cases hresults : p.getPacketResults with
  | error fault => trivial
  | ok results =>
    intro idx time htime
    have htimes := fillDeltas_times hresults idx time htime
    rw [List.drop_zero] at htimes
    omega

def quartersBytes : List Byte :=
  [0x8F, 205, 0, 6,  0, 0, 0, 1,  0, 0, 0, 2,  0, 7, 0, 4,  0, 0, 0, 0,  0x20, 0x04, 1, 1,  1, 1, 0, 0]

/-- **Four quarters are lost.**  The last packet has arrived one millisecond after the reference time, and
the result says that it has arrived with it. -/
theorem four_quarters_lost : ∃ p results, parse quartersBytes = .ok (some p) ∧
    p.getPacketResults = .ok results ∧ arrivalTimes results = [0, 0, 0, 0] ∧ exactQuarters p.deltas 3 = 4 :=
  ⟨{ baseSequenceNumber := 7, packetStatusCount := 4, referenceTime := 0, feedbackPacketCount := 0
     chunks := [.runLength .smallDelta 4], deltas := [1, 1, 1, 1], deltasAndChunksSize := 6, size := 28 },
    _, by decide +kernel, rfl, by decide +kernel, by decide⟩

end FeedbackRtpTransportPacket
end MediasoupWorker.RTC.RTCP
