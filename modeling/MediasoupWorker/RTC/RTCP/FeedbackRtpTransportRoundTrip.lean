import MediasoupWorker.Library.BitFields
import MediasoupWorker.RTC.RTCP.FeedbackRtpTransportReport
import Mathlib.Algebra.Order.BigOperators.Group.List

/-!
# Transport-wide congestion control feedback, there and back

`src/src/RTC/RTCP/FeedbackRtpTransport.cpp`. What `Serialize` writes of a packet that was filled by
`AddPacket`, `Parse` reads, if runs and numbers of statuses fit into their 13 and 16 bits. `AddPacket`
counts missing packets in an `int`, which is negative when the sequence number has wrapped, and does not
know of the 16 bits.
-/

namespace MediasoupWorker.RTC.RTCP

open Library Bool List

namespace FeedbackRtpTransportPacket

/-! ## Chunks -/

def Status.Sent (status : Status) : Prop := status = .notReceived ∨ status.received = true

def Status.code (status : Status) : BitVec 2 := status.toBits.setWidth 2

def Status.Coded (w : ℕ) (status : Status) : Prop :=
  status ≠ .none ∧ (status.toBits.setWidth w).setWidth 16 = status.toBits

variable {status : Status}

theorem coded_two (h : status ≠ .none) : status.Coded 2 := by
  cases status <;> first | exact ⟨h, rfl⟩ | contradiction

theorem Status.Sent.ne_none (h : status.Sent) : status ≠ .none := by
  rintro rfl
  simp [Status.Sent, Status.received] at h

theorem ofBits_toBits (h : status ≠ .none) : Status.ofBits status.toBits = status := by
  cases status <;> first | rfl | contradiction

theorem shiftRight_and_mask {w : ℕ} {mask : BitVec 16} (hmask : ∀ i < 16, mask.getLsbD i = decide (i < w))
    (bs : BitVec 16) (j : ℕ) : (bs >>> (w * j)) &&& mask = (field w j bs).setWidth 16 := by
  refine BitVec.eq_of_getLsbD_eq fun i hi => ?_
  rw [BitVec.getLsbD_and, BitVec.getLsbD_ushiftRight, BitVec.getLsbD_setWidth, field,
    BitVec.getLsbD_extractLsb', hmask i hi, decide_eq_true hi, Bool.true_and, Bool.and_comm]

section Vectors

variable {w : ℕ} {statuses : List Status}

theorem map_packFields (mask word : BitVec 16) (top : ℕ) (hcoded : ∀ status ∈ statuses, status.Coded w)
    (hmask : ∀ i < 16, mask.getLsbD i = decide (i < w)) (htop : w * (top + 1) ≤ 16)
    (hlen : statuses.length ≤ top + 1) (hnil : ∀ j ≤ top, field w j word = 0#w) :
    ((range statuses.length).map fun i => Status.ofBits
      ((packFields (statuses.map (·.toBits.setWidth w)) top word >>> (w * (top - i))) &&& mask)) =
    statuses := by
  refine ext_getElem (by simp) fun i hi hi' => ?_
  have hcode : (statuses.map (·.toBits.setWidth w))[i]? = some (statuses[i].toBits.setWidth w) := by
    rw [getElem?_map, getElem?_eq_getElem hi']
    rfl
  obtain ⟨hne, hbits⟩ := hcoded _ (getElem_mem hi')
  rw [getElem_map, getElem_range, shiftRight_and_mask hmask,
    field_packFields htop (by simpa using hlen) hnil hcode, hbits, ofBits_toBits hne]

theorem oneBitVectorBytes_eq (h : ∀ status ∈ statuses, status.Coded 1) (top : ℕ) (bytes : BitVec 16) :
    oneBitVectorBytes statuses top bytes = packFields (statuses.map (·.toBits.setWidth 1)) top bytes := by
  induction statuses generalizing top bytes with
  | nil => rfl
  | cons status statuses ih =>
    obtain ⟨hst, hsts⟩ := forall_mem_cons.mp h
    rw [oneBitVectorBytes, ih hsts, map_cons, packFields, hst.2, one_mul]

theorem twoBitVectorBytes_eq (h : ∀ status ∈ statuses, status.Coded 2) (top : ℕ) (bytes : BitVec 16) :
    twoBitVectorBytes statuses (2 * top) bytes = packFields (statuses.map Status.code) top bytes := by
  induction statuses generalizing top bytes with
  | nil => rfl
  | cons status statuses ih =>
    obtain ⟨hst, hsts⟩ := forall_mem_cons.mp h
    have htop : 2 * top - 2 = 2 * (top - 1) := by omega
    rw [twoBitVectorBytes, htop, ih hsts, map_cons, packFields, Status.code, hst.2]

theorem getElem_packFields {codes : List (BitVec w)} {top : ℕ} (hw : 0 < w) (htop : w * (top + 1) ≤ 16)
    (hlen : codes.length ≤ top + 1) (word : BitVec 16) {j : ℕ} (hj : j < 16) (hlt : w * (top + 1) ≤ j) :
    (packFields codes top word)[j] = word[j] := by
  have hfield := field_packFields_of_lt htop hlen ((Nat.le_div_iff_mul_le hw).mpr
    (mul_comm w _ ▸ hlt)) word
  have hbit := congrArg (BitVec.getLsbD · (j % w)) hfield
  simp only [field, BitVec.getLsbD_extractLsb', Nat.div_add_mod, Nat.mod_lt j hw, decide_true,
    Bool.true_and] at hbit
  simpa only [BitVec.getLsbD_eq_getElem hj] using hbit

end Vectors

namespace Chunk

def word : Chunk → BitVec 16
  | .runLength status count => status.toBits <<< 13 ||| count &&& 0x1FFF
  | .oneBitVector statuses => oneBitVectorBytes statuses 13 0x8000
  | .twoBitVector statuses => twoBitVectorBytes statuses 12 0xC000

def Writable : Chunk → Prop
  | .runLength _ _ => True
  | .oneBitVector statuses => statuses.length ≤ 14
  | .twoBitVector statuses => statuses.length ≤ 7

variable {c : Chunk}

theorem serialize_eq (h : c.Writable) : c.serialize = .ok (set2Bytes c.word) := by
  cases c with
  | runLength status count => rfl
  | oneBitVector statuses =>
    rw [serialize, decide_eq_true (show statuses.length ≤ 14 from h)]
    rfl
  | twoBitVector statuses =>
    rw [serialize, decide_eq_true (show statuses.length ≤ 7 from h)]
    rfl

def Readable (remaining : ℕ) : Chunk → Prop
  | .runLength status count => status.Sent ∧ count.toNat ≤ 8191
  | .oneBitVector statuses =>
    statuses.length = min 14 remaining ∧ ∀ status ∈ statuses, status.Coded 1
  | .twoBitVector statuses =>
    statuses.length = min 7 remaining ∧ ∀ status ∈ statuses, status.Coded 2

variable {remaining : ℕ}

theorem Readable.writable (h : c.Readable remaining) : c.Writable := by
  cases c with
  | runLength status count => trivial
  | oneBitVector statuses => exact h.1.trans_le (min_le_left ..)
  | twoBitVector statuses => exact h.1.trans_le (min_le_left ..)

section RunLength

variable (bits n : BitVec 16)

theorem run_and_count : (bits <<< 13 ||| n &&& 0x1FFF) &&& 0x1FFF = n &&& 0x1FFF := by
  ext i hi
  interval_cases i <;> simp

theorem run_status : ((bits <<< 13 ||| n &&& 0x1FFF) >>> 13) &&& 0x03 = bits &&& 0x03 := by
  ext i hi
  interval_cases i <;> simp

theorem run_chunkType : (((bits <<< 13 ||| n &&& 0x1FFF) >>> 15) &&& 0x01 : BitVec 16) =
    (bits >>> 2) &&& 0x01 := by
  ext i hi
  interval_cases i <;> simp

end RunLength

theorem get2Bytes_set2Bytes (bytes : BitVec 16) (rest : List Byte) :
    get2Bytes (set2Bytes bytes ++ rest) 0 = .ok bytes :=
  congrArg Except.ok (read2Bytes_set2Bytes bytes rest)

variable {len : ℕ}

theorem parse_runLength (hstatus : status.Sent) {count : BitVec 16}
    (hcount : count.toNat ≤ 8191) (rest : List Byte) (hlen : 2 ≤ len) (remaining : BitVec 16) :
    parse (set2Bytes (runLength status count).word ++ rest) len remaining =
      .ok (some (.runLength status count)) := by
  have hmask : count &&& 0x1FFF = count := by
    refine BitVec.eq_of_toNat_eq ?_
    rw [BitVec.toNat_and]
    exact (Nat.and_two_pow_sub_one_eq_mod _ 13).trans (Nat.mod_eq_of_lt (by omega))
  rw [parse, if_neg (by omega), get2Bytes_set2Bytes, ok_bind, word]
  dsimp only
  rw [run_chunkType, run_status, run_and_count, hmask]
  cases status <;> first | rfl | simp [Status.Sent, Status.received] at hstatus

theorem parse_vector {bs : BitVec 16} (hvec : bs.getLsbD 15 = true) (rest : List Byte) (hlen : 2 ≤ len)
    (remaining : BitVec 16) : parse (set2Bytes bs ++ rest) len remaining = .ok (some (if bs[14] then
      .twoBitVector <| (range (min 7 remaining.toNat)).map fun i =>
        Status.ofBits ((bs >>> (2 * (7 - 1 - i))) &&& 0x03)
      else .oneBitVector <| (range (min 14 remaining.toNat)).map fun i =>
        Status.ofBits ((bs >>> (14 - 1 - i)) &&& 0x01))) := by
  have htype : (bs >>> 15) &&& 0x01 ≠ 0 := by
    intro hzero
    have hbit := congrArg (BitVec.getLsbD · 0) hzero
    simp [show bs[15] = true from hvec] at hbit
  have hsymbol : (bs.extractLsb' 8 8 &&& 0x40 : Byte) = 0 ↔ bs[14] = false := by
    constructor
    · intro hzero
      have hbit := congrArg (BitVec.getLsbD · 6) hzero
      simpa using hbit
    · intro hbit
      ext i hi
      interval_cases i <;> simp [hbit]
  have hhigh : get1Byte (set2Bytes bs ++ rest) 0 = .ok (bs.extractLsb' 8 8) := rfl
  rw [parse, if_neg (by omega), get2Bytes_set2Bytes, ok_bind]
  dsimp only
  rw [if_neg htype, hhigh, ok_bind]
  cases hbit : bs[14] with
  | false =>
    rw [if_pos (hsymbol.mpr hbit), oneBitVectorChunk, and_ne_zero_of_chunkType (by decide) htype]
    rfl
  | true =>
    rw [if_neg (by rw [hsymbol, hbit]; decide), twoBitVectorChunk, and_ne_zero_of_chunkType (by decide) htype]
    rfl

/-- **A chunk is read back**, whatever follows it. -/
theorem parse_serialize {remaining : BitVec 16} (h : c.Readable remaining.toNat) (rest : List Byte)
    (hlen : 2 ≤ len) : parse (set2Bytes c.word ++ rest) len remaining = .ok (some c) := by
  cases c with
  | runLength status count => exact parse_runLength h.1 h.2 rest hlen remaining
  | oneBitVector statuses =>
    obtain ⟨hlength, hcoded⟩ := h
    have hcodes : (statuses.map (·.toBits.setWidth 1)).length ≤ 13 + 1 := by
      rw [length_map]
      omega
    have hhigh {j : ℕ} (hj : j < 16) (hle : 14 ≤ j) := getElem_packFields (w := 1) (by decide)
      (by decide) hcodes 0x8000 hj hle
    have hread := map_packFields 0x01 0x8000 13 hcoded (by decide) (by decide) (by omega) (by decide)
    simp only [one_mul] at hread
    rw [word, oneBitVectorBytes_eq hcoded, parse_vector ((hhigh (by decide) (by decide)).trans rfl) rest
      hlen, hhigh (by decide) (by decide), ← hlength]
    exact congrArg (fun l => Except.ok (some (oneBitVector l))) hread
  | twoBitVector statuses =>
    obtain ⟨hlength, hcoded⟩ := h
    have hcodes : (statuses.map Status.code).length ≤ 6 + 1 := by
      rw [length_map]
      omega
    have hhigh {j : ℕ} (hj : j < 16) (hle : 14 ≤ j) := getElem_packFields (w := 2) (by decide)
      (by decide) hcodes 0xC000 hj hle
    have hread := map_packFields 0x03 0xC000 6 hcoded (by decide) (by decide) (by omega) (by decide)
    rw [word, show (12 : ℕ) = 2 * 6 from rfl, twoBitVectorBytes_eq hcoded,
      parse_vector ((hhigh (by decide) (by decide)).trans rfl) rest hlen,
      hhigh (by decide) (by decide), ← hlength]
    exact congrArg (fun l => Except.ok (some (twoBitVector l))) hread

theorem Fills.readable (h : c.Fills 8191 remaining) (hsent : ∀ status ∈ c.statuses, status.Sent) :
    c.Readable remaining := by
  cases c with
  | runLength status count =>
    exact ⟨hsent status (mem_replicate.mpr ⟨ne_of_gt h.1, rfl⟩), h.2⟩
  | oneBitVector statuses => exact h.elim
  | twoBitVector statuses => exact ⟨h.2, fun status hmem => coded_two (hsent status hmem).ne_none⟩

theorem Fills.counted {bound : ℕ} (h : c.Fills bound remaining) : c.Counted := by
  cases c with
  | runLength status count => exact counted_runLength status count
  | oneBitVector statuses => exact h.elim
  | twoBitVector statuses =>
    have hle := h.2
    exact counted_of_vector (by omega) (.inr rfl)

theorem Fills.statuses_ne_nil {bound : ℕ} (h : c.Fills bound remaining) : c.statuses ≠ [] := by
  cases c with
  | runLength status count =>
    rw [Chunk.statuses, Ne, replicate_eq_nil_iff]
    exact ne_of_gt h.1
  | oneBitVector statuses => exact h.elim
  | twoBitVector statuses => exact h.1

theorem Fills.writable {bound : ℕ} (h : c.Fills bound remaining) : c.Writable := by
  cases c with
  | runLength status count => trivial
  | oneBitVector statuses => exact h.elim
  | twoBitVector statuses => exact h.2.trans_le (min_le_left ..)

end Chunk

variable {bound len : ℕ} {chunks : List Chunk} {packetStatusCount : BitVec 16}

theorem ChunksFill.writable (h : ChunksFill bound chunks) : ∀ ch ∈ chunks, ch.Writable := by
  induction chunks with
  | nil => exact forall_mem_nil _
  | cons ch chunks ih => exact forall_mem_cons.mpr ⟨h.1.writable, ih h.2⟩

theorem ChunksFill.readable (h : ChunksFill 8191 chunks)
    (hsent : ∀ status ∈ chunks.flatMap Chunk.statuses, status.Sent) :
    ∀ ch ∈ chunks, ∃ remaining, ch.Readable remaining := by
  induction chunks with
  | nil => exact forall_mem_nil _
  | cons ch chunks ih =>
    rw [flatMap_cons] at hsent
    obtain ⟨hfirst, hrest⟩ := forall_mem_append.mp hsent
    exact forall_mem_cons.mpr ⟨⟨_, h.1.readable hfirst⟩, ih h.2 hrest⟩

theorem mapM_serialize (h : ∀ ch ∈ chunks, ch.Writable) :
    chunks.mapM Chunk.serialize = .ok (chunks.map fun ch => set2Bytes ch.word) := by
  induction chunks with
  | nil => rfl
  | cons ch chunks ih =>
    obtain ⟨hc, hcs⟩ := forall_mem_cons.mp h
    rw [mapM_cons, Chunk.serialize_eq hc, ok_bind, ih hcs]
    rfl

variable {count : BitVec 16}

theorem parseChunks_of_end (hend : count = packetStatusCount) (data : List Byte) (contentLen : ℕ)
    (chunks : List Chunk) (rcvd : BitVec 16) :
    parseChunks packetStatusCount data contentLen chunks count rcvd =
      .ok (some { contentData := data, contentLen, chunks, count, receivedPacketStatusCount := rcvd }) := by
  unfold parseChunks
  rw [if_neg]
  rintro ⟨hlt, -⟩
  rw [hend] at hlt
  exact BitVec.lt_irrefl _ hlt

theorem parseChunks_of_chunk (hlt : count < packetStatusCount) (hlen : 2 ≤ len) {ch : Chunk}
    (hc : ch.Readable (packetStatusCount - count).toNat) (rest : List Byte) (chunks : List Chunk)
    (rcvd : BitVec 16) : parseChunks packetStatusCount (set2Bytes ch.word ++ rest) len chunks count
        rcvd = parseChunks packetStatusCount rest (len - 2) (chunks ++ [ch]) (count + ch.getCount)
        (rcvd + ch.getReceivedStatusCount) := by
  conv_lhs => unfold parseChunks
  rw [if_pos ⟨hlt, by omega⟩, if_neg (by omega)]
  show (Chunk.parse (set2Bytes ch.word ++ rest) len (packetStatusCount - count) >>= _) = _
  rw [ch.parse_serialize hc rest hlen, ok_bind]
  rfl

/-- **The loop over the chunks** reads them back, and leaves what follows them. -/
theorem parseChunks_serialize (got : BitVec 16) (hfill : ChunksFill 8191 chunks)
    (hsent : ∀ status ∈ chunks.flatMap Chunk.statuses, status.Sent)
    (hcount : count.toNat + (chunks.flatMap Chunk.statuses).length = packetStatusCount.toNat)
    (pre : List Chunk) (rest : List Byte) (len : ℕ) : parseChunks packetStatusCount
        ((chunks.map fun ch => set2Bytes ch.word).flatten ++ rest) (2 * chunks.length + len)
        pre count got = .ok (some {
        contentData := rest
        contentLen := len
        chunks := pre ++ chunks
        count := packetStatusCount
        receivedPacketStatusCount :=
          got + BitVec.ofNat 16 ((chunks.flatMap Chunk.statuses).countP Status.received) }) := by
  induction chunks generalizing count got pre with
  | nil =>
    have hend : count = packetStatusCount := BitVec.eq_of_toNat_eq hcount
    rw [parseChunks_of_end hend, hend]
    simp
  | cons ch chunks ih =>
    obtain ⟨hc, hchunks⟩ := hfill
    rw [flatMap_cons] at hsent hc hcount
    rw [length_append] at hcount
    obtain ⟨hsent, hsents⟩ := forall_mem_append.mp hsent
    have hcnt := hc.counted
    have hpos := length_pos_of_ne_nil hc.statuses_ne_nil
    have hlt : count < packetStatusCount := BitVec.lt_def.mpr (by omega)
    have hrem : (packetStatusCount - count).toNat =
        (ch.statuses ++ chunks.flatMap Chunk.statuses).length := by
      rw [BitVec.toNat_sub_of_le (BitVec.le_of_lt hlt), length_append]
      omega
    rw [← hrem] at hc
    have hsum : (count + ch.getCount).toNat = count.toNat + ch.statuses.length := by
      have := packetStatusCount.isLt
      rw [BitVec.toNat_add, hcnt.count, Nat.mod_eq_of_lt (by omega)]
    have hreceived : got + ch.getReceivedStatusCount = got +
        BitVec.ofNat 16 (ch.statuses.countP Status.received) := by
      rw [← hcnt.received, BitVec.ofNat_toNat, BitVec.setWidth_eq]
    have hlen : 2 * (ch :: chunks).length + len - 2 = 2 * chunks.length + len := by
      rw [length_cons]
      omega
    rw [map_cons, flatten_cons, append_assoc,
      parseChunks_of_chunk hlt (by rw [length_cons]; omega) (hc.readable hsent), hlen,
      ih _ hchunks hsents (by omega), hreceived, append_assoc, flatMap_cons, countP_append,
      BitVec.ofNat_add, add_assoc]
    rfl

/-! ## Deltas -/

def deltaBytes (deltas : List (Option (BitVec 16))) : List Byte :=
  deltas.reduceOption.flatMap serializeDelta

theorem filter_statusOf (deltas : List (Option (BitVec 16))) :
    (deltas.map statusOf).filter Status.received = deltas.reduceOption.map deltaStatus := by
  induction deltas with
  | nil => rfl
  | cons d deltas ih =>
    cases d with
    | none => exact ih
    | some d =>
      have hrec : (statusOf (some d)).received = true := received_deltaStatus d
      rw [map_cons, filter_cons_of_pos hrec, ih, reduceOption_cons_of_some]
      rfl

theorem get1Byte_append (pre : List Byte) (byte : Byte) (rest : List Byte) :
    get1Byte (pre ++ byte :: rest) pre.length = .ok byte := by
  rw [get1Byte, getElem?_append_right le_rfl, Nat.sub_self]
  rfl

theorem serializeDelta_ne_nil (d : BitVec 16) : serializeDelta d ≠ [] := by
  rw [serializeDelta]
  split_ifs
  · exact cons_ne_nil _ _
  · exact cons_ne_nil _ _

theorem smallDelta_serialize {delta : BitVec 16} (h : deltaStatus delta = .smallDelta)
    (before rest : List Byte) :
    Chunk.smallDelta (before ++ (serializeDelta delta ++ rest)) before.length = .ok delta := by
  have hsmall : 0 ≤ delta.toInt ∧ delta.toInt ≤ 255 := by
    by_contra hnot
    rw [deltaStatus, if_neg hnot] at h
    cases h
  rw [serializeDelta, if_pos hsmall, singleton_append, Chunk.smallDelta, get1Byte_append, ok_bind]
  refine congrArg Except.ok (BitVec.eq_of_toNat_eq ?_)
  have hint := BitVec.toInt_eq_toNat_cond delta
  have hlt := delta.isLt
  rw [BitVec.toNat_setWidth, BitVec.toNat_setWidth]
  split_ifs at hint <;> omega

theorem largeDelta_serialize {delta : BitVec 16} (h : deltaStatus delta = .largeDelta)
    (before rest : List Byte) :
    get2Bytes (before ++ (serializeDelta delta ++ rest)) before.length = .ok delta := by
  have hlarge : ¬ (0 ≤ delta.toInt ∧ delta.toInt ≤ 255) := by
    intro hsmall
    rw [deltaStatus, if_pos hsmall] at h
    cases h
  have hlow := get1Byte_append (before ++ [delta.extractLsb' 8 8]) (delta.extractLsb' 0 8) rest
  rw [append_assoc, singleton_append, length_append, length_singleton] at hlow
  rw [serializeDelta, if_neg hlarge, get2Bytes]
  show (get1Byte (before ++ delta.extractLsb' 8 8 :: delta.extractLsb' 0 8 :: rest) before.length >>= _) = _
  rw [get1Byte_append, ok_bind]
  show (get1Byte (before ++ delta.extractLsb' 8 8 :: delta.extractLsb' 0 8 :: rest)
    (before.length + 1) >>= _) = _
  rw [hlow, ok_bind]
  exact congrArg Except.ok BitVec.extractLsb'_append_extractLsb'

theorem runDeltas_serialize {read : List Byte → ℕ → Except Fault (BitVec 16)} {width : ℕ}
    {deltas : List (BitVec 16)} (hread : ∀ d ∈ deltas, ∀ pre rest,
      read (pre ++ (serializeDelta d ++ rest)) pre.length = .ok d)
    (hwidth : ∀ d ∈ deltas, (serializeDelta d).length = width) (pre rest : List Byte)
    (parsed : List (BitVec 16)) :
    Chunk.runDeltas (read (pre ++ (deltas.flatMap serializeDelta ++ rest))) width deltas.length
        parsed pre.length = .ok (parsed ++ deltas, pre.length + (deltas.flatMap serializeDelta).length) := by
  induction deltas generalizing pre parsed with
  | nil => rw [append_nil]; rfl
  | cons d deltas ih =>
    obtain ⟨hdelta, hdeltas⟩ := forall_mem_cons.mp hread
    obtain ⟨hone, hall⟩ := forall_mem_cons.mp hwidth
    have hrest := ih hdeltas hall (pre ++ serializeDelta d) (parsed ++ [d])
    rw [length_append, hone, append_assoc, append_assoc, singleton_append] at hrest
    rw [length_cons, Chunk.runDeltas, flatMap_cons, append_assoc, hdelta, ok_bind, hrest,
      length_append, hone, add_assoc]

section Read

variable {ss : List Status} {ds : List (BitVec 16)}

theorem filter_received_cons (hrec : status.received = true)
    (h : (status :: ss).filter Status.received = ds.map deltaStatus) :
    ∃ d rest, ds = d :: rest ∧ deltaStatus d = status ∧ ss.filter Status.received = rest.map deltaStatus := by
  rw [filter_cons_of_pos hrec] at h
  obtain ⟨d, rest, hds, hdelta, hrest⟩ := map_eq_cons_iff.mp h.symm
  exact ⟨d, rest, hds, hdelta, hrest.symm⟩

theorem vectorDeltas_serialize (twoBit : Bool) (hcoded : twoBit = true ∨ ∀ status ∈ ss, status.Coded 1)
    (hds : ss.filter Status.received = ds.map deltaStatus) (pre rest : List Byte)
    (hlen : (ds.flatMap serializeDelta).length ≤ len) (parsed : List (BitVec 16)) :
    Chunk.vectorDeltas twoBit (pre ++ (ds.flatMap serializeDelta ++ rest)) ss len parsed
        pre.length = .ok (some (parsed ++ ds, pre.length + (ds.flatMap serializeDelta).length)) := by
  induction ss generalizing ds pre len parsed with
  | nil =>
    rw [map_eq_nil_iff.mp hds.symm, append_nil]
    rfl
  | cons status ss ih =>
    have hcoded' : twoBit = true ∨ ∀ status ∈ ss, status.Coded 1 :=
      hcoded.imp_right fun h => (forall_mem_cons.mp h).2
    -- what the other statuses take of the bytes behind a delta
    have hnext {d : BitVec 16} {more : List (BitVec 16)} (hmore : ds = d :: more)
        (hfilt : ss.filter Status.received = more.map deltaStatus) :
        Chunk.vectorDeltas twoBit (pre ++ (serializeDelta d ++
            (more.flatMap serializeDelta ++ rest))) ss (len - (serializeDelta d).length)
            (parsed ++ [d]) (pre.length + (serializeDelta d).length) =
          .ok (some (parsed ++ ds, pre.length + (ds.flatMap serializeDelta).length)) := by
      rw [hmore, flatMap_cons, length_append] at hlen
      have hleft : (more.flatMap serializeDelta).length ≤ len - (serializeDelta d).length := by
        omega
      have hrest := ih hcoded' hfilt (pre ++ serializeDelta d) hleft (parsed ++ [d])
      rw [length_append, append_assoc, append_assoc, singleton_append] at hrest
      rw [hmore, flatMap_cons, length_append, hrest, add_assoc]
    cases status with
    | notReceived => exact ih hcoded' hds pre hlen parsed
    | smallDelta =>
      obtain ⟨d, more, hmore, hst, hfilt⟩ := filter_received_cons rfl hds
      have hwidth := length_serializeDelta d
      rw [hst, if_pos rfl] at hwidth
      rw [hmore, flatMap_cons, length_append] at hlen
      rw [← hnext hmore hfilt, hmore, flatMap_cons, append_assoc, Chunk.vectorDeltas,
        if_neg (by omega), smallDelta_serialize hst, ok_bind, hwidth]
    | largeDelta =>
      obtain ⟨d, more, hmore, hst, hfilt⟩ := filter_received_cons rfl hds
      have hwidth := length_serializeDelta d
      rw [hst, if_neg (by decide)] at hwidth
      rw [hmore, flatMap_cons, length_append] at hlen
      have htwo : twoBit = true := hcoded.resolve_right fun h =>
        absurd (forall_mem_cons.mp h).1.2 (by decide)
      have hfits : ¬ (!twoBit || decide (len < 2)) = true := by
        rw [htwo, Bool.not_true, Bool.false_or, decide_eq_true_eq]
        omega
      rw [← hnext hmore hfilt, hmore, flatMap_cons, append_assoc, Chunk.vectorDeltas,
        if_neg hfits, largeDelta_serialize hst, ok_bind, hwidth]
    | reserved =>
      have htwo : twoBit = true := hcoded.resolve_right fun h =>
        absurd (forall_mem_cons.mp h).1.2 (by decide)
      rw [Chunk.vectorDeltas, htwo, Bool.not_true, if_neg Bool.false_ne_true, ← htwo]
      exact ih hcoded' hds pre hlen parsed
    | none =>
      have htwo : twoBit = true := hcoded.resolve_right fun h =>
        absurd (forall_mem_cons.mp h).1.1 (by decide)
      rw [Chunk.vectorDeltas, htwo, Bool.not_true, if_neg Bool.false_ne_true, ← htwo]
      exact ih hcoded' hds pre hlen parsed

theorem run_addDeltas {read : List Byte → ℕ → Except Fault (BitVec 16)} {width : ℕ}
    (hrec : status.received = true) (hread : ∀ d, deltaStatus d = status → ∀ pre rest,
      read (pre ++ (serializeDelta d ++ rest)) pre.length = .ok d)
    (hwidth : ∀ d, deltaStatus d = status → (serializeDelta d).length = width) {count : ℕ}
    (h : (replicate count status).filter Status.received = ds.map deltaStatus) (rest : List Byte)
    (hlen : (ds.flatMap serializeDelta).length ≤ len) (parsed : List (BitVec 16)) :
    (if len < count * width then .ok none
      else some <$> Chunk.runDeltas (read (ds.flatMap serializeDelta ++ rest)) width count parsed 0) =
    .ok (some (parsed ++ ds, (ds.flatMap serializeDelta).length)) := by
  rw [filter_replicate_of_pos hrec] at h
  have hcnt : count = ds.length := by
    have hlength := congrArg length h
    rwa [length_replicate, length_map] at hlength
  have hall : ∀ d ∈ ds, deltaStatus d = status := by
    intro d hmem
    have hmem : deltaStatus d ∈ replicate count status := h ▸ mem_map_of_mem hmem
    exact eq_of_mem_replicate hmem
  have hlength : (ds.flatMap serializeDelta).length = count * width := by
    rw [length_flatMap, map_congr_left fun d hmem => hwidth d (hall d hmem),
      map_const', sum_replicate_nat, hcnt]
  have hrun := runDeltas_serialize (fun d hmem => hread d (hall d hmem))
    (fun d hmem => hwidth d (hall d hmem)) [] rest parsed
  rw [nil_append, length_nil, zero_add, ← hcnt] at hrun
  rw [if_neg (by omega), hrun]
  rfl

/-- **`AddDeltas`** reads the deltas of a chunk back. -/
theorem addDeltas_serialize {ch : Chunk} {remaining : ℕ} (hread : ch.Readable remaining)
    (hds : ch.statuses.filter Status.received = ds.map deltaStatus) (rest : List Byte)
    (hlen : (ds.flatMap serializeDelta).length ≤ len) (parsed : List (BitVec 16)) :
    ch.addDeltas (ds.flatMap serializeDelta ++ rest) len parsed =
      .ok (some (parsed ++ ds, (ds.flatMap serializeDelta).length)) := by
  cases ch with
  | oneBitVector ss =>
    have hvec := vectorDeltas_serialize false (.inr hread.2) hds [] rest hlen parsed
    rw [length_nil, zero_add] at hvec
    exact hvec
  | twoBitVector ss =>
    have hvec := vectorDeltas_serialize true (.inl rfl) hds [] rest hlen parsed
    rw [length_nil, zero_add] at hvec
    exact hvec
  | runLength status count =>
    obtain ⟨hsent, -⟩ := hread
    cases status with
    | smallDelta =>
      exact run_addDeltas rfl (fun _ h => smallDelta_serialize h)
        (fun d h => by rw [length_serializeDelta, if_pos h]) hds rest hlen parsed
    | largeDelta =>
      exact run_addDeltas rfl (fun _ h => largeDelta_serialize h)
        (fun d h => by rw [length_serializeDelta, h]; rfl) hds rest hlen parsed
    | notReceived =>
      rw [Chunk.statuses, filter_replicate_of_neg (by decide)] at hds
      rw [map_eq_nil_iff.mp hds.symm, append_nil]
      rfl
    | reserved => exact absurd hsent (by simp [Status.Sent, Status.received])
    | none => exact absurd hsent (by simp [Status.Sent, Status.received])

/-- **The loop over the deltas** reads them back. It can end before the last chunks, if these are of
missing packets. -/
theorem parseDeltas_serialize (hread : ∀ ch ∈ chunks, ∃ remaining, ch.Readable remaining)
    (hds : (chunks.flatMap Chunk.statuses).filter Status.received = ds.map deltaStatus) (rest : List Byte)
    (hlen : (ds.flatMap serializeDelta).length ≤ len) (parsed : List (BitVec 16)) (size : ℕ) :
    parseDeltas chunks (ds.flatMap serializeDelta ++ rest) len parsed size =
      .ok (some (parsed ++ ds, size + (ds.flatMap serializeDelta).length)) := by
  induction chunks generalizing ds len parsed size with
  | nil =>
    rw [map_eq_nil_iff.mp hds.symm, append_nil]
    rfl
  | cons ch chunks ih =>
    obtain ⟨⟨remaining, hc⟩, hcs⟩ := forall_mem_cons.mp hread
    rw [parseDeltas]
    split_ifs with hpos
    · rw [flatMap_cons, filter_append] at hds
      obtain ⟨first, last, rfl, hfirst, hlast⟩ := map_eq_append_iff.mp hds.symm
      rw [flatMap_append, length_append] at hlen
      rw [flatMap_append, append_assoc, addDeltas_serialize hc hfirst.symm _ (by omega), ok_bind]
      show parseDeltas chunks (drop (first.flatMap serializeDelta).length _) _ _ _ = _
      rw [drop_left, ih hcs hlast.symm (by omega), append_assoc, length_append, add_assoc]
    · have hnone : ds = [] := by
        refine eq_nil_iff_forall_not_mem.mpr fun d hmem => ?_
        have hnil : ds.flatMap serializeDelta = [] := eq_nil_of_length_eq_zero (by omega)
        exact serializeDelta_ne_nil d (flatMap_eq_nil_iff.mp hnil d hmem)
      rw [hnone, append_nil]
      rfl

end Read

end FeedbackRtpTransportPacket

open FeedbackRtpTransportPacket

/-! ## The packet -/

theorem parseReferenceTime_setWidth {referenceTime : BitVec 32} (h : referenceTime.toNat < 2 ^ 23) :
    parseReferenceTime (referenceTime.setWidth 24) = referenceTime := by
  have hwidth : (referenceTime.setWidth 24).setWidth 32 = referenceTime := by
    refine BitVec.eq_of_toNat_eq ?_
    rw [BitVec.toNat_setWidth, BitVec.toNat_setWidth]
    omega
  have hsign : (referenceTime >>> 16) &&& 0x80 = 0 := by
    have hbit : referenceTime.getLsbD 23 = false := by
      rw [BitVec.getLsbD, Nat.testBit_lt_two_pow h]
    refine BitVec.eq_of_getLsbD_eq fun i hi => ?_
    have hmask : ∀ i < 32, (0x80 : BitVec 32).getLsbD i = decide (i = 7) := by decide
    rw [BitVec.getLsbD_and, BitVec.getLsbD_ushiftRight, hmask i hi]
    by_cases hseven : i = 7
    · rw [hseven, hbit]
      rfl
    · simp [hseven]
  rw [parseReferenceTime, hwidth, if_neg (fun hne => hne hsign)]

namespace LocalPacket

section Serialize

variable {deltas : List (Option (BitVec 16))} {p : LocalPacket}

theorem length_le_of_chunksFill {bound : ℕ} {chunks : List Chunk} (h : ChunksFill bound chunks) :
    chunks.length ≤ (chunks.flatMap Chunk.statuses).length := by
  induction chunks with
  | nil => exact le_rfl
  | cons chunk chunks ih =>
    have hpos := length_pos_of_ne_nil h.1.statuses_ne_nil
    have hle := ih h.2
    rw [flatMap_cons, length_append, length_cons]
    omega

theorem announcedLength_getSize (hsize : p.size = 0) (hle : p.deltasAndChunksSize < 2 ^ 17 + 2 ^ 16) :
    announcedLength (BitVec.ofNat 16 (p.getSize / 4 - 1)) = p.getSize := by
  have hmod : p.getSize % 4 = 0 ∧ 20 ≤ p.getSize ∧ p.getSize < 2 ^ 18 := by
    rw [getSize, if_neg (fun hne => hne hsize)]
    simp only [headersSize, padding]
    omega
  rw [announcedLength, BitVec.toNat_ofNat, Nat.mod_eq_of_lt (by omega)]
  omega

section Headers

variable (p : LocalPacket) (rest : List Byte)

theorem get2Bytes_length : get2Bytes (p.serializeHeaders ++ rest) 2 =
    .ok (BitVec.ofNat 16 (p.getSize / 4 - 1)) :=
  congrArg Except.ok (read2Bytes_set2Bytes _ [])

theorem get2Bytes_base : get2Bytes (p.serializeHeaders ++ rest) 12 = .ok p.baseSequenceNumber :=
  congrArg Except.ok (read2Bytes_set2Bytes _ [])

theorem get2Bytes_count : get2Bytes (p.serializeHeaders ++ rest) 14 = .ok p.packetStatusCount :=
  congrArg Except.ok (read2Bytes_set2Bytes _ [])

theorem get3Bytes_reference : get3Bytes (p.serializeHeaders ++ rest) 16 = .ok (p.referenceTime.setWidth 24) :=
  congrArg Except.ok (read3Bytes_set3Bytes _ [])

theorem get1Byte_packetCount : get1Byte (p.serializeHeaders ++ rest) 19 = .ok p.feedbackPacketCount := rfl

theorem drop_headers : (p.serializeHeaders ++ rest).drop headersSize = rest := rfl

theorem length_headers : (p.serializeHeaders ++ rest).length = headersSize + rest.length := by
  rw [length_append]
  rfl

end Headers

def content (p : LocalPacket) : List Byte :=
  (p.chunks.map fun chunk => set2Bytes chunk.word).flatten ++ p.deltas.flatMap serializeDelta

def paddingBytes (p : LocalPacket) : List Byte :=
  List.replicate (padding (headersSize + p.content.length)) 0

theorem serialize_eq {p' : LocalPacket} (hpend : p.addPendingChunks = .ok p')
    (hwr : ∀ ch ∈ p'.chunks, ch.Writable) :
    p.serialize = .ok (p', p'.serializeHeaders ++ (p'.content ++ p'.paddingBytes)) := by
  have hbs : p'.serializeHeaders ++ (p'.chunks.map fun ch => set2Bytes ch.word).flatten ++
      p'.deltas.flatMap serializeDelta = p'.serializeHeaders ++ p'.content := append_assoc ..
  rw [serialize, hpend, ok_bind, mapM_serialize hwr, ok_bind]
  dsimp only
  rw [hbs, length_headers, append_assoc]
  rfl

theorem length_content (p : LocalPacket) :
    p.content.length = 2 * p.chunks.length + (p.deltas.flatMap serializeDelta).length := by
  have hcs : ((p.chunks.map fun ch => set2Bytes ch.word).flatten).length = 2 * p.chunks.length := by
    rw [length_flatten, map_map]
    show (p.chunks.map fun _ => 2).sum = _
    rw [map_const', sum_replicate_nat, mul_comm]
  rw [content, length_append, hcs]

section Finished

variable (h : Finished 8191 deltas p) (hn : deltas.length < 2 ^ 16)
  (hds : p.deltas.length ≤ 2 ^ 15) (hsize : p.size = 0)

include h

theorem Finished.length_statuses : (p.chunks.flatMap Chunk.statuses).length = deltas.length := by
  rw [show p.chunks.flatMap Chunk.statuses = _ from h.statuses, length_map]

theorem Finished.countP_received :
    (p.chunks.flatMap Chunk.statuses).countP Status.received = deltas.reduceOption.length := by
  rw [show p.chunks.flatMap Chunk.statuses = _ from h.statuses, countP_eq_length_filter,
    filter_statusOf, length_map]

include hn hds in
theorem Finished.counted_lt : p.deltasAndChunksSize < 2 ^ 17 + 2 ^ 16 := by
  have hcs := length_le_of_chunksFill h.chunks
  have hsts := h.length_statuses
  have hbs : (p.deltas.flatMap serializeDelta).length ≤ p.deltas.length * 2 := by
    rw [length_flatMap]
    refine (sum_le_card_nsmul _ 2 fun n hn => ?_).trans_eq ?_
    · obtain ⟨d, -, rfl⟩ := mem_map.mp hn
      rw [length_serializeDelta]
      split_ifs <;> decide
    · rw [length_map]
      rfl
  rw [h.size]
  omega

include hn hds hsize in
/-- **A packet is read back**, with its size. -/
theorem Finished.parse_serialize (href : p.referenceTime.toNat < 2 ^ 23) :
    parse (p.serializeHeaders ++ (p.content ++ p.paddingBytes)) =
      .ok (some { p.toFeedbackRtpTransportPacket with size := p.getSize }) := by
  have hlen : p.content.length = p.deltasAndChunksSize := p.length_content.trans h.size.symm
  have hlt := h.counted_lt hn hds
  have hsized : p.getSize = headersSize + (p.content.length + p.paddingBytes.length) := by
    rw [getSize, if_neg (fun hne => hne hsize), paddingBytes, length_replicate, hlen, add_assoc]
  have hpad : p.paddingBytes.length < 4 := by
    rw [paddingBytes, length_replicate]
    exact Nat.mod_lt _ (by decide)
  have hbs : p.deltas.flatMap serializeDelta = deltaBytes deltas := by
    rw [deltaBytes, h.received]
  have hcounted := h.size
  rw [hbs] at hcounted
  have hread : (p.chunks.flatMap Chunk.statuses).filter Status.received =
      deltas.reduceOption.map deltaStatus := by
    rw [show p.chunks.flatMap Chunk.statuses = _ from h.statuses, filter_statusOf]
  -- what is left for the chunks and the deltas is counted in 64 bits
  have hcontent : (p.getSize + 2 ^ 64 - headersSize) % 2 ^ 64 =
      2 * p.chunks.length + ((deltaBytes deltas).length + p.paddingBytes.length) := by
    rw [hsized, hlen, hcounted, headersSize]
    omega
  have hstatusCount : (0 : BitVec 16).toNat + (p.chunks.flatMap Chunk.statuses).length =
      p.packetStatusCount.toNat := by
    rw [h.count, show p.statuses.length = _ from h.length_statuses, h.length_statuses,
      BitVec.toNat_ofNat, Nat.mod_eq_of_lt hn]
    exact zero_add _
  have hsent : ∀ status ∈ p.chunks.flatMap Chunk.statuses, status.Sent := by
    intro status hmem
    rw [show p.chunks.flatMap Chunk.statuses = _ from h.statuses] at hmem
    obtain ⟨d, -, rfl⟩ := mem_map.mp hmem
    cases d with
    | none => exact .inl rfl
    | some d => exact .inr (received_deltaStatus d)
  have hrec : ((0 : BitVec 16) + BitVec.ofNat 16 deltas.reduceOption.length).toNat =
      deltas.reduceOption.length := by
    have hle := deltas.reduceOption_length_le
    show (0#16 + BitVec.ofNat 16 deltas.reduceOption.length).toNat = _
    rw [BitVec.zero_add, BitVec.toNat_ofNat, Nat.mod_eq_of_lt (by omega)]
  have hscan := parseChunks_serialize 0 h.chunks hsent hstatusCount []
    (deltaBytes deltas ++ p.paddingBytes) ((deltaBytes deltas).length + p.paddingBytes.length)
  rw [nil_append, h.countP_received] at hscan
  have hparse := parseDeltas_serialize (h.chunks.readable hsent) hread p.paddingBytes
    (Nat.le_add_right (deltaBytes deltas).length p.paddingBytes.length) [] 0
  rw [nil_append, zero_add] at hparse
  exact Accepted.parse {
    headers := by rw [length_headers]; omega
    announced := get2Bytes_length p _
    size := (announcedLength_getSize hsize hlt).symm
    whole := by rw [length_headers, length_append]; exact hsized.le
    base := get2Bytes_base p _
    count := get2Bytes_count p _
    reference := get3Bytes_reference p _
    time := (parseReferenceTime_setWidth href).symm
    feedbackPacketCount := get1Byte_packetCount p _
    scans := by
      rw [drop_headers, hcontent, content, hbs, append_assoc]
      exact hscan
    scanned := rfl
    chunks := rfl
    deltas := hparse.trans (congrArg (fun l => Except.ok (some (l, _))) h.received.symm)
    received := (congrArg length h.received).trans hrec.symm
    sized := hcounted }

end Finished

end Serialize

/-- **A packet that is about some times** is sent and read, and what is read reports the times. -/
theorem Covers.round_trip {first : BitVec 16} {times : List (Option (BitVec 64))} {p : LocalPacket}
    (h : Covers 8191 first times p) (hdeltas : p.deltas.length ≤ 8191) (htimes : times.length < 2 ^ 16) :
    ∃ p' bytes parsed results, p.serialize = .ok (p', bytes) ∧ parse bytes = .ok (some parsed) ∧
      parsed.getPacketResults = .ok results ∧ Reports first times results := by
  obtain ⟨p', deltas, hpend, hfin, hfix, hsame, hlength, results, hresults, hreps⟩ :=
    h.finish (by decide) (by decide) hdeltas
  simp only [fixed, Prod.mk.injEq] at hfix
  obtain ⟨-, href, -, hsize, -⟩ := hfix
  refine ⟨p', _, _, results, serialize_eq hpend hfin.chunks.writable,
    hfin.parse_serialize (by omega) (by rw [hsame]; omega) (hsize.trans h.unsized) ?_, hresults, hreps⟩
  rw [href]
  exact h.reference

end LocalPacket

/-! ## Runs of `AddPacket` -/

structure Call.Regular (call : Call) : Prop where
  time : 64 ≤ call.timestamp.toNat
  len : call.maxRtcpPacketLen ≤ 1500

structure FeedbackRun where
  packet : LocalPacket
  added : List Arrival := []
  stopped : Bool := false
  deriving DecidableEq, Repr

namespace FeedbackRun

def new (senderSsrc mediaSsrc : BitVec 32) (feedbackPacketCount : Byte) : FeedbackRun where
  packet := { senderSsrc, mediaSsrc, feedbackPacketCount }

def step (s : FeedbackRun) (call : Call) : Except Fault FeedbackRun :=
  if s.stopped || s.packet.isFull then .ok s
  else do
    let (packet, result) ← s.packet.addPacket call.sequenceNumber call.timestamp call.maxRtcpPacketLen
    match result with
    | .success => return { s with packet, added := s.added ++ [call.toArrival] }
    | _ => return { s with packet, stopped := true }

def missing (s : FeedbackRun) (call : Call) : ℕ :=
  (call.sequenceNumber - (s.packet.latestSequenceNumber + 1)).toNat

def Fits (s : FeedbackRun) (call : Call) : Prop :=
  s.packet.latestTimestamp ≠ 0 → isSeqHigherThan call.sequenceNumber s.packet.latestSequenceNumber = true →
    (call.sequenceNumber < s.packet.latestSequenceNumber →
      s.missing call ≤ maxMissingPackets + s.packet.room) ∧
    (s.missing call ≤ maxMissingPackets + s.packet.room →
      s.packet.packetStatusCount.toNat + s.packet.context.statuses.length + s.missing call + 1 ≤
        maxPacketStatusCount)

instance (s : FeedbackRun) (call : Call) : Decidable (s.Fits call) :=
  inferInstanceAs (Decidable (_ → _ → _ ∧ _))

def Sound (s : FeedbackRun) : Prop :=
  (s.added = [] ∧ s.packet.Fresh) ∨ ∃ first rest, s.added = first :: rest ∧
    s.packet.Covers 8191 first.sequenceNumber (reportOf first.sequenceNumber rest) ∧
    (reportOf first.sequenceNumber rest).length < 2 ^ 16 ∧ s.packet.deltas.length ≤ 1500

variable {s : FeedbackRun} {call : Call}

theorem Sound.first (hadd : s.added = []) (hfresh : s.packet.Fresh) (hcall : call.Regular) : Sound { s with
      packet := s.packet.setBase call.sequenceNumber call.timestamp
      added := s.added ++ [call.toArrival] } := by
  refine .inr ⟨call.toArrival, [], ?_, LocalPacket.covers_setBase hfresh _ _ hcall.time, ?_, ?_⟩
  · show s.added ++ [call.toArrival] = _
    rw [hadd, nil_append]
  · exact Nat.two_pow_pos 16
  · show s.packet.deltas.length ≤ _
    rw [hfresh.deltas]
    exact Nat.zero_le _

theorem missing_le (hbased : s.packet.latestTimestamp ≠ 0)
    (hnewer : isSeqHigherThan call.sequenceNumber s.packet.latestSequenceNumber = true) (hfits : s.Fits call)
    (hacc : (call.sequenceNumber.toNat : ℤ) - (s.packet.latestSequenceNumber.toNat + 1) ≤
      maxMissingPackets) : s.missing call ≤ maxMissingPackets + s.packet.room := by
  by_cases hwrapped : call.sequenceNumber < s.packet.latestSequenceNumber
  · exact (hfits hbased hnewer).1 hwrapped
  · have hne : s.packet.latestSequenceNumber < call.sequenceNumber := by
      rw [isSeqHigherThan, or_eq_true, and_eq_true, and_eq_true] at hnewer
      rcases hnewer with ⟨hlt, -⟩ | ⟨hlt, -⟩
      · exact of_decide_eq_true hlt
      · exact absurd (of_decide_eq_true hlt) hwrapped
    have hgap : s.missing call = call.sequenceNumber.toNat - (s.packet.latestSequenceNumber.toNat + 1) := by
      have hlt := BitVec.lt_def.mp hne
      unfold missing
      bv_omega
    omega

theorem Sound.newer {first : Arrival} {rest : List Arrival} (hadd : s.added = first :: rest)
    (hcov : s.packet.Covers 8191 first.sequenceNumber (reportOf first.sequenceNumber rest))
    (htimes : (reportOf first.sequenceNumber rest).length < 2 ^ 16) (hdeltas : s.packet.deltas.length < 1500)
    (hcall : call.Regular) (hnewer : isSeqHigherThan call.sequenceNumber s.packet.latestSequenceNumber = true)
    (hfits : s.Fits call) (hmissing : s.missing call ≤ maxMissingPackets + s.packet.room) {d : BitVec 16}
    (hdelta : ((call.timestamp - s.packet.latestTimestamp) * 4).toInt = d.toInt) : Sound { s with
      packet := s.packet.withArrival call.toArrival d
      added := s.added ++ [call.toArrival] } := by
  have htime : call.timestamp ≠ 0 := by
    intro hzero
    have hreg := hcall.time
    rw [hzero] at hreg
    exact absurd hreg (by decide)
  have hgap : s.missing call - s.packet.room ≤ 8191 := by
    rw [maxMissingPackets] at hmissing
    omega
  obtain ⟨hcov', hds'⟩ :=
    hcov.withArrival (by decide) (by decide) (by omega) htime hgap hdelta
  have hrep : reportOf first.sequenceNumber (rest ++ [call.toArrival]) = reportOf first.sequenceNumber rest ++
        (replicate (s.missing call) none ++ [some call.timestamp]) := by
    rw [reportOf_append, ← hcov.latest, reportOf, if_pos hnewer]
    rfl
  have hcount : s.packet.packetStatusCount.toNat + s.packet.context.statuses.length =
      (reportOf first.sequenceNumber rest).length := by
    have hlen := hcov.length_eq
    obtain ⟨deltas, seed, hbuilt, -, -⟩ := hcov.spelled
    rw [hbuilt.count, BitVec.toNat_ofNat, Nat.mod_eq_of_lt (by omega), hlen]
  have hfew := (hfits hcov.based hnewer).2 hmissing
  rw [maxPacketStatusCount] at hfew
  refine .inr ⟨first, rest ++ [call.toArrival], ?_, ?_, ?_, ?_⟩
  · show s.added ++ [call.toArrival] = _
    rw [hadd, cons_append]
  · rw [hrep]
    exact hcov'
  · rw [hrep, length_append, length_append, length_replicate, length_singleton]
    omega
  · show (s.packet.withArrival call.toArrival d).deltas.length ≤ 1500
    omega

/-- **One call** does not fail, and the packet is still about what there is to report. -/
theorem step_sound (hs : s.Sound) (hcall : call.Regular) (hfits : s.Fits call) :
    Meets Sound (fun _ => False) (s.step call) := by
  rw [step]
  split_ifs with hstop
  · exact hs
  obtain ⟨-, hfull⟩ := Bool.or_eq_false_iff.mp (Bool.not_eq_true _ ▸ hstop)
  rcases hs with ⟨hadded, hfresh⟩ | ⟨first, rest, hadded, hcov, htimes, hdeltas⟩
  · rw [LocalPacket.addPacket, hfull, Bool.not_false, msAssert_true, ok_bind, if_pos hfresh.unbased]
    exact Sound.first hadded hfresh hcall
  · rcases LocalPacket.addPacket_cases hfull hcov.based call.toArrival call.maxRtcpPacketLen with
      ⟨hold, hadd⟩ | ⟨hnewer, hadd | ⟨-, hadd⟩ | ⟨hsize, haccepted, delta, hdelta, hadd⟩⟩
    · rw [hadd]
      have hrep : reportOf first.sequenceNumber (rest ++ [call.toArrival]) =
          reportOf first.sequenceNumber rest := by
        rw [reportOf_append, ← hcov.latest, reportOf, hold]
        exact append_nil _
      refine .inr ⟨first, rest ++ [call.toArrival], ?_, ?_, ?_, hdeltas⟩
      · show s.added ++ [call.toArrival] = _
        rw [hadded, cons_append]
      · rw [hrep]
        exact hcov
      · rw [hrep]
        exact htimes
    · rw [hadd]
      exact .inr ⟨first, rest, hadded, hcov, htimes, hdeltas⟩
    · rw [hadd]
      exact .inr ⟨first, rest, hadded, hcov, htimes, hdeltas⟩
    · rw [hadd]
      have hlen := hcall.len
      have hfew : s.packet.deltas.length < 1500 := by
        obtain ⟨deltas, seed, hbuilt, -, -⟩ := hcov.spelled
        have hle := hbuilt.length_deltas_le
        rw [LocalPacket.sizeWithAnother] at hsize
        simp only [headersSize] at hsize
        omega
      exact Sound.newer hadded hcov htimes hfew hcall hnewer hfits
        (missing_le hcov.based hnewer hfits haccepted) hdelta

/-- **Feedback is read back**: in a run of calls that fit nothing fails, and what is read reports
the packets that were added after the first one. -/
theorem feedback_round_trip (senderSsrc mediaSsrc : BitVec 32) (feedbackPacketCount : Byte)
    {calls : List Call} (hcalls : ∀ call ∈ calls, call.Regular)
    (hfits : RunMeets step Fits (new senderSsrc mediaSsrc feedbackPacketCount) calls) :
    ∃ s, run step (new senderSsrc mediaSsrc feedbackPacketCount) calls = .ok s ∧
      (s.packet.isSerializable = true → ∃ first rest p bytes parsed results,
        s.added = first :: rest ∧ s.packet.serialize = .ok (p, bytes) ∧
        parse bytes = .ok (some parsed) ∧ parsed.getPacketResults = .ok results ∧
        Reports first.sequenceNumber (reportOf first.sequenceNumber rest) results) := by
  have hnew : Sound (new senderSsrc mediaSsrc feedbackPacketCount) :=
    Or.inl ⟨rfl, rfl, rfl, rfl, rfl, rfl, rfl, rfl⟩
  have hrun := run_meets_of_inv (Q := fun _ => False)
    (fun s call hs (hcall : call.Regular ∧ s.Fits call) => step_sound hs hcall.1 hcall.2) hnew
    (hfits.and_forall hcalls)
  cases hresult : run step (new senderSsrc mediaSsrc feedbackPacketCount) calls with
  | error fault =>
    rw [hresult] at hrun
    exact hrun.elim
  | ok s =>
    rw [hresult] at hrun
    refine ⟨s, rfl, fun hserializable => ?_⟩
    rcases hrun with ⟨-, hfresh⟩ | ⟨first, rest, hadded, hcovers, htimes, hdeltas⟩
    · rw [LocalPacket.isSerializable, hfresh.deltas] at hserializable
      cases hserializable
    · obtain ⟨p, bytes, parsed, results, hserialize, hparse, hresults, hreports⟩ :=
        hcovers.round_trip (by omega) htimes
      exact ⟨first, rest, p, bytes, parsed, results, hadded, hserialize, hparse, hresults, hreports⟩

def gapCalls : List Call :=
  [⟨⟨65530, 100⟩, 1500⟩, ⟨⟨65532, 110⟩, 1500⟩, ⟨⟨3, 500⟩, 1500⟩, ⟨⟨2, 510⟩, 1500⟩]

instance (call : Call) : Decidable call.Regular :=
  decidable_of_iff (64 ≤ call.timestamp.toNat ∧ call.maxRtcpPacketLen ≤ 1500)
    ⟨fun h => ⟨h.1, h.2⟩, fun h => ⟨h.time, h.len⟩⟩

theorem feedback_round_trip_gapCalls :
    (∀ call ∈ gapCalls, call.Regular) ∧ RunMeets step Fits (new 1 2 3) gapCalls ∧
    ∃ s, run step (new 1 2 3) gapCalls = .ok s ∧
      (s.packet.isSerializable = true → ∃ first rest p bytes parsed results,
        s.added = first :: rest ∧ s.packet.serialize = .ok (p, bytes) ∧
        parse bytes = .ok (some parsed) ∧ parsed.getPacketResults = .ok results ∧
        Reports first.sequenceNumber (reportOf first.sequenceNumber rest) results) := by
  have hcalls : ∀ call ∈ gapCalls, call.Regular := by decide +kernel
  have hfits : RunMeets step Fits (new 1 2 3) gapCalls := by decide +kernel
  exact ⟨hcalls, hfits, feedback_round_trip 1 2 3 hcalls hfits⟩

def wrappedGap : List Call := [⟨⟨60000, 64⟩, 1500⟩, ⟨⟨10000, 64⟩, 1500⟩]

theorem wrapped_gap_not_parsed :
    (∀ call ∈ wrappedGap, call.Regular) ∧
    ∃ s p bytes, run step (new 0 0 0) wrappedGap = .ok s ∧ s.packet.isSerializable = true ∧
      s.packet.serialize = .ok (p, bytes) ∧ parse bytes = .ok none := by
  have hevaluated : (do
      let s ← run step (new 0 0 0) wrappedGap
      let (_, bytes) ← s.packet.serialize
      let parsed ← parse bytes
      return (s.packet.isSerializable, parsed) : Except Fault _) = .ok (true, none) := by
    decide +kernel
  obtain ⟨s, hs, hevaluated⟩ := bind_eq_ok.mp hevaluated
  obtain ⟨⟨p, bytes⟩, hbytes, hevaluated⟩ := bind_eq_ok.mp hevaluated
  obtain ⟨parsed, hparsed, hevaluated⟩ := bind_eq_ok.mp hevaluated
  obtain ⟨hserializable, rfl⟩ := Prod.mk.inj (Except.ok.inj hevaluated)
  exact ⟨by decide +kernel, s, p, bytes, hs, hserializable, hbytes, hparsed⟩

end FeedbackRun

end MediasoupWorker.RTC.RTCP
