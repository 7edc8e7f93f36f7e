import MediasoupWorker.RTC.RTCP.Reports
import MediasoupWorker.RTC.RTCP.Sdes
import MediasoupWorker.RTC.RTCP.XR

/-!
# Compound packets

`src/src/RTC/RTCP/CompoundPacket.cpp`, and `Packet::Parse` of `Packet.cpp`. A compound packet is a sender
report, whose header announces the receiver reports behind it, or a receiver report packet, and then source
descriptions and extended reports. The length of a packet is announced in sixteen bits, and a longer one is
cut off by `Packet::Parse`.
-/

namespace MediasoupWorker.RTC.RTCP

open Library List

namespace Packet

inductive Parsed (Other : Type) where
  | senderReport (packet : SenderReportPacket)
  | receiverReport (packet : ReceiverReportPacket)
  | sdes (packet : SdesPacket)
  | extendedReport (packet : ExtendedReportPacket)
  | other (packet : Other)
  deriving DecidableEq, Repr

variable {Other : Type} (parseOther : PacketType → List Byte → Option Other)

def parseSenderReport (data : List Byte) : List (Parsed Other) :=
  let current := SenderReportPacket.parse data
  if headerCount data > 0 then
    match ReceiverReportPacket.parse data current.getSize with
    | none => [.senderReport current]
    | some rr => [.senderReport current, .receiverReport rr]
  else [.senderReport current]

def parseByType (data : List Byte) : Option (List (Parsed Other)) :=
  match PacketType.ofByte (headerType data) with
  | some .sr => some (parseSenderReport data)
  | some .rr => (ReceiverReportPacket.parse data 0).map fun packet => [.receiverReport packet]
  | some .sdes => some [.sdes (SdesPacket.parse data)]
  | some .xr => (ExtendedReportPacket.parse data).map fun packet => [.extendedReport packet]
  | some .app => none
  | some type => (parseOther type data).map fun packet => [.other packet]
  | none => none

def parseNext (data : List Byte) : Option (ℕ × List (Parsed Other)) :=
  if !isRtcp data then none
  else if data.length < (headerLength data + 1) * 4 then none
  else
    (parseByType parseOther (data.take ((headerLength data + 1) * 4))).map fun packets =>
      (headerLength data, packets)

def packetLen (found : ℕ × List (Parsed Other)) : ℕ := (found.1 + 1) * 4

def parse (data : List Byte) : List (Parsed Other) :=
  (parseWhile (parseNext parseOther) packetLen data).flatMap Prod.snd

/-! ## Writing over a header -/

def setHeaderCount (count : ℕ) : List Byte → List Byte
  | [] => []
  | first :: rest => ((first &&& 0xE0#8) ||| BitVec.ofNat 8 (count % 32)) :: rest

def setHeaderLength (length : ℕ) (data : List Byte) : List Byte :=
  data.take 2 ++ set2Bytes (BitVec.ofNat 16 length) ++ data.drop 4

end Packet

structure CompoundPacket where
  size : ℕ := 0
  senderReportPacket : SenderReportPacket := {}
  receiverReportPacket : ReceiverReportPacket := {}
  sdesPacket : SdesPacket := {}
  xrPacket : ExtendedReportPacket := {}
  deriving DecidableEq, Repr

namespace CompoundPacket

def getSize (packet : CompoundPacket) : ℕ := packet.size

def getReceiverReportCount (packet : CompoundPacket) : ℕ := packet.receiverReportPacket.getCount

def hasSenderReport (packet : CompoundPacket) : Bool := !packet.senderReportPacket.reports.isEmpty

def hasReceiverReferenceTime (packet : CompoundPacket) : Bool :=
  packet.xrPacket.reports.any fun
    | .receiverReferenceTime _ _ => true
    | .delaySinceLastRr _ => false

def addSenderReport (packet : CompoundPacket) (report : SenderReport) : Except Fault CompoundPacket := do
  msAssert (!packet.hasSenderReport) "a Sender Report is already present"
  return { packet with
    senderReportPacket := ⟨packet.senderReportPacket.reports ++ [report]⟩ }

def addReceiverReport (packet : CompoundPacket) (report : ReceiverReport) : CompoundPacket :=
  { packet with
    receiverReportPacket := { packet.receiverReportPacket with
      reports := packet.receiverReportPacket.reports ++ [report] } }

def addSdesChunk (packet : CompoundPacket) (chunk : SdesChunk) : CompoundPacket :=
  { packet with sdesPacket := ⟨packet.sdesPacket.chunks ++ [chunk]⟩ }

def addReceiverReferenceTime (packet : CompoundPacket) (ntpSec ntpFrac : BitVec 32) : CompoundPacket :=
  { packet with
    xrPacket := { packet.xrPacket with
      reports := packet.xrPacket.reports ++ [.receiverReferenceTime ntpSec ntpFrac] } }

def requiredSize (packet : CompoundPacket) : ℕ :=
  (if packet.hasSenderReport then
    packet.senderReportPacket.getSize + 24 * packet.receiverReportPacket.getCount
  else packet.receiverReportPacket.getSize) +
  (if packet.sdesPacket.getCount ≠ 0 then packet.sdesPacket.getSize else 0) +
  (if packet.xrPacket.reports.isEmpty then 0 else packet.xrPacket.getSize)

def serializeSenderReport (packet : CompoundPacket) : Except Fault (List Byte) := do
  let data ← packet.senderReportPacket.serialize
  -- "Fix header count field."
  let data := Packet.setHeaderCount 0 data
  if packet.receiverReportPacket.getCount ≠ 0 then
    -- "Fix header length field."
    let data := Packet.setHeaderLength ((24 + 24 * packet.receiverReportPacket.getCount) / 4) data
    let data := Packet.setHeaderCount packet.receiverReportPacket.getCount data
    return data ++ packet.receiverReportPacket.reports.flatMap ReceiverReport.serialize
  else return data

def serializeHead (packet : CompoundPacket) : Except Fault (List Byte) :=
  if packet.hasSenderReport then packet.serializeSenderReport
  else .ok packet.receiverReportPacket.serialize

def serializeSdes (packet : CompoundPacket) : List Byte :=
  if packet.sdesPacket.getCount ≠ 0 then packet.sdesPacket.serialize else []

def serializeXr (packet : CompoundPacket) : List Byte :=
  if packet.xrPacket.reports.isEmpty then [] else packet.xrPacket.serialize

def serialize (packet : CompoundPacket) : Except Fault (CompoundPacket × List Byte) := do
  let head ← packet.serializeHead
  return ({ packet with size := packet.requiredSize }, head ++ packet.serializeSdes ++ packet.serializeXr)

end CompoundPacket

/-! ## Finding a packet that was written -/

namespace Packet

variable {Other : Type} (parseOther : PacketType → List Byte → Option Other)

variable {size : ℕ}

/-- **A packet whose length fits into its header** is parsed from its own bytes. -/
theorem parseNext_serialize {n : ℕ} {type : PacketType} {body : List Byte}
    (hsize : (serialize n type size ++ body).length = size) (hwords : size % 4 = 0) (hfits : size ≤ 4 * 2 ^ 16) (rest : List Byte) :
    parseNext parseOther (serialize n type size ++ body ++ rest) =
      (parseByType parseOther (serialize n type size ++ body)).map fun pkts =>
        (size / 4 - 1, pkts) := by
  have hassoc : serialize n type size ++ body ++ rest =
      serialize n type size ++ (body ++ rest) := append_assoc _ _ _
  have hlen : headerLength (serialize n type size ++ body ++ rest) = size / 4 - 1 := by
    rw [hassoc, headerLength_serialize]
    omega
  have hwhole : (size / 4 - 1 + 1) * 4 = (serialize n type size ++ body).length := by
    rw [length_append, length_serialize] at hsize ⊢
    omega
  have henough : ¬ (serialize n type size ++ body ++ rest).length <
      (serialize n type size ++ body).length := by
    rw [length_append]
    omega
  have hrtcp : isRtcp (serialize n type size ++ body ++ rest) = true := by
    rw [hassoc, isRtcp_serialize]
  rw [parseNext, hrtcp, hlen, hwhole, if_neg henough, take_left]
  rfl

variable {ps : List (Parsed Other)}

theorem parse_append {data rest : List Byte} {len : ℕ} (hlen : data.length = (len + 1) * 4)
    (hfound : parseNext parseOther (data ++ rest) = some (len, ps)) :
    parse parseOther (data ++ rest) = ps ++ parse parseOther rest := by
  have hne : data ++ rest ≠ [] := by
    intro heq
    have hzero := congrArg List.length heq
    rw [List.length_append, hlen, List.length_nil] at hzero
    omega
  have hdrop : (data ++ rest).drop (packetLen (len, ps)) = rest := by
    rw [packetLen, ← hlen, List.drop_left]
  have hpos : ∀ found : ℕ × List (Parsed Other), 0 < packetLen found := fun found =>
    Nat.mul_pos (Nat.succ_pos _) (by decide)
  rw [parse, parseWhile_of_some hpos hne hfound, hdrop, List.flatMap_cons]
  rfl

theorem parse_nil : parse parseOther [] = [] := rfl

theorem parse_serialize_append {n : ℕ} {type : PacketType} {body : List Byte}
    (hsize : (serialize n type size ++ body).length = size) (hwords : size % 4 = 0) (hfits : size ≤ 4 * 2 ^ 16)
    (hfound : parseByType parseOther (serialize n type size ++ body) = some ps) (rest : List Byte) :
    parse parseOther (serialize n type size ++ body ++ rest) = ps ++ parse parseOther rest := by
  have hlen : (serialize n type size ++ body).length = (size / 4 - 1 + 1) * 4 := by
    rw [length_append, length_serialize] at hsize ⊢
    omega
  have hnext : parseNext parseOther (serialize n type size ++ body ++ rest) = some (size / 4 - 1, ps) := by
    rw [parseNext_serialize parseOther hsize hwords hfits, hfound]
    rfl
  exact parse_append parseOther hlen hnext

/-! ### The packets of a compound packet -/

theorem parse_receiverReportPacket {packet : ReceiverReportPacket} (hn : packet.reports.length ≤ 31)
    (rest : List Byte) :
    parse parseOther (packet.serialize ++ rest) = .receiverReport packet :: parse parseOther rest := by
  have hbs := packet.getSize_eq
  have hfound : parseByType parseOther packet.serialize = some [.receiverReport packet] := by
    have htype : headerType packet.serialize = PacketType.rr.value := rfl
    rw [parseByType, htype, PacketType.ofByte_value, ReceiverReportPacket.parse_serialize hn]
    rfl
  exact parse_serialize_append parseOther packet.length_serialize (by omega) (by omega) hfound rest

variable {reports : List ReceiverReport}

def senderReportBytes (size : ℕ) (r : SenderReport) (reports : List ReceiverReport) : List Byte :=
  serialize reports.length .sr size ++ (r.serialize ++ reports.flatMap ReceiverReport.serialize)

theorem parseSenderReport_serialize {r : SenderReport} (hn : reports.length ≤ 31) :
    (parseSenderReport (senderReportBytes size r reports) : List (Parsed Other)) =
      .senderReport ⟨[r]⟩ ::
        if reports.isEmpty then [] else [.receiverReport ⟨r.ssrc, reports⟩] := by
  have hhdr : headerCount (senderReportBytes size r reports) = reports.length := by
    rw [senderReportBytes, headerCount_serialize]
    exact Nat.mod_eq_of_lt (Nat.lt_succ_of_le hn)
  have hcur : SenderReportPacket.parse (senderReportBytes size r reports) = ⟨[r]⟩ := by
    have hparse := SenderReport.readsBack.parse_write r trivial
      (reports.flatMap ReceiverReport.serialize)
    show SenderReportPacket.mk (SenderReport.parse
      (r.serialize ++ reports.flatMap ReceiverReport.serialize)).toList = _
    rw [hparse]
    rfl
  cases reports with
  | nil =>
    rw [parseSenderReport, hcur, hhdr]
    rfl
  | cons first reports =>
    have hlen : commonHeaderSize + 4 ≤ (senderReportBytes size r (first :: reports)).length := by
      rw [senderReportBytes, length_append, length_append]
      exact Nat.add_le_add_left (Nat.le_add_right_of_le (by decide : 4 ≤ 24)) 4
    have hsize : (SenderReportPacket.mk [r]).getSize = 28 := rfl
    have hrr : ReceiverReportPacket.parse (senderReportBytes size r (first :: reports)) 28 =
        some ⟨_, first :: reports⟩ := ReceiverReportPacket.parse_eq_some hlen hhdr rfl
    have hssrc : read4Bytes (senderReportBytes size r (first :: reports)) commonHeaderSize = r.ssrc :=
      read4Bytes_set4Bytes r.ssrc []
    have hpos : (first :: reports).length > 0 := Nat.succ_pos _
    rw [parseSenderReport, hcur, hhdr, if_pos hpos, hsize, hrr, hssrc]
    rfl

theorem parse_senderReport {r : SenderReport} (hn : reports.length ≤ 31) (rest : List Byte) :
    parse parseOther (serialize reports.length .sr (28 + 24 * reports.length) ++
        (r.serialize ++ reports.flatMap ReceiverReport.serialize) ++ rest) = (.senderReport ⟨[r]⟩ ::
        if reports.isEmpty then [] else [.receiverReport ⟨r.ssrc, reports⟩]) ++ parse parseOther rest := by
  refine parse_serialize_append parseOther ?_ (by omega) (by omega) ?_ rest
  · rw [length_append, length_serialize, length_append,
      length_flatMap_write ReceiverReport.readsBack.length_write, ReceiverReportPacket.sum_getSize,
      SenderReport.readsBack.length_write, SenderReport.getSize]
    omega
  · rw [parseByType, headerType_serialize, PacketType.ofByte_value, ← senderReportBytes,
      parseSenderReport_serialize hn]

theorem parse_sdesPacket {packet : SdesPacket} (hn : packet.chunks.length ≤ 31)
    (hits : ∀ c ∈ packet.chunks, ∀ item ∈ c.items, item.type ≠ SdesItem.endType)
    (hdel : Delimited packet.chunks) (hfits : packet.getSize ≤ 4 * 2 ^ 16) (rest : List Byte) :
    parse parseOther (packet.serialize ++ rest) = .sdes packet :: parse parseOther rest := by
  have hfound : parseByType parseOther packet.serialize = some [.sdes packet] := by
    have htype : headerType packet.serialize = PacketType.sdes.value := rfl
    rw [parseByType, htype, PacketType.ofByte_value, SdesPacket.parse_serialize hn,
      (chunks_round_trip_iff hits).mpr hdel]
  exact parse_serialize_append parseOther packet.length_serialize packet.getSize_mod_four hfits hfound rest

theorem parse_extendedReportPacket {packet : ExtendedReportPacket}
    (hblocks : EachBefore ReadBackBefore packet.reports) (hfits : packet.getSize ≤ 4 * 2 ^ 16)
    (rest : List Byte) :
    parse parseOther (packet.serialize ++ rest) = .extendedReport packet :: parse parseOther rest := by
  have hfound : parseByType parseOther packet.serialize = some [.extendedReport packet] := by
    have htype : headerType packet.serialize = PacketType.xr.value := rfl
    rw [parseByType, htype, PacketType.ofByte_value,
      (ExtendedReportPacket.parse_serialize_iff hfits).mpr hblocks]
    rfl
  exact parse_serialize_append parseOther packet.length_serialize packet.getSize_mod_four hfits hfound rest

end Packet

/-! ## Compound packets are read back -/

namespace CompoundPacket

theorem setHeaderCount_serialize (cnt cnt' : ℕ) (type : PacketType) (size : ℕ) (rest : List Byte) :
    Packet.setHeaderCount cnt' (Packet.serialize cnt type size ++ rest) =
      Packet.serialize cnt' type size ++ rest := by
  have hfirst : ∀ m < 32, ∀ n < 32, (Packet.firstByte m &&& 0xE0#8) ||| BitVec.ofNat 8 n =
      Packet.firstByte n := by decide
  have hmod : ∀ n, Packet.firstByte (n % 32) = Packet.firstByte n := by
    intro n
    rw [Packet.firstByte, Packet.firstByte, Nat.mod_mod]
  have h := hfirst (cnt % 32) (Nat.mod_lt _ (by decide)) (cnt' % 32) (Nat.mod_lt _ (by decide))
  rw [hmod, hmod] at h
  show ((Packet.firstByte cnt &&& 0xE0#8) ||| BitVec.ofNat 8 (cnt' % 32)) :: _ = _
  rw [h]
  rfl

theorem setHeaderLength_serialize {n size size' : ℕ} {type : PacketType} {len : ℕ}
    (hlen : len = size' / 4 - 1) (rest : List Byte) :
    Packet.setHeaderLength len (Packet.serialize n type size ++ rest) =
      Packet.serialize n type size' ++ rest := by
  rw [hlen]
  rfl

variable {packet : CompoundPacket}

theorem serializeSenderReport_eq {r : SenderReport} (hrep : packet.senderReportPacket.reports = [r]) :
    packet.serializeSenderReport = .ok (Packet.serialize packet.receiverReportPacket.reports.length .sr
          (28 + 24 * packet.receiverReportPacket.reports.length) ++
        (r.serialize ++ packet.receiverReportPacket.reports.flatMap ReceiverReport.serialize)) := by
  obtain ⟨size, ⟨srs⟩, rr, sdes, xr⟩ := packet
  obtain rfl : srs = [r] := hrep
  have hser : SenderReportPacket.serialize ⟨[r]⟩ = .ok (Packet.serialize 0 .sr 28 ++ r.serialize) := by
    show Except.ok (Packet.serialize 0 .sr 28 ++ (r.serialize ++ [])) = _
    rw [append_nil]
  obtain ⟨ssrc, reports⟩ := rr
  unfold serializeSenderReport
  simp only [hser, ok_bind]
  rw [setHeaderCount_serialize]
  cases reports with
  | nil =>
    show Except.ok _ = Except.ok (_ ++ (_ ++ []))
    rw [append_nil]
    rfl
  | cons first reports =>
    have hne : (ReceiverReportPacket.mk ssrc (first :: reports)).getCount ≠ 0 := Nat.succ_ne_zero _
    have hlen : (24 + 24 * (ReceiverReportPacket.mk ssrc (first :: reports)).getCount) / 4 =
        (28 + 24 * (first :: reports).length) / 4 - 1 := by
      show (24 + 24 * (first :: reports).length) / 4 = _
      omega
    rw [if_pos hne, setHeaderLength_serialize hlen, setHeaderCount_serialize, append_assoc]
    rfl

structure Regular (packet : CompoundPacket) : Prop where
  senderReport : packet.senderReportPacket.reports.length ≤ 1
  receiverReports : packet.receiverReportPacket.reports.length ≤ 31
  chunk : packet.sdesPacket.chunks.length ≤ 1
  items : ∀ chunk ∈ packet.sdesPacket.chunks, ∀ item ∈ chunk.items, item.type ≠ SdesItem.endType
  sdesPacket_fits : packet.sdesPacket.getSize ≤ 4 * 2 ^ 16
  referenceTimes : ∀ block ∈ packet.xrPacket.reports, ∃ ntpSec ntpFrac,
    block = .receiverReferenceTime ntpSec ntpFrac
  xrPacket_fits : packet.xrPacket.getSize ≤ 4 * 2 ^ 16

variable {Other : Type} (parseOther : PacketType → List Byte → Option Other)

def parsedHead (packet : CompoundPacket) : List (Packet.Parsed Other) :=
  match packet.senderReportPacket.reports with
  | [] => [.receiverReport packet.receiverReportPacket]
  | report :: _ =>
    .senderReport packet.senderReportPacket ::
      if packet.receiverReportPacket.reports.isEmpty then []
      else [.receiverReport ⟨report.ssrc, packet.receiverReportPacket.reports⟩]

def parsedTail (packet : CompoundPacket) : List (Packet.Parsed Other) :=
  (if packet.sdesPacket.chunks.isEmpty then [] else [.sdes packet.sdesPacket]) ++
    if packet.xrPacket.reports.isEmpty then [] else [.extendedReport packet.xrPacket]

theorem parse_serializeHead (hsenderReport : packet.senderReportPacket.reports.length ≤ 1)
    (hn : packet.receiverReportPacket.reports.length ≤ 31) :
    ∃ head, packet.serializeHead = .ok head ∧ head.length = (if packet.hasSenderReport then
        packet.senderReportPacket.getSize + 24 * packet.receiverReportPacket.getCount
        else packet.receiverReportPacket.getSize) ∧ ∀ rest, Packet.parse parseOther (head ++ rest) =
        packet.parsedHead ++ Packet.parse parseOther rest := by
  obtain ⟨size, ⟨srs⟩, rr, sdes, xr⟩ := packet
  match srs, hsenderReport with
  | [], _ =>
    exact ⟨rr.serialize, rfl, rr.length_serialize, Packet.parse_receiverReportPacket parseOther hn⟩
  | [report], _ =>
    refine ⟨_, serializeSenderReport_eq rfl, ?_, fun rest => ?_⟩
    · show (Packet.serialize rr.reports.length .sr (28 + 24 * rr.reports.length) ++
          (report.serialize ++ rr.reports.flatMap ReceiverReport.serialize)).length =
        28 + 24 * rr.reports.length
      rw [length_append, length_append, Packet.length_serialize,
        length_flatMap_write ReceiverReport.readsBack.length_write,
        ReceiverReportPacket.sum_getSize, SenderReport.readsBack.length_write, SenderReport.getSize]
      omega
    · exact Packet.parse_senderReport parseOther hn rest

theorem parse_serializeSdes (h : packet.Regular) (rest : List Byte) :
    Packet.parse parseOther (packet.serializeSdes ++ rest) =
      (if packet.sdesPacket.chunks.isEmpty then [] else [.sdes packet.sdesPacket]) ++
        Packet.parse parseOther rest := by
  obtain ⟨size, sr, rr, ⟨cs⟩, xr⟩ := packet
  match cs, h.chunk with
  | [], _ => rfl
  | [chunk], hcount =>
    have hdel : Delimited [chunk] := ⟨.inr trivial, trivial⟩
    exact Packet.parse_sdesPacket parseOther (hcount.trans (by decide)) h.items hdel
      h.sdesPacket_fits rest

theorem parse_serializeXr (h : packet.Regular) (rest : List Byte) :
    Packet.parse parseOther (packet.serializeXr ++ rest) =
      (if packet.xrPacket.reports.isEmpty then [] else [.extendedReport packet.xrPacket]) ++
        Packet.parse parseOther rest := by
  have hblocks : EachBefore ReadBackBefore packet.xrPacket.reports :=
    eachBefore_of_forall fun block hblock behind => by
      obtain ⟨sec, frac, rfl⟩ := h.referenceTimes block hblock
      trivial
  by_cases hnil : packet.xrPacket.reports.isEmpty = true
  · rw [serializeXr, if_pos hnil, if_pos hnil]
    rfl
  · rw [serializeXr, if_neg hnil, if_neg hnil]
    exact Packet.parse_extendedReportPacket parseOther hblocks h.xrPacket_fits rest

theorem length_serialize {head : List Byte} (hlen : head.length = if packet.hasSenderReport then
      packet.senderReportPacket.getSize + 24 * packet.receiverReportPacket.getCount
      else packet.receiverReportPacket.getSize) :
    (head ++ packet.serializeSdes ++ packet.serializeXr).length = packet.requiredSize := by
  have hsdes : packet.serializeSdes.length =
      if packet.sdesPacket.getCount ≠ 0 then packet.sdesPacket.getSize else 0 := by
    unfold serializeSdes
    split_ifs
    · exact packet.sdesPacket.length_serialize
    · rfl
  have hxr : packet.serializeXr.length =
      if packet.xrPacket.reports.isEmpty then 0 else packet.xrPacket.getSize := by
    unfold serializeXr
    split_ifs
    · rfl
    · exact packet.xrPacket.length_serialize
  rw [length_append, length_append, hlen, hsdes, hxr]
  rfl

theorem serialize_spec (h : packet.Regular) :
    ∃ bs, packet.serialize = .ok ({ packet with size := packet.requiredSize }, bs) ∧
      bs.length = packet.requiredSize ∧
      Packet.parse parseOther bs = packet.parsedHead ++ packet.parsedTail := by
  obtain ⟨head, hhead, hlen, hparse⟩ :=
    parse_serializeHead parseOther h.senderReport h.receiverReports
  refine ⟨head ++ packet.serializeSdes ++ packet.serializeXr, ?_, length_serialize hlen, ?_⟩
  · rw [serialize, hhead, ok_bind]
    rfl
  · have hxr := parse_serializeXr parseOther h []
    rw [append_nil] at hxr
    rw [append_assoc, hparse, parse_serializeSdes parseOther h, hxr, Packet.parse_nil, append_nil]
    rfl

/-- **Compound packets are read back**, part by part, from as many bytes as `GetSize` returns. -/
theorem compound_round_trip {packet : CompoundPacket} (h : packet.Regular) :
    ∃ packet' bytes, packet.serialize = .ok (packet', bytes) ∧ packet'.getSize = bytes.length ∧
      Packet.parse parseOther bytes = packet.parsedHead ++ packet.parsedTail := by
  obtain ⟨bytes, hserialize, hlength, hparse⟩ := serialize_spec parseOther h
  exact ⟨_, bytes, hserialize, hlength.symm, hparse⟩

def fullPacket : CompoundPacket where
  senderReportPacket := ⟨[⟨1, 2, 3, 4, 5, 6⟩]⟩
  receiverReportPacket := ⟨0, [⟨7, 8, 9, 10, 11, 12, 13⟩, ⟨14, 15, 16, 17, 18, 19, 20⟩]⟩
  sdesPacket := ⟨[⟨1, [⟨SdesItem.cnameType, [97, 98], by decide⟩]⟩]⟩
  xrPacket := ⟨0, [.receiverReferenceTime 21 22]⟩

theorem fullPacket_regular : fullPacket.Regular where
  senderReport := by decide
  receiverReports := by decide
  chunk := by decide
  items := by decide
  sdesPacket_fits := by decide
  referenceTimes block hblock := ⟨21, 22, mem_singleton.mp hblock⟩
  xrPacket_fits := by decide

def noOther : PacketType → List Byte → Option Empty := fun _ _ => none

theorem compound_round_trip_fullPacket :
    ∃ packet' bytes, fullPacket.serialize = .ok (packet', bytes) ∧ packet'.getSize = bytes.length ∧
      Packet.parse noOther bytes = fullPacket.parsedHead ++ fullPacket.parsedTail :=
  compound_round_trip noOther fullPacket_regular

/-! ### What is not read back -/

def bareSenderReport : CompoundPacket where
  senderReportPacket := ⟨[⟨1, 2, 3, 4, 5, 6⟩]⟩

def endItem : CompoundPacket where
  sdesPacket := ⟨[⟨1, [⟨SdesItem.endType, [97], by decide⟩]⟩]⟩

def manyReferenceTimes : CompoundPacket where
  xrPacket := ⟨0, List.replicate 21845 (.receiverReferenceTime 1 2)⟩

theorem parse_overlong_xr {packet : ExtendedReportPacket} (h : packet.getSize = 4 * (2 ^ 16 + 1)) :
    Packet.parse parseOther packet.serialize = [] := by
  have hlen : Packet.headerLength packet.serialize = 0 := by
    rw [ExtendedReportPacket.serialize, Packet.headerLength_serialize, h]
    rfl
  have htake : packet.serialize.take ((0 + 1) * 4) = Packet.serialize 0 .xr packet.getSize := rfl
  have hnone : Packet.parseByType parseOther (Packet.serialize 0 .xr packet.getSize) = none := rfl
  have hnext : Packet.parseNext parseOther packet.serialize = none := by
    rw [Packet.parseNext, hlen, htake, hnone]
    split_ifs <;> rfl
  rw [Packet.parse, parseWhile_of_none hnext]
  rfl

theorem parse_overlong {xrPacket : ExtendedReportPacket} (hne : ¬ xrPacket.reports.isEmpty = true)
    (hsize : xrPacket.getSize = 4 * (2 ^ 16 + 1)) :
    ∃ p' bs, serialize { xrPacket } = .ok (p', bs) ∧ Packet.parse parseOther bs = [.receiverReport {}] := by
  have hn : (ReceiverReportPacket.reports {}).length ≤ 31 := Nat.zero_le 31
  have hxr : serializeXr { xrPacket } = xrPacket.serialize := if_neg hne
  refine ⟨_, ReceiverReportPacket.serialize {} ++ serializeXr { xrPacket }, rfl, ?_⟩
  rw [hxr, Packet.parse_receiverReportPacket parseOther hn, parse_overlong_xr _ hsize]

theorem bareSenderReport_parsed : ∃ p' bs, bareSenderReport.serialize = .ok (p', bs) ∧
      Packet.parse noOther bs = [.senderReport bareSenderReport.senderReportPacket] :=
  ⟨_, _, rfl, by decide⟩

theorem endItem_parsed : ∃ p' bs, endItem.serialize = .ok (p', bs) ∧
      Packet.parse noOther bs = [.receiverReport {}, .sdes ⟨[⟨1, []⟩]⟩] :=
  ⟨_, _, rfl, by decide⟩

theorem manyReferenceTimes_parsed : ∃ p' bs, manyReferenceTimes.serialize = .ok (p', bs) ∧
      Packet.parse noOther bs = [.receiverReport {}] := by
  have hsum : (manyReferenceTimes.xrPacket.reports.map ExtendedReportBlock.getSize).sum = 21845 * 12 := by
    rw [manyReferenceTimes, map_replicate, sum_replicate_nat]
    rfl
  have hsize : manyReferenceTimes.xrPacket.getSize = 4 * (2 ^ 16 + 1) := by
    rw [ExtendedReportPacket.getSize, hsum, Packet.commonHeaderSize]
    omega
  have hne : ¬ manyReferenceTimes.xrPacket.reports.isEmpty = true := by
    rw [manyReferenceTimes, isEmpty_replicate]
    decide
  exact parse_overlong noOther hne hsize

/-- **Without the conditions** no empty receiver report, no END item and no too long extended report
is read back. -/
theorem compound_not_read_back :
    (∃ packet' bytes, bareSenderReport.serialize = .ok (packet', bytes) ∧
      ∀ packet, .receiverReport packet ∉ Packet.parse noOther bytes) ∧
    (∃ packet' bytes, endItem.serialize = .ok (packet', bytes) ∧
      .sdes endItem.sdesPacket ∉ Packet.parse noOther bytes) ∧
    ∃ packet' bytes, manyReferenceTimes.serialize = .ok (packet', bytes) ∧
      ∀ packet, .extendedReport packet ∉ Packet.parse noOther bytes := by
  refine ⟨?_, ?_, ?_⟩
  · obtain ⟨packet', bytes, hserialize, hparse⟩ := bareSenderReport_parsed
    refine ⟨packet', bytes, hserialize, fun packet hmem => ?_⟩
    rw [hparse] at hmem
    cases List.mem_singleton.mp hmem
  · obtain ⟨packet', bytes, hserialize, hparse⟩ := endItem_parsed
    refine ⟨packet', bytes, hserialize, ?_⟩
    rw [hparse]
    decide
  · obtain ⟨packet', bytes, hserialize, hparse⟩ := manyReferenceTimes_parsed
    refine ⟨packet', bytes, hserialize, fun packet hmem => ?_⟩
    rw [hparse] at hmem
    cases List.mem_singleton.mp hmem

end CompoundPacket

end MediasoupWorker.RTC.RTCP
