import MediasoupWorker.Library.ParseLoop
import MediasoupWorker.RTC.RTCP.Packet
import MediasoupWorker.RTC.RTCP.ReceiverReport

/-!
# Sender reports and receiver reports on the wire

`src/src/RTC/RTCP/SenderReport.cpp` and `ReceiverReport.cpp`. A receiver report packet has an ssrc and
a list of reports; a sender report packet has one report. The reports that a peer sends along with
its sender report are parsed from the same bytes, behind it.
-/

namespace MediasoupWorker.RTC.RTCP

open Library List

structure SenderReport where
  ssrc : BitVec 32
  ntpSec : BitVec 32
  ntpFrac : BitVec 32
  rtpTs : BitVec 32
  packetCount : BitVec 32
  octetCount : BitVec 32
  deriving DecidableEq, Repr

structure SenderReportPacket where
  reports : List SenderReport := []
  deriving DecidableEq, Repr

structure ReceiverReportPacket where
  ssrc : BitVec 32 := 0
  reports : List ReceiverReport := []
  deriving DecidableEq, Repr

namespace ReceiverReport

def getSize (_ : ReceiverReport) : ℕ := 24

def serialize (report : ReceiverReport) : List Byte :=
  set4Bytes report.ssrc ++ (report.fractionLost :: (set3Bytes report.totalLost ++
    (set4Bytes report.lastSeq ++ (set4Bytes report.jitter ++ (set4Bytes report.lsr ++
      set4Bytes report.dlsr)))))

def parse (data : List Byte) : Option ReceiverReport :=
  if data.length < 24 then none
  else
    some {
      ssrc := read4Bytes data 0
      fractionLost := read1Byte data 4
      totalLost := read3Bytes data 5
      lastSeq := read4Bytes data 8
      jitter := read4Bytes data 12
      lsr := read4Bytes data 16
      dlsr := read4Bytes data 20 }

theorem readsBack : ReadsBack parse getSize serialize fun _ => True where
  length_write _ := rfl
  size_pos _ := Nat.succ_pos _
  parse_write := by
    rintro ⟨ssrc, fractionLost, lost, lastSeq, jitter, lsr, dlsr⟩ - rest
    rw [parse, if_neg (by rw [length_append]; exact not_lt.mpr (Nat.le_add_right 24 _)),
      Option.some.injEq]
    congr 1
    · exact read4Bytes_set4Bytes ssrc []
    · exact read3Bytes_set3Bytes lost []
    · exact read4Bytes_set4Bytes lastSeq []
    · exact read4Bytes_set4Bytes jitter []
    · exact read4Bytes_set4Bytes lsr []
    · exact read4Bytes_set4Bytes dlsr []

end ReceiverReport

namespace SenderReport

def getSize (_ : SenderReport) : ℕ := 24

def serialize (report : SenderReport) : List Byte :=
  set4Bytes report.ssrc ++ (set4Bytes report.ntpSec ++ (set4Bytes report.ntpFrac ++
    (set4Bytes report.rtpTs ++ (set4Bytes report.packetCount ++ set4Bytes report.octetCount))))

def parse (data : List Byte) : Option SenderReport :=
  if data.length < 24 then none
  else
    some {
      ssrc := read4Bytes data 0
      ntpSec := read4Bytes data 4
      ntpFrac := read4Bytes data 8
      rtpTs := read4Bytes data 12
      packetCount := read4Bytes data 16
      octetCount := read4Bytes data 20 }

theorem readsBack : ReadsBack parse getSize serialize fun _ => True where
  length_write _ := rfl
  size_pos _ := Nat.succ_pos _
  parse_write := by
    rintro ⟨ssrc, sec, frac, rtpTs, packetCount, octetCount⟩ - rest
    rw [parse, if_neg (by rw [length_append]; exact not_lt.mpr (Nat.le_add_right 24 _)),
      Option.some.injEq]
    congr 1
    · exact read4Bytes_set4Bytes ssrc []
    · exact read4Bytes_set4Bytes sec []
    · exact read4Bytes_set4Bytes frac []
    · exact read4Bytes_set4Bytes rtpTs []
    · exact read4Bytes_set4Bytes packetCount []
    · exact read4Bytes_set4Bytes octetCount []

end SenderReport

namespace ReceiverReportPacket

def getCount (packet : ReceiverReportPacket) : ℕ := packet.reports.length

def getSize (packet : ReceiverReportPacket) : ℕ :=
  Packet.commonHeaderSize + 4 + (packet.reports.map ReceiverReport.getSize).sum

def serialize (packet : ReceiverReportPacket) : List Byte :=
  Packet.serialize packet.getCount .rr packet.getSize ++
    (set4Bytes packet.ssrc ++ packet.reports.flatMap ReceiverReport.serialize)

def parse (data : List Byte) (offset : ℕ) : Option ReceiverReportPacket :=
  if data.length < Packet.commonHeaderSize + 4 then none
  else
    some {
      ssrc := read4Bytes data Packet.commonHeaderSize
      reports :=
        parseLoop ReceiverReport.parse ReceiverReport.getSize (Packet.headerCount data)
          (data.drop (if offset = 0 then Packet.commonHeaderSize + 4 else offset)) }

theorem parse_eq_some {data : List Byte} {offset : ℕ} {reports : List ReceiverReport}
    (hlen : Packet.commonHeaderSize + 4 ≤ data.length) (hn : Packet.headerCount data = reports.length)
    (hreps : data.drop (if offset = 0 then Packet.commonHeaderSize + 4 else offset) =
      reports.flatMap ReceiverReport.serialize) :
    parse data offset = some ⟨read4Bytes data Packet.commonHeaderSize, reports⟩ := by
  have hall : ∀ r ∈ reports, True := fun _ _ => trivial
  have hloop := parseLoop_flatMap ReceiverReport.readsBack hall 0 []
  rw [append_nil, add_zero] at hloop
  rw [parse, if_neg (not_lt.mpr hlen), hn, hreps, hloop, parseLoop_nil, append_nil]

theorem sum_getSize (reports : List ReceiverReport) :
    (reports.map ReceiverReport.getSize).sum = 24 * reports.length := by
  rw [show reports.map ReceiverReport.getSize = reports.map (Function.const _ 24) from rfl,
    map_const, sum_replicate_nat, mul_comm]

theorem getSize_eq (p : ReceiverReportPacket) : p.getSize = 8 + 24 * p.reports.length := by
  rw [getSize, sum_getSize]
  rfl

theorem length_serialize (p : ReceiverReportPacket) : p.serialize.length = p.getSize := by
  rw [serialize, length_append, length_append, Packet.length_serialize, length_set4Bytes,
    length_flatMap_write ReceiverReport.readsBack.length_write, ← add_assoc]
  rfl

theorem parse_serialize {packet : ReceiverReportPacket} (hn : packet.reports.length ≤ 31) :
    parse packet.serialize 0 = some packet := by
  have hssrc : read4Bytes packet.serialize Packet.commonHeaderSize = packet.ssrc :=
    read4Bytes_set4Bytes packet.ssrc []
  have hlen : Packet.commonHeaderSize + 4 ≤ packet.serialize.length := by
    rw [length_serialize, getSize]
    exact Nat.le_add_right _ _
  have hhdr : Packet.headerCount packet.serialize = packet.reports.length := by
    rw [serialize, Packet.headerCount_serialize]
    exact Nat.mod_eq_of_lt (Nat.lt_succ_of_le hn)
  rw [parse_eq_some hlen hhdr rfl, hssrc]

end ReceiverReportPacket

namespace SenderReportPacket

def getSize (packet : SenderReportPacket) : ℕ :=
  Packet.commonHeaderSize + (packet.reports.map SenderReport.getSize).sum

def serialize (packet : SenderReportPacket) : Except Fault (List Byte) := do
  msAssert (packet.reports.length == 1) "invalid number of sender reports"
  return Packet.serialize 0 .sr packet.getSize ++ packet.reports.flatMap SenderReport.serialize

def parse (data : List Byte) : SenderReportPacket where
  reports := (SenderReport.parse (data.drop Packet.commonHeaderSize)).toList

end SenderReportPacket

end MediasoupWorker.RTC.RTCP
