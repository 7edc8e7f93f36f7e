import MediasoupWorker.RTC.SeqManager
import MediasoupWorker.Common

/-!
# RTP streams: sequence tracking and sender reports

`src/src/RTC/RtpStream.cpp`, the base class of received and sent streams, and the part of
`src/src/RTC/RtpStreamRecv.cpp` that remembers the last RTCP sender report.
-/

namespace MediasoupWorker.RTC

def maxDropout : ℕ := 3000
def maxMisorder : ℕ := 1500
def rtpSeqMod : ℕ := 2 ^ 16

structure RtpStream where
  maxSeq : BitVec 16 := 0
  cycles : BitVec 32 := 0
  baseSeq : BitVec 32 := 0
  badSeq : BitVec 32 := 0
  maxPacketTs : BitVec 32 := 0
  maxPacketMs : ℕ := 0
  packetsDiscarded : ℕ := 0
  started : Bool := false
  deriving DecidableEq, Repr

namespace RtpStream

def initSeq (seq : BitVec 16) (stream : RtpStream) : RtpStream :=
  { stream with
    baseSeq := seq.setWidth 32
    maxSeq := seq
    badSeq := BitVec.ofNat 32 (rtpSeqMod + 1) }

def updateSeq (nowMs : ℕ) (seq : BitVec 16) (timestamp : BitVec 32) (stream : RtpStream) :
    RtpStream × Bool :=
  let udelta := (seq - stream.maxSeq).toNat
  if udelta < maxDropout then
    let cycles :=
      if seq < stream.maxSeq then stream.cycles + BitVec.ofNat 32 rtpSeqMod else stream.cycles
    ({ stream with cycles, maxSeq := seq }, true)
  else if udelta ≤ rtpSeqMod - maxMisorder then
    if seq.setWidth 32 = stream.badSeq then
      ({ stream.initSeq seq with maxPacketTs := timestamp, maxPacketMs := nowMs }, true)
    else
      ({ stream with
        badSeq := (seq.setWidth 32 + 1) &&& BitVec.ofNat 32 (rtpSeqMod - 1)
        packetsDiscarded := stream.packetsDiscarded + 1 }, false)
  else (stream, true)

def receivePacket (nowMs : ℕ) (seq : BitVec 16) (timestamp : BitVec 32) (stream : RtpStream) :
    RtpStream × Bool :=
  let stream :=
    if stream.started then stream
    else { stream.initSeq seq with
      started := true
      maxSeq := seq - 1
      maxPacketTs := timestamp
      maxPacketMs := nowMs }
  match stream.updateSeq nowMs seq timestamp with
  | (stream, false) => (stream, false)
  | (stream, true) =>
    if isSeqHigherThan timestamp stream.maxPacketTs then
      ({ stream with maxPacketTs := timestamp, maxPacketMs := nowMs }, true)
    else (stream, true)

def getExpectedPackets (stream : RtpStream) : BitVec 32 :=
  (stream.cycles + stream.maxSeq.setWidth 32) - stream.baseSeq + 1

theorem updateSeq_succ (now : ℕ) (ts : BitVec 32) (st : RtpStream) :
    ∃ cycles, st.updateSeq now (st.maxSeq + 1) ts = ({ st with cycles, maxSeq := st.maxSeq + 1 }, true) ∧
      cycles + (st.maxSeq + 1).setWidth 32 = st.cycles + st.maxSeq.setWidth 32 + 1 := by
  have hdelta : (st.maxSeq + 1 - st.maxSeq).toNat = 1 := by
    rw [add_comm, BitVec.add_sub_cancel]
    rfl
  rw [updateSeq, hdelta]
  dsimp only
  rw [if_pos (by decide)]
  refine ⟨_, rfl, ?_⟩
  split_ifs with hwrap
  · -- the number has wrapped from 65535 to 0
    have hmax : st.maxSeq = 65535 := by bv_omega
    have hmod : BitVec.ofNat 32 rtpSeqMod = 65536 := rfl
    rw [hmax, hmod]
    bv_omega
  · have hno : st.maxSeq.toNat ≠ 65535 := by
      intro hmax
      exact hwrap (by bv_omega)
    have hsucc : (st.maxSeq + 1).setWidth 32 = st.maxSeq.setWidth 32 + 1 := by bv_omega
    rw [hsucc, add_assoc]

end RtpStream

/-! ## Packets, as the streams see them -/

structure MediaPacket where
  ssrc : ℕ
  payloadType : ℕ
  sequenceNumber : BitVec 16
  timestamp : BitVec 32
  headerLength : ℕ := 12
  payload : List Byte := []
  payloadPadding : ℕ := 0
  deriving DecidableEq, Repr

namespace MediaPacket

def getSize (packet : MediaPacket) : ℕ :=
  packet.headerLength + packet.payload.length + packet.payloadPadding

def rtxEncode (packet : MediaPacket) (payloadType ssrc : ℕ) (seq : BitVec 16) : MediaPacket :=
  { packet with
    payloadType := payloadType % 2 ^ 7
    ssrc
    payload := packet.sequenceNumber.extractLsb' 8 8 :: packet.sequenceNumber.extractLsb' 0 8 ::
      packet.payload
    sequenceNumber := seq
    payloadPadding := 0 }

def rtxDecode (packet : MediaPacket) (payloadType ssrc : ℕ) : Option MediaPacket :=
  match packet.payload with
  | high :: low :: payload =>
    some { packet with
      payloadType := payloadType % 2 ^ 7
      sequenceNumber := high ++ low
      ssrc
      payload
      payloadPadding := 0 }
  | _ => none

end MediaPacket

/-! ## Sender reports -/

structure Ntp where
  seconds : BitVec 32
  fractions : BitVec 32
  deriving DecidableEq, Repr

def ntp2TimeMs (ntp : Ntp) : ℕ :=
  ntp.seconds.toNat * 1000 + (ntp.fractions.toNat * 1000 + 2 ^ 31) / 2 ^ 32

structure SenderReport where
  ntp : Ntp
  rtpTs : BitVec 32
  deriving DecidableEq, Repr

structure LastSenderReport where
  ntpMs : ℕ := 0
  ts : BitVec 32 := 0
  deriving DecidableEq, Repr

def SenderReport.last (report : SenderReport) : LastSenderReport where
  ntpMs := ntp2TimeMs report.ntp
  ts := report.rtpTs

end MediasoupWorker.RTC
