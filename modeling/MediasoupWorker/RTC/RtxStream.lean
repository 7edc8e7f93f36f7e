import MediasoupWorker.RTC.RTCP.ReceiverReport
import MediasoupWorker.RTC.RtpStream

/-!
# `RtxStream`: a received stream of retransmissions

`src/src/RTC/RtxStream.cpp`. The stream of retransmitted packets has sequence numbers of its own,
which it follows in the same way as `RtpStream` those of the media packets, and it has receiver
reports of its own.
-/

namespace MediasoupWorker.RTC

open RTCP (ReceiverReport ReportState)

def RtpStream.receivePackets (packets : List (ℕ × MediaPacket)) (stream : RtpStream) : RtpStream :=
  packets.foldl (fun stream packet =>
    (stream.receivePacket packet.1 packet.2.sequenceNumber packet.2.timestamp).1) stream

structure RtxStream where
  ssrc : ℕ
  maxSeq : BitVec 16 := 0
  cycles : BitVec 32 := 0
  baseSeq : BitVec 32 := 0
  badSeq : BitVec 32 := 0
  maxPacketTs : BitVec 32 := 0
  maxPacketMs : ℕ := 0
  packetsDiscarded : ℕ := 0
  packetsCount : ℕ := 0
  started : Bool := false
  report : ReportState := {}
  deriving DecidableEq, Repr

namespace RtxStream

def initSeq (seq : BitVec 16) (stream : RtxStream) : RtxStream :=
  { stream with
    baseSeq := seq.setWidth 32
    maxSeq := seq
    badSeq := BitVec.ofNat 32 (rtpSeqMod + 1) }

def updateSeq (nowMs : ℕ) (seq : BitVec 16) (timestamp : BitVec 32) (stream : RtxStream) :
    RtxStream × Bool :=
  let udelta := (seq - stream.maxSeq).toNat
  if udelta < maxDropout then
    let cycles :=
      if seq < stream.maxSeq then stream.cycles + BitVec.ofNat 32 rtpSeqMod else stream.cycles
    ({ stream with cycles, maxSeq := seq }, true)
  else if udelta ≤ rtpSeqMod - maxMisorder then
    if seq.setWidth 32 = stream.badSeq then
      ({ stream.initSeq seq with maxPacketTs := timestamp, maxPacketMs := nowMs }, true)
    else
      ({ stream with
        badSeq := (seq.setWidth 32 + 1) &&& BitVec.ofNat 32 (rtpSeqMod - 1)
        packetsDiscarded := stream.packetsDiscarded + 1 }, false)
  else (stream, true)

def receivePacket (nowMs : ℕ) (seq : BitVec 16) (timestamp : BitVec 32) (stream : RtxStream) :
    RtxStream × Bool :=
  let stream :=
    if stream.started then stream
    else { stream.initSeq seq with
      started := true
      maxSeq := seq - 1
      maxPacketTs := timestamp
      maxPacketMs := nowMs }
  match stream.updateSeq nowMs seq timestamp with
  | (stream, false) => (stream, false)
  | (stream, true) =>
    let stream :=
      if isSeqHigherThan timestamp stream.maxPacketTs then
        { stream with maxPacketTs := timestamp, maxPacketMs := nowMs }
      else stream
    ({ stream with packetsCount := stream.packetsCount + 1 }, true)

def getExpectedPackets (stream : RtxStream) : BitVec 32 :=
  (stream.cycles + stream.maxSeq.setWidth 32) - stream.baseSeq + 1

def getRtcpReceiverReport (nowMs : BitVec 64) (stream : RtxStream) : RtxStream × ReceiverReport :=
  let prevPacketsLost := stream.report.packetsLost
  let report := stream.report.count stream.getExpectedPackets stream.packetsCount
  let report := { report with
    reportedPacketLost := report.reportedPacketLost + (report.packetsLost - prevPacketsLost) }
  ({ stream with report },
    { ssrc := BitVec.ofNat 32 stream.ssrc
      totalLost := RTCP.totalLostField report.reportedPacketLost
      fractionLost := report.fractionLost
      lastSeq := stream.maxSeq.setWidth 32 + stream.cycles
      jitter := 0
      dlsr := report.delaySinceLastSenderReport nowMs
      lsr := report.lastSenderReport })

def receiveRtcpSenderReport (nowMs : BitVec 64) (report : SenderReport) (stream : RtxStream) :
    RtxStream :=
  { stream with
    report := stream.report.receiveSenderReport nowMs report.ntp.seconds report.ntp.fractions }

inductive Event where
  | receivePacket (nowMs : BitVec 64) (seq : BitVec 16) (timestamp : BitVec 32)
  | receiverReport (nowMs : BitVec 64)
  | senderReport (nowMs : BitVec 64) (report : SenderReport)

/-! ## The sequence numbers of both kinds of streams -/

def tracking (stream : RtxStream) : RtpStream where
  maxSeq := stream.maxSeq
  cycles := stream.cycles
  baseSeq := stream.baseSeq
  badSeq := stream.badSeq
  maxPacketTs := stream.maxPacketTs
  maxPacketMs := stream.maxPacketMs
  packetsDiscarded := stream.packetsDiscarded
  started := stream.started

section Tracking

variable (now : ℕ) (seq : BitVec 16) (ts : BitVec 32) (st : RtxStream)

theorem tracking_updateSeq : st.tracking.updateSeq now seq ts =
    Prod.map tracking id (st.updateSeq now seq ts) := by
  unfold updateSeq RtpStream.updateSeq
  simp only [apply_ite (Prod.map tracking id)]
  rfl

/-- **One packet.** The RTX stream takes the step of a media stream. -/
theorem tracking_receivePacket : st.tracking.receivePacket now seq ts =
    Prod.map tracking id (st.receivePacket now seq ts) := by
  unfold receivePacket RtpStream.receivePacket
  have hupd := tracking_updateSeq now seq ts (if st.started then st
    else { st.initSeq seq with
      started := true, maxSeq := seq - 1, maxPacketTs := ts, maxPacketMs := now })
  rw [apply_ite tracking] at hupd
  change RtpStream.updateSeq now seq ts (if st.tracking.started then st.tracking
    else { st.tracking.initSeq seq with
      started := true, maxSeq := seq - 1, maxPacketTs := ts, maxPacketMs := now }) = _
    at hupd
  dsimp only at hupd ⊢
  rw [hupd]
  generalize updateSeq now seq ts _ = r
  rcases r with ⟨st', _ | _⟩
  · rfl
  · simp only [Prod.map, id]
    split_ifs with hmedia hrtx hrtx
    · rfl
    · exact absurd hmedia hrtx
    · exact absurd hrtx hmedia
    · rfl

end Tracking

def receivePackets (packets : List (ℕ × MediaPacket)) (stream : RtxStream) : RtxStream :=
  packets.foldl (fun stream packet =>
    (stream.receivePacket packet.1 packet.2.sequenceNumber packet.2.timestamp).1) stream

theorem tracking_receivePackets (ps : List (ℕ × MediaPacket)) (str : RtxStream) :
    str.tracking.receivePackets ps = (str.receivePackets ps).tracking := by
  induction ps generalizing str with
  | nil => rfl
  | cons p ps ih =>
    have hp := congrArg Prod.fst
      (tracking_receivePacket p.1 p.2.sequenceNumber p.2.timestamp str)
    exact (congrArg (RtpStream.receivePackets ps) hp).trans (ih _)

/-- **RTX streams follow sequence numbers as media streams do**: after any packets, both accept the
same next packet and count the same. -/
theorem tracks_as_media (ssrc : ℕ) (packets : List (ℕ × MediaPacket)) (nowMs : ℕ)
    (packet : MediaPacket) :
    let media := RtpStream.receivePackets packets {}
    let rtx := receivePackets packets { ssrc }
    (rtx.receivePacket nowMs packet.sequenceNumber packet.timestamp).2 =
        (media.receivePacket nowMs packet.sequenceNumber packet.timestamp).2 ∧
      rtx.baseSeq = media.baseSeq ∧ rtx.maxSeq = media.maxSeq ∧ rtx.cycles = media.cycles ∧
      rtx.badSeq = media.badSeq ∧ rtx.packetsDiscarded = media.packetsDiscarded ∧
      rtx.getExpectedPackets = media.getExpectedPackets := by
  intro media rtx
  have hmedia : media = rtx.tracking := tracking_receivePackets packets { ssrc }
  have hnext := tracking_receivePacket nowMs packet.sequenceNumber packet.timestamp rtx
  rw [hmedia, hnext]
  exact ⟨rfl, rfl, rfl, rfl, rfl, rfl, rfl⟩

end RtxStream

end MediasoupWorker.RTC
