import MediasoupWorker.RTC.RTCP.CompoundPacket
import MediasoupWorker.RTC.RtpStreamRecv
import MediasoupWorker.RTC.RtpStreamSend

/-!
# `Transport::SendRtcp`: a round of reports

`src/src/RTC/Transport.cpp`, and `Producer::GetRtcp`. The receiver reports of the producers are collected
in compound packets: "One more RR would exceed the MTU, send the compound packet now." That test asks
`CompoundPacket::GetSize`, which is 0 until the packet is serialized, so all reports go into one packet.
-/

namespace MediasoupWorker.RTC

open Library List RTCP

def timeMs2Ntp (ms : BitVec 64) : Ntp where
  seconds := (ms / 1000).setWidth 32
  fractions := BitVec.ofNat 32 ((ms % 1000).toNat * 2 ^ 32 / 1000)

structure RtcpContext where
  nowMs : BitVec 64
  tooEarly : BitVec 64 → ℕ → Bool
  worstRemoteFractionLost : RtpStreamRecv.State → BitVec 8

structure RtcpProducer where
  maxRtcpInterval : ℕ
  lastRtcpSentTime : BitVec 64 := 0
  mapSsrcRtpStream : OrderedMap ℕ RtpStreamRecv.State

structure ConsumerReport where
  report : RTCP.SenderReport
  ssrc : BitVec 32
  cname : List Byte

namespace RtcpProducer

variable (context : RtcpContext)

def streamReports (s : RtpStreamRecv.State) : RtpStreamRecv.State × List ReceiverReport :=
  let (s, report) := s.getRtcpReceiverReport context.nowMs (context.worstRemoteFractionLost s)
  let (s, rtxReport) := s.getRtxRtcpReceiverReport context.nowMs
  (s, report :: rtxReport.toList)

def isEarly (p : RtcpProducer) : Bool :=
  context.tooEarly (context.nowMs - p.lastRtcpSentTime) p.maxRtcpInterval

def reports (p : RtcpProducer) : List ReceiverReport :=
  if p.isEarly context then []
  else p.mapSsrcRtpStream.entries.flatMap fun entry => (streamReports context entry.2).2

def addReferenceTime (packet : CompoundPacket) : CompoundPacket :=
  if packet.hasReceiverReferenceTime then packet
  else
    let ntp := timeMs2Ntp context.nowMs
    packet.addReceiverReferenceTime ntp.seconds ntp.fractions

def getRtcp (p : RtcpProducer) (packet : CompoundPacket) : RtcpProducer × CompoundPacket :=
  if p.isEarly context then (p, packet)
  else
    ({ p with
        mapSsrcRtpStream := p.mapSsrcRtpStream.mapValues fun _ s => (streamReports context s).1
        lastRtcpSentTime := context.nowMs },
      addReferenceTime context ((p.reports context).foldl CompoundPacket.addReceiverReport packet))

end RtcpProducer

namespace Transport

abbrev Sent := CompoundPacket × List Byte

def sendRtcpCompoundPacket (packet : CompoundPacket) : Except Fault Sent :=
  if packet.requiredSize > RtpStreamRecv.bufferSize then .error .outOfBounds
  else packet.serialize

def sendConsumerReport (consumer : ConsumerReport) : Except Fault Sent := do
  let packet ← CompoundPacket.addSenderReport {} consumer.report
  sendRtcpCompoundPacket (packet.addSdesChunk {
    ssrc := consumer.ssrc
    items := [SdesItem.ofValue SdesItem.cnameType consumer.cname] })

variable (context : RtcpContext)

def collectRtcp : List RtcpProducer → CompoundPacket →
    Except Fault (List RtcpProducer × CompoundPacket × List Sent)
  | [], packet => .ok ([], packet, [])
  | producer :: producers, packet => do
    let (producer, packet) := producer.getRtcp context packet
    if packet.getSize + 24 > mtuSize then
      let sent ← sendRtcpCompoundPacket packet
      let (producers, packet, rest) ← collectRtcp producers {}
      return (producer :: producers, packet, sent :: rest)
    else
      let (producers, packet, rest) ← collectRtcp producers packet
      return (producer :: producers, packet, rest)

def sendRtcp (consumers : List (Option ConsumerReport)) (producers : List RtcpProducer) :
    Except Fault (List RtcpProducer × List Sent) := do
  let consumerPackets ← (consumers.filterMap id).mapM sendConsumerReport
  let (producers, packet, sent) ← collectRtcp context producers {}
  if packet.getReceiverReportCount ≠ 0 then
    let last ← sendRtcpCompoundPacket packet
    return (producers, consumerPackets ++ sent ++ [last])
  else return (producers, consumerPackets ++ sent)

/-! ## The packet of a round -/

structure Pending (packet : CompoundPacket) (reports : List ReceiverReport) : Prop where
  size : packet.size = 0
  senderReports : packet.senderReportPacket.reports = []
  receiverReports : packet.receiverReportPacket.reports = reports
  chunks : packet.sdesPacket.chunks = []
  referenceTimes : packet.xrPacket.reports = [] ∨
    ∃ ntpSec ntpFrac, packet.xrPacket.reports = [.receiverReferenceTime ntpSec ntpFrac]

namespace Pending

variable {p : CompoundPacket} {reports : List ReceiverReport}

theorem new : Pending {} [] := ⟨rfl, rfl, rfl, rfl, .inl rfl⟩

section

variable (h : Pending p reports)

include h

theorem addReceiverReport (r : ReceiverReport) :
    Pending (p.addReceiverReport r) (reports ++ [r]) :=
  { h with receiverReports := congrArg (· ++ [r]) h.receiverReports }

theorem addReceiverReports (added : List ReceiverReport) :
    Pending (added.foldl CompoundPacket.addReceiverReport p) (reports ++ added) := by
  induction added generalizing p reports with
  | nil =>
    rw [append_nil]
    exact h
  | cons r added ih =>
    have hnext := ih (h.addReceiverReport r)
    rw [append_assoc] at hnext
    exact hnext

theorem addReferenceTime :
    Pending (RtcpProducer.addReferenceTime context p) reports := by
  unfold RtcpProducer.addReferenceTime
  rcases h.referenceTimes with hnone | ⟨sec, frac, hone⟩
  · have hhas : p.hasReceiverReferenceTime = false := by
      rw [CompoundPacket.hasReceiverReferenceTime, hnone]
      rfl
    rw [hhas]
    exact { h with referenceTimes := .inr ⟨_, _, congrArg (· ++ [_]) hnone⟩ }
  · have hhas : p.hasReceiverReferenceTime = true := by
      rw [CompoundPacket.hasReceiverReferenceTime, hone]
      rfl
    rw [hhas]
    exact h

/-- **What a producer adds.** -/
theorem getRtcp (pr : RtcpProducer) :
    Pending (pr.getRtcp context p).2 (reports ++ pr.reports context) := by
  unfold RtcpProducer.getRtcp
  by_cases hearly : pr.isEarly context = true
  · have hnone : pr.reports context = [] := if_pos hearly
    rw [if_pos hearly, hnone, append_nil]
    exact h
  · rw [if_neg hearly]
    exact (h.addReceiverReports _).addReferenceTime context

end

end Pending

/-- **Nothing is sent on the way**: the packet has no size, so it never seems to be full. -/
theorem collectRtcp_spec {packet : CompoundPacket} {reports : List ReceiverReport}
    (h : Pending packet reports) (producers : List RtcpProducer) :
    ∃ producers' p', collectRtcp context producers packet = .ok (producers', p', []) ∧
      Pending p' (reports ++ producers.flatMap (RtcpProducer.reports context)) := by
  induction producers generalizing packet reports with
  | nil =>
    rw [flatMap_nil, append_nil]
    exact ⟨[], packet, rfl, h⟩
  | cons pr producers ih =>
    have hnext := h.getRtcp context pr
    obtain ⟨producers', p', hcollect, hpend⟩ := ih hnext
    have hroom : ¬ (pr.getRtcp context packet).2.getSize + 24 > mtuSize := by
      rw [CompoundPacket.getSize, hnext.size]
      decide
    refine ⟨(pr.getRtcp context packet).1 :: producers', p', ?_, ?_⟩
    · rw [collectRtcp]
      dsimp only
      rw [if_neg hroom, hcollect]
      rfl
    · rw [flatMap_cons, ← append_assoc]
      exact hpend

/-! ## What arrives -/

section Delivery

variable {Other : Type} (parseOther : PacketType → List Byte → Option Other)

def reportsOf : Packet.Parsed Other → List ReceiverReport
  | .receiverReport packet => packet.reports
  | _ => []

def parsedReports (sent : List Sent) : List ReceiverReport :=
  sent.flatMap fun packet => (Packet.parse parseOther packet.2).flatMap reportsOf

/-- **The packets are within the limits and carry the reports**, each once and in order. -/
structure Delivers (sent : List Sent) (reports : List ReceiverReport) : Prop where
  count : ∀ packet ∈ sent, packet.1.getReceiverReportCount ≤ 31
  length : ∀ packet ∈ sent, packet.2.length ≤ mtuSize
  parsed : parsedReports parseOther sent = reports

namespace Delivers

variable {parseOther} {sent sent' : List Sent} {reports reports' : List ReceiverReport}

theorem nil : Delivers parseOther [] [] where
  count _ hpacket := absurd hpacket not_mem_nil
  length _ hpacket := absurd hpacket not_mem_nil
  parsed := rfl

theorem append (h : Delivers parseOther sent reports) (h' : Delivers parseOther sent' reports') :
    Delivers parseOther (sent ++ sent') (reports ++ reports') where
  count := forall_mem_append.mpr ⟨h.count, h'.count⟩
  length := forall_mem_append.mpr ⟨h.length, h'.length⟩
  parsed := by
    rw [← h.parsed, ← h'.parsed]
    exact flatMap_append

end Delivers

theorem sendRtcpCompoundPacket_spec {packet : CompoundPacket} (h : packet.Regular)
    (hsize : packet.requiredSize ≤ mtuSize) :
    ∃ sent, sendRtcpCompoundPacket packet = .ok sent ∧ Delivers parseOther [sent]
        ((packet.parsedHead ++ packet.parsedTail : List (Packet.Parsed Other)).flatMap reportsOf) := by
  obtain ⟨bs, hser, hlen, hparse⟩ := CompoundPacket.serialize_spec parseOther h
  have hbuf : ¬ packet.requiredSize > RtpStreamRecv.bufferSize :=
    not_lt.mpr (hsize.trans (by decide))
  refine ⟨({ packet with size := packet.requiredSize }, bs), ?_, ?_⟩
  · rw [sendRtcpCompoundPacket, if_neg hbuf, hser]
  · refine ⟨forall_mem_singleton.mpr h.receiverReports, forall_mem_singleton.mpr (hlen ▸ hsize), ?_⟩
    rw [parsedReports, flatMap_singleton, hparse]

theorem sendConsumerReport_spec (c : ConsumerReport) :
    ∃ sent, sendConsumerReport c = .ok sent ∧ Delivers parseOther [sent] [] := by
  have hv := (SdesItem.ofValue SdesItem.cnameType c.cname).length_lt
  have hc : SdesChunk.getSize ⟨c.ssrc, [SdesItem.ofValue SdesItem.cnameType c.cname]⟩ ≤ 264 := by
    rw [SdesChunk.getSize, SdesChunk.contentSize]
    simp only [map_cons, map_nil, sum_cons, sum_nil, SdesItem.getSize]
    omega
  have hsdes : SdesPacket.getSize
      ⟨[⟨c.ssrc, [SdesItem.ofValue SdesItem.cnameType c.cname]⟩]⟩ ≤ 268 := by
    rw [SdesPacket.getSize, Packet.commonHeaderSize]
    simp only [map_cons, map_nil, sum_cons, sum_nil]
    omega
  refine sendRtcpCompoundPacket_spec parseOther ⟨Nat.le_refl 1, Nat.zero_le _, Nat.le_refl 1, ?_, ?_,
    fun block hblock => absurd hblock not_mem_nil, (by decide : 8 ≤ 4 * 2 ^ 16)⟩ ?_
  · intro ch hc item hitem
    obtain rfl := mem_singleton.mp hc
    obtain rfl := mem_singleton.mp hitem
    exact (by decide : SdesItem.cnameType ≠ SdesItem.endType)
  · exact hsdes.trans (by decide)
  · show 28 + SdesPacket.getSize
      ⟨[⟨c.ssrc, [SdesItem.ofValue SdesItem.cnameType c.cname]⟩]⟩ ≤ mtuSize
    rw [mtuSize]
    omega

variable {packet : CompoundPacket} {reports : List ReceiverReport}

section

variable (h : Pending packet reports)

include h

theorem Pending.getSize_xrPacket_le : packet.xrPacket.getSize ≤ 20 := by
  rcases h.referenceTimes with hnone | ⟨sec, frac, hone⟩
  · rw [ExtendedReportPacket.getSize, hnone]
    decide
  · rw [ExtendedReportPacket.getSize, hone]
    exact le_rfl

theorem Pending.requiredSize_le (hn : reports.length ≤ 31) : packet.requiredSize ≤ mtuSize := by
  have hsend : packet.hasSenderReport = false := by
    rw [CompoundPacket.hasSenderReport, h.senderReports]
    rfl
  have hcs : ¬ packet.sdesPacket.getCount ≠ 0 := by
    rw [SdesPacket.getCount, h.chunks]
    decide
  have hxr : (if packet.xrPacket.reports.isEmpty then 0 else packet.xrPacket.getSize) ≤ 20 := by
    split_ifs
    · exact Nat.zero_le 20
    · exact h.getSize_xrPacket_le
  have hrr := packet.receiverReportPacket.getSize_eq
  rw [h.receiverReports] at hrr
  rw [CompoundPacket.requiredSize, hsend, if_neg hcs, mtuSize]
  simp only [Bool.false_eq_true, if_false]
  omega

theorem Pending.regular (hn : reports.length ≤ 31) : packet.Regular where
  senderReport := by
    rw [h.senderReports]
    exact Nat.zero_le 1
  receiverReports := by
    rw [h.receiverReports]
    exact hn
  chunk := by
    rw [h.chunks]
    exact Nat.zero_le 1
  items chunk hchunk := by
    rw [h.chunks] at hchunk
    exact absurd hchunk not_mem_nil
  sdesPacket_fits := by
    rw [SdesPacket.getSize, h.chunks]
    decide
  referenceTimes block hblock := by
    rcases h.referenceTimes with hnone | ⟨sec, frac, hone⟩
    · rw [hnone] at hblock
      exact absurd hblock not_mem_nil
    · rw [hone] at hblock
      exact ⟨sec, frac, mem_singleton.mp hblock⟩
  xrPacket_fits := h.getSize_xrPacket_le.trans (by decide)

theorem Pending.parsed :
    (packet.parsedHead ++ packet.parsedTail : List (Packet.Parsed Other)).flatMap reportsOf = reports := by
  have htail : (packet.parsedTail : List (Packet.Parsed Other)).flatMap reportsOf = [] := by
    rw [CompoundPacket.parsedTail, flatMap_append]
    split_ifs <;> rfl
  have hhead : (packet.parsedHead : List (Packet.Parsed Other)) =
      [.receiverReport packet.receiverReportPacket] := by
    rw [CompoundPacket.parsedHead, h.senderReports]
  rw [flatMap_append, htail, hhead, append_nil, flatMap_singleton]
  exact h.receiverReports

end

theorem consumerPackets_spec (cs : List ConsumerReport) :
    ∃ sent, cs.mapM sendConsumerReport = .ok sent ∧ Delivers parseOther sent [] := by
  induction cs with
  | nil => exact ⟨[], rfl, .nil⟩
  | cons c cs ih =>
    obtain ⟨packet, hp, hfirst⟩ := sendConsumerReport_spec parseOther c
    obtain ⟨sent, hsent, hrest⟩ := ih
    refine ⟨packet :: sent, ?_, hfirst.append hrest⟩
    rw [mapM_cons, hp, ok_bind, hsent]
    rfl

theorem getReceiverReportCount_of_send {sent : Sent} (h : sendRtcpCompoundPacket packet = .ok sent) :
    sent.1.getReceiverReportCount = packet.getReceiverReportCount := by
  unfold sendRtcpCompoundPacket at h
  split_ifs at h
  obtain ⟨head, -, h⟩ := bind_eq_ok.mp h
  obtain rfl := Except.ok.inj h
  rfl

theorem Pending.count_eq (h : Pending packet reports) :
    packet.getReceiverReportCount = reports.length := congrArg length h.receiverReports

theorem Pending.send (h : Pending packet reports) (hn : reports.length ≤ 31) :
    ∃ sent, sendRtcpCompoundPacket packet = .ok sent ∧ Delivers parseOther [sent] reports := by
  have hsend := sendRtcpCompoundPacket_spec parseOther (h.regular hn) (h.requiredSize_le hn)
  rw [h.parsed] at hsend
  exact hsend

theorem sendRtcp_eq (cs : List (Option ConsumerReport)) (producers : List RtcpProducer) :
    ∃ cps producers' packet, Delivers parseOther cps [] ∧
      Pending packet (producers.flatMap (RtcpProducer.reports context)) ∧ sendRtcp context cs producers =
        if packet.getReceiverReportCount ≠ 0 then do
          let last ← sendRtcpCompoundPacket packet
          return (producers', cps ++ [last])
        else return (producers', cps) := by
  obtain ⟨cps, hcons, hnone⟩ := consumerPackets_spec parseOther (cs.filterMap id)
  obtain ⟨producers', packet, hcollect, hpend⟩ := collectRtcp_spec context Pending.new producers
  refine ⟨cps, producers', packet, hnone, hpend, ?_⟩
  rw [sendRtcp, hcons, ok_bind, hcollect, ok_bind]
  dsimp only
  rw [append_nil]

/-- **A round of `SendRtcp` delivers the reports of all producers exactly if there are at most 31 of
them.** -/
theorem sendRtcp_delivers_iff (consumers : List (Option ConsumerReport))
    (producers : List RtcpProducer) :
    (∃ producers' sent, sendRtcp context consumers producers = .ok (producers', sent) ∧
      Delivers parseOther sent (producers.flatMap (RtcpProducer.reports context))) ↔
      (producers.flatMap (RtcpProducer.reports context)).length ≤ 31 := by
  obtain ⟨consumerPackets, producers', packet, hnone, hpending, heq⟩ :=
    sendRtcp_eq context parseOther consumers producers
  rw [hpending.count_eq] at heq
  constructor
  · rintro ⟨producers'', sent, hsend, hdelivers⟩
    rw [heq] at hsend
    split_ifs at hsend with hempty
    · obtain ⟨last, hlast, hsend⟩ := bind_eq_ok.mp hsend
      cases hsend
      have hcount := hdelivers.count last (List.mem_append_right _ (List.mem_singleton.mpr rfl))
      rw [getReceiverReportCount_of_send hlast, hpending.count_eq] at hcount
      exact hcount
    · omega
  · intro hcount
    by_cases hempty : (producers.flatMap (RtcpProducer.reports context)).length ≠ 0
    · obtain ⟨last, hlast, hdelivers⟩ := hpending.send parseOther hcount
      refine ⟨producers', consumerPackets ++ [last], ?_, hnone.append hdelivers⟩
      rw [heq, if_pos hempty, hlast]
      rfl
    · refine ⟨producers', consumerPackets, heq.trans (if_neg hempty), ?_⟩
      rw [List.length_eq_zero_iff.mp (not_not.mp hempty)]
      exact hnone

end Delivery

def firstRound : RtcpContext where
  nowMs := 5000
  tooEarly _ _ := false
  worstRemoteFractionLost _ := 0

def videoStream (ssrc : ℕ) : RtpStreamRecv.State where
  params := {
    encodingIdx := 0, ssrc, payloadType := 96, mimeType := { type := .video, subtype := .vp8 }, clockRate := 90000
    rid := "", cname := "" }

def manyStreams : RtcpProducer where
  maxRtcpInterval := 1000
  mapSsrcRtpStream := (List.range 32).foldl (fun m i => m.insert (i + 1) (videoStream (i + 1))) .empty

theorem sendRtcp_manyStreams :
    ∃ producers' sent, sendRtcp firstRound [] [manyStreams] = .ok (producers', [sent]) ∧
      sent.1.getReceiverReportCount = 32 ∧ parsedReports CompoundPacket.noOther [sent] = [] :=
  ⟨_, _, rfl, by decide +kernel, by decide +kernel⟩

/-- **The reports of 32 streams are lost.** -/
theorem reports_of_manyStreams_lost :
    ¬ ∃ producers' sent, sendRtcp firstRound [] [manyStreams] = .ok (producers', sent) ∧
      Delivers CompoundPacket.noOther sent ([manyStreams].flatMap (RtcpProducer.reports firstRound)) := by
  rintro ⟨producers', sent, hsend, hdelivers⟩
  obtain ⟨producers'', packet, hpacket, hcount, -⟩ := sendRtcp_manyStreams
  rw [hpacket] at hsend
  cases hsend
  have hlimit := hdelivers.count packet (List.mem_singleton.mpr rfl)
  omega

end Transport

end MediasoupWorker.RTC
