import MediasoupWorker.RTC.RTCP.FeedbackRtpTransportRoundTrip

/-!
# `TransportCongestionControlServer`

`src/src/RTC/TransportCongestionControlServer.cpp`, with `BweType::TRANSPORT_CC`. The server tells an
ongoing feedback packet of each packet that arrives, and sends it when the timer expires, when it is full,
and when it would become too large. What was sent covers a first part of what there is to report, and the
ongoing packet the rest (`Tracks`).
-/

namespace MediasoupWorker.RTC

open Library List RTCP FeedbackRtpTransportPacket

/-! ## The server -/

inductive RtcpMessage where
  | transportCc (packet : LocalPacket)
  | remb (bitrate : BitVec 32)
  deriving DecidableEq, Repr

def RtcpMessage.feedback : RtcpMessage → Option LocalPacket
  | .transportCc packet => some packet
  | .remb _ => none

structure TransportCongestionControlServer where
  maxRtcpPacketLen : ℕ
  transportCcFeedbackPacket : LocalPacket := {}
  transportCcFeedbackPacketCount : Byte := 0
  transportCcFeedbackSenderSsrc : BitVec 32 := 0
  transportCcFeedbackMediaSsrc : BitVec 32 := 0
  maxIncomingBitrate : BitVec 32 := 0
  limitationRembSentAtMs : BitVec 64 := 0
  unlimitedRembCounter : Byte := 0
  sent : List RtcpMessage := []
  deriving DecidableEq, Repr

namespace TransportCongestionControlServer

def limitationRembInterval : ℕ := 1500
def unlimitedRembNumPackets : Byte := 4

def newFeedbackPacket (s : TransportCongestionControlServer) (feedbackPacketCount : Byte) : LocalPacket :=
  { senderSsrc := s.transportCcFeedbackSenderSsrc
    mediaSsrc := s.transportCcFeedbackMediaSsrc
    feedbackPacketCount }

def sendTransportCcFeedback (s : TransportCongestionControlServer) :
    Except Fault TransportCongestionControlServer := do
  if !s.transportCcFeedbackPacket.isSerializable then return s
  else
    let latestWideSeqNumber := s.transportCcFeedbackPacket.latestSequenceNumber
    let latestTimestamp := s.transportCcFeedbackPacket.latestTimestamp
    let (packet, _) ← s.transportCcFeedbackPacket.serialize
    let count := s.transportCcFeedbackPacketCount + 1
    let next := s.newFeedbackPacket count
    let next ←
      if latestTimestamp > 0 then do
        let (next, _) ← next.addPacket latestWideSeqNumber latestTimestamp s.maxRtcpPacketLen
        pure next
      else pure next
    return { s with
      transportCcFeedbackPacket := next
      transportCcFeedbackPacketCount := count
      sent := s.sent ++ [.transportCc packet] }

def maySendLimitationRembFeedback (loopMs : BitVec 64) (s : TransportCongestionControlServer) :
    TransportCongestionControlServer :=
  let unlimitedRembCounter :=
    if s.unlimitedRembCounter > 0 ∧ s.maxIncomingBitrate ≠ 0 then 0 else s.unlimitedRembCounter
  if (s.maxIncomingBitrate ≠ 0 ∨ unlimitedRembCounter > 0) ∧
      ((loopMs - s.limitationRembSentAtMs).toNat > limitationRembInterval ∨
        unlimitedRembCounter = unlimitedRembNumPackets) then
    { s with
      sent := s.sent ++ [.remb s.maxIncomingBitrate]
      limitationRembSentAtMs := loopMs
      unlimitedRembCounter :=
        if unlimitedRembCounter > 0 then unlimitedRembCounter - 1 else unlimitedRembCounter }
  else { s with unlimitedRembCounter }

def setSsrcs (ssrc : BitVec 32) (s : TransportCongestionControlServer) :
    TransportCongestionControlServer :=
  { s with
    transportCcFeedbackSenderSsrc := 0
    transportCcFeedbackMediaSsrc := ssrc
    transportCcFeedbackPacket :=
      { s.transportCcFeedbackPacket with senderSsrc := 0, mediaSsrc := ssrc } }

def addPacket (arrival : Arrival) (s : TransportCongestionControlServer) :
    Except Fault (TransportCongestionControlServer × AddPacketResult) := do
  let (packet, result) ← s.transportCcFeedbackPacket.addPacket arrival.sequenceNumber
    arrival.timestamp s.maxRtcpPacketLen
  return ({ s with transportCcFeedbackPacket := packet }, result)

def feedPacket (arrival : Arrival) (s : TransportCongestionControlServer) :
    Except Fault (TransportCongestionControlServer × AddPacketResult) := do
  let (s, result) ← s.addPacket arrival
  match result with
  | .success =>
    if s.transportCcFeedbackPacket.isFull then return (← s.sendTransportCcFeedback, result)
    else return (s, result)
  | .maxSizeExceeded => (← s.sendTransportCcFeedback).addPacket arrival
  | .fatal =>
    return ({ s with
      transportCcFeedbackPacket := s.newFeedbackPacket s.transportCcFeedbackPacketCount }, result)

def incomingPacket (nowMs : BitVec 64) (ssrc : BitVec 32) (wideSeqNumber : Option (BitVec 16))
    (loopMs : BitVec 64) (s : TransportCongestionControlServer) :
    Except Fault (TransportCongestionControlServer × Option AddPacketResult) :=
  match wideSeqNumber with
  | none => .ok (s, none)
  | some sequenceNumber => do
    let (s, result) ← (s.setSsrcs ssrc).feedPacket ⟨sequenceNumber, nowMs⟩
    return (s.maySendLimitationRembFeedback loopMs, some result)

def setMaxIncomingBitrate (bitrate : BitVec 32) (loopMs : BitVec 64)
    (s : TransportCongestionControlServer) : TransportCongestionControlServer :=
  if s.maxIncomingBitrate ≠ 0 ∧ bitrate = 0 then
    maySendLimitationRembFeedback loopMs
      { s with maxIncomingBitrate := bitrate, unlimitedRembCounter := unlimitedRembNumPackets }
  else { s with maxIncomingBitrate := bitrate }

def onTimer (s : TransportCongestionControlServer) : Except Fault TransportCongestionControlServer :=
  s.sendTransportCcFeedback

def transportDisconnected (s : TransportCongestionControlServer) : TransportCongestionControlServer :=
  { s with transportCcFeedbackPacket := {} }

def feedbacks (s : TransportCongestionControlServer) : List LocalPacket :=
  s.sent.filterMap RtcpMessage.feedback

/-! ## What is covered -/

structure Tracks (first : BitVec 16) (covered current : List (Option (BitVec 64)))
    (s : TransportCongestionControlServer) : Prop where
  reports : ∃ results, List.Forall₂ (fun packet result => packet.getPacketResults = .ok result)
    (s.feedbacks.map LocalPacket.toFeedbackRtpTransportPacket) results ∧ Reports first covered results.flatten
  covers : s.transportCcFeedbackPacket.Covers 65534 (first + BitVec.ofNat 16 covered.length) current
  some_delta : current ≠ [] → s.transportCcFeedbackPacket.deltas ≠ []
  few_deltas : s.transportCcFeedbackPacket.deltas.length ≤ 65534
  late : 64 ≤ s.transportCcFeedbackPacket.latestTimestamp.toNat

section Tracks

variable {first : BitVec 16} {covered current : List (Option (BitVec 64))}
  {s : TransportCongestionControlServer}

theorem Tracks.latest (h : Tracks first covered current s) :
    s.transportCcFeedbackPacket.latestSequenceNumber =
      first + BitVec.ofNat 16 (covered ++ current).length := by
  rw [h.covers.latest, length_append, BitVec.ofNat_add, add_assoc]

theorem Tracks.setSsrcs (h : Tracks first covered current s) (ssrc : BitVec 32) :
    Tracks first covered current (s.setSsrcs ssrc) :=
  ⟨h.reports, h.covers.setSsrcs 0 ssrc, h.some_delta, h.few_deltas, h.late⟩

theorem maySendLimitationRembFeedback_fixed (ms : BitVec 64) (s : TransportCongestionControlServer) :
    (s.maySendLimitationRembFeedback ms).feedbacks = s.feedbacks ∧
    (s.maySendLimitationRembFeedback ms).transportCcFeedbackPacket = s.transportCcFeedbackPacket ∧
    (s.maySendLimitationRembFeedback ms).maxRtcpPacketLen = s.maxRtcpPacketLen := by
  rw [maySendLimitationRembFeedback]
  split_ifs
  all_goals
    refine ⟨?_, rfl, rfl⟩
    simp [feedbacks, RtcpMessage.feedback]

theorem Tracks.congr (h : Tracks first covered current s) {s' : TransportCongestionControlServer}
    (hfb : s'.feedbacks = s.feedbacks) (hp : s'.transportCcFeedbackPacket = s.transportCcFeedbackPacket) :
    Tracks first covered current s' := by
  obtain ⟨hreps, hcov, hsome, hfew, hlate⟩ := h
  rw [← hp] at hcov hsome hfew hlate
  rw [← hfb] at hreps
  exact ⟨hreps, hcov, hsome, hfew, hlate⟩

/-- **To send** leaves nothing for the ongoing feedback packet. -/
theorem Tracks.send (h : Tracks first covered current s) :
    ∃ s', s.sendTransportCcFeedback = .ok s' ∧ Tracks first (covered ++ current) [] s' ∧
      s'.maxRtcpPacketLen = s.maxRtcpPacketLen := by
  rw [sendTransportCcFeedback]
  cases hserializable : s.transportCcFeedbackPacket.isSerializable with
  | false =>
    have hds : s.transportCcFeedbackPacket.deltas = [] := by
      rw [LocalPacket.isSerializable, decide_eq_false_iff_not] at hserializable
      exact eq_nil_of_length_eq_zero (by omega)
    have hcur : current = [] := by
      by_contra hne
      exact h.some_delta hne hds
    rw [hcur, append_nil]
    exact ⟨s, rfl, hcur ▸ h, rfl⟩
  | true =>
    obtain ⟨p, ds, hpend, hfin, -, -, -, r, hres, hrep⟩ :=
      h.covers.finish (by decide) (by decide) h.few_deltas
    have hlate : s.transportCcFeedbackPacket.latestTimestamp > 0 := by
      have := h.late
      exact BitVec.lt_def.mpr (by show 0 < _; omega)
    have hfresh : (s.newFeedbackPacket (s.transportCcFeedbackPacketCount + 1)).Fresh :=
      ⟨rfl, rfl, rfl, rfl, rfl, rfl, rfl⟩
    have hbase := LocalPacket.covers_setBase hfresh 65534
      s.transportCcFeedbackPacket.latestSequenceNumber h.late
    have hadd : (s.newFeedbackPacket (s.transportCcFeedbackPacketCount + 1)).addPacket
        s.transportCcFeedbackPacket.latestSequenceNumber s.transportCcFeedbackPacket.latestTimestamp
        s.maxRtcpPacketLen = .ok ((s.newFeedbackPacket (s.transportCcFeedbackPacketCount + 1)).setBase
          s.transportCcFeedbackPacket.latestSequenceNumber
          s.transportCcFeedbackPacket.latestTimestamp, .success) := rfl
    rw [Bool.not_true, if_neg Bool.false_ne_true, LocalPacket.serialize_eq hpend hfin.chunks.writable,
      ok_bind]
    dsimp only
    rw [if_pos hlate, hadd]
    refine ⟨_, rfl, ⟨?_, ?_, fun hne => absurd rfl hne, Nat.zero_le _, ?_⟩, rfl⟩
    · obtain ⟨rs, hresults, hreps⟩ := h.reports
      refine ⟨rs ++ [r], ?_, ?_⟩
      · rw [feedbacks, filterMap_append, map_append]
        exact rel_append hresults (.cons hres .nil)
      · rw [flatten_append, flatten_singleton]
        exact hreps.append hrep
    · rw [← h.latest]
      exact hbase
    · have hlate := h.late
      show 64 ≤ ((s.transportCcFeedbackPacket.latestTimestamp >>> 6) * 64).toNat
      rw [LocalPacket.toNat_baseTime]
      omega

theorem le_sizeWithAnother (p : LocalPacket) : 24 ≤ p.sizeWithAnother := by
  rw [LocalPacket.sizeWithAnother]
  simp only [headersSize]
  omega

variable {a : Arrival} {rep : List (Option (BitVec 64))} {maxLen : ℕ}

theorem Tracks.add (h : Tracks first covered current s) (hfull : s.transportCcFeedbackPacket.isFull = false)
    (hlen : s.maxRtcpPacketLen < 2 ^ 16) (htime : 64 ≤ a.timestamp.toNat) :
    (∃ s', s.addPacket a = .ok (s', .success) ∧ s'.maxRtcpPacketLen = s.maxRtcpPacketLen ∧
      (24 ≤ s.maxRtcpPacketLen ∨ reportOf s.transportCcFeedbackPacket.latestSequenceNumber [a] = []) ∧
      Tracks first covered
        (current ++ reportOf s.transportCcFeedbackPacket.latestSequenceNumber [a]) s') ∨
    s.addPacket a = .ok (s, .fatal) ∨ (s.maxRtcpPacketLen < s.transportCcFeedbackPacket.sizeWithAnother ∧
      s.addPacket a = .ok (s, .maxSizeExceeded)) := by
  have hsame : ∀ r, s.transportCcFeedbackPacket.addPacket a.sequenceNumber a.timestamp
      s.maxRtcpPacketLen = .ok (s.transportCcFeedbackPacket, r) → s.addPacket a = .ok (s, r) := by
    intro r hadd
    rw [addPacket, hadd]
    rfl
  rw [reportOf]
  rcases LocalPacket.addPacket_cases hfull h.covers.based a s.maxRtcpPacketLen with
    ⟨hold, hadd⟩ | ⟨hnewer, hadd | ⟨hsize, hadd⟩ | ⟨hsize, -, delta, hdelta, hadd⟩⟩
  · refine .inl ⟨s, hsame _ hadd, rfl, ?_⟩
    rw [hold, if_neg Bool.false_ne_true, reportOf, append_nil]
    exact ⟨.inr rfl, h⟩
  · exact .inr (.inl (hsame _ hadd))
  · exact .inr (.inr ⟨hsize, hsame _ hadd⟩)
  · have hnonzero : a.timestamp ≠ 0 := by
      intro hzero
      rw [hzero] at htime
      exact absurd htime (by decide)
    have hgap : (a.sequenceNumber -
        (s.transportCcFeedbackPacket.latestSequenceNumber + 1)).toNat -
        s.transportCcFeedbackPacket.room ≤ 65534 := by
      have hroom : 0 < s.transportCcFeedbackPacket.room := by
        rw [LocalPacket.room]
        split_ifs <;> omega
      have := (a.sequenceNumber - (s.transportCcFeedbackPacket.latestSequenceNumber + 1)).isLt
      omega
    have hfew : s.transportCcFeedbackPacket.deltas.length < 65534 := by
      obtain ⟨ds, seed, hbuilt, -, -⟩ := h.covers.spelled
      have hle := hbuilt.length_deltas_le
      rw [LocalPacket.sizeWithAnother] at hsize
      simp only [headersSize] at hsize
      omega
    obtain ⟨hcov, hds⟩ :=
      h.covers.withArrival (by decide) (by decide) h.few_deltas hnonzero hgap hdelta
    refine .inl ⟨{ s with
      transportCcFeedbackPacket := s.transportCcFeedbackPacket.withArrival a delta },
      by rw [addPacket, hadd]; rfl, rfl, .inl ((le_sizeWithAnother _).trans hsize), ?_⟩
    rw [if_pos hnewer, reportOf]
    refine ⟨h.reports, hcov, fun _ => ?_, hds.trans_le hfew, htime⟩
    exact ne_nil_of_length_pos (hds ▸ Nat.succ_pos _)

def Complete (maxRtcpPacketLen : ℕ) (report covered current : List (Option (BitVec 64))) : Prop :=
  (24 ≤ maxRtcpPacketLen ∧ report = covered ++ current) ∨
    (maxRtcpPacketLen < 24 ∧ covered = [] ∧ current = [])

def Fed (first : BitVec 16) (report : List (Option (BitVec 64))) (maxRtcpPacketLen : ℕ)
    (s : TransportCongestionControlServer) : Prop :=
  s.maxRtcpPacketLen = maxRtcpPacketLen ∧ s.transportCcFeedbackPacket.isFull = false ∧
    ∃ covered current, Tracks first covered current s ∧ Complete maxRtcpPacketLen report covered current

theorem Tracks.fed_of_success (h : Tracks first covered current s) (hlen : s.maxRtcpPacketLen = maxLen)
    (hcomp : Complete maxLen rep covered current) : ∃ s', (if s.transportCcFeedbackPacket.isFull then
        do return (← s.sendTransportCcFeedback, AddPacketResult.success)
      else return (s, .success) : Except Fault _) = .ok (s', .success) ∧ Fed first rep maxLen s' := by
  cases hfull : s.transportCcFeedbackPacket.isFull with
  | false => exact ⟨s, rfl, hlen, hfull, covered, current, h, hcomp⟩
  | true =>
    obtain ⟨s', hsend, htr, hlen'⟩ := h.send
    rw [if_pos rfl, hsend]
    refine ⟨s', rfl, hlen'.trans hlen, htr.covers.not_full (by decide), _, _, htr, ?_⟩
    rcases hcomp with ⟨hroom, hrep⟩ | ⟨hroom, hcovered, hcur⟩
    · rw [hrep]
      exact .inl ⟨hroom, (append_nil _).symm⟩
    · rw [hcovered, hcur]
      exact .inr ⟨hroom, rfl, rfl⟩

theorem Complete.append {covered' current' : List (Option (BitVec 64))}
    (h : Complete maxLen rep covered current) (hroom : 24 ≤ maxLen ∨
      reportOf (first + BitVec.ofNat 16 (covered ++ current).length) [a] = []) (hnext : covered' ++ current' =
      covered ++ current ++ reportOf (first + BitVec.ofNat 16 (covered ++ current).length) [a]) :
    Complete maxLen
      (rep ++ reportOf (first + BitVec.ofNat 16 rep.length) [a]) covered' current' := by
  rcases h with ⟨hfits, rfl⟩ | ⟨hlarge, rfl, rfl⟩
  · exact .inl ⟨hfits, hnext.symm⟩
  · obtain hfits | hnone := hroom
    · omega
    · rw [hnone] at hnext
      exact .inr ⟨hlarge, append_eq_nil_iff.mp hnext⟩

/-- **One packet**: the feedback goes on to cover what there is to report, unless `AddPacket` fails
fatally. -/
theorem Fed.feedPacket (h : Fed first rep maxLen s) (hlen : maxLen < 2 ^ 16)
    (htime : 64 ≤ a.timestamp.toNat) : ∃ s' r, s.feedPacket a = .ok (s', r) ∧ (r = .fatal ∨
      Fed first (rep ++ reportOf (first + BitVec.ofNat 16 rep.length) [a])
        maxLen s') := by
  obtain ⟨rfl, hfull, covered, current, htr, hcomp⟩ := h
  have hlatest := htr.latest
  rw [TransportCongestionControlServer.feedPacket]
  rcases htr.add hfull hlen htime with
    ⟨s₁, hadd, hlen₁, hroom, htr₁⟩ | hadd | ⟨-, hadd⟩
  · rw [hlatest] at hroom htr₁
    obtain ⟨s', hfeed, hfed⟩ := htr₁.fed_of_success hlen₁
      (hcomp.append hroom (append_assoc ..).symm)
    rw [hadd, ok_bind]
    exact ⟨s', .success, hfeed, .inr hfed⟩
  · rw [hadd]
    exact ⟨_, _, rfl, .inl rfl⟩
  · -- the feedback is sent, and the packet is given to the next one
    obtain ⟨s₁, hsend, htr₁, hlen₁⟩ := htr.send
    have hfull₁ := htr₁.covers.not_full (by decide)
    have hlatest₁ := htr₁.latest
    rw [append_nil] at hlatest₁
    rw [hadd, ok_bind]
    show ∃ s' r, (s.sendTransportCcFeedback >>= fun s => s.addPacket a) = _ ∧ _
    rw [hsend, ok_bind]
    rcases htr₁.add hfull₁ (hlen₁ ▸ hlen) htime with
      ⟨s₂, hadd₂, hlen₂, hroom, htracks₂⟩ | hadd₂ | ⟨hsize, hadd₂⟩
    · rw [hlatest₁, hlen₁] at hroom
      rw [hlatest₁, nil_append] at htracks₂
      have hshort := length_reportOf_singleton
        (first + BitVec.ofNat 16 (covered ++ current).length) a
      refine ⟨s₂, .success, hadd₂, .inr ⟨hlen₂.trans hlen₁, ?_, _, _, htracks₂, hcomp.append hroom rfl⟩⟩
      exact htracks₂.covers.not_full (by omega)
    · exact ⟨s₁, .fatal, hadd₂, .inl rfl⟩
    · have hsmall : s.maxRtcpPacketLen < 24 := by
        rw [LocalPacket.sizeWithAnother, htr₁.covers.empty, hlen₁] at hsize
        exact hsize
      refine ⟨s₁, .maxSizeExceeded, hadd₂, .inr ⟨hlen₁, hfull₁, _, _, htr₁, ?_⟩⟩
      rcases hcomp with ⟨hfits, -⟩ | ⟨-, rfl, rfl⟩
      · omega
      · exact .inr ⟨hsmall, rfl, rfl⟩

end Tracks

end TransportCongestionControlServer

/-! ## Runs -/

open TransportCongestionControlServer

inductive ServerEvent where
  | incomingPacket (nowMs : BitVec 64) (ssrc : BitVec 32) (wideSeqNumber : Option (BitVec 16))
    (loopMs : BitVec 64)
  | onTimer
  | setMaxIncomingBitrate (bitrate : BitVec 32) (loopMs : BitVec 64)
  | transportConnected
  | transportDisconnected
  deriving DecidableEq, Repr

structure ServerRun where
  server : TransportCongestionControlServer
  arrivals : List Arrival := []
  deriving DecidableEq, Repr

namespace ServerRun

def new (maxRtcpPacketLen : ℕ) : ServerRun where
  server := { maxRtcpPacketLen }

def step (s : ServerRun) : ServerEvent → Except Fault ServerRun
  | .incomingPacket nowMs ssrc wideSeqNumber loopMs => do
    let (server, _) ← s.server.incomingPacket nowMs ssrc wideSeqNumber loopMs
    return { server, arrivals := s.arrivals ++ wideSeqNumber.toList.map fun n => ⟨n, nowMs⟩ }
  | .onTimer => do return { s with server := ← s.server.onTimer }
  | .setMaxIncomingBitrate bitrate loopMs =>
    .ok { s with server := s.server.setMaxIncomingBitrate bitrate loopMs }
  | .transportConnected => .ok s
  | .transportDisconnected => .ok { s with server := s.server.transportDisconnected }

def Regular (s : ServerRun) : ServerEvent → Prop
  | .incomingPacket nowMs ssrc wideSeqNumber loopMs => 64 ≤ nowMs.toNat ∧
    Prod.snd <$> s.server.incomingPacket nowMs ssrc wideSeqNumber loopMs ≠ .ok (some .fatal)
  | .transportDisconnected => False
  | _ => True

instance (s : ServerRun) : (event : ServerEvent) → Decidable (s.Regular event)
  | .incomingPacket .. => inferInstanceAs (Decidable (_ ∧ _))
  | .transportDisconnected => inferInstanceAs (Decidable False)
  | .onTimer | .setMaxIncomingBitrate .. | .transportConnected => inferInstanceAs (Decidable True)

def Sound (maxRtcpPacketLen : ℕ) (s : ServerRun) : Prop :=
  (s.arrivals = [] ∧ s.server.maxRtcpPacketLen = maxRtcpPacketLen ∧
    s.server.transportCcFeedbackPacket.Fresh ∧ s.server.feedbacks = []) ∨
  ∃ first rest, s.arrivals = first :: rest ∧
    Fed first.sequenceNumber (reportOf first.sequenceNumber rest) maxRtcpPacketLen s.server

variable {maxRtcpPacketLen : ℕ} {s : ServerRun}

variable {server : TransportCongestionControlServer}

theorem fed_congr {first : BitVec 16} {r : List (Option (BitVec 64))}
    {server' : TransportCongestionControlServer} (h : Fed first r maxRtcpPacketLen server)
    (hfix : server'.feedbacks = server.feedbacks ∧
      server'.transportCcFeedbackPacket = server.transportCcFeedbackPacket ∧
      server'.maxRtcpPacketLen = server.maxRtcpPacketLen) : Fed first r maxRtcpPacketLen server' := by
  obtain ⟨hlen, hfull, covered, current, htr, hcomp⟩ := h
  refine ⟨hfix.2.2.trans hlen, ?_, covered, current, htr.congr hfix.1 hfix.2.1, hcomp⟩
  rw [hfix.2.1]
  exact hfull

theorem feedPacket_first (hlen : server.maxRtcpPacketLen = maxRtcpPacketLen)
    (hfresh : server.transportCcFeedbackPacket.Fresh) (hnone : server.feedbacks = []) {arrival : Arrival}
    (htime : 64 ≤ arrival.timestamp.toNat) : ∃ server', server.feedPacket arrival = .ok (server', .success) ∧
      Fed arrival.sequenceNumber [] maxRtcpPacketLen server' := by
  have hfull : server.transportCcFeedbackPacket.isFull = false := by
    rw [LocalPacket.isFull, hfresh.count]
    rfl
  have hadd : server.addPacket arrival = .ok ({ server with
      transportCcFeedbackPacket := server.transportCcFeedbackPacket.setBase arrival.sequenceNumber
        arrival.timestamp }, .success) := by
    rw [TransportCongestionControlServer.addPacket, LocalPacket.addPacket, hfull, Bool.not_false,
      msAssert_true, ok_bind, if_pos hfresh.unbased]
    rfl
  have htr : Tracks arrival.sequenceNumber [] [] { server with
      transportCcFeedbackPacket := server.transportCcFeedbackPacket.setBase arrival.sequenceNumber
        arrival.timestamp } := by
    refine ⟨⟨[], ?_, trivial⟩, ?_, fun hne => absurd rfl hne, ?_, ?_⟩
    · show List.Forall₂ _ (server.feedbacks.map _) []
      rw [hnone]
      exact .nil
    · rw [length_nil, BitVec.add_zero]
      exact LocalPacket.covers_setBase hfresh _ _ htime
    · show server.transportCcFeedbackPacket.deltas.length ≤ _
      rw [hfresh.deltas]
      exact Nat.zero_le _
    · show 64 ≤ ((arrival.timestamp >>> 6) * 64).toNat
      rw [LocalPacket.toNat_baseTime]
      omega
  have hcomp : Complete maxRtcpPacketLen [] [] [] := by
    rcases lt_or_ge maxRtcpPacketLen 24 with hsmall | hfits
    · exact .inr ⟨hsmall, rfl, rfl⟩
    · exact .inl ⟨hfits, rfl⟩
  obtain ⟨server', hfeed, hfed⟩ := htr.fed_of_success hlen hcomp
  rw [TransportCongestionControlServer.feedPacket, hadd, ok_bind]
  exact ⟨server', hfeed, hfed⟩

theorem incomingPacket_sound (hlen : maxRtcpPacketLen < 2 ^ 16) (hs : s.Sound maxRtcpPacketLen)
    {arrival : Arrival} (htime : 64 ≤ arrival.timestamp.toNat) (ssrc : BitVec 32) (ms : BitVec 64) :
    ∃ server r, s.server.incomingPacket arrival.timestamp ssrc (some arrival.sequenceNumber) ms =
        .ok (server, some r) ∧
      (r = .fatal ∨ Sound maxRtcpPacketLen { server, arrivals := s.arrivals ++ [arrival] }) := by
  rw [incomingPacket]
  rcases hs with ⟨harrivals, hmax, hfresh, hnone⟩ | ⟨first, rest, harrivals, hfed⟩
  · have hfresh' : (s.server.setSsrcs ssrc).transportCcFeedbackPacket.Fresh :=
      ⟨hfresh.chunks, hfresh.deltas, hfresh.count, hfresh.counted, hfresh.unsized, hfresh.context,
        hfresh.unbased⟩
    have hmax' : (s.server.setSsrcs ssrc).maxRtcpPacketLen = maxRtcpPacketLen := hmax
    obtain ⟨server, hfeed, hfed⟩ := feedPacket_first hmax' hfresh' hnone htime
    rw [hfeed, ok_bind]
    refine ⟨_, .success, rfl, .inr (.inr ⟨arrival, [], ?_, ?_⟩)⟩
    · rw [harrivals]
      rfl
    · exact fed_congr hfed (maySendLimitationRembFeedback_fixed ms server)
  · obtain ⟨hmax, hfull, covered, current, htracks, hcomp⟩ := hfed
    have hfed : Fed first.sequenceNumber (reportOf first.sequenceNumber rest) maxRtcpPacketLen
        (s.server.setSsrcs ssrc) :=
      ⟨hmax, hfull, covered, current, htracks.setSsrcs ssrc, hcomp⟩
    obtain ⟨server, r, hfeed, hres⟩ := hfed.feedPacket hlen htime
    rw [hfeed, ok_bind]
    refine ⟨_, r, rfl, hres.imp_right fun hfed => .inr ⟨first, rest ++ [arrival], ?_, ?_⟩⟩
    · rw [harrivals]
      rfl
    · rw [reportOf_append]
      exact fed_congr hfed (maySendLimitationRembFeedback_fixed ms server)

theorem onTimer_sound (hs : s.Sound maxRtcpPacketLen) :
    ∃ server, s.server.onTimer = .ok server ∧ Sound maxRtcpPacketLen { s with server } := by
  rw [onTimer]
  rcases hs with ⟨harr, hmax, hfresh, hnone⟩ | ⟨first, rest, harr, hfed⟩
  · have hidle : s.server.sendTransportCcFeedback = .ok s.server := by
      rw [sendTransportCcFeedback, LocalPacket.isSerializable, hfresh.deltas]
      rfl
    exact ⟨s.server, hidle, .inl ⟨harr, hmax, hfresh, hnone⟩⟩
  · obtain ⟨hmax, -, covered, current, htr, hcomp⟩ := hfed
    obtain ⟨server, hsend, htr', hmax'⟩ := htr.send
    refine ⟨server, hsend, .inr ⟨first, rest, harr, hmax'.trans hmax,
      htr'.covers.not_full (by decide), _, _, htr', ?_⟩⟩
    rcases hcomp with ⟨hfits, hrep⟩ | ⟨hsmall, rfl, rfl⟩
    · exact .inl ⟨hfits, hrep.trans (append_nil _).symm⟩
    · exact .inr ⟨hsmall, rfl, rfl⟩

theorem setMaxIncomingBitrate_fixed (rate : BitVec 32) (ms : BitVec 64)
    (server : TransportCongestionControlServer) :
    (server.setMaxIncomingBitrate rate ms).feedbacks = server.feedbacks ∧
    (server.setMaxIncomingBitrate rate ms).transportCcFeedbackPacket = server.transportCcFeedbackPacket ∧
    (server.setMaxIncomingBitrate rate ms).maxRtcpPacketLen = server.maxRtcpPacketLen := by
  rw [setMaxIncomingBitrate]
  split_ifs
  · exact maySendLimitationRembFeedback_fixed ms _
  · exact ⟨rfl, rfl, rfl⟩

/-- **One event** does not fail, and the server has been told of the packets that have arrived. -/
theorem step_sound (hlen : maxRtcpPacketLen < 2 ^ 16) (hs : s.Sound maxRtcpPacketLen) (e : ServerEvent)
    (hreg : s.Regular e) : Meets (Sound maxRtcpPacketLen) (fun _ => False) (s.step e) := by
  cases e with
  | incomingPacket now ssrc wide ms =>
    cases wide with
    | none =>
      show Sound _ { s with arrivals := s.arrivals ++ [] }
      rw [append_nil]
      exact hs
    | some seq =>
      have htime : 64 ≤ (Arrival.mk seq now).timestamp.toNat := hreg.1
      obtain ⟨server, r, hincoming, hres⟩ := incomingPacket_sound hlen hs htime ssrc ms
      rw [step, hincoming]
      rcases hres with rfl | hsnd
      · exact absurd (by rw [hincoming]; rfl) hreg.2
      · exact hsnd
  | onTimer =>
    obtain ⟨server, hsend, hsnd⟩ := onTimer_sound hs
    rw [step, hsend]
    exact hsnd
  | setMaxIncomingBitrate rate ms =>
    have hfix := setMaxIncomingBitrate_fixed rate ms s.server
    rcases hs with ⟨harr, hmax, hfresh, hnone⟩ | ⟨first, rest, harr, hfed⟩
    · refine .inl ⟨harr, hfix.2.2.trans hmax, ?_, hfix.1.trans hnone⟩
      rw [hfix.2.1]
      exact hfresh
    · exact .inr ⟨first, rest, harr, fed_congr hfed hfix⟩
  | transportConnected => exact hs
  | transportDisconnected => exact hreg.elim

def timedPackets : List ServerEvent :=
  [.incomingPacket 100 7 (some 65534) 100, .incomingPacket 120 7 (some 65535) 120, .onTimer,
    .incomingPacket 200 7 (some 2) 200, .incomingPacket 210 7 (some 1) 210,
    .incomingPacket 220 7 none 220, .setMaxIncomingBitrate 100000 230, .onTimer,
    .incomingPacket 300 7 (some 3) 300]

end ServerRun

/-! ## The feedback packet count -/

namespace TransportCongestionControlServer

structure Counted (s : TransportCongestionControlServer) : Prop where
  sent : s.feedbacks.map (·.feedbackPacketCount) = (List.range s.feedbacks.length).map (BitVec.ofNat 8)
  count : s.transportCcFeedbackPacketCount = BitVec.ofNat 8 s.feedbacks.length
  ongoing : s.transportCcFeedbackPacket.feedbackPacketCount = s.transportCcFeedbackPacketCount

variable {s s' : TransportCongestionControlServer}

theorem addPacket_feedbackPacketCount {p q : LocalPacket} {a : Arrival} {maxRtcpPacketLen : ℕ}
    {r : AddPacketResult} (h : p.addPacket a.sequenceNumber a.timestamp maxRtcpPacketLen = .ok (q, r)) :
    q.feedbackPacketCount = p.feedbackPacketCount := by
  rcases LocalPacket.addPacket_eq_ok h with ⟨-, rfl⟩ | rfl | ⟨-, -, d, rfl⟩
  · rfl
  · rfl
  · have hfix := LocalPacket.fixed_fillChunk p.latestSequenceNumber a.sequenceNumber d p
    exact (congrArg (fun fixed => fixed.2.2.1) hfix :)

theorem Counted.congr (h : s.Counted) (hfb : s'.feedbacks = s.feedbacks)
    (hn : s'.transportCcFeedbackPacketCount = s.transportCcFeedbackPacketCount)
    (hon : s'.transportCcFeedbackPacket.feedbackPacketCount =
      s.transportCcFeedbackPacketCount) : s'.Counted := by
  refine ⟨?_, ?_, hon.trans hn.symm⟩
  · rw [hfb]
    exact h.sent
  · rw [hfb, hn]
    exact h.count

theorem Counted.maySend (h : s.Counted) (ms : BitVec 64) : (s.maySendLimitationRembFeedback ms).Counted := by
  have hfix := maySendLimitationRembFeedback_fixed ms s
  refine h.congr hfix.1 ?_ ?_
  · rw [maySendLimitationRembFeedback]
    split_ifs <;> rfl
  · rw [hfix.2.1]
    exact h.ongoing

theorem Counted.addPacket (h : s.Counted) (arrival : Arrival) :
    Meets (fun r => Counted r.1) (fun _ => True) (s.addPacket arrival) := by
  refine Meets.of_ok fun r hr => ?_
  obtain ⟨⟨p, res⟩, hadd, hr⟩ := bind_eq_ok.mp hr
  cases hr
  exact h.congr rfl rfl ((addPacket_feedbackPacketCount hadd).trans h.ongoing)

theorem serialize_feedbackPacketCount {p q : LocalPacket} {bs : List Byte} (h : p.serialize = .ok (q, bs)) :
    q.feedbackPacketCount = p.feedbackPacketCount := by
  obtain ⟨q', hpend, h⟩ := bind_eq_ok.mp h
  obtain ⟨cs, -, h⟩ := bind_eq_ok.mp h
  cases h
  rw [LocalPacket.addPendingChunks] at hpend
  split_ifs at hpend
  · cases hpend
    rfl
  · cases hpend
    rfl
  · obtain ⟨_, -, hpend⟩ := bind_eq_ok.mp hpend
    cases hpend
    rfl

theorem Counted.send (h : s.Counted) : Meets Counted (fun _ => True) s.sendTransportCcFeedback := by
  refine Meets.of_ok fun s' hs' => ?_
  rw [sendTransportCcFeedback] at hs'
  split_ifs at hs'
  · cases hs'
    exact h
  · obtain ⟨⟨p, bs⟩, hser, hs'⟩ := bind_eq_ok.mp hs'
    have hsent (next : LocalPacket)
        (hnext : next.feedbackPacketCount = s.transportCcFeedbackPacketCount + 1) :
        Counted { s with
          transportCcFeedbackPacket := next
          transportCcFeedbackPacketCount := s.transportCcFeedbackPacketCount + 1
          sent := s.sent ++ [.transportCc p] } := by
      have hfb : feedbacks { s with
          transportCcFeedbackPacket := next
          transportCcFeedbackPacketCount := s.transportCcFeedbackPacketCount + 1
          sent := s.sent ++ [.transportCc p] } = s.feedbacks ++ [p] := filterMap_append
      refine ⟨?_, ?_, hnext⟩
      · rw [hfb, map_append, h.sent, length_append, length_singleton,
          range_succ, map_append, map_singleton, map_singleton,
          serialize_feedbackPacketCount hser, h.ongoing, h.count]
      · rw [hfb, length_append, length_singleton, BitVec.ofNat_add, ← h.count]
        rfl
    dsimp only at hs'
    split_ifs at hs'
    · obtain ⟨⟨next, r⟩, hadd, hs'⟩ := bind_eq_ok.mp hs'
      cases hs'
      exact hsent next (addPacket_feedbackPacketCount (a := ⟨_, _⟩) hadd)
    · cases hs'
      exact hsent _ rfl

theorem Counted.incomingPacket (h : s.Counted) (now : BitVec 64) (ssrc : BitVec 32)
    (wide : Option (BitVec 16)) (ms : BitVec 64) : Meets (fun r => Counted r.1) (fun _ => True)
      (s.incomingPacket now ssrc wide ms) := by
  cases wide with
  | none => exact h
  | some seq =>
    have hssrcs : (s.setSsrcs ssrc).Counted := h.congr rfl rfl h.ongoing
    have hfed : Meets (fun r => Counted r.1) (fun _ => True)
        ((s.setSsrcs ssrc).feedPacket ⟨seq, now⟩) := by
      refine (hssrcs.addPacket _).bind fun r hr => ?_
      obtain ⟨t, res⟩ := r
      cases res with
      | success =>
        dsimp only
        split_ifs
        · exact Meets.bind hr.send fun _ => id
        · exact hr
      | maxSizeExceeded => exact Meets.bind hr.send fun t ht => ht.addPacket _
      | fatal => exact hr.congr rfl rfl rfl
    exact hfed.bind fun r hr => hr.maySend ms

end TransportCongestionControlServer

namespace ServerRun

def KeepsCount (s : ServerRun) (event : ServerEvent) : Prop :=
  event = .transportDisconnected → s.server.transportCcFeedbackPacketCount = 0

instance (s : ServerRun) (event : ServerEvent) : Decidable (s.KeepsCount event) :=
  inferInstanceAs (Decidable (_ → _))

theorem step_counted {s : ServerRun} (h : s.server.Counted) (e : ServerEvent) (hkeeps : s.KeepsCount e) :
    Meets (fun s => Counted s.server) (fun _ => True) (s.step e) := by
  cases e with
  | incomingPacket now ssrc wide ms =>
    exact (h.incomingPacket now ssrc wide ms).bind fun _ hr => hr
  | onTimer => exact h.send.bind fun _ hs => hs
  | setMaxIncomingBitrate rate ms =>
    show (s.server.setMaxIncomingBitrate rate ms).Counted
    rw [setMaxIncomingBitrate]
    split_ifs
    · refine Counted.maySend ?_ ms
      exact h.congr rfl rfl h.ongoing
    · exact h.congr rfl rfl h.ongoing
  | transportConnected => exact h
  | transportDisconnected =>
    show s.server.transportDisconnected.Counted
    exact h.congr rfl rfl (hkeeps rfl).symm

/-- **The feedback packet counts are consecutive**, if the transport is only disconnected while the count
is 0. -/
theorem feedback_counts_consecutive {maxRtcpPacketLen : ℕ} {events : List ServerEvent} {s : ServerRun}
    (hkeeps : RunMeets step KeepsCount (new maxRtcpPacketLen) events)
    (hrun : run step (new maxRtcpPacketLen) events = .ok s) :
    List.IsChain (fun count next => next = count + 1)
      (s.server.feedbacks.map (·.feedbackPacketCount)) := by
  have hmeets := run_meets_of_inv (I := fun s => Counted s.server) (Q := fun _ => True)
    (fun s event h hkeeps => step_counted h event hkeeps) ⟨rfl, rfl, rfl⟩ hkeeps
  rw [hrun] at hmeets
  rw [hmeets.sent, List.isChain_iff_getElem]
  intro i hi
  simp [BitVec.ofNat_add]

def reconnected : List ServerEvent :=
  [.transportDisconnected, .transportConnected, .incomingPacket 100 7 (some 65534) 100,
    .incomingPacket 120 7 (some 65535) 120, .onTimer, .incomingPacket 20000 7 (some 2) 20000,
    .incomingPacket 20010 7 (some 3) 20010, .incomingPacket 20020 7 (some 4) 20020, .onTimer]

theorem feedback_counts_consecutive_reconnected :
    RunMeets step KeepsCount (new 1500) reconnected ∧
    ∃ s, run step (new 1500) reconnected = .ok s ∧ s.server.feedbacks.length = 2 ∧
      List.IsChain (fun count next => next = count + 1)
        (s.server.feedbacks.map (·.feedbackPacketCount)) := by
  have hkeeps : RunMeets step KeepsCount (new 1500) reconnected := by decide +kernel
  have hlength : (run step (new 1500) reconnected).toOption.map (·.server.feedbacks.length) = some 2 := by
    decide +kernel
  cases hrun : run step (new 1500) reconnected with
  | error fault =>
    rw [hrun] at hlength
    cases hlength
  | ok s =>
    rw [hrun] at hlength
    exact ⟨hkeeps, s, rfl, Option.some.inj hlength, feedback_counts_consecutive hkeeps hrun⟩

def disconnectedLater : List ServerEvent :=
  [.incomingPacket 100 7 (some 1) 100, .incomingPacket 110 7 (some 2) 110, .onTimer,
    .incomingPacket 120 7 (some 3) 120, .onTimer, .transportDisconnected, .transportConnected,
    .incomingPacket 200 7 (some 4) 200, .incomingPacket 210 7 (some 5) 210, .onTimer,
    .incomingPacket 220 7 (some 6) 220, .onTimer]

/-- **After a disconnection** the first feedback packet has the count 0, and the next one goes on where the
count was. -/
theorem feedback_counts_disconnectedLater :
    (run step (new 1500) disconnectedLater).toOption.map
      (fun s => s.server.feedbacks.map (·.feedbackPacketCount)) = some [0, 1, 0, 3] := by
  decide +kernel

end ServerRun

end MediasoupWorker.RTC
