import MediasoupWorker.RTC.NackGenerator
import MediasoupWorker.RTC.Producer
import MediasoupWorker.RTC.RTCP.FeedbackRtpNack
import MediasoupWorker.RTC.RtxStream

/-!
# `RtpStreamRecv`: a received stream

`src/src/RTC/RtpStreamRecv.cpp`. The record `RtpStreamRecv` has the parameters of a stream,
`RtpStreamRecv.State` the members that change. The score is computed with `float`s from the integers of
`scoreInput`, and nothing here reads it.
-/

namespace MediasoupWorker.RTC.RtpStreamRecv

open Library
open NackGenerator (Trees)
open RTCP (FeedbackRtpNackItem ReceiverReport ReportState)

def bufferSize : ℕ := 65536

inductive RtcpPacket where
  | nack (senderSsrc mediaSsrc : ℕ) (items : List FeedbackRtpNackItem)
  | pli (senderSsrc mediaSsrc : ℕ)
  | fir (senderSsrc mediaSsrc : ℕ) (ssrc : ℕ) (sequenceNumber : BitVec 8)
  deriving DecidableEq, Repr

structure State where
  params : RtpStreamRecv
  stream : RtpStream := {}
  report : ReportState := {}
  lastSenderReport : LastSenderReport := {}
  packetsRetransmitted : ℕ := 0
  packetsRepaired : ℕ := 0
  nackCount : ℕ := 0
  nackPacketCount : ℕ := 0
  pliCount : ℕ := 0
  firCount : ℕ := 0
  firSeqNumber : BitVec 8 := 0
  expectedPriorScore : BitVec 32 := 0
  receivedPriorScore : BitVec 32 := 0
  repairedPriorScore : ℕ := 0
  retransmittedPriorScore : ℕ := 0
  transit : BitVec 32 := 0
  jitter : BitVec 32 := 0
  inactive : Bool := false
  mediaPacketCount : ℕ := 0
  nackGenerator : NackGenerator := {}
  rtxStream : Option RtxStream := none
  deriving DecidableEq, Repr

namespace State

def setRtx (payloadType ssrc : ℕ) (s : State) : State :=
  { s with
    params := { s.params with rtxPayloadType := payloadType, rtxSsrc := ssrc, hasRtx := true }
    rtxStream := some { ssrc } }

def hasRtx (s : State) : Bool := s.rtxStream.isSome

/-! ## Asking for packets and key frames -/

def onNackGeneratorNackRequired (seqNumbers : List (BitVec 16)) (s : State) :
    Except Fault (State × List RtcpPacket) := do
  msAssert s.params.useNack "NACK required but not supported"
  let items := RTCP.nackItems seqNumbers
  let numPacketsRequested := (items.map FeedbackRtpNackItem.countRequestedPackets).sum
  -- the headers of the packet, and four bytes for each item
  if 12 + 4 * items.length > bufferSize then return (s, [])
  else
    return ({ s with
      nackCount := s.nackCount + 1
      nackPacketCount := s.nackPacketCount + numPacketsRequested }, [.nack 0 s.params.ssrc items])

def requestKeyFrame (s : State) : State × List RtcpPacket :=
  if s.params.usePli then
    ({ s with pliCount := s.pliCount + 1 }, [.pli s.params.ssrc s.params.ssrc])
  else if s.params.useFir then
    let firSeqNumber := s.firSeqNumber + 1
    ({ s with firSeqNumber, firCount := s.firCount + 1 },
      [.fir s.params.ssrc s.params.ssrc s.params.ssrc firSeqNumber])
  else (s, [])

def onNackGenerator (s : State) : List NackGenerator.Output → Except Fault (State × List RtcpPacket)
  | [] => .ok (s, [])
  | .nackRequired seqNumbers :: outputs => do
    let (s, packets) ← s.onNackGeneratorNackRequired seqNumbers
    let (s, packets') ← s.onNackGenerator outputs
    return (s, packets ++ packets')
  | .keyFrameRequired :: outputs => do
    let (s, packets) := s.requestKeyFrame
    let (s, packets') ← s.onNackGenerator outputs
    return (s, packets ++ packets')

def nackGeneratorReceivePacket (trees : Trees) (nowMs : BitVec 64) (seq : BitVec 16)
    (isKeyFrame isRecovered : Bool) (s : State) : Except Fault (State × List RtcpPacket × Bool) := do
  let (nackGenerator, outputs, nacked) ← s.nackGenerator.receivePacket trees nowMs seq isKeyFrame isRecovered
  let (s, packets) ← { s with nackGenerator }.onNackGenerator outputs
  return (s, packets, nacked)

/-! ## Receiving packets -/

def calculateJitter (nowMs : BitVec 64) (rtpTimestamp : BitVec 32) (s : State) : State :=
  if s.params.clockRate = 0 then s
  else
    let transit :=
      nowMs.setWidth 32 - rtpTimestamp * 1000 / BitVec.ofNat 32 s.params.clockRate
    let d := transit - s.transit
    if s.transit = 0 then { s with transit }
    else
      let d := if d.toInt < 0 then -d else d
      { s with
        transit, jitter := BitVec.ofInt 32 ((15 * (s.jitter.toNat : ℤ) + d.toInt).tdiv 16) }

def isKeyFrame (s : State) (packet : MediaPacket) (keyFrame : Bool) : Bool :=
  packet.payloadType == s.params.payloadType && keyFrame

def passToNackGenerator (trees : Trees) (nowMs : BitVec 64) (seq : BitVec 16) (isKeyFrame : Bool)
    (s : State) : Except Fault (State × List RtcpPacket) :=
  if s.params.useNack then do
    let (s, packets, nacked) ← s.nackGeneratorReceivePacket trees nowMs seq isKeyFrame false
    if !s.hasRtx && nacked then
      return ({ s with
        packetsRetransmitted := s.packetsRetransmitted + 1
        packetsRepaired := s.packetsRepaired + 1 }, packets)
    else return (s, packets)
  else .ok (s, [])

def receivePacket (trees : Trees) (nowMs : BitVec 64) (packet : MediaPacket) (keyFrame : Bool)
    (s : State) : Except Fault (State × List RtcpPacket × Bool) :=
  match s.stream.receivePacket nowMs.toNat packet.sequenceNumber packet.timestamp with
  | (stream, false) => .ok ({ s with stream }, [], false)
  | (stream, true) => do
    let (s, packets) ← { s with stream }.passToNackGenerator trees nowMs packet.sequenceNumber
      (s.isKeyFrame packet keyFrame)
    let s := s.calculateJitter nowMs packet.timestamp
    return ({ s with mediaPacketCount := s.mediaPacketCount + 1, inactive := false }, packets, true)

def rtxStreamReceivePacket (nowMs : BitVec 64) (packet : MediaPacket) (s : State) : State × Bool :=
  match s.rtxStream with
  | none => (s, true)
  | some rtxStream =>
    let (rtxStream, valid) :=
      rtxStream.receivePacket nowMs.toNat packet.sequenceNumber packet.timestamp
    ({ s with rtxStream := some rtxStream }, valid)

def receiveOriginalPacket (trees : Trees) (nowMs : BitVec 64) (packet : MediaPacket)
    (keyFrame : Bool) (s : State) : Except Fault (State × List RtcpPacket × Bool) :=
  match s.stream.updateSeq nowMs.toNat packet.sequenceNumber packet.timestamp with
  | (stream, false) => .ok ({ s with stream }, [], false)
  | (stream, true) => do
    let s := { s with stream, packetsRetransmitted := s.packetsRetransmitted + 1 }
    let (s, packets, nacked) ← s.nackGeneratorReceivePacket trees nowMs packet.sequenceNumber
      (s.isKeyFrame packet keyFrame) true
    if nacked then
      return ({ s with packetsRepaired := s.packetsRepaired + 1, inactive := false }, packets, true)
    else return (s, packets, false)

def receiveRtxPacket (trees : Trees) (nowMs : BitVec 64) (packet : MediaPacket) (keyFrame : Bool)
    (s : State) : Except Fault (State × List RtcpPacket × Bool) :=
  if !s.params.useNack then .ok (s, [], false)
  else do
    msAssert (packet.ssrc == s.params.rtxSsrc) "invalid ssrc on RTX packet"
    if packet.payloadType ≠ s.params.rtxPayloadType then return (s, [], false)
    else
      let (s, valid) := s.rtxStreamReceivePacket nowMs packet
      if !valid then return (s, [], false)
      else
        match packet.rtxDecode s.params.payloadType s.params.ssrc with
        | none => return (s, [], false)
        | some packet => s.receiveOriginalPacket trees nowMs packet keyFrame

/-! ## Reports -/

def worstRemoteFractionLost (s : State) (remote : BitVec 8) : BitVec 8 :=
  if s.params.useInBandFec then remote else 0

def getRtcpReceiverReport (nowMs : BitVec 64) (remote : BitVec 8) (s : State) :
    State × ReceiverReport :=
  let worst := s.worstRemoteFractionLost remote
  let expected := s.stream.getExpectedPackets
  let counted := s.report.count expected s.mediaPacketCount
  let (reportedPacketLost, fractionLost) :=
    if worst ≤ counted.fractionLost then
      (counted.reportedPacketLost + (counted.packetsLost - s.report.packetsLost), counted.fractionLost)
    else
      let newLostInterval := (worst.setWidth 32 * (expected - s.report.expectedPrior)) >>> 8
      (counted.reportedPacketLost + newLostInterval, worst)
  let report := { counted with reportedPacketLost }
  ({ s with report },
    { ssrc := BitVec.ofNat 32 s.params.ssrc
      totalLost := RTCP.totalLostField reportedPacketLost
      fractionLost
      lastSeq := s.stream.maxSeq.setWidth 32 + s.stream.cycles
      jitter := s.jitter
      dlsr := report.delaySinceLastSenderReport nowMs
      lsr := report.lastSenderReport })

def getRtxRtcpReceiverReport (nowMs : BitVec 64) (s : State) : State × Option ReceiverReport :=
  match s.rtxStream with
  | none => (s, none)
  | some rtxStream =>
    let (rtxStream, report) := rtxStream.getRtcpReceiverReport nowMs
    ({ s with rtxStream := some rtxStream }, some report)

structure ScoreInput where
  received : BitVec 32
  lost : BitVec 32
  repaired : BitVec 32
  retransmitted : BitVec 32
  deriving DecidableEq, Repr

def scoreInput (s : State) : State × Option ScoreInput :=
  let totalExpected := s.stream.getExpectedPackets
  let expected := totalExpected - s.expectedPriorScore
  let totalReceived := BitVec.ofNat 32 s.mediaPacketCount
  let received := totalReceived - s.receivedPriorScore
  let lost := if expected < received then 0 else expected - received
  let repaired := BitVec.ofNat 32 s.packetsRepaired - BitVec.ofNat 32 s.repairedPriorScore
  let retransmitted :=
    BitVec.ofNat 32 s.packetsRetransmitted - BitVec.ofNat 32 s.retransmittedPriorScore
  let s' := { s with
    expectedPriorScore := totalExpected
    receivedPriorScore := totalReceived
    repairedPriorScore := s.packetsRepaired
    retransmittedPriorScore := s.packetsRetransmitted }
  if s.inactive then (s', none)
  else if expected = 0 then (s', none)
  else
    let lost := if lost > received then received else lost
    if repaired > lost then
      -- with RTX, `retransmitted -= repaired - lost` comes after `repaired = lost`
      if s.hasRtx then (s', some { received, lost, repaired := lost, retransmitted })
      else (s', some { received, lost := repaired, repaired, retransmitted })
    else (s', some { received, lost, repaired, retransmitted })

def updateScore (s : State) : Except Fault State := do
  let (s, input) := s.scoreInput
  match input with
  | none => return s
  | some input =>
    msAssert (decide (input.repaired ≤ input.retransmitted))
      "repaired packets cannot be more than retransmitted ones"
    return s

def receiveRtcpSenderReport (nowMs : BitVec 64) (report : SenderReport) (s : State) :
    Except Fault State :=
  { s with
    report := s.report.receiveSenderReport nowMs report.ntp.seconds report.ntp.fractions
    lastSenderReport := report.last }.updateScore

def receiveRtxRtcpSenderReport (nowMs : BitVec 64) (report : SenderReport) (s : State) : State :=
  { s with rtxStream := s.rtxStream.map (RtxStream.receiveRtcpSenderReport nowMs report) }

def updateRtt (rtt : BitVec 32) (s : State) : State :=
  if s.params.useNack then { s with nackGenerator := s.nackGenerator.updateRtt rtt } else s

def pause (s : State) : State :=
  let nackGenerator := if s.params.useNack then s.nackGenerator.reset else s.nackGenerator
  { s with nackGenerator, transit := 0, jitter := 0 }

/-! ## Events -/

inductive Event where
  | receivePacket (trees : Trees) (nowMs : BitVec 64) (packet : MediaPacket) (keyFrame : Bool)
  | receiveRtxPacket (trees : Trees) (nowMs : BitVec 64) (packet : MediaPacket) (keyFrame : Bool)
  | receiverReport (nowMs : BitVec 64) (remote : BitVec 8)
  | rtxReceiverReport (nowMs : BitVec 64)
  | senderReport (nowMs : BitVec 64) (report : SenderReport)
  | rtxSenderReport (nowMs : BitVec 64) (report : SenderReport)
  | updateRtt (rtt : BitVec 32)
  | requestKeyFrame
  | setRtx (payloadType ssrc : ℕ)
  | pause
  | nackTimer (nowMs : BitVec 64)
  | inactivityTimer

def step (s : State) : Event → Except Fault (State × List RtcpPacket × Bool)
  | .receivePacket trees nowMs packet keyFrame => s.receivePacket trees nowMs packet keyFrame
  | .receiveRtxPacket trees nowMs packet keyFrame => s.receiveRtxPacket trees nowMs packet keyFrame
  | .receiverReport nowMs remote => .ok ((s.getRtcpReceiverReport nowMs remote).1, [], false)
  | .rtxReceiverReport nowMs => .ok ((s.getRtxRtcpReceiverReport nowMs).1, [], false)
  | .senderReport nowMs report => do
    let s ← s.receiveRtcpSenderReport nowMs report
    return (s, [], false)
  | .rtxSenderReport nowMs report => .ok (s.receiveRtxRtcpSenderReport nowMs report, [], false)
  | .updateRtt rtt => .ok (s.updateRtt rtt, [], false)
  | .requestKeyFrame => .ok (s.requestKeyFrame.1, s.requestKeyFrame.2, false)
  | .setRtx payloadType ssrc => .ok (s.setRtx payloadType ssrc, [], false)
  | .pause => .ok (s.pause, [], false)
  | .nackTimer nowMs =>
    if s.params.useNack && s.nackGenerator.timerActive then do
      let (nackGenerator, outputs) := s.nackGenerator.onTimer nowMs
      let (s, packets) ← { s with nackGenerator }.onNackGenerator outputs
      return (s, packets, false)
    else .ok (s, [], false)
  | .inactivityTimer => .ok ({ s with inactive := true }, [], false)

def next (s : State) (event : Event) : Except Fault State := Prod.fst <$> s.step event

/-! ## What the functions leave as it is -/

def settled (s : State) : State :=
  { s with
    nackCount := 0, nackPacketCount := 0, pliCount := 0, firCount := 0, firSeqNumber := 0
    transit := 0, jitter := 0, nackGenerator := {} }

section

variable {trees : Trees} {now : BitVec 64} {seq : BitVec 16} {p : MediaPacket}
  {key recov nacked ret : Bool} {outputs : List NackGenerator.Output} {s s' : State}
  {ps : List RtcpPacket}

theorem onNackGeneratorNackRequired_settled {seqs : List (BitVec 16)}
    (hrun : s.onNackGeneratorNackRequired seqs = .ok (s', ps)) :
    s'.settled = s.settled ∧ s'.nackGenerator = s.nackGenerator := by
  obtain ⟨-, -, hrun⟩ := bind_eq_ok.mp hrun
  dsimp only at hrun
  split_ifs at hrun
  all_goals
    cases hrun
    exact ⟨rfl, rfl⟩

theorem requestKeyFrame_settled (s : State) :
    s.requestKeyFrame.1.settled = s.settled ∧ s.requestKeyFrame.1.nackGenerator = s.nackGenerator := by
  rw [requestKeyFrame]
  split_ifs <;> exact ⟨rfl, rfl⟩

theorem onNackGenerator_settled (hrun : s.onNackGenerator outputs = .ok (s', ps)) :
    s'.settled = s.settled ∧ s'.nackGenerator = s.nackGenerator := by
  induction outputs generalizing s ps with
  | nil =>
    cases hrun
    exact ⟨rfl, rfl⟩
  | cons out outputs ih =>
    cases out with
    | nackRequired seqs =>
      obtain ⟨⟨s₁, ps₁⟩, hfirst, hrun⟩ := bind_eq_ok.mp hrun
      obtain ⟨⟨s₂, ps₂⟩, hrest, hrun⟩ := bind_eq_ok.mp hrun
      cases hrun
      obtain ⟨hset, hsame⟩ := onNackGeneratorNackRequired_settled hfirst
      exact ⟨(ih hrest).1.trans hset, (ih hrest).2.trans hsame⟩
    | keyFrameRequired =>
      obtain ⟨⟨s₂, ps₂⟩, hrest, hrun⟩ := bind_eq_ok.mp hrun
      cases hrun
      obtain ⟨hset, hsame⟩ := requestKeyFrame_settled s
      exact ⟨(ih hrest).1.trans hset, (ih hrest).2.trans hsame⟩

theorem onNackGenerator_ok (outputs : List NackGenerator.Output) (huse : s.params.useNack = true) :
    ∃ result, s.onNackGenerator outputs = .ok result := by
  induction outputs generalizing s with
  | nil => exact ⟨_, rfl⟩
  | cons out outputs ih =>
    cases out with
    | nackRequired seqs =>
      have hfirst : ∃ result, s.onNackGeneratorNackRequired seqs = .ok result := by
        rw [onNackGeneratorNackRequired, huse, msAssert_true, ok_bind]
        dsimp only
        split_ifs <;> exact ⟨_, rfl⟩
      obtain ⟨⟨s₁, pkts₁⟩, hfirst⟩ := hfirst
      have hps : s₁.params = s.params :=
        (congrArg State.params (onNackGeneratorNackRequired_settled hfirst).1 :)
      obtain ⟨⟨s₂, pkts₂⟩, hrest⟩ := ih (s := s₁) (by rw [hps, huse])
      rw [onNackGenerator, hfirst, ok_bind]
      dsimp only
      rw [hrest]
      exact ⟨_, rfl⟩
    | keyFrameRequired =>
      have hps : s.requestKeyFrame.1.params = s.params :=
        (congrArg State.params (requestKeyFrame_settled s).1 :)
      obtain ⟨⟨s₂, pkts₂⟩, hrest⟩ := ih (s := s.requestKeyFrame.1) (by rw [hps, huse])
      rw [onNackGenerator]
      dsimp only
      rw [hrest]
      exact ⟨_, rfl⟩

theorem nackGeneratorReceivePacket_settled
    (hrun : s.nackGeneratorReceivePacket trees now seq key recov =
      .ok (s', ps, nacked)) : s'.settled = s.settled := by
  obtain ⟨⟨g, outputs, nacked'⟩, -, hrun⟩ := bind_eq_ok.mp hrun
  obtain ⟨⟨s₁, ps₁⟩, hcalls, hrun⟩ := bind_eq_ok.mp hrun
  cases hrun
  exact (onNackGenerator_settled hcalls).1

theorem passToNackGenerator_ok (trees : Trees) (now : BitVec 64) (seq : BitVec 16) (isKeyFrame : Bool)
    (hinv : s.nackGenerator.Inv) :
    ∃ s' ps, s.passToNackGenerator trees now seq isKeyFrame = .ok (s', ps) ∧ s'.nackGenerator.Inv := by
  rw [passToNackGenerator]
  split_ifs with huse
  · obtain ⟨generator, outputs, nacked, hrun, hinv'⟩ :=
      NackGenerator.receivePacket_inv trees now seq isKeyFrame false hinv
    obtain ⟨⟨s', ps⟩, hcalls⟩ :=
      onNackGenerator_ok (s := { s with nackGenerator := generator }) outputs huse
    have hsame : s'.nackGenerator = generator := (onNackGenerator_settled hcalls).2
    rw [nackGeneratorReceivePacket, hrun, ok_bind]
    dsimp only
    rw [hcalls, ok_bind, pure_bind]
    dsimp only
    rw [← hsame] at hinv'
    split_ifs <;> exact ⟨_, _, rfl, hinv'⟩
  · exact ⟨s, [], rfl, hinv⟩

theorem passToNackGenerator_settled
    (hrun : s.passToNackGenerator trees now seq key = .ok (s', ps)) : ∃ n ≤ 1, s'.settled = { s.settled with
      packetsRetransmitted := s.packetsRetransmitted + n
      packetsRepaired := s.packetsRepaired + n } := by
  rw [passToNackGenerator] at hrun
  split_ifs at hrun
  · obtain ⟨⟨s₁, ps₁, nacked⟩, hpass, hrun⟩ := bind_eq_ok.mp hrun
    have hsame := nackGeneratorReceivePacket_settled hpass
    dsimp only at hrun
    split_ifs at hrun
    · cases hrun
      refine ⟨1, Nat.le_refl 1, ?_⟩
      exact congrArg (fun t : State => { t with
        packetsRetransmitted := t.packetsRetransmitted + 1
        packetsRepaired := t.packetsRepaired + 1 }) hsame
    · cases hrun
      exact ⟨0, Nat.zero_le 1, hsame⟩
  · cases hrun
    exact ⟨0, Nat.zero_le 1, rfl⟩

theorem calculateJitter_settled (now : BitVec 64) (ts : BitVec 32) (s : State) :
    (s.calculateJitter now ts).settled = s.settled ∧
      (s.calculateJitter now ts).nackGenerator = s.nackGenerator := by
  rw [calculateJitter]
  dsimp only
  split_ifs <;> exact ⟨rfl, rfl⟩

/-- **A media packet** counts if it is accepted. -/
theorem receivePacket_settled (hrun : s.receivePacket trees now p key = .ok (s', ps, ret)) :
    ∃ n ≤ 1, s'.settled = { s.settled with
      stream := (s.stream.receivePacket now.toNat p.sequenceNumber p.timestamp).1
      mediaPacketCount := s.mediaPacketCount + ret.toNat
      packetsRetransmitted := s.packetsRetransmitted + n
      packetsRepaired := s.packetsRepaired + n
      inactive := !ret && s.inactive } ∧ (ret = false → n = 0) := by
  rw [receivePacket] at hrun
  split at hrun
  · next st hs =>
    cases hrun
    rw [hs]
    exact ⟨0, Nat.zero_le 1, rfl, fun _ => rfl⟩
  · next st hs =>
    obtain ⟨⟨s₁, ps₁⟩, hpass, hrun⟩ := bind_eq_ok.mp hrun
    obtain ⟨n, hn, hsame⟩ := passToNackGenerator_settled hpass
    have hjitter := (calculateJitter_settled now p.timestamp s₁).1.trans hsame
    cases hrun
    rw [hs]
    refine ⟨n, hn, ?_, fun hfalse => (by cases hfalse)⟩
    exact congrArg (fun t : State => { t with
      mediaPacketCount := t.mediaPacketCount + 1, inactive := false }) hjitter

/-- **A packet that came via RTX** counts as retransmitted if it is accepted, and then as repaired if
it was asked for. -/
theorem receiveRtxPacket_settled (hrun : s.receiveRtxPacket trees now p key = .ok (s', ps, ret)) :
    ∃ stream rtxStream inactive n m, m ≤ n ∧ rtxStream.isSome = s.rtxStream.isSome ∧
      s'.settled = { s.settled with
        stream, rtxStream, inactive
        packetsRetransmitted := s.packetsRetransmitted + n
        packetsRepaired := s.packetsRepaired + m } := by
  have hrtx : ∃ rtxStream, rtxStream.isSome = s.rtxStream.isSome ∧
      (s.rtxStreamReceivePacket now p).1 = { s with rtxStream } := by
    unfold rtxStreamReceivePacket
    split
    · exact ⟨_, rfl, rfl⟩
    · next rtxStream hsome => exact ⟨some _, by rw [hsome]; rfl, rfl⟩
  obtain ⟨rtxStream, hsome, hrtx⟩ := hrtx
  rw [receiveRtxPacket] at hrun
  split at hrun
  · cases hrun
    exact ⟨_, _, _, 0, 0, Nat.le_refl 0, rfl, rfl⟩
  obtain ⟨-, -, hrun⟩ := bind_eq_ok.mp hrun
  split at hrun
  · cases hrun
    exact ⟨_, _, _, 0, 0, Nat.le_refl 0, rfl, rfl⟩
  dsimp only at hrun
  rw [hrtx] at hrun
  split at hrun
  · cases hrun
    exact ⟨_, rtxStream, _, 0, 0, Nat.le_refl 0, hsome, rfl⟩
  split at hrun
  · cases hrun
    exact ⟨_, rtxStream, _, 0, 0, Nat.le_refl 0, hsome, rfl⟩
  rw [receiveOriginalPacket] at hrun
  split at hrun
  · cases hrun
    exact ⟨_, rtxStream, _, 0, 0, Nat.le_refl 0, hsome, rfl⟩
  · next stream _ =>
    obtain ⟨⟨s₁, packets₁, nacked⟩, hpass, hrun⟩ := bind_eq_ok.mp hrun
    have hsame := nackGeneratorReceivePacket_settled hpass
    cases nacked with
    | true =>
      cases hrun
      refine ⟨stream, rtxStream, false, 1, 1, Nat.le_refl 1, hsome, ?_⟩
      exact congrArg (fun t : State => { t with
        packetsRepaired := t.packetsRepaired + 1, inactive := false }) hsame
    | false =>
      cases hrun
      exact ⟨_, rtxStream, _, 1, 0, Nat.zero_le 1, hsome, hsame⟩

/-- **An update of the score** makes the counters the prior ones. -/
theorem updateScore_eq (hrun : s.updateScore = .ok s') : s' = { s with
    expectedPriorScore := s.stream.getExpectedPackets
    receivedPriorScore := BitVec.ofNat 32 s.mediaPacketCount
    repairedPriorScore := s.packetsRepaired
    retransmittedPriorScore := s.packetsRetransmitted } := by
  have hin : s' = s.scoreInput.1 := by
    rw [updateScore] at hrun
    dsimp only at hrun
    split at hrun
    · cases hrun
      rfl
    · obtain ⟨-, -, hrun⟩ := bind_eq_ok.mp hrun
      cases hrun
      rfl
  rw [hin, scoreInput]
  dsimp only
  split_ifs <;> rfl

def Event.isQuiet : Event → Bool
  | .receivePacket _ _ _ _ => false
  | .receiveRtxPacket _ _ _ _ => false
  | .receiverReport _ _ => false
  | .senderReport _ _ => false
  | _ => true

/-- **The other events** count nothing. -/
theorem step_settled {e : Event} (hstep : s.step e = .ok (s', ps, ret)) (hquiet : e.isQuiet = true) :
    ∃ params rtx inactive, (rtx.isSome = s.rtxStream.isSome ∨ rtx.isSome = true) ∧
      s'.settled = { s.settled with params, rtxStream := rtx, inactive } := by
  cases e with
  | receivePacket => cases hquiet
  | receiveRtxPacket => cases hquiet
  | receiverReport => cases hquiet
  | senderReport => cases hquiet
  | rtxReceiverReport now =>
    cases hstep
    rw [getRtxRtcpReceiverReport]
    split
    · exact ⟨_, _, _, .inl rfl, rfl⟩
    · exact ⟨_, some _, _, .inr rfl, rfl⟩
  | rtxSenderReport now r =>
    cases hstep
    exact ⟨_, _, _, .inl Option.isSome_map, rfl⟩
  | updateRtt rtt =>
    cases hstep
    rw [updateRtt]
    split_ifs <;> exact ⟨_, _, _, .inl rfl, rfl⟩
  | requestKeyFrame =>
    cases hstep
    exact ⟨_, _, _, .inl rfl, (requestKeyFrame_settled s).1⟩
  | setRtx pt ssrc =>
    cases hstep
    exact ⟨_, some _, _, .inr rfl, rfl⟩
  | pause =>
    cases hstep
    exact ⟨_, _, _, .inl rfl, rfl⟩
  | nackTimer now =>
    rw [step] at hstep
    split_ifs at hstep
    · obtain ⟨⟨s₁, ps₁⟩, hcalls, hstep⟩ := bind_eq_ok.mp hstep
      cases hstep
      exact ⟨_, _, _, .inl rfl, (onNackGenerator_settled hcalls).1⟩
    · cases hstep
      exact ⟨_, _, _, .inl rfl, rfl⟩
  | inactivityTimer =>
    cases hstep
    exact ⟨_, _, true, .inl rfl, rfl⟩

end

end State

end MediasoupWorker.RTC.RtpStreamRecv
