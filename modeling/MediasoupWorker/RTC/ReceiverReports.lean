import MediasoupWorker.RTC.RtpStreamRecv

/-!
# What receiver reports say about lost packets

Media streams and RTX streams take the sequence numbers for what was expected, count what was received, and
compare both with their values at the last report. `Reporting` is a stream of this kind, and `Observed`
follows it from outside.
-/

namespace MediasoupWorker.RTC

open Library
open RTCP (ReportState roundedFraction)

/-! ## Streams that report -/

structure Reporting (σ ε : Type) where
  step : σ → ε → Except Fault (σ × Bool)
  isReport : ε → Bool
  expected : σ → BitVec 32
  received : σ → ℕ
  report : σ → ReportState
  step_report : ∀ s e s' r, step s e = .ok (s', r) → isReport e = true →
    (report s').expectedPrior = expected s ∧
      (report s').receivedPrior = BitVec.ofNat 32 (received s) ∧ received s' = received s
  step_other : ∀ s e s' r, step s e = .ok (s', r) → isReport e = false →
    (report s').expectedPrior = (report s).expectedPrior ∧
      (report s').receivedPrior = (report s).receivedPrior ∧ received s' = received s + r.toNat

structure Observed (σ : Type) where
  stream : σ
  expectedBefore : BitVec 32 := 0
  receivedSince : ℕ := 0

namespace Reporting

variable {σ ε : Type} (R : Reporting σ ε)

def next (o : Observed σ) (event : ε) : Except Fault (Observed σ) := do
  let (stream, received) ← R.step o.stream event
  return if R.isReport event then { stream, expectedBefore := R.expected o.stream }
    else { o with stream, receivedSince := o.receivedSince + received.toNat }

def expectedInterval (o : Observed σ) : ℕ := (R.expected o.stream - o.expectedBefore).toNat

def fractionLost (s : σ) : BitVec 8 := ((R.report s).count (R.expected s) (R.received s)).fractionLost

structure Agrees (o : Observed σ) : Prop where
  expected : (R.report o.stream).expectedPrior = o.expectedBefore
  received : BitVec.ofNat 32 (R.received o.stream) - (R.report o.stream).receivedPrior =
    BitVec.ofNat 32 o.receivedSince

variable {R}

variable {o : Observed σ}

theorem next_agrees {o' : Observed σ} {e : ε} (h : R.Agrees o) (hnext : R.next o e = .ok o') :
    R.Agrees o' := by
  obtain ⟨⟨str, got⟩, hstep, hnext⟩ := bind_eq_ok.mp hnext
  cases hrep : R.isReport e with
  | true =>
    obtain ⟨hexp, hrec, hn⟩ := R.step_report _ _ _ _ hstep hrep
    rw [hrep] at hnext
    cases hnext
    refine ⟨hexp, ?_⟩
    show BitVec.ofNat 32 (R.received str) - (R.report str).receivedPrior = BitVec.ofNat 32 0
    rw [hn, hrec, BitVec.sub_self]
  | false =>
    obtain ⟨hexp, hrec, hn⟩ := R.step_other _ _ _ _ hstep hrep
    rw [hrep] at hnext
    cases hnext
    refine ⟨hexp.trans h.expected, ?_⟩
    show BitVec.ofNat 32 (R.received str) - (R.report str).receivedPrior =
      BitVec.ofNat 32 (o.receivedSince + got.toNat)
    rw [hn, hrec, BitVec.ofNat_add, BitVec.ofNat_add, ← h.received]
    ring

structure Lost (R : Reporting σ ε) (o : Observed σ) (lost : ℕ) : Prop where
  expected : R.expectedInterval o = o.receivedSince + lost
  pos : 0 < lost
  small : R.expectedInterval o < 2 ^ 23

/-- **The fraction that a report computes.** For every run of a new stream, it is the fraction of
the packets since the last report, to the nearest 256th, modulo 256. -/
theorem fractionLost_of_run {s : σ} (hnew : R.report s = {}) (hnone : R.received s = 0) {es : List ε}
    (hrun : run R.next { stream := s } es = .ok o) {lost : ℕ} (hlost : R.Lost o lost) :
    (R.fractionLost o.stream).toNat = roundedFraction lost (R.expectedInterval o) % 256 := by
  have hinit : R.Agrees { stream := s } := by
    constructor
    · rw [hnew]
    · rw [hnew, hnone]
      exact sub_self 0
  have h : R.Agrees o := inv_of_run_ok (I := R.Agrees) (fun _ _ _ => next_agrees) hinit hrun
  obtain ⟨hexp, hpos, hsmall⟩ := hlost
  unfold expectedInterval at hexp hsmall ⊢
  show (RTCP.fractionLost (R.expected o.stream - (R.report o.stream).expectedPrior)
    (BitVec.ofNat 32 (R.received o.stream) - (R.report o.stream).receivedPrior)).toNat = _
  rw [h.expected, h.received]
  refine RTCP.fractionLost_toNat ?_ hpos hsmall
  rw [BitVec.toNat_ofNat, Nat.mod_eq_of_lt (by omega)]
  exact hexp

theorem fractionLost_eq_min {s : σ} (hnew : R.report s = {}) (hnone : R.received s = 0) {es : List ε}
    (hrun : run R.next { stream := s } es = .ok o) {lost : ℕ} (hlost : R.Lost o lost)
    (hlight : 512 * lost < 511 * R.expectedInterval o) :
    (R.fractionLost o.stream).toNat = min 255 (roundedFraction lost (R.expectedInterval o)) := by
  have hpos : 0 < R.expectedInterval o := by
    have := hlost.expected
    have := hlost.pos
    omega
  have hlt := (RTCP.roundedFraction_lt_iff hpos).mpr hlight
  rw [fractionLost_of_run hnew hnone hrun hlost, Nat.mod_eq_of_lt hlt]
  omega

end Reporting

/-! ## RTX streams -/

namespace RtxStream

section

variable (now : ℕ) (seq : BitVec 16) (ts : BitVec 32) (str : RtxStream)

theorem updateSeq_report : (str.updateSeq now seq ts).1.report = str.report ∧
      (str.updateSeq now seq ts).1.packetsCount = str.packetsCount := by
  rw [updateSeq]
  dsimp only
  split_ifs <;> exact ⟨rfl, rfl⟩

theorem receivePacket_report :
    (str.receivePacket now seq ts).1.report = str.report ∧ (str.receivePacket now seq ts).1.packetsCount =
        str.packetsCount + (str.receivePacket now seq ts).2.toNat := by
  rw [receivePacket]
  dsimp only
  set started := (if str.started then str else { str.initSeq seq with
      started := true, maxSeq := seq - 1, maxPacketTs := ts, maxPacketMs := now })
    with hst
  have hsame : started.report = str.report ∧ started.packetsCount = str.packetsCount := by
    rw [hst]
    split_ifs <;> exact ⟨rfl, rfl⟩
  have hupd := updateSeq_report now seq ts started
  rw [hsame.1, hsame.2] at hupd
  cases hres : started.updateSeq now seq ts with
  | mk updated valid =>
    rw [hres] at hupd
    cases valid with
    | false => exact hupd
    | true =>
      dsimp only
      split_ifs
      · exact ⟨hupd.1, congrArg (· + 1) hupd.2⟩
      · exact ⟨hupd.1, congrArg (· + 1) hupd.2⟩

end

def step (stream : RtxStream) : Event → Except Fault (RtxStream × Bool)
  | .receivePacket nowMs seq timestamp => .ok (stream.receivePacket nowMs.toNat seq timestamp)
  | .receiverReport nowMs => .ok ((stream.getRtcpReceiverReport nowMs).1, false)
  | .senderReport nowMs report => .ok (stream.receiveRtcpSenderReport nowMs report, false)

def Event.isReport : Event → Bool
  | .receiverReport _ => true
  | _ => false

def reporting : Reporting RtxStream Event where
  step := step
  isReport := Event.isReport
  expected := getExpectedPackets
  received := packetsCount
  report := RtxStream.report
  step_report := by
    intro s e s' r hstep hreport
    cases e with
    | receivePacket => cases hreport
    | senderReport => cases hreport
    | receiverReport nowMs =>
      cases hstep
      exact ⟨rfl, rfl, rfl⟩
  step_other := by
    intro s e s' r hstep hreport
    cases e with
    | receiverReport => cases hreport
    | senderReport nowMs report =>
      cases hstep
      exact ⟨rfl, rfl, rfl⟩
    | receivePacket nowMs seq timestamp =>
      obtain ⟨hsame, hcount⟩ := receivePacket_report nowMs.toNat seq timestamp s
      have hresult : s.receivePacket nowMs.toNat seq timestamp = (s', r) := Except.ok.inj hstep
      rw [hresult] at hsame hcount
      exact ⟨by rw [hsame], by rw [hsame], hcount⟩

end RtxStream

/-! ## Media streams -/

namespace RtpStreamRecv

open NackGenerator (Trees)

namespace State

def Event.isReport : Event → Bool
  | .receiverReport _ _ => true
  | _ => false

def Event.isMedia : Event → Bool
  | .receivePacket _ _ _ _ => true
  | _ => false

theorem step_report {s s' : State} {e : Event} {ps : List RtcpPacket} {ret : Bool}
    (hstep : s.step e = .ok (s', ps, ret)) (hrep : e.isReport = false) :
    s'.report.expectedPrior = s.report.expectedPrior ∧ s'.report.receivedPrior = s.report.receivedPrior ∧
      s'.mediaPacketCount = s.mediaPacketCount + (e.isMedia && ret).toNat := by
  cases hquiet : e.isQuiet with
  | true =>
    obtain ⟨params, rtx, idle, -, hsame⟩ := step_settled hstep hquiet
    have hmedia : e.isMedia = false := by cases e <;> first | rfl | cases hquiet
    have hsr : s'.report = s.report := (congrArg State.report hsame :)
    rw [hsr, hmedia]
    exact ⟨rfl, rfl, (congrArg State.mediaPacketCount hsame :)⟩
  | false =>
    cases e with
    | receivePacket trees now p key =>
      obtain ⟨n, -, hsame, -⟩ := receivePacket_settled hstep
      have hsr : s'.report = s.report := (congrArg State.report hsame :)
      exact ⟨by rw [hsr], by rw [hsr], (congrArg State.mediaPacketCount hsame :)⟩
    | receiveRtxPacket trees now p key =>
      obtain ⟨stream, rtx, idle, n, m, -, -, hsame⟩ := receiveRtxPacket_settled hstep
      have hsr : s'.report = s.report := (congrArg State.report hsame :)
      exact ⟨by rw [hsr], by rw [hsr], (congrArg State.mediaPacketCount hsame :)⟩
    | receiverReport now remote => cases hrep
    | senderReport now r =>
      obtain ⟨s₁, hscore, hstep⟩ := bind_eq_ok.mp hstep
      cases hstep
      rw [updateScore_eq hscore]
      exact ⟨rfl, rfl, rfl⟩
    | _ => cases hquiet

def receive (s : State) (event : Event) : Except Fault (State × Bool) := do
  let (s, _, returned) ← s.step event
  return (s, event.isMedia && returned)

end State

def reporting : Reporting State State.Event where
  step := State.receive
  isReport := State.Event.isReport
  expected s := s.stream.getExpectedPackets
  received := State.mediaPacketCount
  report := State.report
  step_report := by
    intro s e s' r hstep hreport
    cases e with
    | receiverReport nowMs remote =>
      obtain ⟨result, hstep, hreturn⟩ := bind_eq_ok.mp hstep
      cases hstep
      cases hreturn
      refine ⟨?_, ?_, ?_⟩ <;> rfl
    | _ => cases hreport
  step_other := by
    intro s e s' r hstep hreport
    obtain ⟨⟨s₁, packets, returned⟩, hevent, hreturn⟩ := bind_eq_ok.mp hstep
    cases hreturn
    exact State.step_report hevent hreport

theorem fractionLost_of_own_loss {s : State} {now : BitVec 64} {remote : BitVec 8}
    (h : s.worstRemoteFractionLost remote ≤ reporting.fractionLost s) :
    (s.getRtcpReceiverReport now remote).2.fractionLost = reporting.fractionLost s := by
  have hworst : s.worstRemoteFractionLost remote ≤
      (s.report.count s.stream.getExpectedPackets s.mediaPacketCount).fractionLost := h
  rw [State.getRtcpReceiverReport]
  dsimp only
  rw [if_pos hworst]
  rfl

end RtpStreamRecv

/-! ## Streams without losses -/

namespace RtpStream

structure Consecutive (start : BitVec 16) (n : ℕ) (stream : RtpStream) : Prop where
  started : stream.started = true
  next : stream.maxSeq + 1 = start + BitVec.ofNat 16 n
  baseSeq : stream.baseSeq = start.setWidth 32
  extended : stream.cycles + stream.maxSeq.setWidth 32 + 1 = start.setWidth 32 + BitVec.ofNat 32 n

variable {start : BitVec 16} {st : RtpStream}

theorem Consecutive.expected {n : ℕ} (h : Consecutive start n st) :
    st.getExpectedPackets = BitVec.ofNat 32 n := by
  have hext := h.extended
  rw [getExpectedPackets, h.baseSeq]
  calc st.cycles + st.maxSeq.setWidth 32 - start.setWidth 32 + 1
      = st.cycles + st.maxSeq.setWidth 32 + 1 - start.setWidth 32 := by ring
    _ = BitVec.ofNat 32 n := by
      rw [hext]
      ring

theorem receivePacket_of_updateSeq {st' : RtpStream} {now : ℕ} {seq : BitVec 16} {time : BitVec 32}
    (hst : st.started = true) (hupd : st.updateSeq now seq time = (st', true)) :
    ∃ ts ms, st.receivePacket now seq time = ({ st' with maxPacketTs := ts, maxPacketMs := ms }, true) := by
  rw [receivePacket, hst, if_pos rfl, hupd]
  dsimp only
  split_ifs
  · exact ⟨_, _, rfl⟩
  · exact ⟨st'.maxPacketTs, st'.maxPacketMs, rfl⟩

theorem Consecutive.receivePacket {n : ℕ} (h : Consecutive start n st) (now : ℕ) (time : BitVec 32) :
    ∃ stream', st.receivePacket now (start + BitVec.ofNat 16 n) time = (stream', true) ∧
      Consecutive start (n + 1) stream' := by
  obtain ⟨cyc, hupd, hcycles⟩ := updateSeq_succ now time st
  rw [← h.next]
  obtain ⟨ts, ms, hrecv⟩ := receivePacket_of_updateSeq h.started hupd
  refine ⟨_, hrecv, h.started, ?_, h.baseSeq, ?_⟩
  · show st.maxSeq + 1 + 1 = _
    rw [h.next, BitVec.ofNat_add, add_assoc]
    rfl
  · show cyc + (st.maxSeq + 1).setWidth 32 + 1 = _
    rw [hcycles, h.extended, BitVec.ofNat_add, add_assoc]
    rfl

theorem receivePacket_first (hstart : start ≠ 0) (now : ℕ) (timestamp : BitVec 32) :
    ∃ stream', receivePacket now start timestamp {} = (stream', true) ∧ Consecutive start 1 stream' := by
  set initial : RtpStream := { initSeq start {} with
    started := true, maxSeq := start - 1, maxPacketTs := timestamp, maxPacketMs := now }
  have hfirst : receivePacket now start timestamp {} = initial.receivePacket now start timestamp := rfl
  have hinitial : Consecutive start 0 initial := by
    refine ⟨rfl, ?_, rfl, ?_⟩
    · show start - 1 + 1 = start + 0#16
      rw [sub_add_cancel, BitVec.add_zero]
    · show 0 + (start - 1).setWidth 32 + 1 = start.setWidth 32 + 0
      bv_omega
  obtain ⟨stream', hrecv, hcons⟩ := hinitial.receivePacket now timestamp
  rw [BitVec.add_zero] at hrecv
  exact ⟨stream', hfirst.trans hrecv, hcons⟩

end RtpStream

namespace RtpStreamRecv

open NackGenerator (Trees)

def InOrder : BitVec 16 → List State.Event → Prop
  | _, [] => True
  | start, .receivePacket _ _ packet _ :: events =>
    packet.sequenceNumber = start ∧ InOrder (start + 1) events
  | _, _ :: _ => False

namespace State

structure Consecutive (start : BitVec 16) (n : ℕ) (s : State) : Prop where
  stream : s.stream.Consecutive start n
  count : s.mediaPacketCount = n
  report : s.report = {}
  nack : s.nackGenerator.Inv

variable {start : BitVec 16} {n : ℕ} {s : State}

theorem receivePacket_of_valid {stream : RtpStream} (trees : Trees) {now : BitVec 64} {p : MediaPacket}
    (key : Bool) (hvalid : s.stream.receivePacket now.toNat p.sequenceNumber p.timestamp =
      (stream, true)) (hstr : stream.Consecutive start (n + 1)) (hn : s.mediaPacketCount = n)
    (hrep : s.report = {}) (hnack : s.nackGenerator.Inv) :
    ∃ s', s.next (.receivePacket trees now p key) = .ok s' ∧ s'.Consecutive start (n + 1) := by
  obtain ⟨s₁, ps, hpass, hnack'⟩ :=
    passToNackGenerator_ok (s := { s with stream }) trees now p.sequenceNumber
      (s.isKeyFrame p key) hnack
  obtain ⟨hjitter, hg⟩ := calculateJitter_settled now p.timestamp s₁
  set s₂ := s₁.calculateJitter now p.timestamp with hs₂
  have hstep : s.receivePacket trees now p key = .ok ({ s₂ with
      mediaPacketCount := s₂.mediaPacketCount + 1, inactive := false }, ps, true) := by
    rw [receivePacket, hvalid]
    dsimp only
    rw [hpass]
    rfl
  obtain ⟨m, -, hsame, -⟩ := receivePacket_settled hstep
  rw [hvalid] at hsame
  refine ⟨{ s₂ with mediaPacketCount := s₂.mediaPacketCount + 1, inactive := false }, ?_, ?_, ?_, ?_, ?_⟩
  · rw [next, step, hstep]
    rfl
  · have hstr₂ : s₂.stream = stream := (congrArg State.stream hsame :)
    rw [← hstr₂] at hstr
    exact hstr
  · have hn₂ : s₂.mediaPacketCount + 1 = s.mediaPacketCount + 1 :=
      (congrArg State.mediaPacketCount hsame :)
    rw [hn] at hn₂
    exact hn₂
  · have hrep₂ : s₂.report = s.report := (congrArg State.report hsame :)
    exact hrep₂.trans hrep
  · show s₂.nackGenerator.Inv
    rw [hg]
    exact hnack'

theorem run_consecutive {events : List Event} (h : s.Consecutive start n)
    (hevs : InOrder (start + BitVec.ofNat 16 n) events) :
    ∃ s', run next s events = .ok s' ∧ s'.Consecutive start (n + events.length) := by
  induction events generalizing n s with
  | nil => exact ⟨s, rfl, h⟩
  | cons event events ih =>
    cases event with
    | receivePacket trees now p key =>
      obtain ⟨hseq, hevs⟩ := hevs
      obtain ⟨stream, hvalid, hs⟩ := h.stream.receivePacket now.toNat p.timestamp
      rw [← hseq] at hvalid
      obtain ⟨s₁, hnext, hs₁⟩ :=
        receivePacket_of_valid trees key hvalid hs h.count h.report h.nack
      have hsucc : start + BitVec.ofNat 16 n + 1 = start + BitVec.ofNat 16 (n + 1) := by
        rw [BitVec.ofNat_add, add_assoc]
        rfl
      rw [hsucc] at hevs
      obtain ⟨s', hrun, hs'⟩ := ih hs₁ hevs
      refine ⟨s', (run_cons_of_ok hnext).trans hrun, ?_⟩
      rw [List.length_cons, add_comm events.length, ← add_assoc]
      exact hs'
    | _ => exact hevs.elim

theorem Consecutive.getRtcpReceiverReport (h : s.Consecutive start n) (hn : n < 2 ^ 32) (now : BitVec 64) :
    (s.getRtcpReceiverReport now 0).2.fractionLost = 0 ∧ (s.getRtcpReceiverReport now 0).2.totalLost = 0 := by
  have hworst : s.worstRemoteFractionLost 0 = 0 := by
    rw [worstRemoteFractionLost]
    split_ifs <;> rfl
  have hexp : (BitVec.ofNat 32 n).toNat = n := Nat.mod_eq_of_lt hn
  have hcnt : (s.report.count s.stream.getExpectedPackets s.mediaPacketCount).packetsLost = 0 ∧
      (s.report.count s.stream.getExpectedPackets s.mediaPacketCount).fractionLost = 0 := by
    rw [h.stream.expected, h.count, h.report, RTCP.ReportState.count, hexp]
    refine ⟨if_neg (lt_irrefl n), ?_⟩
    show RTCP.fractionLost _ _ = 0
    rw [RTCP.fractionLost]
    dsimp only
    rw [sub_self, if_pos (.inr (by decide))]
  have hrep : (s.report.count s.stream.getExpectedPackets s.mediaPacketCount).reportedPacketLost
      = 0 := by
    rw [h.report]
    rfl
  have hlost : s.report.packetsLost = 0 := by rw [h.report]
  rw [State.getRtcpReceiverReport]
  dsimp only
  rw [hworst, hcnt.1, hcnt.2, hrep, hlost, if_pos (by decide)]
  exact ⟨rfl, rfl⟩

end State

/-- **Accounting without losses.** Of up to `2 ^ 31` packets in order, the first not 0, none is
reported as lost. -/
theorem inOrder_reported (params : RtpStreamRecv) (start : BitVec 16) (events : List State.Event)
    (hevents : InOrder start events) (hsome : 1 ≤ events.length) (hmany : events.length ≤ 2 ^ 31)
    (hstart : start ≠ 0) :
    ∃ s, run State.next { params } events = .ok s ∧ s.stream.getExpectedPackets.toNat = events.length ∧
      ∀ nowMs, (s.getRtcpReceiverReport nowMs 0).2.fractionLost = 0 ∧
        (s.getRtcpReceiverReport nowMs 0).2.totalLost = 0 := by
  cases events with
  | nil => exact absurd hsome (by decide)
  | cons event events =>
    cases event with
    | receivePacket trees nowMs packet keyFrame =>
      obtain ⟨rfl, hevents⟩ := hevents
      obtain ⟨stream, hvalid, hstream⟩ :=
        RtpStream.receivePacket_first hstart nowMs.toNat packet.timestamp
      obtain ⟨s₁, hnext, hs₁⟩ := State.receivePacket_of_valid (s := { params }) trees keyFrame hvalid
        hstream rfl rfl NackGenerator.inv_new
      obtain ⟨s, hrun, hs⟩ := State.run_consecutive hs₁ hevents
      have hlength : 0 + 1 + events.length < 2 ^ 32 := by
        rw [List.length_cons] at hmany
        omega
      refine ⟨s, (run_cons_of_ok hnext).trans hrun, ?_, hs.getRtcpReceiverReport hlength⟩
      rw [hs.stream.expected, BitVec.toNat_ofNat, Nat.mod_eq_of_lt hlength, List.length_cons]
      omega
    | _ => exact hevents.elim

end RtpStreamRecv

/-! ## Fraction lost -/

/-- **Reported loss, below 255.5 of 256 packets**: the fraction since the last report, to the
nearest 256th and at most 255, if for a received stream no remote loss is worse. -/
theorem fractionLost_reported (lost : ℕ) (nowMs : BitVec 64) :
    (∀ (params : RtpStreamRecv) (events : List RtpStreamRecv.State.Event) o,
      run RtpStreamRecv.reporting.next { stream := { params } } events = .ok o →
      RtpStreamRecv.reporting.Lost o lost → 512 * lost < 511 * RtpStreamRecv.reporting.expectedInterval o →
      ∀ remote, (o.stream.worstRemoteFractionLost remote).toNat ≤
          min 255 (roundedFraction lost (RtpStreamRecv.reporting.expectedInterval o)) →
        (o.stream.getRtcpReceiverReport nowMs remote).2.fractionLost.toNat =
          min 255 (roundedFraction lost (RtpStreamRecv.reporting.expectedInterval o))) ∧
    (∀ (ssrc : ℕ) (events : List RtxStream.Event) o,
      run RtxStream.reporting.next { stream := { ssrc } } events = .ok o → RtxStream.reporting.Lost o lost →
      512 * lost < 511 * RtxStream.reporting.expectedInterval o →
      (o.stream.getRtcpReceiverReport nowMs).2.fractionLost.toNat =
        min 255 (roundedFraction lost (RtxStream.reporting.expectedInterval o))) := by
  constructor
  · intro params events o hrun hlost hlight remote hremote
    have hfraction := Reporting.fractionLost_eq_min rfl rfl hrun hlost hlight
    rw [RtpStreamRecv.fractionLost_of_own_loss, hfraction]
    rw [BitVec.le_def, hfraction]
    exact hremote
  · intro ssrc events o hrun hlost hlight
    exact Reporting.fractionLost_eq_min rfl rfl hrun hlost hlight

def audio : RtpStreamRecv where
  encodingIdx := 0
  ssrc := 1111
  payloadType := 100
  mimeType := { type := .audio, subtype := .opus }
  clockRate := 48000
  rid := ""
  cname := "c"

def audioPacket (seq : BitVec 16) : RtpStreamRecv.State.Event :=
  .receivePacket .linear 1000
    { ssrc := 1111, payloadType := 100, sequenceNumber := seq, timestamp := 0 } false

theorem inOrder_reported_three : ∃ s, run RtpStreamRecv.State.next { params := audio }
        [audioPacket 65535, audioPacket 0, audioPacket 1] = .ok s ∧ s.stream.getExpectedPackets.toNat = 3 ∧
      ∀ nowMs, (s.getRtcpReceiverReport nowMs 0).2.fractionLost = 0 ∧
        (s.getRtcpReceiverReport nowMs 0).2.totalLost = 0 :=
  RtpStreamRecv.inOrder_reported audio 65535 [audioPacket 65535, audioPacket 0, audioPacket 1]
    ⟨rfl, rfl, rfl, trivial⟩ (by decide) (by decide) (by decide)

/-- **A first packet with sequence number 0** counts as a wrap: 65537 packets are expected after it.
-/
theorem inOrder_from_zero : ∃ s, run RtpStreamRecv.State.next { params := audio } [audioPacket 0] = .ok s ∧
      s.stream.getExpectedPackets.toNat = 65537 ∧ (s.getRtcpReceiverReport 2000 0).2.totalLost = 65536 := by
  refine ⟨_, rfl, ?_, ?_⟩
  all_goals decide +kernel

theorem fractionLost_reported_three_of_four : (∃ o, run RtpStreamRecv.reporting.next { stream := { params := audio } }
        [audioPacket 1, .receiverReport 2000 0, audioPacket 5] = .ok o ∧
      (o.stream.getRtcpReceiverReport 3000 0).2.fractionLost.toNat = 192) ∧
    ∃ o, run RtxStream.reporting.next { stream := { ssrc := 1112 } }
        [.receivePacket 1000 1 0, .receiverReport 2000, .receivePacket 2500 5 0] = .ok o ∧
      (o.stream.getRtcpReceiverReport 3000).2.fractionLost.toNat = 192 := by
  constructor
  · refine ⟨_, rfl, ?_⟩
    exact (fractionLost_reported 3 3000).1 audio
      [audioPacket 1, .receiverReport 2000 0, audioPacket 5] _ rfl
      ⟨by decide, by decide, by decide⟩ (by decide) 0 (by decide)
  · refine ⟨_, rfl, ?_⟩
    exact (fractionLost_reported 3 3000).2 1112
      [.receivePacket 1000 1 0, .receiverReport 2000, .receivePacket 2500 5 0] _ rfl
      ⟨by decide, by decide, by decide⟩ (by decide)

/-- **Heavy loss is reported as no loss.** Packet 1001 is the only one of a thousand to come: the
fraction 256 becomes 0. -/
theorem fractionLost_of_heavy_loss : ∃ o, run RtpStreamRecv.reporting.next { stream := { params := audio } }
        [audioPacket 1, .receiverReport 2000 0, audioPacket 1001] = .ok o ∧
      RtpStreamRecv.reporting.Lost o 999 ∧ RtpStreamRecv.reporting.expectedInterval o = 1000 ∧
      (o.stream.getRtcpReceiverReport 3000 0).2.fractionLost = 0 ∧
      min 255 (roundedFraction 999 1000) = 255 := by
  refine ⟨_, rfl, ⟨?_, ?_, ?_⟩, ?_, ?_, ?_⟩
  all_goals decide +kernel

end MediasoupWorker.RTC
