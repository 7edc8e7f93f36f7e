import MediasoupWorker.RTC.RtpStreamRecv

/-!
# `RtpStreamRecv`: what the score of a received stream is computed from

`UpdateScore` divides by the received packets, subtracts the lost ones from them, and asserts that no more
packets were repaired than retransmitted. A packet that comes via RTX before its time raises the number of
expected packets, and is not counted as a received one.
-/

namespace MediasoupWorker.RTC.RtpStreamRecv

open Library
open NackGenerator (Trees)

structure ScoreCounters where
  media : ℕ
  retransmitted : ℕ
  repaired : ℕ
  expectedPrior : BitVec 32
  receivedPrior : BitVec 32
  repairedPrior : ℕ
  retransmittedPrior : ℕ
  hasRtx : Bool

namespace ScoreCounters

structure Balanced (c : ScoreCounters) (expected : BitVec 32) (received : ℕ) : Prop where
  expectedPrior : c.expectedPrior = expected
  receivedPrior : BitVec.ofNat 32 c.media - c.receivedPrior = BitVec.ofNat 32 received
  repairedPrior : c.repairedPrior ≤ c.repaired
  repaired_le : c.repaired + c.retransmittedPrior ≤ c.retransmitted + c.repairedPrior
  repaired_media : c.hasRtx = false → c.repaired ≤ c.repairedPrior + received

variable {c : ScoreCounters} {exp : BitVec 32} {received : ℕ}

section

variable (h : c.Balanced exp received)

include h

theorem Balanced.media {n : ℕ} (hn : n ≤ 1) : ({ c with
      media := c.media + 1, retransmitted := c.retransmitted + n,
      repaired := c.repaired + n } : ScoreCounters).Balanced exp (received + 1) := by
  have hle := h.repaired_le
  refine ⟨h.expectedPrior, ?_, Nat.le_add_right_of_le h.repairedPrior, ?_, fun hrtx => ?_⟩
  · show BitVec.ofNat 32 (c.media + 1) - c.receivedPrior = _
    rw [BitVec.ofNat_add, BitVec.ofNat_add, ← h.receivedPrior]
    ring
  · show c.repaired + n + c.retransmittedPrior ≤ c.retransmitted + n + c.repairedPrior
    omega
  · have hmedia := h.repaired_media hrtx
    show c.repaired + n ≤ c.repairedPrior + (received + 1)
    omega

theorem Balanced.rtx (hrtx : c.hasRtx = true) {n m : ℕ} (hmn : m ≤ n) : ({ c with
      retransmitted := c.retransmitted + n,
      repaired := c.repaired + m } : ScoreCounters).Balanced exp received := by
  have hle := h.repaired_le
  refine ⟨h.expectedPrior, h.receivedPrior, Nat.le_add_right_of_le h.repairedPrior, ?_, fun hnone => ?_⟩
  · show c.repaired + m + c.retransmittedPrior ≤ c.retransmitted + n + c.repairedPrior
    omega
  · have hsome : c.hasRtx = false := hnone
    rw [hrtx] at hsome
    cases hsome

theorem Balanced.setRtx : ({ c with hasRtx := true } : ScoreCounters).Balanced exp received :=
  ⟨h.expectedPrior, h.receivedPrior, h.repairedPrior, h.repaired_le, fun hnone => by cases hnone⟩

end

theorem balanced_update (c : ScoreCounters) (exp : BitVec 32) : ({ c with
      expectedPrior := exp
      receivedPrior := BitVec.ofNat 32 c.media
      repairedPrior := c.repaired
      retransmittedPrior := c.retransmitted } : ScoreCounters).Balanced exp 0 :=
  ⟨rfl, sub_self _, Nat.le_refl _, Nat.le_of_eq (add_comm _ _), fun _ => Nat.le_refl _⟩

end ScoreCounters

namespace State

def counters (s : State) : ScoreCounters where
  media := s.mediaPacketCount
  retransmitted := s.packetsRetransmitted
  repaired := s.packetsRepaired
  expectedPrior := s.expectedPriorScore
  receivedPrior := s.receivedPriorScore
  repairedPrior := s.repairedPriorScore
  retransmittedPrior := s.retransmittedPriorScore
  hasRtx := s.hasRtx

/-! ## What the functions do to the counters -/

variable {ret : Bool} {s s' : State} {ps : List RtcpPacket}

/-- **A media packet** counts if it is accepted. -/
theorem receivePacket_counters {trees : Trees} {now : BitVec 64} {p : MediaPacket} {key : Bool}
    (hrun : s.receivePacket trees now p key = .ok (s', ps, ret)) : (ret = false ∧ s'.counters = s.counters) ∨
      (ret = true ∧ ∃ n ≤ 1, s'.counters = { s.counters with
        media := s.counters.media + 1
        retransmitted := s.counters.retransmitted + n
        repaired := s.counters.repaired + n }) := by
  obtain ⟨n, hn, hsame, hzero⟩ := receivePacket_settled hrun
  have hcnt := congrArg counters hsame
  cases ret with
  | false =>
    cases hzero rfl
    exact .inl ⟨rfl, hcnt⟩
  | true => exact .inr ⟨rfl, n, hn, hcnt⟩

/-- **A packet that came via RTX** counts as retransmitted if it is accepted, and then as repaired if
it was asked for. -/
theorem receiveRtxPacket_counters {trees : Trees} {now : BitVec 64} {p : MediaPacket} {key : Bool}
    (hrun : s.receiveRtxPacket trees now p key = .ok (s', ps, ret)) :
    ∃ n m, m ≤ n ∧ s'.counters = { s.counters with
      retransmitted := s.counters.retransmitted + n, repaired := s.counters.repaired + m } := by
  obtain ⟨st, rtx, idle, n, m, hmn, hsome, hsame⟩ := receiveRtxPacket_settled hrun
  refine ⟨n, m, hmn, (congrArg counters hsame).trans ?_⟩
  exact congrArg (fun hasRtx => { s.counters with
    retransmitted := s.counters.retransmitted + n, repaired := s.counters.repaired + m, hasRtx }) hsome

/-- **What `UpdateScore` goes on with.** Lost packets are at most the received ones; without RTX,
repaired packets above the lost ones are taken for these. -/
theorem scoreInput_cases {input : ScoreInput} (hin : s.scoreInput.2 = some input) :
    s.inactive = false ∧ s.stream.getExpectedPackets ≠ s.expectedPriorScore ∧
      input.received = BitVec.ofNat 32 s.mediaPacketCount - s.receivedPriorScore ∧ input.retransmitted =
        BitVec.ofNat 32 s.packetsRetransmitted - BitVec.ofNat 32 s.retransmittedPriorScore ∧
      ((input.lost ≤ input.received ∧
          input.repaired ≤ BitVec.ofNat 32 s.packetsRepaired - BitVec.ofNat 32 s.repairedPriorScore) ∨
        (s.hasRtx = false ∧
          input.lost = BitVec.ofNat 32 s.packetsRepaired - BitVec.ofNat 32 s.repairedPriorScore ∧
          input.repaired = BitVec.ofNat 32 s.packetsRepaired - BitVec.ofNat 32 s.repairedPriorScore)) := by
  have hcap : ∀ lost received : BitVec 32, (if lost > received then received else lost) ≤ received := by
    intro lost received
    split_ifs with hgt
    · exact BitVec.le_refl _
    · exact BitVec.not_lt.mp hgt
  rw [scoreInput] at hin
  dsimp only at hin
  split at hin
  · cases hin
  next hact =>
  split at hin
  · cases hin
  next hexp =>
  have hchg : s.stream.getExpectedPackets ≠ s.expectedPriorScore := by
    intro hsame
    refine hexp ?_
    rw [hsame]
    exact sub_self _
  refine ⟨Bool.eq_false_iff.mpr hact, hchg, ?_⟩
  generalize s.stream.getExpectedPackets - s.expectedPriorScore = expected at hin
  generalize BitVec.ofNat 32 s.mediaPacketCount - s.receivedPriorScore = received at hin ⊢
  generalize (if expected < received then 0 else expected - received) = lost at hin
  have hlost := hcap lost received
  generalize (if lost > received then received else lost) = lost at hin hlost
  split at hin
  next hmore =>
    split at hin
    next hrtx =>
      cases hin
      exact ⟨rfl, rfl, .inl ⟨hlost, BitVec.le_of_lt hmore⟩⟩
    next hrtx =>
      cases hin
      exact ⟨rfl, rfl, .inr ⟨Bool.eq_false_iff.mpr hrtx, rfl, rfl⟩⟩
  next hfew =>
    cases hin
    exact ⟨rfl, rfl, .inl ⟨hlost, BitVec.le_refl _⟩⟩

def Event.isCounted : Event → Bool
  | .receivePacket _ _ _ _ => true
  | .receiveRtxPacket _ _ _ _ => true
  | .senderReport _ _ => true
  | _ => false

/-- **The other events** leave the counters as they are. -/
theorem step_counters {e : Event} (hstep : s.step e = .ok (s', ps, ret)) (hother : e.isCounted = false) :
    s'.counters = s.counters ∨ s'.counters = { s.counters with hasRtx := true } := by
  cases hquiet : e.isQuiet with
  | true =>
    obtain ⟨params, rtx, idle, hrtx, hsame⟩ := step_settled hstep hquiet
    have hn : s'.counters = { s.counters with hasRtx := rtx.isSome } :=
      (congrArg counters hsame :)
    rw [hn]
    rcases hrtx with hrtx | hrtx
    · rw [hrtx]
      exact .inl rfl
    · rw [hrtx]
      exact .inr rfl
  | false =>
    cases e with
    | receiverReport now remote =>
      cases hstep
      exact .inl rfl
    | receivePacket => cases hother
    | receiveRtxPacket => cases hother
    | senderReport => cases hother
    | _ => cases hquiet

end State

/-! ## The intervals between updates -/

structure Measured where
  s : State
  expectedBefore : BitVec 32 := 0
  receivedSince : ℕ := 0

namespace Measured

def follow (o : Measured) (s : State) (returned : Bool) : State.Event → Measured
  | .senderReport _ _ => { s, expectedBefore := o.s.stream.getExpectedPackets }
  | .receivePacket _ _ _ _ => { o with s, receivedSince := o.receivedSince + returned.toNat }
  | _ => { o with s }

def next (o : Measured) (event : State.Event) : Except Fault Measured := do
  let (s, _, returned) ← o.s.step event
  return o.follow s returned event

def Accounted (o : Measured) : State.Event → Prop
  | .senderReport _ _ =>
    (o.s.inactive = true ∨ o.s.stream.getExpectedPackets = o.expectedBefore ∨ 0 < o.receivedSince) ∧
    o.receivedSince < 2 ^ 32 ∧ o.s.packetsRetransmitted < o.s.retransmittedPriorScore + 2 ^ 32
  | .receiveRtxPacket _ _ _ _ => o.s.hasRtx = true
  | _ => True

instance (o : Measured) : (event : State.Event) → Decidable (o.Accounted event)
  | .senderReport _ _ => inferInstanceAs (Decidable (_ ∧ _ ∧ _))
  | .receiveRtxPacket _ _ _ _ => inferInstanceAs (Decidable (_ = true))
  | .receivePacket _ _ _ _ => isTrue trivial
  | .receiverReport _ _ => isTrue trivial
  | .rtxReceiverReport _ => isTrue trivial
  | .rtxSenderReport _ _ => isTrue trivial
  | .updateRtt _ => isTrue trivial
  | .requestKeyFrame => isTrue trivial
  | .setRtx _ _ => isTrue trivial
  | .pause => isTrue trivial
  | .nackTimer _ => isTrue trivial
  | .inactivityTimer => isTrue trivial

def ScoreDefined (o : Measured) : State.Event → Prop
  | .senderReport nowMs report =>
    (∃ s', o.s.receiveRtcpSenderReport nowMs report = .ok s') ∧ ∀ input, o.s.scoreInput.2 = some input →
      1 ≤ input.received.toNat ∧ input.lost ≤ input.received ∧ input.repaired ≤ input.retransmitted
  | _ => True

def Inv (o : Measured) : Prop := o.s.counters.Balanced o.expectedBefore o.receivedSince

variable {o : Measured}

theorem Inv.scoreInput (h : o.Inv) {input : State.ScoreInput} (hrcv : o.receivedSince < 2 ^ 32)
    (hretr : o.s.packetsRetransmitted < o.s.retransmittedPriorScore + 2 ^ 32)
    (hsome : o.s.inactive = true ∨ o.s.stream.getExpectedPackets = o.expectedBefore ∨
      0 < o.receivedSince) (hin : o.s.scoreInput.2 = some input) :
    1 ≤ input.received.toNat ∧ input.lost ≤ input.received ∧ input.repaired ≤ input.retransmitted := by
  have hprior : o.s.expectedPriorScore = o.expectedBefore := h.expectedPrior
  have hrepaired : o.s.repairedPriorScore ≤ o.s.packetsRepaired := h.repairedPrior
  have hrepaired_le : o.s.packetsRepaired + o.s.retransmittedPriorScore ≤
      o.s.packetsRetransmitted + o.s.repairedPriorScore := h.repaired_le
  -- the differences as natural numbers
  have hrec : (BitVec.ofNat 32 o.s.mediaPacketCount - o.s.receivedPriorScore).toNat = o.receivedSince := by
    have hdiff : BitVec.ofNat 32 o.s.mediaPacketCount - o.s.receivedPriorScore =
      BitVec.ofNat 32 o.receivedSince := h.receivedPrior
    rw [hdiff, BitVec.toNat_ofNat, Nat.mod_eq_of_lt hrcv]
  have hrep := toNat_ofNat_sub (w := 32) hrepaired (by omega)
  have hret := toNat_ofNat_sub (m := o.s.packetsRetransmitted) (n := o.s.retransmittedPriorScore)
    (by omega) hretr
  obtain ⟨hact, hexp, hR, hT, hcases⟩ := State.scoreInput_cases hin
  have hpos : 1 ≤ o.receivedSince := by
    rcases hsome with hidle | hsame | hpos
    · rw [hact] at hidle
      cases hidle
    · exact absurd (hsame.trans hprior.symm) hexp
    · exact hpos
  rw [← hR] at hrec
  rw [← hT] at hret
  rw [BitVec.le_def, BitVec.le_def]
  rcases hcases with ⟨hlost, hfewer⟩ | ⟨hrtx, hlost, hall⟩
  · rw [BitVec.le_def] at hlost hfewer
    omega
  · have hmedia : o.s.packetsRepaired ≤ o.s.repairedPriorScore + o.receivedSince :=
      h.repaired_media hrtx
    rw [hlost, hall]
    omega

theorem Inv.scoreDefined (h : o.Inv) {now : BitVec 64} {r : SenderReport}
    (hcond : o.Accounted (.senderReport now r)) : o.ScoreDefined (.senderReport now r) := by
  obtain ⟨hsome, hrec, hretr⟩ := hcond
  refine ⟨?_, fun input hin => h.scoreInput hrec hretr hsome hin⟩
  -- the counters are the same with the times of the sender report
  set o' : Measured := { o with s := { o.s with
    report := o.s.report.receiveSenderReport now r.ntp.seconds r.ntp.fractions
    lastSenderReport := r.last } }
  have h' : o'.Inv := h
  show ∃ s', o'.s.updateScore = .ok s'
  rw [State.updateScore]
  dsimp only
  cases hin : o'.s.scoreInput.2 with
  | none => exact ⟨_, rfl⟩
  | some input =>
    have hle := (h'.scoreInput hrec hretr hsome hin).2.2
    dsimp only
    rw [decide_eq_true hle, msAssert_true]
    exact ⟨_, rfl⟩

theorem Inv.next {o' : Measured} {e : State.Event} (h : o.Inv) (hcond : o.Accounted e)
    (hnext : o.next e = .ok o') : o'.Inv := by
  obtain ⟨⟨s, packets, returned⟩, hstep, hret⟩ := bind_eq_ok.mp hnext
  cases hret
  by_cases hother : e.isCounted = false
  · have hfollow : o.follow s returned e = { o with s } := by
      cases e <;> first | rfl | cases hother
    rw [hfollow]
    show s.counters.Balanced o.expectedBefore o.receivedSince
    rcases State.step_counters hstep hother with hsame | hsame
    · rw [hsame]
      exact h
    · rw [hsame]
      exact h.setRtx
  · cases e with
    | senderReport now r =>
      obtain ⟨s₁, hscore, hret⟩ := bind_eq_ok.mp hstep
      cases hret
      show s.counters.Balanced o.s.stream.getExpectedPackets 0
      rw [State.updateScore_eq hscore]
      exact ScoreCounters.balanced_update o.s.counters _
    | receivePacket trees now p key =>
      show s.counters.Balanced o.expectedBefore (o.receivedSince + returned.toNat)
      rcases State.receivePacket_counters hstep with ⟨rfl, hsame⟩ | ⟨rfl, n, hn, hcnt⟩
      · rw [hsame]
        exact h
      · rw [hcnt]
        exact h.media hn
    | receiveRtxPacket trees now p key =>
      obtain ⟨n, m, hmn, hcnt⟩ := State.receiveRtxPacket_counters hstep
      show s.counters.Balanced o.expectedBefore o.receivedSince
      rw [hcnt]
      exact h.rtx hcond hmn
    | _ => exact absurd rfl hother

def nackVideo : RtpStreamRecv where
  encodingIdx := 0
  ssrc := 1111
  payloadType := 100
  mimeType := { type := .video, subtype := .vp8 }
  clockRate := 90000
  rid := ""
  cname := "c"
  useNack := true

def mediaPacket (seq : BitVec 16) : State.Event :=
  .receivePacket .linear 1000
    { ssrc := 1111, payloadType := 100, sequenceNumber := seq, timestamp := 0 } false

def rtxPacket (ssrc payloadType : ℕ) (rtxSeq seq : BitVec 16) : State.Event :=
  .receiveRtxPacket .linear 1000
    { ssrc, payloadType, sequenceNumber := rtxSeq, timestamp := 0,
      payload := [seq.extractLsb' 8 8, seq.extractLsb' 0 8] } false

def senderReport : State.Event :=
  .senderReport 2000 { ntp := { seconds := 1, fractions := 0 }, rtpTs := 0 }

end Measured

end MediasoupWorker.RTC.RtpStreamRecv
