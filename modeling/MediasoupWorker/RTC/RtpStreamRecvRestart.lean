import MediasoupWorker.RTC.ReceiverReports
import MediasoupWorker.RTC.RtpStreamRecvScore

/-!
# `RtpStreamRecv`: a sender that restarts

`UpdateSeq` ignores the first packet of a large jump, and if the next one follows it, `InitSeq` makes that
one the first packet of the stream, and `cycles` stays. `UpdateScore` and `GetRtcpReceiverReport` subtract
what was expected the last time; when that was more than `cycles + 1`, the 32-bit difference is nearly `2 ^
32`.
-/

namespace MediasoupWorker.RTC

open Library BitVec

/-! ## The sequence numbers -/

namespace RtpStream

def InResyncRange (stream : RtpStream) (seq : BitVec 16) : Prop :=
  maxDropout ≤ (seq - stream.maxSeq).toNat ∧ (seq - stream.maxSeq).toNat ≤ rtpSeqMod - maxMisorder

instance (stream : RtpStream) (seq : BitVec 16) : Decidable (stream.InResyncRange seq) :=
  inferInstanceAs (Decidable (_ ∧ _))

def Resyncs (stream : RtpStream) (seq : BitVec 16) : Prop :=
  stream.InResyncRange seq ∧ seq.setWidth 32 = stream.badSeq

instance (stream : RtpStream) (seq : BitVec 16) : Decidable (stream.Resyncs seq) :=
  inferInstanceAs (Decidable (_ ∧ _))

structure Tracks (stream : RtpStream) (last : BitVec 16) : Prop where
  started : stream.started = true
  position : last = stream.maxSeq ∨ rtpSeqMod - maxMisorder < cdist stream.maxSeq last ∨
    (maxDropout ≤ cdist stream.maxSeq last ∧ stream.badSeq = (last + 1).setWidth 32)

theorem badSeq_eq (seq : BitVec 16) :
    (seq.setWidth 32 + 1) &&& BitVec.ofNat 32 (rtpSeqMod - 1) = (seq + 1).setWidth 32 := by
  refine BitVec.eq_of_toNat_eq ?_
  have hmask : (BitVec.ofNat 32 (rtpSeqMod - 1)).toNat = 2 ^ 16 - 1 := rfl
  rw [BitVec.toNat_and, hmask, Nat.and_two_pow_sub_one_eq_mod]
  bv_omega

inductive Expects (stream : RtpStream) (seq : BitVec 16) (expected : BitVec 32) : Prop where
  | same (h : expected = stream.getExpectedPackets)
  | more (h : expected = stream.getExpectedPackets + 1)
  | anew (hresync : stream.Resyncs seq) (h : expected = stream.cycles + 1)

variable {st : RtpStream} {last seq : BitVec 16}

section

variable (h : st.Tracks last) (hseq : seq = last + 1 ∨ st.InResyncRange seq)

include h hseq

theorem Tracks.eq_or_eq_succ (hgap : (seq - st.maxSeq).toNat < maxDropout) :
    seq = st.maxSeq ∨ seq = st.maxSeq + 1 := by
  have hsizes : rtpSeqMod - maxMisorder = 64036 ∧ maxDropout = 3000 := by decide
  rcases hseq with rfl | hrange
  · rcases h.position with hmax | hlate | ⟨hjump, -⟩
    · rw [hmax]
      exact .inr rfl
    · unfold cdist at hlate
      left
      bv_omega
    · unfold cdist at hjump
      left
      bv_omega
  · exact absurd hrange.1 (not_le.mpr hgap)

/-- **A packet of a sender that sends in order, but for jumps.** -/
theorem Tracks.updateSeq (now : ℕ) (ts : BitVec 32) : (st.updateSeq now seq ts).1.Tracks seq ∧
      Expects st seq (st.updateSeq now seq ts).1.getExpectedPackets := by
  by_cases hgap : (seq - st.maxSeq).toNat < maxDropout
  · rcases h.eq_or_eq_succ hseq hgap with rfl | rfl
    · -- the highest number again
      have hsame : st.updateSeq now st.maxSeq ts = (st, true) := by
        rw [RtpStream.updateSeq, if_pos hgap, if_neg (BitVec.lt_irrefl _)]
      rw [hsame]
      exact ⟨⟨h.started, .inl rfl⟩, .same rfl⟩
    · obtain ⟨cyc, hupd, hcycles⟩ := updateSeq_succ now ts st
      rw [hupd]
      refine ⟨⟨h.started, .inl rfl⟩, .more ?_⟩
      show cyc + (st.maxSeq + 1).setWidth 32 - st.baseSeq + 1 = _
      rw [hcycles, getExpectedPackets]
      ring
  · rw [RtpStream.updateSeq, if_neg hgap]
    split_ifs with hrange hbad
    · refine ⟨⟨h.started, .inl rfl⟩, .anew ⟨⟨not_lt.mp hgap, hrange⟩, hbad⟩ ?_⟩
      show st.cycles + seq.setWidth 32 - seq.setWidth 32 + 1 = st.cycles + 1
      rw [BitVec.add_sub_cancel]
    · exact ⟨⟨h.started, .inr (.inr ⟨not_lt.mp hgap, badSeq_eq seq⟩)⟩, .same rfl⟩
    · exact ⟨⟨h.started, .inr (.inl (not_le.mp hrange))⟩, .same rfl⟩

end

theorem receivePacket_fst (hst : st.started = true) (now : ℕ) (seq : BitVec 16) (time : BitVec 32) :
    ∃ ts ms, (st.receivePacket now seq time).1 =
      { (st.updateSeq now seq time).1 with maxPacketTs := ts, maxPacketMs := ms } := by
  cases hupd : st.updateSeq now seq time with
  | mk st' valid =>
    cases valid with
    | false =>
      refine ⟨st'.maxPacketTs, st'.maxPacketMs, ?_⟩
      rw [receivePacket, hst, if_pos rfl, hupd]
    | true =>
      obtain ⟨ts, ms, hrecv⟩ := receivePacket_of_updateSeq hst hupd
      exact ⟨ts, ms, by rw [hrecv]⟩

theorem Tracks.receivePacket (h : st.Tracks last) (hseq : seq = last + 1 ∨ st.InResyncRange seq) (now : ℕ)
    (time : BitVec 32) : (st.receivePacket now seq time).1.Tracks seq ∧
      Expects st seq (st.receivePacket now seq time).1.getExpectedPackets := by
  obtain ⟨ts, ms, hrecv⟩ := receivePacket_fst h.started now seq time
  obtain ⟨htr, hexp⟩ := h.updateSeq hseq now time
  rw [hrecv]
  exact ⟨⟨htr.started, htr.position⟩, hexp⟩

theorem tracks_first (hseq : seq ≠ 0) (now : ℕ) (ts : BitVec 32) :
    (receivePacket now seq ts {}).1.Tracks seq ∧ (receivePacket now seq ts {}).1.getExpectedPackets = 1 := by
  obtain ⟨st, hrecv, hcons⟩ := receivePacket_first hseq now ts
  rw [hrecv]
  refine ⟨⟨hcons.started, .inl ?_⟩, hcons.expected⟩
  have hnext : st.maxSeq + 1 = seq + 1 := hcons.next
  bv_omega

end RtpStream

/-! ## Streams and their senders -/

namespace RtpStreamRecv

open NackGenerator (Trees)

structure Watched where
  s : State
  last : Option (BitVec 16) := none
  sentSinceScore : ℕ := 0
  sentSinceReport : ℕ := 0

namespace Watched

def follow (o : Watched) (s : State) : State.Event → Watched
  | .receivePacket _ _ packet _ =>
    { s, last := some packet.sequenceNumber
      sentSinceScore := o.sentSinceScore + 1, sentSinceReport := o.sentSinceReport + 1 }
  | .senderReport _ _ => { o with s, sentSinceScore := 0 }
  | .receiverReport _ _ => { o with s, sentSinceReport := 0 }
  | _ => { o with s }

def next (o : Watched) (event : State.Event) : Except Fault Watched := do
  let (s, _, _) ← o.s.step event
  return o.follow s event

def FromSender (o : Watched) : State.Event → Prop
  | .receivePacket _ _ packet _ =>
    ∀ last ∈ o.last, packet.sequenceNumber = last + 1 ∨ o.s.stream.InResyncRange packet.sequenceNumber
  | .senderReport _ _ => True
  | .receiverReport _ _ => True
  | _ => False

instance (o : Watched) : (event : State.Event) → Decidable (o.FromSender event)
  -- not the instance that goes through all numbers
  | .receivePacket _ _ _ _ => Option.decidableForallMem o.last
  | .senderReport _ _ => isTrue trivial
  | .receiverReport _ _ => isTrue trivial
  | .receiveRtxPacket _ _ _ _ => isFalse id
  | .rtxReceiverReport _ => isFalse id
  | .rtxSenderReport _ _ => isFalse id
  | .updateRtt _ => isFalse id
  | .requestKeyFrame => isFalse id
  | .setRtx _ _ => isFalse id
  | .pause => isFalse id
  | .nackTimer _ => isFalse id
  | .inactivityTimer => isFalse id

def Within (expected prior : BitVec 32) (sent : ℕ) : Prop := (expected - prior).toNat ≤ sent

instance (expected prior : BitVec 32) (sent : ℕ) : Decidable (Within expected prior sent) :=
  inferInstanceAs (Decidable (_ ≤ _))

def Harmless (o : Watched) : State.Event → Prop
  | .receivePacket _ _ packet _ =>
    (o.last = none → packet.sequenceNumber ≠ 0) ∧ (o.s.stream.Resyncs packet.sequenceNumber →
      Within (o.s.stream.cycles + 1) o.s.expectedPriorScore (o.sentSinceScore + 1) ∧
      Within (o.s.stream.cycles + 1) o.s.report.expectedPrior (o.sentSinceReport + 1))
  | .senderReport _ _ => o.last ≠ none
  | .receiverReport _ _ => o.last ≠ none
  | _ => True

instance (o : Watched) : (event : State.Event) → Decidable (o.Harmless event)
  | .receivePacket _ _ _ _ => inferInstanceAs (Decidable ((_ → _) ∧ (_ → _ ∧ _)))
  | .senderReport _ _ => inferInstanceAs (Decidable (o.last ≠ none))
  | .receiverReport _ _ => inferInstanceAs (Decidable (o.last ≠ none))
  | .receiveRtxPacket _ _ _ _ => isTrue trivial
  | .rtxReceiverReport _ => isTrue trivial
  | .rtxSenderReport _ _ => isTrue trivial
  | .updateRtt _ => isTrue trivial
  | .requestKeyFrame => isTrue trivial
  | .setRtx _ _ => isTrue trivial
  | .pause => isTrue trivial
  | .nackTimer _ => isTrue trivial
  | .inactivityTimer => isTrue trivial

def ExpectsSent (o : Watched) : State.Event → Prop
  | .senderReport _ _ =>
    Within o.s.stream.getExpectedPackets o.s.expectedPriorScore o.sentSinceScore
  | .receiverReport _ _ =>
    Within o.s.stream.getExpectedPackets o.s.report.expectedPrior o.sentSinceReport
  | _ => True

structure Inv (o : Watched) : Prop where
  new : o.last = none → o.s.stream = {} ∧ o.s.expectedPriorScore = 0 ∧ o.s.report.expectedPrior = 0
  tracks : ∀ last ∈ o.last, o.s.stream.Tracks last
  score : o.last ≠ none → Within o.s.stream.getExpectedPackets o.s.expectedPriorScore o.sentSinceScore
  report : o.last ≠ none → Within o.s.stream.getExpectedPackets o.s.report.expectedPrior o.sentSinceReport

theorem inv_new (params : RtpStreamRecv) : Inv { s := { params } } where
  new := fun _ => ⟨rfl, rfl, rfl⟩
  tracks := fun _ hlast => by cases hlast
  score := fun hlast => absurd rfl hlast
  report := fun hlast => absurd rfl hlast

theorem within_of_expects {str : RtpStream} {seq : BitVec 16} {exp prior : BitVec 32} {sent : ℕ}
    (h : Within str.getExpectedPackets prior sent)
    (hresync : str.Resyncs seq → Within (str.cycles + 1) prior (sent + 1)) (hexp : str.Expects seq exp) :
    Within exp prior (sent + 1) := by
  cases hexp with
  | same heq =>
    rw [heq]
    exact Nat.le_succ_of_le h
  | more heq =>
    unfold Within at h ⊢
    rw [heq]
    bv_omega
  | anew hseq heq =>
    rw [heq]
    exact hresync hseq

theorem Inv.next {o o' : Watched} {e : State.Event} (h : o.Inv) (hsend : o.FromSender e)
    (hcond : o.Harmless e) (hnext : o.next e = .ok o') : o'.Inv := by
  obtain ⟨⟨s, ps, ret⟩, hstep, hret⟩ := bind_eq_ok.mp hnext
  cases hret
  cases e with
  | receivePacket trees now p key =>
    obtain ⟨n, -, hsame, -⟩ := State.receivePacket_settled hstep
    have hs : s.stream = (o.s.stream.receivePacket now.toNat p.sequenceNumber
      p.timestamp).1 := (congrArg State.stream hsame :)
    have hprior : s.expectedPriorScore = o.s.expectedPriorScore :=
      (congrArg State.expectedPriorScore hsame :)
    have hreport : s.report = o.s.report := (congrArg State.report hsame :)
    -- what the packet does to the stream
    have hp : s.stream.Tracks p.sequenceNumber ∧
        Within s.stream.getExpectedPackets o.s.expectedPriorScore (o.sentSinceScore + 1) ∧
        Within s.stream.getExpectedPackets o.s.report.expectedPrior (o.sentSinceReport + 1) := by
      rw [hs]
      cases hlast : o.last with
      | none =>
        obtain ⟨hnil, hscore, hprior⟩ := h.new hlast
        obtain ⟨htr, hone⟩ := RtpStream.tracks_first (hcond.1 hlast) now.toNat p.timestamp
        rw [hnil, hone, hscore, hprior]
        exact ⟨htr, Nat.le_add_left 1 _, Nat.le_add_left 1 _⟩
      | some last =>
        have hsome : o.last ≠ none := by simp [hlast]
        obtain ⟨htr, hexp⟩ := (h.tracks last hlast).receivePacket (hsend last hlast)
          now.toNat p.timestamp
        exact ⟨htr, within_of_expects (h.score hsome) (fun hresync => (hcond.2 hresync).1) hexp,
          within_of_expects (h.report hsome) (fun hresync => (hcond.2 hresync).2) hexp⟩
    obtain ⟨htr, hscore, hrep⟩ := hp
    refine ⟨fun hnone => (by cases hnone), fun last hlast => ?_, fun _ => ?_, fun _ => ?_⟩
    · obtain rfl : p.sequenceNumber = last := Option.some.inj hlast
      exact htr
    · show Within s.stream.getExpectedPackets s.expectedPriorScore (o.sentSinceScore + 1)
      rw [hprior]
      exact hscore
    · show Within s.stream.getExpectedPackets s.report.expectedPrior (o.sentSinceReport + 1)
      rw [hreport]
      exact hrep
  | senderReport now r =>
    obtain ⟨s₁, hscore, hret⟩ := bind_eq_ok.mp hstep
    cases hret
    rw [State.updateScore_eq hscore]
    refine ⟨fun hnone => absurd hnone hcond, fun last hlast => ?_, fun _ => ?_, fun hsome => ?_⟩
    · exact h.tracks last hlast
    · show Within o.s.stream.getExpectedPackets o.s.stream.getExpectedPackets 0
      rw [Within, sub_self]
      rfl
    · exact h.report hsome
  | receiverReport now remote =>
    cases hstep
    refine ⟨fun hnone => absurd hnone hcond, h.tracks, h.score, fun _ => ?_⟩
    show Within o.s.stream.getExpectedPackets o.s.stream.getExpectedPackets 0
    rw [Within, sub_self]
    rfl
  | _ => exact hsend.elim

/-- **Restarts that fake no losses.** If every re-sync is harmless, then at every update of the
score and every report at most as many packets are expected in the interval as have been sent. -/
theorem restart_expects_sent (params : RtpStreamRecv) (events : List State.Event)
    (hsender : RunMeets next FromSender { s := { params } } events)
    (hcond : RunMeets next Harmless { s := { params } } events) :
    RunMeets next ExpectsSent { s := { params } } events := by
  refine (hsender.and hcond).imp_of_inv (J := Inv) (fun o event h hboth => ?_)
    (fun o event o' h hboth hnext => h.next hboth.1 hboth.2 hnext) (inv_new params)
  cases event with
  | senderReport nowMs report => exact h.score hboth.2
  | receiverReport nowMs remote => exact h.report hboth.2
  | _ => trivial

open Measured (senderReport)

theorem restart_expects_sent_first : RunMeets next ExpectsSent { s := { params := audio } } [audioPacket 1, senderReport,
      audioPacket 10000, audioPacket 10001, senderReport, .receiverReport 2000 0, audioPacket 10002,
      senderReport] :=
  restart_expects_sent audio [audioPacket 1, senderReport, audioPacket 10000, audioPacket 10001,
    senderReport, .receiverReport 2000 0, audioPacket 10002, senderReport] (by decide +kernel)
    (by decide +kernel)

/-- **A restart can fake losses.** After packets 1, 2 and 3, an update and a report, the sender goes
on with 10000 and 10001: `2 ^ 32 - 2` packets are expected next. -/
theorem restart_fakes_loss : RunMeets next FromSender { s := { params := audio } } [audioPacket 1, audioPacket 2,
      audioPacket 3, senderReport, .receiverReport 2000 0, audioPacket 10000, audioPacket 10001] ∧
    ∃ o, run next { s := { params := audio } } [audioPacket 1, audioPacket 2, audioPacket 3,
        senderReport, .receiverReport 2000 0, audioPacket 10000, audioPacket 10001] = .ok o ∧
      o.sentSinceScore = 2 ∧ (o.s.stream.getExpectedPackets - o.s.expectedPriorScore).toNat = 2 ^ 32 - 2 ∧
      o.sentSinceReport = 2 ∧ (o.s.stream.getExpectedPackets - o.s.report.expectedPrior).toNat = 2 ^ 32 - 2 ∧
      ¬ o.ExpectsSent senderReport ∧ ¬ o.ExpectsSent (.receiverReport 3000 0) := by
  refine ⟨by decide +kernel, _, rfl, by decide +kernel, by decide +kernel, by decide +kernel,
    by decide +kernel, ?_, ?_⟩
  · show ¬ Within _ _ _
    decide +kernel
  · show ¬ Within _ _ _
    decide +kernel

end Watched

end RtpStreamRecv
end MediasoupWorker.RTC
