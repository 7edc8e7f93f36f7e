import MediasoupWorker.RTC.RtpStreamRecv
import MediasoupWorker.RTC.RtpStreamSend

/-!
# A NACK from the receiver to the sender

`RtpStreamRecv::OnNackGeneratorNackRequired` packs a list of sequence numbers into the items of a NACK
packet, and `RtpStreamSend::ReceiveNack` expands each item with `FillRetransmissionContainer`.
-/

namespace MediasoupWorker.RTC

open Library
open RTCP (FeedbackRtpNackItem)

namespace RtpStreamSend

variable {n : ℕ} {s : RtpStreamSend n}

/-! ## What the sender counts -/

theorem requestPacket_counts (now : BitVec 64) (rtt seq : BitVec 16) :
    Meets (fun r => r.1.nackPacketCount = s.nackPacketCount) (fun _ => True)
      (s.requestPacket now rtt seq) := by
  rw [requestPacket]
  cases s.buffer seq with
  | none => rfl
  | some slot =>
    cases hp : (s.storage slot).packet with
    | none =>
      dsimp only
      rw [hp]
      trivial
    | some p =>
      dsimp only
      rw [hp]
      dsimp only
      split_ifs
      · trivial
      · rfl
      · rfl
      · rfl

theorem requestPackets_counts (now : BitVec 64) (rtt : BitVec 16) (seqs : List (BitVec 16)) :
    Meets (fun r => r.1.nackPacketCount = s.nackPacketCount) (fun _ => True)
      (s.requestPackets now rtt seqs) := by
  induction seqs generalizing s with
  | nil => rfl
  | cons seq seqs ih =>
    rw [requestPackets]
    refine Meets.bind (requestPacket_counts now rtt seq) fun r hr => ?_
    exact Meets.bind ih fun r' hr' => hr'.trans hr

theorem fillRetransmissionContainer_counts (now : BitVec 64) (rtt : BitVec 16) (item : FeedbackRtpNackItem) :
    Meets (fun r => r.1.nackPacketCount = s.nackPacketCount) (fun _ => True)
      (s.fillRetransmissionContainer now rtt item) := by
  rw [fillRetransmissionContainer]
  split_ifs
  · rfl
  · trivial
  · exact requestPackets_counts now rtt _

theorem retransmit_nackPacketCount (slots : List (Fin n)) :
    (s.retransmit slots).1.nackPacketCount = s.nackPacketCount := by
  induction slots generalizing s with
  | nil => rfl
  | cons slot slots ih => exact ih

section

variable (now : BitVec 64) (rtt : BitVec 16) (its : List FeedbackRtpNackItem)

theorem receiveNackItems_counts : Meets (fun r => r.1.nackPacketCount = s.nackPacketCount +
        (its.map FeedbackRtpNackItem.countRequestedPackets).sum) (fun _ => True)
      (s.receiveNackItems now rtt its) := by
  induction its generalizing s with
  | nil => rfl
  | cons item its ih =>
    rw [receiveNackItems]
    refine Meets.bind (fillRetransmissionContainer_counts now rtt item) fun r hr => ?_
    refine Meets.bind ih fun r' hr' => ?_
    have hn : r'.1.nackPacketCount = s.nackPacketCount + item.countRequestedPackets +
        (its.map FeedbackRtpNackItem.countRequestedPackets).sum := by
      rw [hr', retransmit_nackPacketCount, hr]
    show r'.1.nackPacketCount = _
    rw [hn, List.map_cons, List.sum_cons, add_assoc]

theorem receiveNack_counts : Meets (fun r => r.1.nackPacketCount = s.nackPacketCount +
        (its.flatMap FeedbackRtpNackItem.requestedSeqs).length) (fun _ => True)
      (s.receiveNack now rtt its) := by
  rw [← RTCP.sum_countRequestedPackets]
  exact receiveNackItems_counts now rtt its

end

end RtpStreamSend

/-! ## From the receiver to the sender -/

theorem onNackGeneratorNackRequired_eq {p : BitVec 16} {seqs : List (BitVec 16)}
    (hlist : IncreasingFrom p (2 ^ 15) seqs) {recv : RtpStreamRecv.State}
    (huse : recv.params.useNack = true) : recv.onNackGeneratorNackRequired seqs = .ok ({ recv with
        nackCount := recv.nackCount + 1
        nackPacketCount := recv.nackPacketCount + seqs.length },
        [.nack 0 recv.params.ssrc (RTCP.nackItems seqs)]) := by
  have hlen := RTCP.nackItems_length hlist
  have hfits : ¬ 12 + 4 * (RTCP.nackItems seqs).length > RtpStreamRecv.bufferSize := by
    rw [RtpStreamRecv.bufferSize]
    omega
  rw [RtpStreamRecv.State.onNackGeneratorNackRequired, huse, msAssert_true, ok_bind]
  dsimp only
  rw [if_neg hfits, RTCP.sum_countRequestedPackets, RTCP.nackItems_requestedSeqs hlist]
  rfl

/-- **NACK packing and expansion are inverse**: the items of the NACK packet expand to the list, and
both sides count as many packets. -/
theorem nack_round_trip {p : BitVec 16} {seqNumbers : List (BitVec 16)}
    (hlist : IncreasingFrom p (2 ^ 15) seqNumbers) (recv : RtpStreamRecv.State)
    (huse : recv.params.useNack = true) :
    ∃ items, recv.onNackGeneratorNackRequired seqNumbers = .ok ({ recv with
          nackCount := recv.nackCount + 1
          nackPacketCount := recv.nackPacketCount + seqNumbers.length }, [.nack 0 recv.params.ssrc items]) ∧
      items.flatMap FeedbackRtpNackItem.requestedSeqs = seqNumbers ∧ seqNumbers.Nodup ∧
      ∀ (n : ℕ) (send : RtpStreamSend n) (nowMs : BitVec 64) (rtt : BitVec 16),
        Meets (fun r => r.1.nackPacketCount = send.nackPacketCount + seqNumbers.length)
          (fun _ => True) (send.receiveNack nowMs rtt items) := by
  have hexpand := RTCP.nackItems_requestedSeqs hlist
  refine ⟨RTCP.nackItems seqNumbers, onNackGeneratorNackRequired_eq hlist huse, hexpand, ?_, ?_⟩
  · refine hlist.increasing.imp fun {a b} hlt => ?_
    rintro rfl
    exact Nat.lt_irrefl _ hlt
  · intro n send nowMs rtt
    have hcount := RtpStreamSend.receiveNack_counts (s := send) nowMs rtt (RTCP.nackItems seqNumbers)
    rw [hexpand] at hcount
    exact hcount

def nackedStream : RtpStreamRecv.State where
  params :=
    { encodingIdx := 0, ssrc := 1, payloadType := 96, mimeType := { type := .video, subtype := .vp8 },
      clockRate := 90000, rid := "", cname := "", useNack := true }

theorem nack_round_trip_wrap :
    ∃ items, Prod.snd <$> nackedStream.onNackGeneratorNackRequired [65534, 65535, 3, 40] =
        .ok [.nack 0 1 items] ∧ items.flatMap FeedbackRtpNackItem.requestedSeqs = [65534, 65535, 3, 40] := by
  have hlist : IncreasingFrom (65534 : BitVec 16) (2 ^ 15) [65534, 65535, 3, 40] :=
    ⟨by simp [cdist], by simp [cdist]⟩
  obtain ⟨items, hsent, hexpand, -⟩ := nack_round_trip hlist nackedStream rfl
  refine ⟨items, ?_, hexpand⟩
  rw [hsent]
  rfl

end MediasoupWorker.RTC
