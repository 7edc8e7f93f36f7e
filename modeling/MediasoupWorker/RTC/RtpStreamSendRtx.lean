import MediasoupWorker.RTC.RtpStreamSend

/-!
# Retransmissions with RTX

`src/src/RTC/RtpStreamSend.cpp`. A packet in the buffer is encoded for RTX when it is asked for the first
time, in place, and after that it only gets new sequence numbers. A stream is followed with the packets
last stored and the packets passed on.
-/

namespace MediasoupWorker.RTC

open Library List
open RTCP (FeedbackRtpNackItem)

namespace MediaPacket

theorem rtxDecode_rtxEncode (p : MediaPacket) (rtxPayloadType rtxSsrc : ℕ) (rtxSeq : BitVec 16)
    (pt ssrc : ℕ) : (p.rtxEncode rtxPayloadType rtxSsrc rtxSeq).rtxDecode pt ssrc =
      some { p with payloadType := pt % 2 ^ 7, ssrc, payloadPadding := 0 } := by
  have hseq : p.sequenceNumber.extractLsb' 8 8 ++ p.sequenceNumber.extractLsb' 0 8 = p.sequenceNumber :=
    BitVec.extractLsb'_append_extractLsb'
  rw [rtxEncode, rtxDecode]
  dsimp only
  rw [hseq]

end MediaPacket

namespace RtpStreamSend

variable {n : ℕ}

/-! ## A stream and its traffic -/

structure Answer where
  requested : List (BitVec 16)
  packets : List (Option MediaPacket)
  last : BitVec 16 → Option MediaPacket

structure Traffic (n : ℕ) where
  send : RtpStreamSend n
  last : BitVec 16 → Option MediaPacket := fun _ => none
  answers : List Answer := []

namespace Traffic

def new (params : Params) (rtxSeq : BitVec 16) : Traffic n where
  send := { params, rtxSeq }

def packets (t : Traffic n) : List (Option MediaPacket) := t.answers.flatMap Answer.packets

def step (t : Traffic n) : Event → Except Fault (Traffic n)
  | .storePacket packet => do
    let send ← t.send.next (.storePacket packet)
    return { t with
      send
      last := if t.send.ignores packet then t.last
        else Function.update t.last packet.sequenceNumber (some packet) }
  | .receiveNack nowMs rtt items => do
    let (send, packets) ← t.send.receiveNack nowMs rtt items
    let answer : Answer :=
      { requested := items.flatMap FeedbackRtpNackItem.requestedSeqs, packets, last := t.last }
    return { t with send, answers := t.answers ++ [answer] }
  | event => do
    let send ← t.send.next event
    return { t with send }

end Traffic

structure IsRetransmission (rtxPayloadType rtxSsrc : ℕ) (seq : BitVec 16)
    (stored packet : MediaPacket) : Prop where
  ssrc : packet.ssrc = rtxSsrc
  payloadType : packet.payloadType = rtxPayloadType % 2 ^ 7
  number : stored.sequenceNumber = seq
  decoded : ∀ payloadType ssrc, packet.rtxDecode payloadType ssrc =
    some { stored with payloadType := payloadType % 2 ^ 7, ssrc, payloadPadding := 0 }

def Answer.Faithful (rtxPayloadType rtxSsrc : ℕ) (answer : Answer) : Prop :=
  ∃ resent, resent.Sublist answer.requested ∧
    List.Forall₂ (fun seq packet => ∃ stored sent, answer.last seq = some stored ∧
      packet = some sent ∧ IsRetransmission rtxPayloadType rtxSsrc seq stored sent)
      resent answer.packets

def Follows (previous next : Option MediaPacket) : Prop :=
  next.map MediaPacket.sequenceNumber = previous.map fun packet => packet.sequenceNumber + 1

/-! ## The packets of an answer -/

section Resends

variable {rtxPayloadType rtxSsrc : ℕ} {last : BitVec 16 → Option MediaPacket}

def Resends (rtxPayloadType rtxSsrc : ℕ) (last : BitVec 16 → Option MediaPacket) :
    (rtxSeq : BitVec 16) → List (BitVec 16) → List (Option MediaPacket) → Prop
  | _, [], [] => True
  | rtxSeq, seq :: seqs, packet :: packets =>
    (∃ stored, last seq = some stored ∧ stored.sequenceNumber = seq ∧
      packet = some (stored.rtxEncode rtxPayloadType rtxSsrc (rtxSeq + 1))) ∧
    Resends rtxPayloadType rtxSsrc last (rtxSeq + 1) seqs packets
  | _, _, _ => False

variable {rtxSeq : BitVec 16} {seqs : List (BitVec 16)} {packets : List (Option MediaPacket)}

variable {ps' : List (Option MediaPacket)}

section

variable (h : Resends rtxPayloadType rtxSsrc last rtxSeq seqs packets)

include h

theorem Resends.append {seqs' : List (BitVec 16)}
    (h' : Resends rtxPayloadType rtxSsrc last (rtxSeq + BitVec.ofNat 16 packets.length) seqs'
      ps') : Resends rtxPayloadType rtxSsrc last rtxSeq (seqs ++ seqs') (packets ++ ps') := by
  induction packets generalizing rtxSeq seqs with
  | nil =>
    cases seqs with
    | nil =>
      rw [length_nil, BitVec.add_zero] at h'
      exact h'
    | cons seq seqs => exact h.elim
  | cons p packets ih =>
    cases seqs with
    | nil => exact h.elim
    | cons seq seqs =>
      refine ⟨h.1, ih h.2 ?_⟩
      rw [add_one_add_ofNat]
      exact h'

theorem Resends.forall₂ : List.Forall₂ (fun seq p => ∃ stored sent, last seq = some stored ∧ p = some sent ∧
      IsRetransmission rtxPayloadType rtxSsrc seq stored sent) seqs packets := by
  induction packets generalizing rtxSeq seqs with
  | nil =>
    cases seqs with
    | nil => exact .nil
    | cons seq seqs => exact h.elim
  | cons p packets ih =>
    cases seqs with
    | nil => exact h.elim
    | cons seq seqs =>
      obtain ⟨⟨stored, hlast, hseq, hp⟩, hrest⟩ := h
      refine .cons ⟨stored, _, hlast, hp, ⟨rfl, rfl, hseq, fun pt ssrc => ?_⟩⟩ (ih hrest)
      exact stored.rtxDecode_rtxEncode ..

end

def NumberedFrom : (rtxSeq : BitVec 16) → List (Option MediaPacket) → Prop
  | _, [] => True
  | rtxSeq, packet :: packets =>
    packet.map MediaPacket.sequenceNumber = some (rtxSeq + 1) ∧ NumberedFrom (rtxSeq + 1) packets

theorem NumberedFrom.append (h : NumberedFrom rtxSeq packets)
    (h' : NumberedFrom (rtxSeq + BitVec.ofNat 16 packets.length) ps') :
    NumberedFrom rtxSeq (packets ++ ps') := by
  induction packets generalizing rtxSeq with
  | nil =>
    rw [length_nil, BitVec.add_zero] at h'
    exact h'
  | cons p packets ih =>
    refine ⟨h.1, ih h.2 ?_⟩
    rw [add_one_add_ofNat]
    exact h'

theorem NumberedFrom.isChain (h : NumberedFrom rtxSeq packets) : packets.IsChain Follows := by
  induction packets generalizing rtxSeq with
  | nil => exact .nil
  | cons p packets ih =>
    obtain ⟨hp, hrest⟩ := h
    cases packets with
    | nil => exact .singleton p
    | cons next packets =>
      refine .cons_cons ?_ (ih hrest)
      obtain ⟨sent, rfl, hsent⟩ := Option.map_eq_some_iff.mp hp
      rw [Follows, hrest.1, Option.map_some, hsent]

theorem Resends.numberedFrom (h : Resends rtxPayloadType rtxSsrc last rtxSeq seqs packets) :
    NumberedFrom rtxSeq packets := by
  induction packets generalizing rtxSeq seqs with
  | nil => trivial
  | cons p packets ih =>
    cases seqs with
    | nil => exact h.elim
    | cons seq seqs =>
      obtain ⟨⟨stored, -, -, rfl⟩, hrest⟩ := h
      exact ⟨rfl, ih hrest⟩

end Resends

/-! ## NACKs -/

section Nack

variable {params : Params} {rtxPayloadType rtxSsrc : ℕ} {last : BitVec 16 → Option MediaPacket}
  {s : RtpStreamSend n}

theorem Buffered.resend_packet (h : Buffered params (fun seq => (last seq).toList) s)
    (hrtx : params.rtx = some (rtxPayloadType, rtxSsrc)) {seq : BitVec 16} {slot : Fin n} {p : MediaPacket}
    (hslot : s.buffer seq = some slot) (hp : (s.storage slot).packet = some p) (now : BitVec 64) :
    (s.resend now slot p).rtxSeq = s.rtxSeq + 1 ∧
    ∃ stored, last seq = some stored ∧ stored.sequenceNumber = seq ∧
      ((s.resend now slot p).storage slot).packet =
        some (stored.rtxEncode rtxPayloadType rtxSsrc (s.rtxSeq + 1)) := by
  have hholds := h.holds seq slot hslot
  rw [← h.configured] at hholds hrtx
  obtain ⟨stored, hmem, hseq, heq⟩ := hholds.retransmitted_eq hp hrtx
  refine ⟨congrArg (·.2.1) heq, stored, Option.mem_toList.mp hmem, hseq, ?_⟩
  rw [resend_storage_self, heq]

variable {s' : RtpStreamSend n}

section

variable (hrtx : params.rtx = some (rtxPayloadType, rtxSsrc)) (now : BitVec 64) (rtt : BitVec 16)

include hrtx now rtt

theorem requestPackets_resends {seqs : List (BitVec 16)} (hnd : seqs.Nodup)
    (h : Buffered params (fun seq => (last seq).toList) s) {slots : List (Fin n)}
    (hs' : s.requestPackets now rtt seqs = .ok (s', slots)) :
    Buffered params (fun seq => (last seq).toList) s' ∧
    (∀ seq slot, seq ∉ seqs → s.buffer seq = some slot → s'.storage slot = s.storage slot) ∧
    s'.rtxSeq = s.rtxSeq + BitVec.ofNat 16 slots.length ∧
    ∃ resent, resent.Sublist seqs ∧ Resends rtxPayloadType rtxSsrc last s.rtxSeq resent
      (slots.map fun slot => (s'.storage slot).packet) := by
  induction seqs generalizing s slots with
  | nil =>
    cases hs'
    exact ⟨h, fun _ _ _ _ => rfl, (add_zero _).symm, [], .slnil, trivial⟩
  | cons seq seqs ih =>
    obtain ⟨hseq, hnd⟩ := nodup_cons.mp hnd
    obtain ⟨⟨s₁, slots₁⟩, h₁, hs'⟩ := bind_eq_ok.mp hs'
    obtain ⟨⟨s₂, slots₂⟩, h₂, hs'⟩ := bind_eq_ok.mp hs'
    cases hs'
    obtain hsame | ⟨slot, p, hslot, hp, hrs⟩ | ⟨-, hfault⟩ :=
      requestPacket_cases h now rtt seq
    · cases hsame.symm.trans h₁
      obtain ⟨hbuf, hframe, hnum, resent, hsub, hresends⟩ := ih hnd h h₂
      refine ⟨hbuf, fun q slot hq => ?_, hnum, resent, hsub.cons seq, hresends⟩
      exact hframe q slot fun hmem => hq (mem_cons_of_mem _ hmem)
    · cases hrs.symm.trans h₁
      obtain ⟨hbuf, hframe, hnum, resent, hsub, hresends⟩ :=
        ih hnd (h.resend hslot hp now) h₂
      obtain ⟨hrtxSeq, stored, hlast, hst, henc⟩ :=
        h.resend_packet hrtx hslot hp now
      rw [hrtxSeq] at hnum hresends
      refine ⟨hbuf, fun q slot' hq hslot' => ?_, ?_, seq :: resent, hsub.cons_cons seq, ?_, hresends⟩
      · rw [mem_cons, not_or] at hq
        obtain ⟨hne, hq⟩ := hq
        rw [hframe q slot' hq hslot']
        refine resend_storage_of_ne ?_ now p s
        rintro rfl
        exact hne (h.slots.inj q seq _ hslot' hslot)
      · rw [hnum, add_one_add_ofNat, singleton_append, length_cons]
      · -- the numbers that follow have other slots
        refine ⟨stored, hlast, hst, ?_⟩
        dsimp only
        rw [hframe seq slot hseq hslot, henc]
    · cases hfault.symm.trans h₁

theorem fillRetransmissionContainer_resends {item : FeedbackRtpNackItem}
    (h : Buffered params (fun seq => (last seq).toList) s) {slots : List (Fin n)}
    (hs' : s.fillRetransmissionContainer now rtt item = .ok (s', slots)) :
    Buffered params (fun seq => (last seq).toList) s' ∧ s'.rtxSeq = s.rtxSeq + BitVec.ofNat 16 slots.length ∧
    ∃ resent, resent.Sublist item.requestedSeqs ∧ Resends rtxPayloadType rtxSsrc last s.rtxSeq resent
      (slots.map fun slot => (s'.storage slot).packet) := by
  rw [fillRetransmissionContainer] at hs'
  split_ifs at hs' with hnack hzero
  · cases hs'
    exact ⟨h, (add_zero _).symm, [], nil_sublist _, trivial⟩
  · obtain ⟨hbuf, -, hnum, hrs⟩ :=
      requestPackets_resends hrtx now rtt item.requestedSeqs_nodup h hs'
    exact ⟨hbuf, hnum, hrs⟩

end

variable {its : List FeedbackRtpNackItem} {packets : List (Option MediaPacket)}

variable (hrtx : params.rtx = some (rtxPayloadType, rtxSsrc))

include hrtx

theorem receiveNackItems_resends (now : BitVec 64) (rtt : BitVec 16)
    (h : Buffered params (fun seq => (last seq).toList) s)
    (hs' : s.receiveNackItems now rtt its = .ok (s', packets)) :
    Buffered params (fun seq => (last seq).toList) s' ∧
    s'.rtxSeq = s.rtxSeq + BitVec.ofNat 16 packets.length ∧
    ∃ resent, resent.Sublist (its.flatMap FeedbackRtpNackItem.requestedSeqs) ∧
      Resends rtxPayloadType rtxSsrc last s.rtxSeq resent packets := by
  induction its generalizing s packets with
  | nil =>
    cases hs'
    exact ⟨h, (add_zero _).symm, [], .slnil, trivial⟩
  | cons item its ih =>
    obtain ⟨⟨s₁, slots⟩, h₁, hs'⟩ := bind_eq_ok.mp hs'
    obtain ⟨⟨s₂, ps₂⟩, h₂, hs'⟩ := bind_eq_ok.mp hs'
    rw [retransmit_eq] at h₂ hs'
    cases hs'
    have hcnt : Buffered params (fun seq => (last seq).toList)
        { s with nackPacketCount := s.nackPacketCount + item.countRequestedPackets } :=
      h.congr rfl rfl rfl rfl
    obtain ⟨hbuf, hnum, resent, hsub, hresends⟩ :=
      fillRetransmissionContainer_resends hrtx now rtt hcnt h₁
    obtain ⟨hbuf', hnum', resent', hsub', hresends'⟩ :=
      ih (by exact hbuf.congr rfl rfl rfl rfl) h₂
    rw [hnum] at hnum' hresends'
    refine ⟨hbuf', ?_, resent ++ resent', hsub.append hsub', hresends.append ?_⟩
    · rw [hnum', length_append, length_map, BitVec.ofNat_add, add_assoc]
    · rw [length_map]
      exact hresends'

/-- **A NACK is answered** with the packets that were stored last, encoded for RTX, in the order of the
request. -/
theorem receiveNack_resends {now : BitVec 64} {rtt : BitVec 16}
    (h : Buffered params (fun seq => (last seq).toList) s)
    (hs' : s.receiveNack now rtt its = .ok (s', packets)) :
    Buffered params (fun seq => (last seq).toList) s' ∧
    s'.rtxSeq = s.rtxSeq + BitVec.ofNat 16 packets.length ∧
    ∃ resent, resent.Sublist (its.flatMap FeedbackRtpNackItem.requestedSeqs) ∧
      Resends rtxPayloadType rtxSsrc last s.rtxSeq resent packets :=
  receiveNackItems_resends (s := { s with nackCount := s.nackCount + 1 }) hrtx now rtt
    (h.congr rfl rfl rfl rfl) hs'

end Nack

/-! ## Runs -/

structure Traffic.Sound (params : Params) (rtxPayloadType rtxSsrc : ℕ) (rtxSeq : BitVec 16)
    (t : Traffic n) : Prop where
  buffered : Buffered params (fun seq => (t.last seq).toList) t.send
  numbered : NumberedFrom rtxSeq t.packets
  next : t.send.rtxSeq = rtxSeq + BitVec.ofNat 16 t.packets.length
  answered : ∀ answer ∈ t.answers, answer.Faithful rtxPayloadType rtxSsrc

section Runs

variable {params : Params} {rtxPayloadType rtxSsrc : ℕ} {rtxSeq : BitVec 16} {t t' : Traffic n}

theorem Traffic.sound_new :
    (Traffic.new params rtxSeq : Traffic n).Sound params rtxPayloadType rtxSsrc rtxSeq where
  buffered := buffered_new params rtxSeq _
  numbered := trivial
  next := (add_zero _).symm
  answered := fun _ hmem => absurd hmem not_mem_nil

theorem Traffic.Sound.storePacket (h : t.Sound params rtxPayloadType rtxSsrc rtxSeq) {p : MediaPacket}
    (ht' : t.step (.storePacket p) = .ok t') : t'.Sound params rtxPayloadType rtxSsrc rtxSeq := by
  obtain ⟨send, hsend, ht'⟩ := bind_eq_ok.mp ht'
  cases ht'
  rw [RtpStreamSend.next] at hsend
  split_ifs at hsend with hn
  · obtain ⟨hignores, hsame⟩ | ⟨hignores, slot, s', hs', hst, -⟩ | ⟨-, -, f, hfault⟩ :=
      storePacket_cases hn h.buffered p
    · cases hsame.symm.trans hsend
      rw [hignores, if_pos rfl]
      exact h
    · cases hs'.symm.trans hsend
      rw [hignores, if_neg Bool.false_ne_true]
      refine ⟨h.buffered.of_stored hst ?_ fun seq hne => ?_, h.numbered, hst.rtxSeq.trans h.next, h.answered⟩
      · dsimp only
        rw [Function.update_self]
        exact mem_singleton_self p
      · dsimp only
        rw [Function.update_of_ne hne]
        exact List.Subset.refl _
    · cases hfault.symm.trans hsend
  · -- without slots there are no entries either
    cases hsend
    obtain rfl : n = 0 := by omega
    refine ⟨⟨h.buffered.configured, h.buffered.slots, fun seq slot => slot.elim0,
      h.buffered.free⟩, h.numbered, h.next, h.answered⟩

section

variable (hrtx : params.rtx = some (rtxPayloadType, rtxSsrc))
  (h : t.Sound params rtxPayloadType rtxSsrc rtxSeq)

include hrtx h

theorem Traffic.Sound.receiveNack {now : BitVec 64} {rtt : BitVec 16} {items : List FeedbackRtpNackItem}
    (ht' : t.step (.receiveNack now rtt items) = .ok t') : t'.Sound params rtxPayloadType rtxSsrc rtxSeq := by
  obtain ⟨⟨send, packets⟩, hsend, ht'⟩ := bind_eq_ok.mp ht'
  cases ht'
  obtain ⟨hbuf, hnum, resent, hsub, hresends⟩ := receiveNack_resends hrtx h.buffered hsend
  have hps : ∀ answer : Answer, (t.answers ++ [answer]).flatMap Answer.packets =
      t.packets ++ answer.packets := by
    intro answer
    rw [flatMap_append, flatMap_singleton]
    rfl
  refine ⟨hbuf, ?_, ?_, fun answer hmem => ?_⟩
  · rw [Traffic.packets, hps]
    refine h.numbered.append ?_
    rw [← h.next]
    exact hresends.numberedFrom
  · rw [Traffic.packets, hps]
    rw [hnum, h.next, length_append, BitVec.ofNat_add, add_assoc]
  · rcases mem_append.mp hmem with hold | hnew
    · exact h.answered answer hold
    · rw [mem_singleton.mp hnew]
      exact ⟨resent, hsub, hresends.forall₂⟩

theorem Traffic.step_sound {e : Event} (ht' : t.step e = .ok t') :
    t'.Sound params rtxPayloadType rtxSsrc rtxSeq := by
  cases e with
  | received now seq ts =>
    obtain ⟨send, hsend, ht'⟩ := bind_eq_ok.mp ht'
    cases ht'
    cases hsend
    exact ⟨h.buffered.congr rfl rfl rfl rfl, h.numbered, h.next, h.answered⟩
  | storePacket p => exact h.storePacket ht'
  | receiveNack now rtt items => exact h.receiveNack hrtx ht'
  | clearBuffer =>
    obtain ⟨send, hsend, ht'⟩ := bind_eq_ok.mp ht'
    cases ht'
    obtain ⟨s', hs', hbuf, hrtxSeq, -⟩ := clearBuffer_spec h.buffered
    cases hs'.symm.trans hsend
    exact ⟨hbuf, h.numbered, hrtxSeq.trans h.next, h.answered⟩

end

/-- **Retransmissions are faithful**, however often a packet is asked for: packets of the RTX stream
for requested numbers in their order, which decode to the packet last stored there, without padding.
RTX sequence numbers go up by one. -/
theorem retransmissions_faithful {params : Params} {rtxPayloadType rtxSsrc : ℕ}
    (hrtx : params.rtx = some (rtxPayloadType, rtxSsrc)) (rtxSeq : BitVec 16) (events : List Event)
    {t : Traffic n} (hrun : run Traffic.step (Traffic.new params rtxSeq) events = .ok t) :
    (∀ answer ∈ t.answers, answer.Faithful rtxPayloadType rtxSsrc) ∧ t.packets.IsChain Follows := by
  have hsound : t.Sound params rtxPayloadType rtxSsrc rtxSeq :=
    inv_of_run_ok (fun _ _ _ h => Traffic.step_sound hrtx h) Traffic.sound_new hrun
  exact ⟨hsound.answered, hsound.numbered.isChain⟩

end Runs

def twoNacks : List Event :=
  [.received 900 7 3000, .storePacket (videoPacket 7), .storePacket (videoPacket 8),
    .receiveNack 1000 100 [⟨7, 1⟩], .receiveNack 2000 100 [⟨7, 0⟩]]

theorem retransmissions_faithful_twoNacks :
    ∃ t : Traffic 2, run Traffic.step (Traffic.new rtxParams 65534) twoNacks = .ok t ∧
      t.packets.length = 3 ∧ (∀ answer ∈ t.answers, answer.Faithful 97 1112) ∧ t.packets.IsChain Follows := by
  obtain ⟨t, hrun, hlength⟩ : ∃ t : Traffic 2,
      run Traffic.step (Traffic.new rtxParams 65534) twoNacks = .ok t ∧ t.packets.length = 3 :=
    ⟨_, rfl, rfl⟩
  exact ⟨t, hrun, hlength, retransmissions_faithful rfl 65534 twoNacks hrun⟩

end RtpStreamSend

end MediasoupWorker.RTC
