import MediasoupWorker.RTC.RTCP.ReceiverReport
import MediasoupWorker.RTC.RtpStreamSend

/-!
# `RtpStreamSend`: repaired packets and the score of a sent stream

`src/src/RTC/RtpStreamSend.cpp`. A retransmitted packet counts as repaired if it has been sent once, by a
counter of 8 bits. `UpdateScore` asserts that no more packets were repaired than retransmitted since the
last report.
-/

namespace MediasoupWorker.RTC

open Library Function BitVec List
open RTCP (FeedbackRtpNackItem ReceiverReport)

namespace RtpStreamSend

variable {n : ℕ}

/-! ## The books of a stream -/

structure Books (n : ℕ) where
  generation : Fin n → ℕ := fun _ => 0
  resent : List (Fin n × ℕ) := []
  repaired : List (Fin n × ℕ) := []

namespace Books

def packetIn (b : Books n) (slot : Fin n) : Fin n × ℕ := (slot, b.generation slot)

def retransmit (b : Books n) (s : RtpStreamSend n) (slots : List (Fin n)) : Books n :=
  { b with
    resent := b.resent ++ slots.map b.packetIn
    repaired := b.repaired ++ (slots.filter fun slot => (s.storage slot).sentTimes = 1).map b.packetIn }

def receiveNackItems (nowMs : BitVec 64) (rtt : BitVec 16) :
    List FeedbackRtpNackItem → RtpStreamSend n → Books n → Books n
  | [], _, b => b
  | item :: items, s, b =>
    let s := { s with nackPacketCount := s.nackPacketCount + item.countRequestedPackets }
    match s.fillRetransmissionContainer nowMs rtt item with
    | .error _ => b
    | .ok (s, slots) => receiveNackItems nowMs rtt items (s.retransmit slots).1 (b.retransmit s slots)

def next (b : Books n) (s s' : RtpStreamSend n) : Event → Books n
  | .storePacket packet =>
    match s'.buffer packet.sequenceNumber with
    | none => b
    | some slot =>
      if s.ignores packet then b
      else { b with generation := Function.update b.generation slot (b.generation slot + 1) }
  | .receiveNack nowMs rtt items =>
    b.receiveNackItems nowMs rtt items { s with nackCount := s.nackCount + 1 }
  | _ => b

end Books

structure Scored (n : ℕ) where
  send : RtpStreamSend n
  books : Books n := {}
  packetCount : ℕ := 0
  lostPriorScore : BitVec 32 := 0
  sentPriorScore : BitVec 32 := 0
  repairedPriorScore : ℕ := 0
  retransmittedPriorScore : ℕ := 0

namespace Scored

/-! The numbers of packets since the last report. -/

def sent (c : Scored n) : BitVec 64 := BitVec.ofNat 64 c.packetCount - c.sentPriorScore.setWidth 64

def totalLost (report : ReceiverReport) : BitVec 32 :=
  if 0 < report.getTotalLost.toInt then report.getTotalLost else 0

def lost (report : ReceiverReport) (c : Scored n) : BitVec 32 :=
  let lost := if totalLost report < c.lostPriorScore then 0 else totalLost report - c.lostPriorScore
  if lost.setWidth 64 > c.sent then c.sent.setWidth 32 else lost

def repaired (c : Scored n) : BitVec 32 :=
  BitVec.ofNat 32 c.send.packetsRepaired - BitVec.ofNat 32 c.repairedPriorScore

def retransmitted (c : Scored n) : BitVec 32 :=
  BitVec.ofNat 32 c.send.packetsRetransmitted - BitVec.ofNat 32 c.retransmittedPriorScore

def updateScore (report : ReceiverReport) (c : Scored n) : Except Fault (Scored n) :=
  let c' := { c with
    sentPriorScore := BitVec.ofNat 32 c.packetCount
    lostPriorScore := totalLost report
    repairedPriorScore := c.send.packetsRepaired
    retransmittedPriorScore := c.send.packetsRetransmitted }
  if c.sent = 0 then .ok c'
  else do
    let repaired := if c.repaired > c.lost report then c.lost report else c.repaired
    msAssert (repaired ≤ c.retransmitted) "repaired packets cannot be more than retransmitted ones"
    return c'

inductive Event where
  | stream (event : RtpStreamSend.Event)
  | receiverReport (report : ReceiverReport)

def transmitted (s : RtpStreamSend n) : RtpStreamSend.Event → ℕ
  | .received nowMs seq timestamp => (s.stream.receivePacket nowMs.toNat seq timestamp).2.toNat
  | _ => 0

def next (c : Scored n) : Event → Except Fault (Scored n)
  | .stream event => do
    let send ← c.send.next event
    return { c with
      send
      books := c.books.next c.send send event
      packetCount := c.packetCount + transmitted c.send event }
  | .receiverReport report => c.updateScore report

def ShortInterval (c : Scored n) : Event → Prop
  | .stream _ => True
  | .receiverReport _ => c.send.packetsRetransmitted < c.retransmittedPriorScore + 2 ^ 32

instance (c : Scored n) : (event : Event) → Decidable (c.ShortInterval event)
  | .stream _ => isTrue trivial
  | .receiverReport _ => inferInstanceAs (Decidable (_ < _))

def Asserted (c : Scored n) : Event → Prop
  | .stream _ => True
  | .receiverReport report => ∃ c', c.updateScore report = .ok c'

structure Accounted (c : Scored n) : Prop where
  retransmitted : c.send.packetsRetransmitted = c.books.resent.length
  repaired : c.send.packetsRepaired = c.books.repaired.length
  once : ∀ packet, c.books.repaired.count packet ≤ 1 ↔ c.books.resent.count packet ≤ 256
  interval : c.send.packetsRepaired - c.repairedPriorScore ≤
    c.send.packetsRetransmitted - c.retransmittedPriorScore

end Scored

/-! ## Retransmissions -/

section Booked

variable {s s' s'' : RtpStreamSend n} {params : Params} {recorded : BitVec 16 → List MediaPacket}
  {b : Books n} {slots slots' : List (Fin n)} {now : BitVec 64} {rtt : BitVec 16}

structure Resent (slots : List (Fin n)) (s s' : RtpStreamSend n) : Prop where
  buffer : s'.buffer = s.buffer
  retransmitted : s'.packetsRetransmitted = s.packetsRetransmitted
  repaired : s'.packetsRepaired = s.packetsRepaired
  used : ∀ slot ∈ slots, (s.storage slot).packet ≠ none
  packets : ∀ slot, (s'.storage slot).packet ≠ none → (s.storage slot).packet ≠ none
  times : ∀ slot, (s'.storage slot).sentTimes = (s.storage slot).sentTimes + BitVec.ofNat 8 (slots.count slot)

theorem Resent.refl (s : RtpStreamSend n) : Resent [] s s where
  buffer := rfl
  retransmitted := rfl
  repaired := rfl
  used := by simp
  packets := fun _ h => h
  times := fun _ => (add_zero _).symm

theorem Resent.trans (h : Resent slots s s') (h' : Resent slots' s' s'') :
    Resent (slots ++ slots') s s'' where
  buffer := h'.buffer.trans h.buffer
  retransmitted := h'.retransmitted.trans h.retransmitted
  repaired := h'.repaired.trans h.repaired
  used := 
    forall_mem_append.mpr ⟨h.used, fun slot hslot => h.packets slot (h'.used slot hslot)⟩
  packets := fun slot hp => h.packets slot (h'.packets slot hp)
  times := by
    intro slot
    rw [h'.times, h.times, count_append, ofNat_add, add_assoc]

variable {slot : Fin n} {packet : MediaPacket}

theorem resent_resend (hp : (s.storage slot).packet = some packet) (now : BitVec 64) :
    Resent [slot] s (s.resend now slot packet) where
  buffer := rfl
  retransmitted := rfl
  repaired := rfl
  used := by simp [hp]
  packets := by
    intro slot' hp'
    by_cases hslot : slot' = slot
    · simp [hslot, hp]
    · rw [resend_storage_of_ne hslot] at hp'
      exact hp'
  times := by
    intro slot'
    by_cases hslot : slot' = slot
    · rw [hslot, resend_storage_self, count_singleton_self]
      rfl
    · rw [resend_storage_of_ne hslot, count_singleton, if_neg (by simpa using Ne.symm hslot)]
      exact (add_zero _).symm

theorem requestPackets_resent {seqs : List (BitVec 16)} (hnd : seqs.Nodup) (h : Buffered params recorded s)
    (hs' : s.requestPackets now rtt seqs = .ok (s', slots)) :
    Buffered params recorded s' ∧ Resent slots s s' ∧ slots.Nodup ∧
      ∀ slot ∈ slots, ∃ seq ∈ seqs, s.buffer seq = some slot := by
  induction seqs generalizing s slots with
  | nil =>
    cases hs'
    exact ⟨h, .refl _, nodup_nil, by simp⟩
  | cons seq seqs ih =>
    obtain ⟨hseq, hnd⟩ := nodup_cons.mp hnd
    obtain ⟨⟨s₁, slots₁⟩, h₁, hs'⟩ := bind_eq_ok.mp hs'
    obtain ⟨⟨s₂, slots₂⟩, h₂, hs'⟩ := bind_eq_ok.mp hs'
    cases hs'
    obtain hsame | ⟨slot, packet, hslot, hp, hrs⟩ | ⟨-, hfault⟩ :=
      requestPacket_cases h now rtt seq
    · cases hsame.symm.trans h₁
      obtain ⟨hbuf, hrs, hdist, hes⟩ := ih hnd h h₂
      refine ⟨hbuf, hrs, hdist, fun slot hslot => ?_⟩
      obtain ⟨seq', hseq', hentry⟩ := hes slot hslot
      exact ⟨seq', mem_cons_of_mem _ hseq', hentry⟩
    · cases hrs.symm.trans h₁
      obtain ⟨hbuf, hrs, hdist, hes⟩ := ih hnd (h.resend hslot hp now) h₂
      refine ⟨hbuf, (resent_resend hp now).trans hrs, ?_, ?_⟩
      · -- the slots that follow belong to other numbers
        refine nodup_cons.mpr ⟨fun hmem => ?_, hdist⟩
        obtain ⟨seq', hseq', hentry⟩ := hes slot hmem
        exact hseq (h.slots.inj seq' seq slot hentry hslot ▸ hseq')
      · refine forall_mem_cons.mpr ⟨⟨seq, mem_cons_self, hslot⟩, fun slot' hslot' => ?_⟩
        obtain ⟨seq', hseq', hentry⟩ := hes slot' hslot'
        exact ⟨seq', mem_cons_of_mem _ hseq', hentry⟩
    · cases hfault.symm.trans h₁

theorem fillRetransmissionContainer_resent {item : FeedbackRtpNackItem} (h : Buffered params recorded s)
    (hs' : s.fillRetransmissionContainer now rtt item = .ok (s', slots)) :
    Buffered params recorded s' ∧ Resent slots s s' ∧ slots.Nodup := by
  rw [fillRetransmissionContainer] at hs'
  split_ifs at hs' with hnack hzero
  · cases hs'
    exact ⟨h, .refl s, nodup_nil⟩
  · obtain ⟨hbuf, hrs, hdist, -⟩ := requestPackets_resent item.requestedSeqs_nodup h hs'
    exact ⟨hbuf, hrs, hdist⟩

structure Booked (s : RtpStreamSend n) (b : Books n) : Prop where
  buffered : ∃ params recorded, Buffered params recorded s
  retransmitted : s.packetsRetransmitted = b.resent.length
  repaired : s.packetsRepaired = b.repaired.length
  later : ∀ slot generation, b.generation slot < generation → b.resent.count (slot, generation) = 0
  times : ∀ slot, (s.storage slot).packet ≠ none →
    (s.storage slot).sentTimes = BitVec.ofNat 8 (b.resent.count (b.packetIn slot))
  counts : ∀ packet, b.repaired.count packet = (b.resent.count packet + 255) / 256

theorem booked_new (params : Params) : Booked ({ params } : RtpStreamSend n) {} where
  buffered := ⟨params, fun _ => [], buffered_new params 0 _⟩
  retransmitted := rfl
  repaired := rfl
  later := fun _ _ _ => rfl
  times := fun _ hp => absurd rfl hp
  counts := fun _ => by simp

theorem Books.count_packetIn (b : Books n) (slots : List (Fin n)) (slot : Fin n) (gen : ℕ) :
    (slots.map b.packetIn).count (slot, gen) =
      if gen = b.generation slot then slots.count slot else 0 := by
  split_ifs with hgen
  · rw [hgen]
    exact count_map_of_injective slots b.packetIn (fun _ _ h => congrArg Prod.fst h) slot
  · rw [count_eq_zero, mem_map]
    rintro ⟨slot', -, hsame⟩
    cases hsame
    exact hgen rfl

theorem count_first (hdist : slots.Nodup) {cnt : ℕ}
    (htimes : slot ∈ slots → (s.storage slot).sentTimes = BitVec.ofNat 8 (cnt + 1)) :
    (cnt + 255) / 256 + (slots.filter fun slot => (s.storage slot).sentTimes = 1).count slot =
      (cnt + slots.count slot + 255) / 256 := by
  by_cases hslot : slot ∈ slots
  · have hmod : (s.storage slot).sentTimes = 1 ↔ (cnt + 1) % 256 = 1 := by
      rw [htimes hslot, ← BitVec.toNat_inj, BitVec.toNat_ofNat]
      rfl
    rw [count_eq_one_of_mem hdist hslot]
    by_cases hfirst : (s.storage slot).sentTimes = 1
    · rw [count_filter (p := fun slot => (s.storage slot).sentTimes = 1) (decide_eq_true hfirst),
        count_eq_one_of_mem hdist hslot]
      have := hmod.mp hfirst
      omega
    · rw [count_eq_zero.mpr fun hmem => hfirst (by simpa using (mem_filter.mp hmem).2)]
      have := mt hmod.mpr hfirst
      omega
  · rw [count_eq_zero.mpr hslot, count_eq_zero.mpr fun hmem => hslot (mem_filter.mp hmem).1]
    rfl

/-- **The packets of a container** are entered into the books. -/
theorem Booked.retransmit (h : Booked s b) (hbuf : Buffered params recorded s') (hrs : Resent slots s s')
    (hdist : slots.Nodup) : Booked (s'.retransmit slots).1 (b.retransmit s' slots) := by
  rw [retransmit_eq]
  refine ⟨⟨params, recorded, hbuf.congr rfl rfl rfl rfl⟩, ?_, ?_, ?_, ?_, ?_⟩
  · show s'.packetsRetransmitted + slots.length = _
    rw [hrs.retransmitted, h.retransmitted, Books.retransmit, length_append, length_map]
  · show s'.packetsRepaired + _ = _
    rw [hrs.repaired, h.repaired, Books.retransmit, length_append, length_map]
  · intro slot gen hlater
    show (b.resent ++ _).count _ = 0
    rw [count_append, h.later slot gen hlater, b.count_packetIn, zero_add]
    exact if_neg hlater.ne'
  · intro slot hp
    show (s'.storage slot).sentTimes = BitVec.ofNat 8 ((b.resent ++ _).count (slot, b.generation slot))
    rw [count_append, b.count_packetIn, if_pos rfl, BitVec.ofNat_add, hrs.times,
      h.times slot (hrs.packets slot hp)]
    rfl
  · rintro ⟨slot, gen⟩
    show (b.repaired ++ _).count _ = ((b.resent ++ _).count _ + 255) / 256
    rw [count_append, count_append, b.count_packetIn, b.count_packetIn, h.counts (slot, gen)]
    split_ifs with hgen
    · refine count_first hdist fun hslot => ?_
      rw [hrs.times, h.times slot (hrs.used slot hslot), count_eq_one_of_mem hdist hslot,
        BitVec.ofNat_add, hgen]
      rfl
    · rfl

theorem Booked.congr (h : Booked s b) (hps : s'.params = s.params) (hbuffer : s'.buffer = s.buffer)
    (hsize : s'.bufferSize = s.bufferSize) (hsto : s'.storage = s.storage)
    (hretr : s'.packetsRetransmitted = s.packetsRetransmitted)
    (hrep : s'.packetsRepaired = s.packetsRepaired) : Booked s' b := by
  obtain ⟨params, recorded, hbuf⟩ := h.buffered
  refine ⟨⟨params, recorded, hbuf.congr hps hbuffer hsize hsto⟩,
    hretr.trans h.retransmitted, hrep.trans h.repaired, h.later, ?_, h.counts⟩
  rw [hsto]
  exact h.times

theorem receiveNackItems_booked {its : List FeedbackRtpNackItem} {ps : List (Option MediaPacket)}
    (h : Booked s b) (hs' : s.receiveNackItems now rtt its = .ok (s', ps)) :
    Booked s' (b.receiveNackItems now rtt its s) := by
  induction its generalizing s b ps with
  | nil =>
    cases hs'
    exact h
  | cons item its ih =>
    obtain ⟨⟨s₁, slots⟩, h₁, hs'⟩ := bind_eq_ok.mp hs'
    obtain ⟨⟨s₂, ps₂⟩, h₂, hs'⟩ := bind_eq_ok.mp hs'
    cases hs'
    rw [Books.receiveNackItems, h₁]
    have hcnt : Booked
        { s with nackPacketCount := s.nackPacketCount + item.countRequestedPackets } b :=
      h.congr rfl rfl rfl rfl rfl rfl
    obtain ⟨params, recorded, hbuf⟩ := hcnt.buffered
    obtain ⟨hbuf, hrs, hdist⟩ := fillRetransmissionContainer_resent hbuf h₁
    exact ih (hcnt.retransmit hbuf hrs hdist) h₂

/-! ## Events -/

theorem storePacket_counters {hn : 0 < n} (hs' : s.storePacket hn packet = .ok s') :
    s'.packetsRetransmitted = s.packetsRetransmitted ∧ s'.packetsRepaired = s.packetsRepaired := by
  rw [storePacket] at hs'
  split at hs'
  · cases hs'
    exact ⟨rfl, rfl⟩
  split at hs'
  · cases hs'
    exact ⟨rfl, rfl⟩
  split at hs'
  · rw [replacePacket] at hs'
    split at hs'
    · cases hs'
    · split_ifs at hs'
      · cases hs'
        exact ⟨rfl, rfl⟩
      · cases hs'
        dsimp only [clone]
        split_ifs <;> exact ⟨rfl, rfl⟩
  split at hs'
  · cases hs'
    exact ⟨rfl, rfl⟩
  obtain ⟨⟨slot, t⟩, ht, hs'⟩ := bind_eq_ok.mp hs'
  unfold resetStorageItem at ht
  split at ht
  · cases ht
  · cases ht
    cases hs'
    exact ⟨rfl, rfl⟩

theorem clearLoop_counters {cnt : ℕ} {idx : BitVec 16} (hs' : s.clearLoop cnt idx = .ok s') :
    s'.packetsRetransmitted = s.packetsRetransmitted ∧ s'.packetsRepaired = s.packetsRepaired := by
  induction cnt generalizing s idx with
  | zero =>
    cases hs'
    exact ⟨rfl, rfl⟩
  | succ cnt ih =>
    rw [clearLoop] at hs'
    split at hs'
    · obtain ⟨_, -, hs'⟩ := bind_eq_ok.mp hs'
      exact ih hs'
    next slot _ =>
      exact ih (s := setBuffer idx none { s with storage := update s.storage slot {} }) hs'

theorem Booked.storePacket (h : Booked s b) {hn : 0 < n} (hs' : s.storePacket hn packet = .ok s') :
    Booked s' (b.next s s' (.storePacket packet)) := by
  obtain ⟨params, recorded, hbuf⟩ := h.buffered
  obtain ⟨hretr, hrep⟩ := storePacket_counters hs'
  obtain ⟨hignores, hsame⟩ | ⟨hignores, slot, t, ht, hst, -⟩ | ⟨-, -, fault, hfault⟩ :=
    storePacket_cases hn hbuf packet
  · cases hsame.symm.trans hs'
    have hbooks : b.next s s (.storePacket packet) = b := by
      rw [Books.next]
      split
      · rfl
      · rw [if_pos hignores]
    rw [hbooks]
    exact h
  · cases ht.symm.trans hs'
    have hbooks : b.next s s' (.storePacket packet) =
        { b with generation := update b.generation slot (b.generation slot + 1) } := by
      rw [Books.next, hst.entry]
      dsimp only
      rw [hignores, if_neg Bool.false_ne_true]
    rw [hbooks]
    refine ⟨⟨params, fun seq => packet :: recorded seq, hbuf.of_stored hst (by simp) (by simp)⟩,
      hretr.trans h.retransmitted, hrep.trans h.repaired, fun slot' generation hlater => ?_,
      fun slot' hp => ?_, h.counts⟩
    · have hlater : update b.generation slot (b.generation slot + 1) slot' < generation := hlater
      refine h.later slot' generation ?_
      by_cases hslot : slot' = slot
      · rw [hslot, update_self] at hlater
        rw [hslot]
        omega
      · rw [update_of_ne hslot] at hlater
        exact hlater
    · show _ = BitVec.ofNat 8 (b.resent.count (slot', update b.generation slot _ slot'))
      rw [hst.storage] at hp ⊢
      by_cases hslot : slot' = slot
      · rw [hslot, update_self, update_self, h.later slot _ (Nat.lt_succ_self _)]
        rfl
      · rw [update_of_ne hslot] at hp
        rw [update_of_ne hslot, update_of_ne hslot]
        exact h.times slot' hp
  · cases hfault.symm.trans hs'

theorem Booked.clearBuffer (h : Booked s b) (hs' : s.clearBuffer = .ok s') : Booked s' b := by
  obtain ⟨params, recorded, hbuf⟩ := h.buffered
  obtain ⟨t, ht, hcleared, -, hsize⟩ := clearBuffer_spec hbuf
  cases ht.symm.trans hs'
  have hcounters : s'.packetsRetransmitted = s.packetsRetransmitted ∧
      s'.packetsRepaired = s.packetsRepaired := by
    rw [RtpStreamSend.clearBuffer] at hs'
    split_ifs at hs'
    · cases hs'
      exact ⟨rfl, rfl⟩
    · obtain ⟨cleared, hloop, hs'⟩ := bind_eq_ok.mp hs'
      cases hs'
      have hsame := clearLoop_counters hloop
      exact hsame
  refine ⟨⟨params, recorded, hcleared⟩, hcounters.1.trans h.retransmitted,
    hcounters.2.trans h.repaired, h.later, fun slot hp => ?_, h.counts⟩
  rw [hcleared.free slot (hsize ▸ Nat.zero_le _)] at hp
  exact absurd rfl hp

/-- **An event of the stream** is entered into the books. -/
theorem Booked.next (h : Booked s b) {event : Event} (hs' : s.next event = .ok s') :
    Booked s' (b.next s s' event) := by
  cases event with
  | received now seq ts =>
    cases hs'
    exact h.congr rfl rfl rfl rfl rfl rfl
  | storePacket packet =>
    rw [RtpStreamSend.next] at hs'
    split_ifs at hs' with hn
    · exact h.storePacket hs'
    · cases hs'
      rw [Books.next]
      split
      · exact h
      next slot _ => exact absurd slot.pos hn
  | receiveNack now rtt its =>
    obtain ⟨⟨t, ps⟩, ht, rfl⟩ := map_eq_ok.mp hs'
    have hcnt : Booked { s with nackCount := s.nackCount + 1 } b := h.congr rfl rfl rfl rfl rfl rfl
    exact receiveNackItems_booked hcnt ht
  | clearBuffer => exact h.clearBuffer hs'

def Books.Grows (b b' : Books n) : Prop :=
  ∃ resent repaired, repaired ≤ resent ∧ b'.resent.length = b.resent.length + resent ∧
    b'.repaired.length = b.repaired.length + repaired

theorem Books.grows_receiveNackItems (b : Books n) (its : List FeedbackRtpNackItem) (s : RtpStreamSend n) :
    b.Grows (b.receiveNackItems now rtt its s) := by
  induction its generalizing b s with
  | nil => exact ⟨0, 0, Nat.le_refl 0, rfl, rfl⟩
  | cons item its ih =>
    rw [Books.receiveNackItems]
    split
    · exact ⟨0, 0, Nat.le_refl 0, rfl, rfl⟩
    next s₁ slots _ =>
      obtain ⟨resent, repaired, hle, hrs, hrep⟩ :=
        ih (b.retransmit s₁ slots) (s₁.retransmit slots).1
      refine ⟨slots.length + resent,
        (slots.filter fun slot => (s₁.storage slot).sentTimes = 1).length + repaired, ?_, ?_, ?_⟩
      · exact Nat.add_le_add (length_filter_le _ _) hle
      · rw [hrs, Books.retransmit, length_append, length_map, add_assoc]
      · rw [hrep, Books.retransmit, length_append, length_map, add_assoc]

theorem Books.grows_next (b : Books n) (s s' : RtpStreamSend n) (event : Event) :
    b.Grows (b.next s s' event) := by
  cases event with
  | receiveNack now rtt its => exact b.grows_receiveNackItems its _
  | storePacket packet =>
    rw [Books.next]
    split
    · exact ⟨0, 0, Nat.le_refl 0, rfl, rfl⟩
    · split_ifs <;> exact ⟨0, 0, Nat.le_refl 0, rfl, rfl⟩
  | _ => exact ⟨0, 0, Nat.le_refl 0, rfl, rfl⟩

end Booked

/-! ## The score -/

namespace Scored

variable {c c' : Scored n} {report : ReceiverReport} {event : Event}

structure Inv (c : Scored n) : Prop where
  booked : Booked c.send c.books
  repaired : c.repairedPriorScore ≤ c.books.repaired.length
  interval : c.books.repaired.length + c.retransmittedPriorScore ≤
    c.books.resent.length + c.repairedPriorScore

theorem Inv.accounted (h : c.Inv) : c.Accounted where
  retransmitted := h.booked.retransmitted
  repaired := h.booked.repaired
  once := by
    intro packet
    rw [h.booked.counts]
    omega
  interval := by
    have := h.interval
    have := h.repaired
    rw [h.booked.retransmitted, h.booked.repaired]
    omega

theorem updateScore_inv (h : Booked c.send c.books) (hc' : c.updateScore report = .ok c') : c'.Inv := by
  have hsame : c'.send = c.send ∧ c'.books = c.books ∧ c'.repairedPriorScore = c.send.packetsRepaired ∧
      c'.retransmittedPriorScore = c.send.packetsRetransmitted := by
    rw [updateScore] at hc'
    split at hc'
    · cases hc'
      exact ⟨rfl, rfl, rfl, rfl⟩
    · obtain ⟨_, -, hc'⟩ := bind_eq_ok.mp hc'
      cases hc'
      exact ⟨rfl, rfl, rfl, rfl⟩
  obtain ⟨hsend, hbooks, hrep, hretr⟩ := hsame
  refine ⟨?_, ?_, ?_⟩
  · rw [hsend, hbooks]
    exact h
  · rw [hrep, hbooks, h.repaired]
  · rw [hrep, hretr, hbooks, h.repaired, h.retransmitted, add_comm]

/-- **The assertion of `UpdateScore`.** The difference of the repaired packets is capped, and below the
one of the retransmitted packets, as both fit into 32 bits. -/
theorem Inv.updateScore (h : c.Inv)
    (hshort : c.send.packetsRetransmitted < c.retransmittedPriorScore + 2 ^ 32) (report : ReceiverReport) :
    ∃ c', c.updateScore report = .ok c' := by
  have hinterval := h.interval
  have hprior := h.repaired
  rw [← h.booked.repaired] at hinterval hprior
  rw [← h.booked.retransmitted] at hinterval
  have hrep : c.repaired.toNat = _ := toNat_ofNat_sub hprior (by omega)
  have hretr : c.retransmitted.toNat = _ := toNat_ofNat_sub (by omega) hshort
  have hle : c.repaired ≤ c.retransmitted := by
    rw [BitVec.le_def]
    omega
  have hcap : (if c.repaired > c.lost report then c.lost report else c.repaired) ≤ c.retransmitted := by
    split_ifs with hgt
    · exact BitVec.le_trans (BitVec.le_of_lt hgt) hle
    · exact hle
  rw [Scored.updateScore]
  dsimp only
  rw [decide_eq_true hcap, msAssert_true]
  split_ifs <;> exact ⟨_, rfl⟩

theorem Inv.next (h : c.Inv) (hc' : c.next event = .ok c') : c'.Inv := by
  cases event with
  | receiverReport report => exact updateScore_inv h.booked hc'
  | stream event =>
    obtain ⟨send, hsend, hc'⟩ := bind_eq_ok.mp hc'
    cases hc'
    obtain ⟨resent, repaired, hle, hrs, hrep⟩ := c.books.grows_next c.send send event
    have := h.repaired
    have := h.interval
    refine ⟨h.booked.next hsend, ?_, ?_⟩
    · dsimp only
      omega
    · dsimp only
      omega

/-- **Repaired packets** in any run: each stored packet counts once, if it is resent at most 256 times, and
the assertion holds, if fewer than `2 ^ 32` packets are retransmitted between two reports. -/
theorem repairs_accounted (params : Params) {events : List Event}
    (hshort : RunMeets next ShortInterval ({ send := { params } } : Scored n) events) :
    (∀ c, run next ({ send := { params } } : Scored n) events = .ok c → c.Accounted) ∧
      RunMeets next Asserted ({ send := { params } } : Scored n) events := by
  have hnew : ({ send := { params } } : Scored n).Inv :=
    ⟨booked_new params, Nat.le_refl 0, Nat.le_refl 0⟩
  constructor
  · intro c hc
    exact (inv_of_run_ok (fun _ _ _ h hc' => h.next hc') hnew hc).accounted
  · refine hshort.imp_of_inv (J := Inv) (fun c event h hshort => ?_) (fun _ _ _ h _ hc' => h.next hc') hnew
    cases event with
    | stream event => trivial
    | receiverReport report => exact h.updateScore hshort report

def nacked (count : ℕ) : List Event :=
  [.stream (.received 0 1 3000), .stream (.storePacket (videoPacket 1))] ++
    (List.range count).map fun second =>
      .stream (.receiveNack (BitVec.ofNat 64 (1000 * (second + 1))) 100 [⟨1, 0⟩])

theorem repairs_accounted_report :
    RunMeets next Asserted ({ send := { params := rtxParams } } : Scored 2)
      (nacked 2 ++ [.receiverReport ⟨1111, 0, 0, 1, 0, 0, 0⟩]) :=
  (repairs_accounted rtxParams (by decide +kernel)).2

/-- **A packet counts as repaired twice** when it is resent 257 times. -/
theorem repaired_twice :
    ∃ c, run next ({ send := { params := rtxParams } } : Scored 2) (nacked 257) = .ok c ∧
      c.books.resent = List.replicate 257 (0, 1) ∧ c.books.repaired = [(0, 1), (0, 1)] ∧
      c.send.packetsRepaired = 2 := by
  have heval : (run next ({ send := { params := rtxParams } } : Scored 2) (nacked 257)).toOption.map
      (fun c => (c.books.resent, c.books.repaired, c.send.packetsRepaired)) =
      some (List.replicate 257 (0, 1), [(0, 1), (0, 1)], 2) := by
    decide +kernel
  cases hrun : run next ({ send := { params := rtxParams } } : Scored 2) (nacked 257) with
  | error fault =>
    rw [hrun] at heval
    cases heval
  | ok c =>
    rw [hrun] at heval
    obtain ⟨hresent, hrest⟩ := Prod.ext_iff.mp (Option.some.inj heval)
    obtain ⟨hrepaired, hcount⟩ := Prod.ext_iff.mp hrest
    exact ⟨c, rfl, hresent, hrepaired, hcount⟩

end Scored

end RtpStreamSend

end MediasoupWorker.RTC
