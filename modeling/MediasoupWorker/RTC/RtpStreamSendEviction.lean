import MediasoupWorker.RTC.RtpStreamSend

/-!
# Which packet leaves the retransmission buffer

`src/src/RTC/RtpStreamSend.cpp`. A full buffer drops the packet at its start index, which is the number of
the first packet, and then of the next one that is held. A packet that arrives late does not move it back.
-/

namespace MediasoupWorker.RTC.RtpStreamSend

open Library Function List

variable {n : ℕ}

def store (hn : 2 ≤ n) (s : RtpStreamSend n) (packet : MediaPacket) : Except Fault (RtpStreamSend n) :=
  s.storePacket (Nat.zero_lt_of_lt hn) packet

def EvictsOldest (hn : 2 ≤ n) (s : RtpStreamSend n) (packet : MediaPacket) : Prop :=
  ∀ s', s.store hn packet = .ok s' → ∀ gone, s.buffer gone ≠ none → s'.buffer gone = none →
    ∀ seq, s.buffer seq ≠ none → seq ≠ gone → isSeqLowerThan gone seq = true

def kept (s : RtpStreamSend n) : BitVec 16 → Option (Fin n) :=
  if s.bufferSize = n then Function.update s.buffer s.bufferStartIdx none else s.buffer

def NotLate (s : RtpStreamSend n) (packet : MediaPacket) : Prop :=
  0 < s.bufferSize → ∃ seq, s.kept seq ≠ none ∧ isSeqLowerThan seq packet.sequenceNumber = true

def Oldest (base : BitVec 16) (s : RtpStreamSend n) : Prop :=
  ∀ seq, s.buffer seq ≠ none → cdist base s.bufferStartIdx ≤ cdist base seq

variable {s s' : RtpStreamSend n} {params : Params} {packets : List MediaPacket} {packet : MediaPacket}
  {base seq : BitVec 16}

theorem buffer_of_kept (h : s.kept seq ≠ none) :
    s.buffer seq ≠ none ∧ (s.bufferSize = n → seq ≠ s.bufferStartIdx) := by
  rw [kept] at h
  split_ifs at h with hfull
  · have hne : seq ≠ s.bufferStartIdx := by
      rintro rfl
      rw [update_self] at h
      exact h rfl
    rw [update_of_ne hne] at h
    exact ⟨h, fun _ => hne⟩
  · exact ⟨h, fun hsize => absurd hsize hfull⟩

theorem Oldest.cdist_kept (hold : s.Oldest base) (hfull : s.bufferSize = n) (h : s.kept seq ≠ none) :
    cdist (s.bufferStartIdx + 1) seq + (cdist base s.bufferStartIdx + 1) = cdist base seq := by
  obtain ⟨hused, hne⟩ := buffer_of_kept h
  have hlt : cdist base s.bufferStartIdx < cdist base seq :=
    lt_of_le_of_ne (hold seq hused) fun heq => hne hfull (cdist_inj.mp heq).symm
  have hnext : cdist base (s.bufferStartIdx + 1) = cdist base s.bufferStartIdx + 1 :=
    cdist_add ((Nat.succ_le_of_lt hlt).trans_lt (cdist_lt base seq))
  have hdist : cdist (s.bufferStartIdx + 1) seq = cdist base seq - cdist base (s.bufferStartIdx + 1) :=
    toNat_sub_of_cdist_le (hnext.trans_le hlt)
  omega

/-- **What `StorePacket` does** with a new number: some entries stay, and the start index is the oldest
of them. -/
theorem store_spec (hn : 2 ≤ n) (h : Inv params packets s) (hsize : packet.getSize ≤ mtuSize)
    (hnew : s.buffer packet.sequenceNumber = none) (hold : s.Oldest base) (hs : s.store hn packet = .ok s') :
    (∃ slot, s'.buffer = update s.kept packet.sequenceNumber (some slot)) ∧
    (s.bufferSize = 0 → s'.bufferStartIdx = packet.sequenceNumber) ∧
    (0 < s.bufferSize → ∀ seq, s.kept seq ≠ none → cdist base s'.bufferStartIdx ≤ cdist base seq) := by
  rw [store, storePacket, if_neg (not_lt.mpr hsize)] at hs
  by_cases hnil : s.bufferSize = 0
  · rw [if_pos hnil] at hs
    cases hs
    rw [kept, if_neg (by omega)]
    exact ⟨⟨_, rfl⟩, fun _ => rfl, fun hpos => by omega⟩
  rw [if_neg hnil, hnew] at hs
  by_cases hroom : s.bufferSize < n
  · have hs : Except.ok _ = Except.ok s' := (dif_pos hroom).symm.trans hs
    cases hs
    rw [kept, if_neg hroom.ne]
    exact ⟨⟨_, rfl⟩, fun hzero => absurd hzero hnil, fun _ => hold⟩
  · have hs : s.evictAndStore packet = .ok s' := (dif_neg hroom).symm.trans hs
    have hfull : s.bufferSize = n := by
      have := h.slots.size_le
      omega
    have hkept : s.kept = update s.buffer s.bufferStartIdx none := if_pos hfull
    obtain ⟨slot, hslot⟩ := Option.ne_none_iff_exists'.mp (h.start (by omega))
    rw [evictAndStore, hslot] at hs
    cases hs
    refine ⟨⟨slot, by rw [hkept]; rfl⟩, fun hzero => absurd hzero hnil, fun _ seq hseq => ?_⟩
    set rm := setBuffer s.bufferStartIdx none { s with storage := update s.storage slot {} }
      with hrm
    have hbuf : rm.buffer = s.kept := hkept.symm
    obtain ⟨hused, hfirst⟩ := updateBufferStartIdx_spec (s := rm) (hbuf ▸ hseq)
    rw [hbuf] at hused hfirst
    have hnewer := hold.cdist_kept hfull hseq
    have hstart := hold.cdist_kept hfull hused
    have hle : cdist (s.bufferStartIdx + 1) rm.updateBufferStartIdx.bufferStartIdx ≤
      cdist (s.bufferStartIdx + 1) seq := hfirst seq hseq
    show cdist base rm.updateBufferStartIdx.bufferStartIdx ≤ cdist base seq
    omega

def HalfCircle (base : BitVec 16) (packets : List MediaPacket) : Prop :=
  ∀ packet ∈ packets, cdist base packet.sequenceNumber < 2 ^ 15

instance : Decidable (HalfCircle base packets) :=
  inferInstanceAs (Decidable (∀ packet ∈ packets, _ < 2 ^ 15))

theorem Inv.cdist_lt (h : Inv params packets s) (hhalf : HalfCircle base packets)
    (hseq : s.buffer seq ≠ none) : cdist base seq ≤ maxValue 16 / 2 := by
  obtain ⟨slot, hslot⟩ := Option.ne_none_iff_exists'.mp hseq
  obtain ⟨orig, hmem, rfl, -⟩ := h.holds seq slot hslot
  exact Nat.le_of_lt_succ (hhalf orig hmem)

/-- **One packet**: what it evicts is the oldest one, and the start index is so again. -/
theorem store_oldest (hn : 2 ≤ n) (h : Inv params packets s) (hsize : packet.getSize ≤ mtuSize)
    (hnew : packet.sequenceNumber ∉ packets.map (·.sequenceNumber))
    (hhalf : HalfCircle base (packets ++ [packet])) (hlate : s.NotLate packet) (hold : s.Oldest base) :
    s.EvictsOldest hn packet ∧ ∀ s', s.store hn packet = .ok s' → s'.Oldest base := by
  have hhalf' : HalfCircle base packets := fun p hp => hhalf p (mem_append_left _ hp)
  have hlast : cdist base packet.sequenceNumber ≤ maxValue 16 / 2 :=
    Nat.le_of_lt_succ (hhalf packet (by simp))
  have hentry : s.buffer packet.sequenceNumber = none := by
    by_contra hused
    obtain ⟨slot, hslot⟩ := Option.ne_none_iff_exists'.mp hused
    obtain ⟨orig, hmem, hseq, -⟩ := h.holds _ slot hslot
    exact hnew (hseq ▸ mem_map_of_mem hmem)
  refine ⟨fun s' hs gone hgone hnone seq hseq hne => ?_, fun s' hs seq hseq => ?_⟩
  · obtain ⟨⟨slot, hbuf⟩, -⟩ := store_spec hn h hsize hentry hold hs
    have hstart : gone = s.bufferStartIdx := by
      by_contra hother
      have hdifferent : gone ≠ packet.sequenceNumber := by
        rintro rfl
        exact hgone hentry
      rw [hbuf, update_of_ne hdifferent, kept] at hnone
      split_ifs at hnone
      · rw [update_of_ne hother] at hnone
        exact hgone hnone
      · exact hgone hnone
    rw [isSeqLowerThan_iff_cdist (by decide) (h.cdist_lt hhalf' hgone) (h.cdist_lt hhalf' hseq), hstart]
    exact lt_of_le_of_ne (hold seq hseq) fun heq => hne ((cdist_inj.mp heq).symm.trans hstart.symm)
  · obtain ⟨⟨slot, hbuf⟩, hfirst, hoften⟩ := store_spec hn h hsize hentry hold hs
    rw [hbuf] at hseq
    rcases Nat.eq_zero_or_pos s.bufferSize with hzero | hpos
    · by_cases hsame : seq = packet.sequenceNumber
      · rw [hfirst hzero, hsame]
      · rw [update_of_ne hsame] at hseq
        obtain ⟨slot, hslot⟩ := Option.ne_none_iff_exists'.mp (buffer_of_kept hseq).1
        have := h.slots.lt _ _ hslot
        omega
    · by_cases hsame : seq = packet.sequenceNumber
      · obtain ⟨older, hkept, hlow⟩ := hlate hpos
        rw [isSeqLowerThan_iff_cdist (by decide) (h.cdist_lt hhalf' (buffer_of_kept hkept).1) hlast]
          at hlow
        have hle := hoften hpos older hkept
        rw [hsame]
        omega
      · rw [update_of_ne hsame] at hseq
        exact hoften hpos seq hseq

/-- **The oldest packet is evicted**, in a run of new numbers of a half circle each of which follows a
packet that stays. -/
theorem evicts_oldest (hn : 2 ≤ n) (params : Params) {packets : List MediaPacket}
    (hsize : ∀ packet ∈ packets, packet.getSize ≤ mtuSize)
    (hdistinct : (packets.map (·.sequenceNumber)).Nodup) {base : BitVec 16}
    (hhalf : HalfCircle base packets)
    (hlate : RunMeets (store hn) NotLate ({ params } : RtpStreamSend n) packets) :
    (∃ s, run (store hn) ({ params } : RtpStreamSend n) packets = .ok s) ∧
      RunMeets (store hn) (EvictsOldest hn) ({ params } : RtpStreamSend n) packets := by
  constructor
  · obtain ⟨s, hs, -⟩ := run_ok_of_history_inv (inv_new params)
      fun before packet s (_ : before ++ [packet] <+: packets) hs => storePacket_inv hn hs packet
    exact ⟨s, hs⟩
  · refine hlate.imp_of_history_inv
      (I := fun before s => Inv params before s ∧ s.Oldest base)
      ⟨inv_new params, fun seq hseq => absurd rfl hseq⟩ fun before packet s hbefore hs hnext => ?_
    obtain ⟨rest, rfl⟩ := hbefore
    have hnew : packet.sequenceNumber ∉ before.map (·.sequenceNumber) := by
      intro hmem
      rw [List.map_append, List.map_append, List.map_singleton] at hdistinct
      exact (List.nodup_append.mp hdistinct.of_append_left).2.2 _ hmem _ (List.mem_singleton_self _) rfl
    have hstep := store_oldest hn hs.1 (hsize packet (by simp)) hnew
      (fun p hp => hhalf p (List.mem_append_left _ hp)) hnext hs.2
    refine ⟨hstep.1, fun s' hs' => ⟨?_, hstep.2 s' hs'⟩⟩
    obtain ⟨s'', hs'', hinv⟩ := storePacket_inv hn hs.1 packet
    obtain rfl : s'' = s' := Except.ok.inj (hs''.symm.trans hs')
    exact hinv

theorem evicts_oldest_inOrder :
    let packets := [videoPacket 5, videoPacket 6, videoPacket 7]
    RunMeets (store le_rfl) NotLate ({ params := rtxParams } : RtpStreamSend 2) packets ∧
      (∃ s, run (store le_rfl) ({ params := rtxParams } : RtpStreamSend 2) packets = .ok s) ∧
      RunMeets (store le_rfl) (EvictsOldest le_rfl) ({ params := rtxParams } : RtpStreamSend 2)
        packets := by
  have hlate : RunMeets (store le_rfl) NotLate ({ params := rtxParams } : RtpStreamSend 2)
      [videoPacket 5, videoPacket 6, videoPacket 7] := by
    refine ⟨fun hpos => absurd hpos (by decide), fun s hs => ?_⟩
    cases hs
    refine ⟨fun _ => ⟨5, by decide, by decide⟩, fun s hs => ?_⟩
    cases hs
    refine ⟨fun _ => ⟨6, by decide, by decide⟩, fun s hs => trivial⟩
  exact ⟨hlate, evicts_oldest le_rfl rtxParams (by decide) (by decide) (show HalfCircle 5 _ by decide)
    hlate⟩

/-- **A late packet outlives a newer one.**  The packet 3 comes after the packet 5, which is at the start
index, and the packet 6 takes the place of the packet 5. -/
theorem late_packet_outlives :
    ∃ s s', run (store le_rfl) ({ params := rtxParams } : RtpStreamSend 2)
        [videoPacket 5, videoPacket 3] = .ok s ∧ s.store le_rfl (videoPacket 6) = .ok s' ∧
      s.buffer 5 ≠ none ∧ s.buffer 3 ≠ none ∧ s'.buffer 5 = none ∧ s'.buffer 3 ≠ none ∧
      isSeqLowerThan (3 : BitVec 16) 5 = true :=
  ⟨_, _, rfl, rfl, by decide, by decide, rfl, by decide, by decide⟩

end MediasoupWorker.RTC.RtpStreamSend
