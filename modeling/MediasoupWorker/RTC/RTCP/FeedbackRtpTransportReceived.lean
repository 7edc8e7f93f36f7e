import MediasoupWorker.RTC.RTCP.FeedbackRtpTransportRoundTrip

/-!
# Received feedback that is sent again

`src/src/RTC/RTCP/FeedbackRtpTransport.cpp`. `Parse` reads a delta with the number of bytes that its status
has, and `Serialize` writes it with the number that its value needs. The two agree unless a delta of 0 to
255 has come in two bytes.
-/

namespace MediasoupWorker.RTC.RTCP

open Library List

namespace FeedbackRtpTransportPacket

/-! ## Chunks that were read -/

theorem coded_ofBits_one (bs : BitVec 16) : (Status.ofBits (bs &&& 0x01)).Coded 1 := by
  have hbit : bs &&& 0x01 = 0 ∨ bs &&& 0x01 = 1 := by
    have hmod : (bs &&& 0x01).toNat = bs.toNat % 2 := by
      rw [BitVec.toNat_and]
      exact Nat.and_two_pow_sub_one_eq_mod _ 1
    rcases Nat.mod_two_eq_zero_or_one bs.toNat with hzero | hone
    · exact .inl (BitVec.eq_of_toNat_eq (hmod.trans hzero))
    · exact .inr (BitVec.eq_of_toNat_eq (hmod.trans hone))
  rcases hbit with hbit | hbit
  · rw [hbit]
    exact ⟨by decide, rfl⟩
  · rw [hbit]
    exact ⟨by decide, rfl⟩

theorem ofBits_ne_none (bits : BitVec 16) : Status.ofBits bits ≠ .none := by
  unfold Status.ofBits
  split_ifs <;> exact Status.noConfusion

variable {len : ℕ}

theorem Chunk.readable_of_parse {high low : Byte} {rest : List Byte} {n : BitVec 16} {c : Chunk}
    (h : Chunk.parse (high :: low :: rest) len n = .ok (some c)) : c.Readable n.toNat := by
  rcases Chunk.parse_cases h with ⟨-, st, hreserved, hnone, rfl⟩ | ⟨-, -, rfl⟩ | ⟨-, -, rfl⟩
  · refine ⟨?_, ?_⟩
    · cases st <;> first | exact .inl rfl | exact .inr rfl | contradiction
    · rw [BitVec.toNat_and]
      exact Nat.and_le_right
  · refine ⟨by simp, fun st hmem => ?_⟩
    obtain ⟨i, -, rfl⟩ := mem_map.mp hmem
    exact coded_ofBits_one _
  · refine ⟨by simp, fun st hmem => ?_⟩
    obtain ⟨i, -, rfl⟩ := mem_map.mp hmem
    exact coded_two (ofBits_ne_none _)

variable {data : List Byte}

/-- **The chunks are read again** from their words, whatever follows these. -/
theorem parseChunks_again {cnt n got : BitVec 16} {cs : List Chunk} {scan : ChunkScan}
    (h : parseChunks cnt data len cs n got = .ok (some scan)) :
    ∃ new, scan.chunks = cs ++ new ∧ (∀ c ∈ new, ∃ left, c.Readable left) ∧ ∀ rest, parseChunks cnt
        ((new.map fun c => set2Bytes c.word).flatten ++ rest) len cs n got =
          .ok (some { scan with contentData := rest }) := by
  fun_induction parseChunks cnt data len cs n got with
  | case1 => cases h
  | case2 len cs n got hloop hlen high low rest ih =>
    obtain ⟨r, hc, h⟩ := bind_eq_ok.mp h
    cases r with
    | none => cases h
    | some c =>
      have hread := Chunk.readable_of_parse hc
      obtain ⟨new, hnew, hreads, hagain⟩ := ih c h
      refine ⟨c :: new, ?_, forall_mem_cons.mpr ⟨⟨_, hread⟩, hreads⟩, fun rest => ?_⟩
      · rw [hnew, append_assoc]
        rfl
      · rw [map_cons, flatten_cons, append_assoc,
          parseChunks_of_chunk hloop.1 (not_lt.mp hlen) hread, hagain]
  | case3 => cases h
  | case4 data len cs n got hstop =>
    cases h
    refine ⟨[], (append_nil _).symm, forall_mem_nil _, fun rest => ?_⟩
    unfold parseChunks
    rw [if_neg hstop]
    rfl

/-! ## Deltas that were read -/

def Status.width (status : Status) : ℕ := if status = .smallDelta then 1 else 2

theorem sum_width_deltaStatus (ds : List (BitVec 16)) :
    ((ds.map deltaStatus).map Status.width).sum = (ds.flatMap serializeDelta).length := by
  rw [map_map, length_flatMap]
  congr 1
  exact map_congr_left fun d _ => (length_serializeDelta d).symm

structure Took (statuses : List Status) (len : ℕ) (ds : List (BitVec 16)) (taken : ℕ) : Prop where
  count : (statuses.filter Status.received).length = ds.length
  bytes : taken = ((statuses.filter Status.received).map Status.width).sum
  fits : taken ≤ len

variable {ds : List (BitVec 16)}

theorem Took.skip {ss : List Status} {taken : ℕ} (h : Took ss len ds taken) {st : Status}
    (hgap : st.received = false) : Took (st :: ss) len ds taken := by
  have hfilt : (st :: ss).filter Status.received = ss.filter Status.received :=
    filter_cons_of_neg (Bool.not_eq_true _ ▸ hgap)
  exact ⟨hfilt ▸ h.count, hfilt ▸ h.bytes, h.fits⟩

variable {offset : ℕ} {parsed : List (BitVec 16)} {r : List (BitVec 16) × ℕ}

theorem took_runDeltas {read : ℕ → Except Fault (BitVec 16)} {width n : ℕ}
    (h : Chunk.runDeltas read width n parsed offset = .ok r) :
    ∃ ds, r = (parsed ++ ds, offset + n * width) ∧ ds.length = n := by
  induction n generalizing parsed offset with
  | zero =>
    cases h
    exact ⟨[], by simp, rfl⟩
  | succ n ih =>
    obtain ⟨d, -, h⟩ := bind_eq_ok.mp h
    obtain ⟨ds, rfl, hlen⟩ := ih h
    refine ⟨d :: ds, ?_, by rw [length_cons, hlen]⟩
    rw [append_assoc, singleton_append, Nat.succ_mul, add_assoc, add_comm width]

theorem took_vectorDeltas {twoBit : Bool} {ss : List Status}
    (h : Chunk.vectorDeltas twoBit data ss len parsed offset = .ok (some r)) :
    ∃ ds taken, r = (parsed ++ ds, offset + taken) ∧ Took ss len ds taken := by
  -- a delta of `width` bytes before those of the other statuses
  have hcons {st : Status} (hrec : st.received = true) {width : ℕ}
      (hwidth : st.width = width) {rest : List Status} {len : ℕ} (hlen : width ≤ len)
      {parsed : List (BitVec 16)} {offset : ℕ} {d : BitVec 16}
      (hrest : ∃ ds taken, r = (parsed ++ [d] ++ ds, offset + width + taken) ∧
        Took rest (len - width) ds taken) :
      ∃ ds taken, r = (parsed ++ ds, offset + taken) ∧ Took (st :: rest) len ds taken := by
    obtain ⟨ds, taken, rfl, htook⟩ := hrest
    have hfits := htook.fits
    refine ⟨d :: ds, width + taken, ?_, ?_, ?_, by omega⟩
    · rw [append_assoc, singleton_append, add_assoc]
    · rw [filter_cons_of_pos hrec, length_cons, htook.count, length_cons]
    · rw [filter_cons_of_pos hrec, map_cons, sum_cons, hwidth, ← htook.bytes]
  fun_induction Chunk.vectorDeltas twoBit data ss len parsed offset with
  | case1 len parsed offset =>
    cases h
    exact ⟨[], 0, by simp, rfl, rfl, Nat.zero_le _⟩
  | case2 ss len parsed offset ih =>
    obtain ⟨ds, taken, hr, htook⟩ := ih h
    exact ⟨ds, taken, hr, htook.skip rfl⟩
  | case3 => cases h
  | case4 ss len parsed offset hlen ih =>
    obtain ⟨d, -, h⟩ := bind_eq_ok.mp h
    exact hcons rfl rfl (show 1 ≤ len by omega) (ih d h)
  | case5 => cases h
  | case6 ss len parsed offset hlen ih =>
    obtain ⟨d, -, h⟩ := bind_eq_ok.mp h
    rw [Bool.or_eq_true, decide_eq_true_eq, not_or] at hlen
    exact hcons rfl rfl (show 2 ≤ len by omega) (ih d h)
  | case7 => cases h
  | case8 ss len parsed offset htwo ih =>
    obtain ⟨ds, taken, hr, htook⟩ := ih h
    exact ⟨ds, taken, hr, htook.skip rfl⟩
  | case9 => cases h
  | case10 ss len parsed offset htwo ih =>
    obtain ⟨ds, taken, hr, htook⟩ := ih h
    exact ⟨ds, taken, hr, htook.skip rfl⟩

theorem took_run {st : Status} (hrec : st.received = true) {n : ℕ} (hlen : ds.length = n)
    (hoff : offset = n * st.width) (hfits : offset ≤ len) : Took (replicate n st) len ds offset where
  count := by rw [filter_replicate_of_pos hrec, length_replicate, hlen]
  bytes := by
    rw [filter_replicate_of_pos hrec, map_replicate, sum_replicate_nat, hoff]
  fits := hfits

theorem took_addDeltas {c : Chunk} {left : ℕ} (hread : c.Readable left)
    (h : c.addDeltas data len parsed = .ok (some r)) :
    ∃ ds taken, r = (parsed ++ ds, taken) ∧ Took c.statuses len ds taken := by
  have hvec {twoBit : Bool} {ss : List Status}
      (h : Chunk.vectorDeltas twoBit data ss len parsed 0 = .ok (some r)) :
      ∃ ds taken, r = (parsed ++ ds, taken) ∧ Took ss len ds taken := by
    obtain ⟨ds, taken, hr, htook⟩ := took_vectorDeltas h
    rw [zero_add] at hr
    exact ⟨ds, taken, hr, htook⟩
  have hrun {read : ℕ → Except Fault (BitVec 16)} {st : Status} {n width : ℕ}
      (hrec : st.received = true) (hwidth : st.width = width)
      (h : (if len < n * width then .ok none
        else some <$> Chunk.runDeltas read width n parsed 0) = .ok (some r)) :
      ∃ ds taken, r = (parsed ++ ds, taken) ∧ Took (replicate n st) len ds taken := by
    split_ifs at h with hlen
    · cases h
    obtain ⟨r', hr', hsome⟩ := map_eq_ok.mp h
    cases hsome
    obtain ⟨ds, rfl, hlength⟩ := took_runDeltas hr'
    rw [zero_add]
    exact ⟨ds, _, rfl, took_run hrec hlength (by rw [hwidth]) (not_lt.mp hlen)⟩
  cases c with
  | oneBitVector ss => exact hvec h
  | twoBitVector ss => exact hvec h
  | runLength st n =>
    obtain ⟨hsent, -⟩ := hread
    cases st with
    | smallDelta => exact hrun rfl rfl h
    | largeDelta => exact hrun rfl rfl h
    | notReceived =>
      cases h
      have hnone : (replicate n.toNat Status.notReceived).filter Status.received = [] :=
        filter_replicate_of_neg (by decide)
      refine ⟨[], 0, by simp, ?_, ?_, Nat.zero_le _⟩
      · rw [Chunk.statuses, hnone]
        rfl
      · rw [Chunk.statuses, hnone]
        rfl
    | reserved => exact absurd hsent (by simp [Status.Sent, Status.received])
    | none => exact absurd hsent (by simp [Status.Sent, Status.received])

/-- **The deltas that were read** take as many bytes as are written for them, if each of them has the
status that its value has. -/
theorem parseDeltas_took {cs : List Chunk} (hread : ∀ c ∈ cs, ∃ left, c.Readable left) {size : ℕ}
    (h : parseDeltas cs data len parsed size = .ok (some r)) :
    ∃ ds, r.1 = parsed ++ ds ∧ ((cs.flatMap Chunk.statuses).filter Status.received = ds.map deltaStatus →
        r.2 = size + (ds.flatMap serializeDelta).length ∧ (ds.flatMap serializeDelta).length ≤ len) := by
  induction cs generalizing data len parsed size with
  | nil =>
    cases h
    exact ⟨[], (append_nil _).symm, fun _ => ⟨rfl, Nat.zero_le _⟩⟩
  | cons c cs ih =>
    obtain ⟨⟨left, hc⟩, hcs⟩ := forall_mem_cons.mp hread
    rw [parseDeltas] at h
    split_ifs at h with hpos
    · obtain ⟨s, hs, h⟩ := bind_eq_ok.mp h
      cases s with
      | none => cases h
      | some s =>
        obtain ⟨first, taken, rfl, htook⟩ := took_addDeltas hc hs
        obtain ⟨last, hlast, hbs⟩ := ih hcs h
        refine ⟨first ++ last, by rw [hlast, append_assoc], fun hsts => ?_⟩
        rw [flatMap_cons, filter_append, map_append] at hsts
        obtain ⟨hfirst, hrest⟩ :=
          append_inj hsts (htook.count.trans (length_map _).symm)
        obtain ⟨hsize, hle⟩ := hbs hrest
        have htaken := htook.bytes
        rw [hfirst, sum_width_deltaStatus] at htaken
        have hfits := htook.fits
        rw [flatMap_append, length_append]
        omega
    · cases h
      exact ⟨[], (append_nil _).symm, fun _ => ⟨rfl, Nat.zero_le _⟩⟩

/-! ## The packet -/

theorem setWidth_parseReferenceTime (buffer : BitVec 24) :
    (parseReferenceTime buffer).setWidth 24 = buffer := by
  rw [parseReferenceTime]
  split_ifs
  · refine BitVec.eq_of_getLsbD_eq fun i hi => ?_
    have hmask : ∀ i < 24, (~~~(0xFFFFFF#32)).getLsbD i = false := by decide
    have hlt : i < 32 := by omega
    rw [BitVec.getLsbD_setWidth, BitVec.getLsbD_or, hmask i hi, BitVec.getLsbD_setWidth,
      decide_eq_true hi, decide_eq_true hlt]
    rfl
  · refine BitVec.eq_of_toNat_eq ?_
    have hlt := buffer.isLt
    rw [BitVec.toNat_setWidth, BitVec.toNat_setWidth]
    omega

def resent (senderSsrc mediaSsrc : BitVec 32) (p : FeedbackRtpTransportPacket) : LocalPacket where
  toFeedbackRtpTransportPacket := p
  senderSsrc := senderSsrc
  mediaSsrc := mediaSsrc

structure Tight (p : FeedbackRtpTransportPacket) : Prop where
  widths : p.statuses.filter Status.received = p.deltas.map deltaStatus
  words : p.size ≤ headersSize + p.deltasAndChunksSize + padding (headersSize + p.deltasAndChunksSize)

instance (p : FeedbackRtpTransportPacket) : Decidable p.Tight :=
  decidable_of_iff (p.statuses.filter Status.received = p.deltas.map deltaStatus ∧
      p.size ≤ headersSize + p.deltasAndChunksSize + padding (headersSize + p.deltasAndChunksSize))
    ⟨fun h => ⟨h.1, h.2⟩, fun h => ⟨h.widths, h.words⟩⟩

def mixedBytes : List Byte :=
  [0x8F, 205, 0, 6,  0, 0, 0, 1,  0, 0, 0, 2,  0, 7, 0, 3,  0, 0, 1, 0, 0x20, 0x02, 0x40, 0x01,  4, 8, 1, 0]

def mixedPacket : FeedbackRtpTransportPacket where
  baseSequenceNumber := 7
  packetStatusCount := 3
  referenceTime := 1
  feedbackPacketCount := 0
  chunks := [.runLength .smallDelta 2, .runLength .largeDelta 1]
  deltas := [4, 8, 256]
  deltasAndChunksSize := 8
  size := 28

def wideBytes : List Byte :=
  [0x8F, 205, 0, 5,  0, 0, 0, 1,  0, 0, 0, 2,  0, 7, 0, 1,  0, 0, 1, 0,  0x40, 0x01, 0, 1]

def widePacket (delta : BitVec 16) : FeedbackRtpTransportPacket where
  baseSequenceNumber := 7
  packetStatusCount := 1
  referenceTime := 1
  feedbackPacketCount := 0
  chunks := [.runLength .largeDelta 1]
  deltas := [delta]
  deltasAndChunksSize := 4
  size := 24

end FeedbackRtpTransportPacket

end MediasoupWorker.RTC.RTCP
