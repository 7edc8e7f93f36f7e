import MediasoupWorker.RTC.RtpPacketRewrite

/-!
# Rewriting keeps bytes and packet in agreement

Every function that rewrites a packet patches the length fields and the pointers that belong to the
bytes it moves.
-/

namespace MediasoupWorker.RTC

open Library Bool

namespace RtpPacket

/-- **The packet is what is parsed from its own bytes**, up to the ids of the extensions. -/
structure Consistent (p : RtpPacket) : Prop where
  isRtp : isRtp p.buffer p.size = true
  headerExtension : p.headerExtension =
    if (p.buffer 0).bit 4 then some (headerSize + csrcListSize p.buffer) else none
  payload : p.payload = headersSize p.buffer
  size : p.size = p.payload + p.payloadLength + p.payloadPadding
  padding : p.payloadPadding = paddingSize p.buffer p.size
  padding_pos : (p.buffer 0).bit 5 = true → 1 ≤ p.payloadPadding
  mapOneByteExtensions : p.mapOneByteExtensions = index p.oneByteElements .empty
  mapTwoBytesExtensions : p.mapTwoBytesExtensions = index p.twoBytesElements .empty

variable {data : ℕ → Byte} {len : ℕ}

theorem consistent_parsed (h : Acceptable data len) : (parsed data len).Consistent where
  isRtp := h.isRtp
  headerExtension := rfl
  payload := rfl
  size := by
    have hhdrs := h.headers
    have hpad := paddingSize_le h
    show len = headersSize data + (len - headersSize data - paddingSize data len) + paddingSize data len
    omega
  padding := rfl
  padding_pos hbit := by
    have hpad : paddingSize data len = (data (len - 1)).toNat := if_pos hbit
    show 1 ≤ paddingSize data len
    rw [hpad]
    exact (h.padding hbit).1
  mapOneByteExtensions := rfl
  mapTwoBytesExtensions := rfl

variable {p : RtpPacket}

theorem consistent_of_parse (h : parse data len = .ok (some p)) : p.Consistent := by
  by_cases hacc : Acceptable data len
  · rw [parse_of_acceptable hacc] at h
    obtain rfl := Option.some.inj (Except.ok.inj h)
    exact consistent_parsed hacc
  · rw [parse_of_not_acceptable hacc] at h
    cases h

namespace Consistent

variable {p p' : RtpPacket}

variable (h : p.Consistent)

include h

theorem acceptable : Acceptable p.buffer p.size where
  isRtp := h.isRtp
  headers := by
    rw [← h.payload, h.size, add_assoc]
    exact Nat.le_add_right _ _
  padding hbit := by
    have hpos := h.padding_pos hbit
    have hsize := h.size
    have hpad := h.padding
    rw [paddingSize, if_pos hbit] at hpad
    rw [← hpad, ← h.payload]
    omega

theorem parsed_eq : parsed p.buffer p.size = { p with extensionIds := {} } := by
  have hlen : p.size - headersSize p.buffer - paddingSize p.buffer p.size = p.payloadLength := by
    rw [← h.padding, ← h.payload, h.size]
    omega
  unfold parsed
  rw [← h.headerExtension, hlen, ← h.padding, ← h.payload]
  have hone := h.mapOneByteExtensions
  have htwo := h.mapTwoBytesExtensions
  obtain ⟨buf, headerExtension, map, map', ids, pl, length, pad, size⟩ := p
  dsimp only at hone htwo
  rw [hone, htwo]
  rfl

theorem extensionStart_eq : p.extensionStart = headerSize + csrcListSize p.buffer := by
  have hpl := h.payload
  have hext := h.headerExtension
  unfold extensionStart
  unfold headersSize headerExtensionSize at hpl
  split_ifs at hext hpl
  · rw [hext, Option.getD_some]
  · rw [hext, Option.getD_none]
    exact hpl

theorem extensionRegionSize_eq : p.extensionRegionSize = headerExtensionSize p.buffer := by
  have hext := h.headerExtension
  unfold extensionRegionSize getHeaderExtensionLength headerExtensionSize
  split_ifs at hext ⊢ with hbit
  · rw [hext]
  · rw [hext]

theorem extensionEnd_eq : p.extensionEnd = p.payload := by
  rw [extensionEnd, h.extensionStart_eq, h.extensionRegionSize_eq, h.payload]
  rfl

theorem headerExtension_spec {a : ℕ} (ha : p.headerExtension = some a) :
    p.extensionStart = a ∧ a + 4 + p.getHeaderExtensionLength = p.payload := by
  have hend := h.extensionEnd_eq
  have hstart : p.extensionStart = a := by rw [extensionStart, ha, Option.getD_some]
  rw [extensionEnd, hstart, extensionRegionSize, ha] at hend
  exact ⟨hstart, (add_assoc ..).trans hend⟩

end Consistent

/-! ## The headers -/

def isVersionTwo (byte : Byte) : Bool :=
  decide (127 < byte.toNat) && decide (byte.toNat < 192) && byte >>> 6 == 2

theorem isRtp_eq (data : ℕ → Byte) (len : ℕ) :
    isRtp data len = (decide (headerSize ≤ len) && isVersionTwo (data 0)) := by
  rw [isRtp, isVersionTwo, Bool.and_assoc, Bool.and_assoc, Bool.and_assoc]

def SameHead (byte byte' : Byte) : Prop := byte' &&& 0xDF = byte &&& 0xDF

theorem SameHead.eq_of {β : Type*} {byte byte' : Byte} (h : SameHead byte byte') (f : Byte → β)
    (hf : ∀ byte, f (byte &&& 0xDF) = f byte) : f byte' = f byte := by
  rw [← hf byte', h, hf byte]

structure SameParts (p p' : RtpPacket) : Prop where
  headerExtension : p'.headerExtension = p.headerExtension
  payload : p'.payload = p.payload
  mapOneByteExtensions : p'.mapOneByteExtensions = p.mapOneByteExtensions
  mapTwoBytesExtensions : p'.mapTwoBytesExtensions = p.mapTwoBytesExtensions

theorem SameParts.trans {p p' p'' : RtpPacket} (h : SameParts p p') (h' : SameParts p' p'') :
    SameParts p p'' where
  headerExtension := h'.headerExtension.trans h.headerExtension
  payload := h'.payload.trans h.payload
  mapOneByteExtensions := h'.mapOneByteExtensions.trans h.mapOneByteExtensions
  mapTwoBytesExtensions := h'.mapTwoBytesExtensions.trans h.mapTwoBytesExtensions

structure SameLayout (p p' : RtpPacket) : Prop extends SameParts p p' where
  head : SameHead (p.buffer 0) (p'.buffer 0)
  bytes : ∀ a, p.extensionStart ≤ a → a < p.extensionStart + 4 → a < p.payload → p'.buffer a = p.buffer a
  elements : ∀ F, p.format = some F → F.scan p'.buffer p.extensionEnd (p.extensionStart + 4) =
      F.scan p.buffer p.extensionEnd (p.extensionStart + 4)

namespace SameLayout

variable {p p' : RtpPacket}

section

variable (h : SameLayout p p')

include h

theorem bit_four : (p'.buffer 0).bit 4 = (p.buffer 0).bit 4 :=
  h.head.eq_of (fun b => b.bit 4) (by decide)

theorem csrcListSize_eq : csrcListSize p'.buffer = csrcListSize p.buffer :=
  h.head.eq_of (fun b => (b &&& 0x0F).toNat * 4) (by decide)

theorem isVersionTwo_eq : isVersionTwo (p'.buffer 0) = isVersionTwo (p.buffer 0) :=
  h.head.eq_of isVersionTwo (by decide)

theorem extensionStart_eq : p'.extensionStart = p.extensionStart := by
  rw [extensionStart, extensionStart, h.headerExtension, h.payload]

end

variable (hp : p.Consistent)

include hp

section

variable (h : SameLayout p p')

include h

theorem field16_eq {a : ℕ} (ha : p.headerExtension = some a) (i : ℕ) (hi : i < 3) :
    field16 p'.buffer (a + i) = field16 p.buffer (a + i) := by
  obtain ⟨hstart, hend⟩ := hp.headerExtension_spec ha
  exact field16_congr (h.bytes _ (by omega) (by omega) (by omega))
    (h.bytes _ (by omega) (by omega) (by omega))

theorem getHeaderExtensionId_eq : p'.getHeaderExtensionId = p.getHeaderExtensionId := by
  unfold getHeaderExtensionId
  rw [h.headerExtension]
  split
  · rfl
  · rename_i a ha
    exact h.field16_eq hp ha 0 (by decide)

theorem getHeaderExtensionLength_eq : p'.getHeaderExtensionLength = p.getHeaderExtensionLength := by
  unfold getHeaderExtensionLength
  rw [h.headerExtension]
  split
  · rfl
  · rename_i a ha
    rw [h.field16_eq hp ha 2 (by decide)]

theorem extensionEnd_eq : p'.extensionEnd = p.extensionEnd := by
  rw [extensionEnd, extensionEnd, h.extensionStart_eq, extensionRegionSize, extensionRegionSize,
    h.headerExtension, h.getHeaderExtensionLength_eq hp]

theorem headersSize_eq : headersSize p'.buffer = headersSize p.buffer := by
  have hext := hp.headerExtension
  unfold headersSize headerExtensionSize
  rw [h.bit_four, h.csrcListSize_eq]
  split_ifs at hext ⊢
  · rw [h.field16_eq hp hext 2 (by decide)]
  · rfl

theorem format_eq : p'.format = p.format := by
  unfold format hasOneByteExtensions hasTwoBytesExtensions
  rw [h.getHeaderExtensionId_eq hp]

theorem oneByteElements_eq : p'.oneByteElements = p.oneByteElements := by
  have hscan := h.elements oneByteFormat
  unfold format at hscan
  unfold oneByteElements
  rw [hasOneByteExtensions, h.getHeaderExtensionId_eq hp, ← hasOneByteExtensions,
    h.extensionEnd_eq hp, h.extensionStart_eq]
  split_ifs at hscan ⊢
  · exact hscan rfl
  · rfl
  · rfl

theorem twoBytesElements_eq : p'.twoBytesElements = p.twoBytesElements := by
  have hscan := h.elements twoBytesFormat
  unfold format at hscan
  unfold twoBytesElements
  rw [hasOneByteExtensions, hasTwoBytesExtensions, h.getHeaderExtensionId_eq hp,
    ← hasOneByteExtensions, ← hasTwoBytesExtensions, h.extensionEnd_eq hp, h.extensionStart_eq]
  split_ifs at hscan ⊢
  · rfl
  · exact hscan rfl
  · rfl

end

end SameLayout

/-- **A packet with the layout of a consistent one** is consistent if its size and its padding
are. -/
theorem Consistent.of_same_layout {p' : RtpPacket} (hp : p.Consistent) (h : SameLayout p p')
    (hsize : p'.size = p'.payload + p'.payloadLength + p'.payloadPadding)
    (hpad : p'.payloadPadding = paddingSize p'.buffer p'.size)
    (hpos : (p'.buffer 0).bit 5 = true → 1 ≤ p'.payloadPadding) : p'.Consistent where
  isRtp := by
    have hrtp := hp.isRtp
    rw [isRtp_eq, and_eq_true] at hrtp
    have hle : headerSize ≤ p'.size := by
      rw [hsize, h.payload, hp.payload, headersSize]
      omega
    rw [isRtp_eq, h.isVersionTwo_eq, hrtp.2, decide_eq_true hle]
    rfl
  headerExtension := by
    rw [h.headerExtension, h.bit_four, h.csrcListSize_eq]
    exact hp.headerExtension
  payload := by
    rw [h.payload, h.headersSize_eq hp]
    exact hp.payload
  size := hsize
  padding := hpad
  padding_pos := hpos
  mapOneByteExtensions := by
    rw [h.mapOneByteExtensions, hp.mapOneByteExtensions, h.oneByteElements_eq hp]
  mapTwoBytesExtensions := by
    rw [h.mapTwoBytesExtensions, hp.mapTwoBytesExtensions, h.twoBytesElements_eq hp]

structure SameHeaders (p p' : RtpPacket) : Prop extends SameParts p p' where
  head : SameHead (p.buffer 0) (p'.buffer 0)
  bytes : ∀ a, headerSize ≤ a → a < p.payload → p'.buffer a = p.buffer a

namespace SameHeaders

variable {p p' p'' : RtpPacket}

variable (h : SameHeaders p p')

include h

theorem trans (h' : SameHeaders p' p'') : SameHeaders p p'' where
  toSameParts := h.toSameParts.trans h'.toSameParts
  head := h'.head.trans h.head
  bytes a ha hlt := (h'.bytes a ha (h.payload.symm ▸ hlt)).trans (h.bytes a ha hlt)

theorem extensionBytes (hp : p.Consistent) {a : ℕ} (ha : p.extensionStart ≤ a) (hlt : a < p.payload) :
    p'.buffer a = p.buffer a := by
  rw [hp.extensionStart_eq] at ha
  exact h.bytes a (by omega) hlt

theorem sameLayout (hp : p.Consistent) : SameLayout p p' where
  toSameParts := h.toSameParts
  head := h.head
  bytes _ ha _ hlt := h.extensionBytes hp ha hlt
  elements F _ := by
    refine ElementFormat.scan_congr fun a ha hlt => ?_
    rw [hp.extensionEnd_eq] at hlt
    exact h.extensionBytes hp (by omega) hlt

end SameHeaders

theorem Consistent.paddingSize_eq (hp : p.Consistent) (hfirst : data 0 = p.buffer 0)
    (hlast : 1 ≤ p.payloadPadding → data (len - 1) = p.buffer (p.size - 1)) :
    paddingSize data len = p.payloadPadding := by
  rw [hp.padding, paddingSize, paddingSize, hfirst]
  by_cases hbit : (p.buffer 0).bit 5 = true
  · rw [if_pos hbit, if_pos hbit, hlast (hp.padding_pos hbit)]
  · rw [if_neg hbit, if_neg hbit]

structure Kept (p p' : RtpPacket) : Prop where
  consistent : p'.Consistent
  sameHeaders : SameHeaders p p'

theorem Kept.refl (hp : p.Consistent) : Kept p p :=
  ⟨hp, ⟨rfl, rfl, rfl, rfl⟩, rfl, fun _ _ _ => rfl⟩

/-! ## The payload -/

section Payload

variable {p : RtpPacket}

theorem sameHeaders_sizes (p : RtpPacket) (payloadLength pad size : ℕ) :
    SameHeaders p { p with payloadLength, payloadPadding := pad, size } :=
  ⟨⟨rfl, rfl, rfl, rfl⟩, rfl, fun _ _ _ => rfl⟩

theorem sameHeaders_setPayloadPaddingFlag (flag : Bool) : SameHeaders p (p.setPayloadPaddingFlag flag) where
  toSameParts := ⟨rfl, rfl, rfl, rfl⟩
  head := by
    have hmask : ∀ b : Byte, ((b &&& 0xDF) ||| if flag then 0x20 else 0) &&& 0xDF = b &&& 0xDF := by
      cases flag <;> decide
    exact hmask (p.buffer 0)
  bytes a ha _ := by
    show store p.buffer 0 [_] a = p.buffer a
    exact store_of_ge ((by decide : 0 + 1 ≤ headerSize).trans ha)

theorem bit_five_setPayloadPaddingFlag : ((p.setPayloadPaddingFlag false).buffer 0).bit 5 = false := by
  have hmask : ∀ b : Byte, Byte.bit ((b &&& 0xDF) ||| 0) 5 = false := by decide
  exact hmask (p.buffer 0)

section

variable (hp : p.Consistent)

include hp

theorem Consistent.of_no_padding {p' : RtpPacket} (h : SameHeaders p p')
    (hsize : p'.size = p'.payload + p'.payloadLength) (hpad : p'.payloadPadding = 0)
    (hbit : (p'.buffer 0).bit 5 = false) : Kept p p' := by
  refine ⟨hp.of_same_layout (h.sameLayout hp) (by rw [hpad, hsize, add_zero]) ?_
    fun hset => ?_, h⟩
  · rw [hpad, paddingSize, hbit]
    rfl
  · rw [hbit] at hset
    cases hset

theorem Consistent.headerSize_le : headerSize ≤ p.payload := by
  rw [hp.payload, headersSize, add_assoc]
  exact Nat.le_add_right _ _

theorem Consistent.payload_pos : 0 < p.payload :=
  lt_of_lt_of_le (by decide) hp.headerSize_le

theorem Consistent.setPayloadLength (length : ℕ) : Kept p (p.setPayloadLength length) := by
  have hsize := hp.size
  refine hp.of_no_padding ((sameHeaders_sizes _ _ _ _).trans (sameHeaders_setPayloadPaddingFlag false))
    ?_ rfl bit_five_setPayloadPaddingFlag
  show p.size - p.payloadLength - p.payloadPadding + (padTo4Bytes (BitVec.ofNat 16 length)).toNat =
    p.payload + (padTo4Bytes (BitVec.ofNat 16 length)).toNat
  omega

theorem Consistent.bit_five (h : p.payloadPadding = 0) : (p.buffer 0).bit 5 = false := by
  by_contra hbit
  have hpos := hp.padding_pos (eq_true_of_not_eq_false hbit)
  omega

end

/-! ### What leaves the first byte as it is -/

structure Framed (p p' : RtpPacket) : Prop extends SameParts p p' where
  payloadPadding : p'.payloadPadding = p.payloadPadding
  bytes : ∀ a, a = 0 ∨ headerSize ≤ a → a < p.payload → p'.buffer a = p.buffer a

namespace Framed

variable {p' p'' : RtpPacket}

theorem trans (h : Framed p p') (h' : Framed p' p'') : Framed p p'' where
  toSameParts := h.toSameParts.trans h'.toSameParts
  payloadPadding := h'.payloadPadding.trans h.payloadPadding
  bytes a ha hlt := (h'.bytes a ha (h.payload.symm ▸ hlt)).trans (h.bytes a ha hlt)

theorem first (h : Framed p p') (hp : p.Consistent) : p'.buffer 0 = p.buffer 0 :=
  h.bytes 0 (.inl rfl) hp.payload_pos

theorem sameHeaders (h : Framed p p') (hp : p.Consistent) : SameHeaders p p' where
  toSameParts := h.toSameParts
  head := congrArg (· &&& 0xDF) (h.first hp)
  bytes a ha := h.bytes a (.inr ha)

theorem of_buffer {buffer : ℕ → Byte}
    (h : ∀ a, a = 0 ∨ headerSize ≤ a → a < p.payload → buffer a = p.buffer a) : Framed p { p with buffer } :=
  ⟨⟨rfl, rfl, rfl, rfl⟩, rfl, h⟩

theorem store_header {a : ℕ} {bs : List Byte} (ha : 0 < a) (hend : a + bs.length ≤ headerSize) :
    Framed p { p with buffer := store p.buffer a bs } := by
  refine of_buffer fun b hb _ => ?_
  rcases hb with rfl | hb
  · exact store_of_lt ha
  · exact store_of_ge (hend.trans hb)

section

variable (p : RtpPacket)

theorem setPayloadType (pt : ℕ) : Framed p (p.setPayloadType pt) :=
  store_header Nat.one_pos (show 1 + 1 ≤ headerSize by decide)

theorem setSequenceNumber (seq : BitVec 16) : Framed p (p.setSequenceNumber seq) :=
  store_header two_pos (show 2 + 2 ≤ headerSize by decide)

theorem setSsrc (ssrc : ℕ) : Framed p (p.setSsrc ssrc) :=
  store_header (by decide) (show 8 + 4 ≤ headerSize by decide)

theorem store_payload (bs : List Byte) : Framed p { p with buffer := store p.buffer p.payload bs } :=
  of_buffer fun _ _ hlt => store_of_lt hlt

theorem move_payload {dst : ℕ} (hdst : p.payload ≤ dst) (src n : ℕ) :
    Framed p { p with buffer := move p.buffer dst src n } :=
  of_buffer fun _ _ hlt => move_of_not (.inl (hlt.trans_le hdst))

theorem sizes (payloadLength size : ℕ) : Framed p { p with payloadLength, size } :=
  ⟨⟨rfl, rfl, rfl, rfl⟩, rfl, fun _ _ _ => rfl⟩

end

section

variable (h : Framed p p') (hp : p.Consistent)
  (hsize : p'.size = p'.payload + p'.payloadLength + p'.payloadPadding)

include h hp hsize

theorem kept (hlast : 1 ≤ p.payloadPadding → p'.buffer (p'.size - 1) = p.buffer (p.size - 1)) :
    Kept p p' := by
  refine ⟨hp.of_same_layout ((h.sameHeaders hp).sameLayout hp) hsize ?_ ?_, h.sameHeaders hp⟩
  · rw [h.payloadPadding, hp.paddingSize_eq (h.first hp) hlast]
  · rw [h.first hp, h.payloadPadding]
    exact hp.padding_pos

theorem kept_removePadding : Kept p p'.removePadding := by
  unfold RtpPacket.removePadding
  split_ifs with hnone
  · refine hp.of_no_padding ((h.sameHeaders hp).trans ((sameHeaders_setPayloadPaddingFlag false).trans
      (sameHeaders_sizes _ _ _ _))) ?_ rfl bit_five_setPayloadPaddingFlag
    show p'.size - p'.payloadPadding = p'.payload + p'.payloadLength
    omega
  · have hzero := not_not.mp hnone
    refine hp.of_no_padding (h.sameHeaders hp) (by omega) hzero ?_
    rw [h.first hp]
    exact hp.bit_five (h.payloadPadding ▸ hzero)

end

end Framed

theorem Consistent.rtxEncode (hp : p.Consistent) (pt ssrc : ℕ) (seq : BitVec 16) :
    Kept p (p.rtxEncode pt ssrc seq) := by
  have hsize := hp.size
  unfold RtpPacket.rtxEncode
  dsimp only
  refine Framed.kept_removePadding ?_ hp ?_
  · exact (((((Framed.setPayloadType p pt).trans (.setSsrc _ ssrc)).trans
      (.move_payload _ (Nat.le_add_right _ 2) _ _)).trans (.store_payload _ _)).trans (.setSequenceNumber _ seq)).trans
      (.sizes _ _ _)
  · show p.size + 2 = p.payload + (p.payloadLength + 2) + p.payloadPadding
    omega

theorem Consistent.rtxDecode (hp : p.Consistent) (pt ssrc : ℕ) : Kept p (p.rtxDecode pt ssrc).1 := by
  have hsize := hp.size
  unfold RtpPacket.rtxDecode
  split_ifs with hshort
  · exact .refl hp
  · dsimp only
    refine Framed.kept_removePadding ?_ hp ?_
    · exact ((((Framed.setPayloadType p pt).trans (.setSequenceNumber _ _)).trans
        (.setSsrc _ ssrc)).trans (.move_payload _ le_rfl _ _)).trans (.sizes _ _ _)
    · show p.size - 2 = p.payload + (p.payloadLength - 2) + p.payloadPadding
      omega

/-- **`ShiftPayload`**, if its assertions hold. -/
theorem Consistent.shiftPayload (hp : p.Consistent) {off shift : ℕ} {expand : Bool}
    (h : shift = 0 ∨ off < p.payloadLength ∧ (expand = true ∨ shift ≤ p.payloadLength - off)) :
    ∃ p', p.shiftPayload off shift expand = .ok p' ∧ Kept p p' := by
  have hsize := hp.size
  unfold RtpPacket.shiftPayload
  by_cases hzero : shift = 0
  · exact ⟨p, if_pos hzero, .refl hp⟩
  · obtain ⟨hoff, hshift⟩ := h.resolve_left hzero
    rw [if_neg hzero, decide_eq_true hoff]
    cases expand with
    | true =>
      refine ⟨_, rfl, Framed.kept ((Framed.move_payload p ?_ _ _).trans (.sizes _ _ _)) hp ?_
        fun hpad => ?_⟩
      · omega
      · show p.size + shift = p.payload + (p.payloadLength + shift) + p.payloadPadding
        omega
      · show move p.buffer (p.payload + off + shift) (p.payload + off)
          (p.payloadLength + p.payloadPadding - off) (p.size + shift - 1) = _
        exact move_last (by omega) (by omega) (by omega)
    | false =>
      have hle := hshift.resolve_left false_ne_true
      rw [decide_eq_true hle]
      refine ⟨_, rfl, Framed.kept ((Framed.move_payload p ?_ _ _).trans (.sizes _ _ _)) hp ?_
        fun hpad => ?_⟩
      · omega
      · show p.size - shift = p.payload + (p.payloadLength - shift) + p.payloadPadding
        omega
      · show move p.buffer (p.payload + off) (p.payload + off + shift)
          (p.payloadLength + p.payloadPadding - off - shift) (p.size - shift - 1) = _
        exact move_last (by omega) (by omega) (by omega)

end Payload

/-! ## Copies -/

section Clone

variable {p : RtpPacket}

theorem cloneHeaders_spec (hp : p.Consistent) (buf : ℕ → Byte) :
    ∃ buf', p.cloneHeaders buf = (buf', p.headerExtension, p.payload) ∧
      ∀ a < p.payload, buf' a = p.buffer a := by
  have hstart := hp.extensionStart_eq
  have hcopy {m : ℕ → Byte} {n ptr a : ℕ} (hpre : ∀ a < ptr, m a = p.buffer a) (ha : a < ptr + n) :
      store m ptr (fetch p.buffer ptr n) a = p.buffer a := by
    rcases lt_or_ge a ptr with hlt | hge
    · rw [store_of_lt hlt, hpre a hlt]
    · obtain ⟨i, rfl⟩ := Nat.exists_eq_add_of_le hge
      exact store_fetch (by omega)
  have hhdr : ∀ a < headerSize, store buf 0 (fetch p.buffer 0 headerSize) a = p.buffer a :=
    fun a ha => hcopy (fun _ h => absurd h (Nat.not_lt_zero _)) (by omega)
  have hcsrcs : ∀ a < headerSize + csrcListSize p.buffer,
      store (store buf 0 (fetch p.buffer 0 headerSize)) headerSize
        (fetch p.buffer headerSize (csrcListSize p.buffer)) a = p.buffer a :=
    fun a ha => hcopy hhdr ha
  unfold cloneHeaders
  dsimp only
  cases hext : p.headerExtension with
  | none =>
    have hpl : p.payload = headerSize + csrcListSize p.buffer := by
      rw [← hstart, extensionStart, hext, Option.getD_none]
    rw [hpl]
    exact ⟨_, rfl, hcsrcs⟩
  | some a =>
    obtain ⟨ha, hend⟩ := hp.headerExtension_spec hext
    rw [hstart] at ha
    dsimp only
    rw [ha, ← hend, add_assoc]
    rw [ha] at hcsrcs
    exact ⟨_, rfl, fun b hb => hcopy hcsrcs hb⟩

theorem Consistent.last_byte (hp : p.Consistent) (h : p.payloadPadding ≠ 0) :
    p.buffer (p.size - 1) = BitVec.ofNat 8 p.payloadPadding := by
  have hpad := hp.padding
  unfold paddingSize at hpad
  split_ifs at hpad
  · rw [hpad, BitVec.ofNat_toNat, BitVec.setWidth_eq]
  · exact absurd hpad h

theorem Consistent.clone (hp : p.Consistent) (buf : ℕ → Byte) :
    ∃ buf', p.clone buf = .ok { p with buffer := buf' } ∧ Kept p { p with buffer := buf' } := by
  have hsize := hp.size
  obtain ⟨headers, hhdrs, hbs⟩ := cloneHeaders_spec hp buf
  let buf' := p.clonePadding (store headers p.payload (fetch p.buffer p.payload p.payloadLength))
    (p.payload + p.payloadLength)
  have hpre : ∀ a < p.payload, buf' a = p.buffer a := by
    intro a ha
    have hstore : store headers p.payload (fetch p.buffer p.payload p.payloadLength) a = p.buffer a := by
      rw [store_of_lt ha, hbs a ha]
    show p.clonePadding _ _ a = _
    unfold clonePadding
    split_ifs with hpad
    · rw [store_of_lt (by omega), hstore]
    · exact hstore
  have hlast : 1 ≤ p.payloadPadding → buf' (p.size - 1) = p.buffer (p.size - 1) := by
    intro hpad
    have hne : p.payloadPadding ≠ 0 := Nat.one_le_iff_ne_zero.mp hpad
    show p.clonePadding _ _ (p.size - 1) = _
    rw [clonePadding, if_pos hne, hp.last_byte hne, hsize]
    exact store_singleton _ _ _
  have hkept : Kept p { p with buffer := buf' } :=
    Framed.kept (.of_buffer fun a _ ha => hpre a ha) hp hsize hlast
  refine ⟨buf', ?_, hkept⟩
  have hone := hkept.consistent.mapOneByteExtensions
  have htwo := hkept.consistent.mapTwoBytesExtensions
  unfold RtpPacket.clone
  rw [hhdrs]
  dsimp only
  rw [beq_iff_eq.mpr hsize.symm, parseExtensions_eq _ rfl rfl]
  refine congrArg Except.ok ?_
  dsimp only at hone htwo
  rw [hone, htwo]
  rfl

end Clone

/-! ## The elements -/

section Elements

variable (p : RtpPacket)

def address (id : ℕ) : Option ℕ :=
  if p.hasOneByteExtensions then p.mapOneByteExtensions.find id
  else p.mapTwoBytesExtensions.find id

def elements (F : ElementFormat Byte) : List (ℕ × ℕ) :=
  F.scan p.buffer p.extensionEnd (p.extensionStart + 4)

variable {p} {F : ElementFormat Byte} {id e : ℕ}

section

variable (hp : p.Consistent) (hF : p.format = some F) (he : p.address id = some e)

include hp hF he

theorem Consistent.mem_elements : (id, e) ∈ p.elements F := by
  unfold format at hF
  unfold address at he
  split_ifs at hF he with hone htwo
  · cases hF
    rw [hp.mapOneByteExtensions, oneByteElements, if_pos hone] at he
    exact (mem_of_find_index he).resolve_right nofun
  · cases hF
    rw [hp.mapTwoBytesExtensions, twoBytesElements, if_neg hone, if_pos htwo] at he
    exact (mem_of_find_index he).resolve_right nofun

theorem Consistent.readAt_eq : F.isPadding (p.buffer e) = false ∧
      ∃ length, F.readAt p.buffer e = some (id, length) ∧ p.extensionStart + 4 ≤ e ∧
        e + F.head + length ≤ p.extensionEnd := by
  obtain ⟨hle, hpad, length, hread, hend⟩ := ElementFormat.mem_scan (hp.mem_elements hF he)
  exact ⟨hpad, length, hread, hle, hend⟩

end

theorem format_cases (hF : p.format = some F) : p.hasOneByteExtensions = true ∧ F = oneByteFormat ∨
      p.hasOneByteExtensions = false ∧ p.hasTwoBytesExtensions = true ∧ F = twoBytesFormat := by
  unfold format at hF
  split_ifs at hF with hone htwo
  · exact .inl ⟨hone, (Option.some.inj hF).symm⟩
  · exact .inr ⟨eq_false_iff.mpr hone, htwo, (Option.some.inj hF).symm⟩

theorem getExtension_of_none (h : p.format = none ∨ p.address id = none) : p.getExtension id = none := by
  unfold format address at h
  unfold getExtension
  by_cases hid : id = 0
  · exact if_pos hid
  · rw [if_neg hid]
    split_ifs at h ⊢
    · rw [h.resolve_left nofun]
    · rw [h.resolve_left nofun]
    · rfl

section

variable (hp : p.Consistent) (hF : p.format = some F) (he : p.address id = some e)

include hp hF he

theorem Consistent.id_ne_zero : id ≠ 0 := by
  obtain ⟨hpad, length, hread, -⟩ := hp.readAt_eq hF he
  rcases format_cases hF with ⟨-, rfl⟩ | ⟨-, -, rfl⟩
  · rw [(eq_of_oneByteFormat_readAt hread).1]
    exact of_decide_eq_false hpad
  · rw [(eq_of_twoBytesFormat_readAt hread).1]
    exact of_decide_eq_false hpad

/-- **What `GetExtension` returns for an element.** -/
theorem Consistent.getExtension_eq {length : ℕ} (hread : F.readAt p.buffer e = some (id, length)) :
    p.getExtension id = if length = 0 then none else some (e + F.head, length) := by
  have hid := hp.id_ne_zero hF he
  unfold address at he
  rcases format_cases hF with ⟨hone, rfl⟩ | ⟨hone, htwo, rfl⟩
  · obtain ⟨-, hlen⟩ := eq_of_oneByteFormat_readAt hread
    rw [hone, if_pos rfl] at he
    rw [getExtension, if_neg hid, hone, if_pos rfl, he, hlen, if_neg (Nat.succ_ne_zero _)]
    rfl
  · obtain ⟨-, hlen⟩ := eq_of_twoBytesFormat_readAt hread
    rw [hone, if_neg Bool.false_ne_true] at he
    rw [getExtension, if_neg hid, hone, htwo, if_neg Bool.false_ne_true, if_pos rfl, he, hlen]
    dsimp only
    have hiff : p.buffer (e + 1) = 0 ↔ (p.buffer (e + 1)).toNat = 0 :=
      ⟨congrArg BitVec.toNat, fun hlen => BitVec.eq_of_toNat_eq hlen⟩
    rw [if_congr hiff rfl rfl]
    rfl

end

theorem Consistent.getExtension_inside (hp : p.Consistent) {v : ℕ × ℕ} (h : p.getExtension id = some v) :
    p.extensionStart + 4 ≤ v.1 ∧ v.1 + v.2 ≤ p.payload := by
  cases hF : p.format with
  | none =>
    rw [getExtension_of_none (.inl hF)] at h
    cases h
  | some F =>
    cases he : p.address id with
    | none =>
      rw [getExtension_of_none (.inr he)] at h
      cases h
    | some e =>
      obtain ⟨-, length, hread, hstart, hend⟩ := hp.readAt_eq hF he
      rw [hp.getExtension_eq hF he hread] at h
      split_ifs at h
      cases h
      rw [hp.extensionEnd_eq] at hend
      exact ⟨hstart.trans (Nat.le_add_right _ _), hend⟩

variable {p' : RtpPacket}

theorem SameLayout.address_eq (h : SameLayout p p') (hp : p.Consistent) (id : ℕ) :
    p'.address id = p.address id := by
  unfold address hasOneByteExtensions
  rw [h.getHeaderExtensionId_eq hp, h.mapOneByteExtensions, h.mapTwoBytesExtensions]

theorem Kept.getExtension_eq (h : Kept p p') (hp : p.Consistent) (id : ℕ) :
    p'.getExtension id = p.getExtension id := by
  have hlay := h.sameHeaders.sameLayout hp
  have hfmt := hlay.format_eq hp
  have haddress := hlay.address_eq hp id
  cases hF : p.format with
  | none => rw [getExtension_of_none (.inl hF), getExtension_of_none (.inl (hfmt.trans hF))]
  | some F =>
    cases he : p.address id with
    | none =>
      rw [getExtension_of_none (.inr he), getExtension_of_none (.inr (haddress.trans he))]
    | some e =>
      obtain ⟨-, length, hread, hstart, hend⟩ := hp.readAt_eq hF he
      rw [hp.extensionEnd_eq] at hend
      have hread' : F.readAt p'.buffer e = some (id, length) :=
        (ElementFormat.readAt_congr fun a ha hlt =>
          h.sameHeaders.extensionBytes hp (by omega) (by omega)).trans hread
      rw [hp.getExtension_eq hF he hread,
        h.consistent.getExtension_eq (hfmt.trans hF) (haddress.trans he) hread']

end Elements

/-- **A consistent packet agrees with its bytes.** -/
theorem Consistent.agrees (hp : p.Consistent) : p.Agrees := by
  intro data hdata
  have hsize := hp.size
  have hkept : Kept p { p with buffer := data } := by
    refine Framed.kept (.of_buffer fun a _ ha => hdata a (by omega)) hp hsize fun hpad => ?_
    exact hdata (p.size - 1) (by omega)
  have hbs {a n : ℕ} (hle : a + n ≤ p.size) : fetch data a n = fetch p.buffer a n :=
    fetch_congr fun b _ hlt => hdata b (by omega)
  have hhdrs := hp.acceptable.headers
  unfold headersSize at hhdrs
  have hcsrcs : csrcListSize data = csrcListSize p.buffer := by
    rw [csrcListSize, csrcListSize, hdata 0 (by rw [headerSize] at hhdrs; omega)]
  refine ⟨_, parse_of_acceptable hkept.consistent.acceptable, ?_⟩
  rw [hkept.consistent.parsed_eq]
  have hexts : (fun id => (getExtension { p with buffer := data } id).map fun v =>
      fetch data v.1 v.2) = p.contents.extensions := by
    funext id
    rw [hkept.getExtension_eq hp]
    refine Option.map_congr fun v hv => hbs ?_
    have hinside := (hp.getExtension_inside hv).2
    omega
  show Contents.mk (fetch data 0 headerSize) (fetch data headerSize (csrcListSize data)) _
    (fetch data p.payload p.payloadLength) p.payloadPadding = _
  rw [hcsrcs, hbs (by omega), hbs (by omega), hbs (by omega)]
  exact congrArg (fun exts => Contents.mk _ _ exts _ _) hexts

end RtpPacket
end MediasoupWorker.RTC
