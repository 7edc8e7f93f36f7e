import MediasoupWorker.RTC.RtpPacketAgreement

/-!
# The elements that `SetExtensions` writes

`SetExtensions` writes the elements one behind the other and indexes them as it goes. A scan of what
was written meets the same elements.
-/

namespace MediasoupWorker.RTC

open Library BitVec

namespace RtpPacket

def formatOf (type : ℕ) : ElementFormat Byte := if type = 1 then oneByteFormat else twoBytesFormat

def mapOf (p : RtpPacket) (type : ℕ) : OrderedMap ℕ ℕ :=
  if type = 1 then p.mapOneByteExtensions else p.mapTwoBytesExtensions

def writtenElements (type : ℕ) : List GenericExtension → ℕ → List (ℕ × ℕ)
  | [], _ => []
  | extension :: extensions, ptr =>
    if extension.isValid type then
      (extension.id.toNat, ptr) :: writtenElements type extensions (ptr + extension.elementSize type)
    else writtenElements type extensions ptr

/-! ## Reading an element back -/

section Element

variable {type : ℕ} {ext : GenericExtension} {buf : ℕ → Byte} {ptr : ℕ}

theorem shiftLeft_and_high (b : Byte) : (b <<< 4 : Byte) &&& (0xF0 : Byte) = b <<< 4 := by
  ext i hi
  interval_cases i <;> simp

theorem isValid_one (h : ext.isValid 1 = true) :
    ext.id.toNat ≠ 0 ∧ ext.id.toNat ≤ 14 ∧ 1 ≤ ext.value.length ∧ ext.value.length ≤ 16 := by
  unfold GenericExtension.isValid at h
  simp only [if_true, Bool.not_eq_true', Bool.or_eq_false_iff, beq_eq_false_iff_ne, decide_eq_false_iff_not]
    at h
  obtain ⟨⟨⟨hid, hlarge⟩, hnil⟩, hlong⟩ := h
  exact ⟨fun hzero => hid (eq_of_toNat_eq hzero), by omega, by omega, by omega⟩

theorem isValid_two (h : ext.isValid 2 = true) : ext.id.toNat ≠ 0 := by
  unfold GenericExtension.isValid at h
  rw [if_neg (by decide)] at h
  exact fun hzero => bne_iff_ne.mp h (eq_of_toNat_eq hzero)

/-- **A written element is read back.** -/
theorem readAt_elementBytes (htype : type = 1 ∨ type = 2) (hvalid : ext.isValid type = true)
    (hbs : ∀ i, (hi : i < (ext.elementBytes type).length) → buf (ptr + i) = (ext.elementBytes type)[i]) :
    (formatOf type).isPadding (buf ptr) = false ∧
      (formatOf type).readAt buf ptr = some (ext.id.toNat, ext.value.length) := by
  rcases htype with rfl | rfl
  · obtain ⟨hid, hlarge, hpos, hlong⟩ := isValid_one hvalid
    have hhead : buf ptr = (ext.id <<< 4 &&& 0xF0) ||| (BitVec.ofNat 8 (ext.value.length - 1) &&& 0x0F) := by
      rw [shiftLeft_and_high]
      exact hbs 0 (Nat.succ_pos _)
    have hread : ((buf ptr &&& 0xF0) >>> 4).toNat = ext.id.toNat := by
      rw [hhead, nibbles_and_high, shiftLeft_and_high]
      rw [toNat_ushiftRight, toNat_shiftLeft, Nat.shiftLeft_eq, Nat.shiftRight_eq_div_pow]
      omega
    have hlen : (buf ptr &&& 0x0F).toNat + 1 = ext.value.length := by
      rw [hhead, nibbles_and_low, toNat_ofNat_and_low (by omega)]
      omega
    refine ⟨decide_eq_false (hread ▸ hid), ?_⟩
    show oneByteFormat.readAt buf ptr = _
    rw [oneByteFormat_readAt, hread, hlen, if_neg (by omega)]
  · have hid := isValid_two hvalid
    have hread : buf ptr = ext.id := hbs 0 (Nat.succ_pos _)
    have hlen : buf (ptr + 1) = BitVec.ofNat 8 ext.value.length :=
      hbs 1 (Nat.succ_lt_succ (Nat.succ_pos _))
    refine ⟨decide_eq_false (hread ▸ hid), ?_⟩
    show twoBytesFormat.readAt buf ptr = _
    rw [twoBytesFormat_readAt, hread, hlen, BitVec.toNat_ofNat, Nat.mod_eq_of_lt ext.length_lt]

theorem elementSize_eq (htype : type = 1 ∨ type = 2) (ext : GenericExtension) :
    ext.elementSize type = (formatOf type).head + ext.value.length := by
  rcases htype with rfl | rfl <;> rfl

end Element

/-! ## The loop -/

section Loop

variable {type : ℕ}

/-- **A scan meets what the loop has written.** -/
theorem scan_writeExtensions (htype : type = 1 ∨ type = 2) (extensions : List GenericExtension)
    (p : RtpPacket) (ptr stop : ℕ) {m : ℕ → Byte} (hstop : (writeExtensions type extensions p ptr).2 ≤ stop)
    (hm : ∀ a, ptr ≤ a → a < (writeExtensions type extensions p ptr).2 →
      m a = (writeExtensions type extensions p ptr).1.buffer a) :
    (formatOf type).scan m stop ptr = writtenElements type extensions ptr ++
      (formatOf type).scan m stop (writeExtensions type extensions p ptr).2 := by
  induction extensions generalizing p ptr with
  | nil => rfl
  | cons extension extensions ih =>
    rw [writeExtensions] at hstop hm ⊢
    rw [writtenElements]
    by_cases hvalid : extension.isValid type = true
    · rw [if_pos hvalid] at hstop hm ⊢
      rw [if_pos hvalid]
      obtain ⟨hend, hrest⟩ := written_writeExtensions htype extensions
        (p.writeExtension type extension ptr) (ptr + extension.elementSize type)
      have hbs : ∀ i, (hi : i < (extension.elementBytes type).length) →
          m (ptr + i) = (extension.elementBytes type)[i] := by
        intro i hi
        have hi' := hi
        rw [length_elementBytes htype] at hi'
        rw [hm _ (Nat.le_add_right _ _) (by omega), hrest.buffer _ (.inl (by omega))]
        have hbuf : (p.writeExtension type extension ptr).buffer =
            store p.buffer ptr (extension.elementBytes type) := by
          unfold writeExtension
          split_ifs <;> rfl
        rw [hbuf]
        exact store_add hi
      obtain ⟨hpad, hread⟩ := readAt_elementBytes htype hvalid hbs
      have hsize := elementSize_eq htype extension
      rw [ElementFormat.scan_element hpad hread (by omega), add_assoc, ← hsize,
        ih _ _ hstop fun a ha => hm a (by omega)]
      rfl
    · rw [if_neg hvalid] at hstop hm ⊢
      rw [if_neg hvalid]
      exact ih p ptr hstop hm

section

variable (type : ℕ) (extensions : List GenericExtension) (p : RtpPacket) (ptr : ℕ)

theorem index_writeExtensions : (writeExtensions type extensions p ptr).1.mapOf type =
      index (writtenElements type extensions ptr) (p.mapOf type) := by
  induction extensions generalizing p ptr with
  | nil => rfl
  | cons extension extensions ih =>
    rw [writeExtensions, writtenElements]
    by_cases hvalid : extension.isValid type = true
    · rw [if_pos hvalid, if_pos hvalid, ih]
      refine congrArg (index _) ?_
      unfold mapOf writeExtension
      split_ifs <;> rfl
    · rw [if_neg hvalid, if_neg hvalid]
      exact ih p ptr

theorem otherMap_writeExtensions : if type = 1 then
      (writeExtensions type extensions p ptr).1.mapTwoBytesExtensions = p.mapTwoBytesExtensions
    else (writeExtensions type extensions p ptr).1.mapOneByteExtensions = p.mapOneByteExtensions := by
  induction extensions generalizing p ptr with
  | nil =>
    rw [writeExtensions]
    split_ifs <;> rfl
  | cons extension extensions ih =>
    rw [writeExtensions]
    by_cases hvalid : extension.isValid type = true
    · have hrest := ih (p.writeExtension type extension ptr) (ptr + extension.elementSize type)
      rw [if_pos hvalid]
      unfold writeExtension at hrest ⊢
      split_ifs at hrest ⊢
      · exact hrest
      · exact hrest
    · rw [if_neg hvalid]
      exact ih p ptr

end

/-- **The elements and their padding are written**, and the map has what a scan of them meets. -/
theorem fillExtensions_spec {p : RtpPacket} (htype : type = 1 ∨ type = 2) (extensions : List GenericExtension)
    {a : ℕ} (pad : ℕ) (ha : p.headerExtension = some a)
    (hend : a + 4 + extensionsTotalSize type extensions + pad = p.payload) :
    ∃ p', p.fillExtensions type extensions pad = .ok p' ∧ Written p p' (a + 4) p.payload ∧
      p'.mapOf type = index ((formatOf type).scan p'.buffer p.payload (a + 4)) (p.mapOf type) ∧
      if type = 1 then p'.mapTwoBytesExtensions = p.mapTwoBytesExtensions
      else p'.mapOneByteExtensions = p.mapOneByteExtensions := by
  obtain ⟨p', hp', hwr⟩ := fillExtensions_of_eq htype extensions pad ha hend
  refine ⟨p', hp', hwr, ?_⟩
  have hptr := (written_writeExtensions htype extensions p (a + 4)).1
  unfold fillExtensions at hp'
  rw [ha] at hp'
  obtain ⟨-, -, hp'⟩ := bind_eq_ok.mp hp'
  obtain rfl := Except.ok.inj hp'
  refine ⟨?_, otherMap_writeExtensions type extensions p (a + 4)⟩
  dsimp only
  have hzeros : ∀ b, (writeExtensions type extensions p (a + 4)).2 ≤ b → b < p.payload →
      (formatOf type).isPadding (store (writeExtensions type extensions p (a + 4)).1.buffer
        (writeExtensions type extensions p (a + 4)).2 (List.replicate pad 0) b) = true := by
    intro b hb hlt
    obtain ⟨i, rfl⟩ := Nat.exists_eq_add_of_le hb
    rw [store_add (by rw [List.length_replicate]; omega), List.getElem_replicate]
    rcases htype with rfl | rfl <;> rfl
  have hscan := scan_writeExtensions htype extensions p (a + 4) p.payload (by omega)
    fun b _ hlt => store_of_lt (l := List.replicate pad 0) hlt
  rw [hscan, ElementFormat.scan_skip (by omega) hzeros,
    ElementFormat.scan_of_lt (Nat.lt_add_of_pos_right (formatOf type).head_pos), List.append_nil]
  exact index_writeExtensions type extensions p (a + 4)

end Loop

/-! ## Before the loop -/

section Prepare

variable {p p' : RtpPacket} {type : ℕ}

theorem getHeaderExtensionId_of_some {a : ℕ} (h : p.headerExtension = some a) :
    p.getHeaderExtensionId = field16 p.buffer a := by
  rw [getHeaderExtensionId, h]

theorem format_eq_of_id (h : p'.getHeaderExtensionId = p.getHeaderExtensionId) : p'.format = p.format := by
  unfold format hasOneByteExtensions hasTwoBytesExtensions
  rw [h]

theorem not_one_of_two (h : p.hasTwoBytesExtensions = true) : p.hasOneByteExtensions = false := by
  unfold hasTwoBytesExtensions at h
  unfold hasOneByteExtensions
  refine beq_eq_false_iff_ne.mpr fun hone => ?_
  rw [hone] at h
  exact absurd h (by decide)

theorem format_of_one (h : p.hasOneByteExtensions = true) : p.format = some (formatOf 1) := if_pos h

theorem format_of_two (h : p.hasTwoBytesExtensions = true) : p.format = some (formatOf 2) := by
  rw [format, not_one_of_two h, if_neg Bool.false_ne_true, if_pos h]
  rfl

theorem format_of_id (htype : type = 1 ∨ type = 2) (h : p.getHeaderExtensionId = headerExtensionId type) :
    p.format = some (formatOf type) := by
  rcases htype with rfl | rfl
  · refine format_of_one ?_
    rw [hasOneByteExtensions, h]
    rfl
  · refine format_of_two ?_
    rw [hasTwoBytesExtensions, h]
    decide

structure Prepared (p p' : RtpPacket) (type : ℕ) : Prop where
  headerExtension : p'.headerExtension = some p.extensionStart
  first : p'.buffer 0 = p.buffer 0 ||| 0x10
  format : p'.format = some (formatOf type)

theorem resetExtensions_prepares (htype : type = 1 ∨ type = 2) (hp : p.Consistent) :
    (p.resetExtensions type).buffer 0 = p.buffer 0 ∧
      (p.headerExtension ≠ none → (p.resetExtensions type).format = some (formatOf type)) ∧
      (p.resetExtensions type).mapOneByteExtensions = .empty ∧
      (p.resetExtensions type).mapTwoBytesExtensions = .empty := by
  unfold resetExtensions
  dsimp only
  split_ifs with hone htwo
  · refine ⟨rfl, fun _ => ?_, rfl, rfl⟩
    rw [hone.1]
    exact format_of_one hone.2
  · refine ⟨rfl, fun _ => ?_, rfl, rfl⟩
    rw [htwo.1]
    exact format_of_two htwo.2
  · split
    · rename_i hnone
      exact ⟨rfl, fun hsome => absurd hnone hsome, rfl, rfl⟩
    · rename_i a ha
      have hstart := (hp.headerExtension_spec ha).1
      have hle := hp.extensionStart_eq
      rw [headerSize] at hle
      refine ⟨store_of_lt (by omega), fun _ => format_of_id htype ?_, rfl, rfl⟩
      refine (getHeaderExtensionId_of_some (a := a) ?_).trans ?_
      · exact ha
      · exact field16_store _ _ _

theorem makeRoom_prepares (htype : type = 1 ∨ type = 2) (hp : p.Layout) (size : ℕ)
    (hroom : (p.extensionStart : ℤ) + 4 + size = p.payload + p.extensionsShift size)
    (hfmt : p.headerExtension ≠ none → p.format = some (formatOf type))
    (hbit : p.headerExtension ≠ none → p.buffer 0 ||| 0x10 = p.buffer 0) :
    Prepared p (p.makeRoom type size) type := by
  have hhdr := hp.payload
  rw [headerSize] at hhdr
  unfold extensionStart at hroom
  -- what is moved is moved behind the header of the header extension
  have hmove (m : ℕ → Byte) {a : ℕ} (ha : a < p.headerExtension.getD p.payload + 4) (n : ℕ) :
      move m ((p.payload : ℤ) + p.extensionsShift size).toNat p.payload n a = m a :=
    move_of_not (.inl (by omega))
  unfold makeRoom
  dsimp only
  split
  · rename_i a ha
    have hstart : p.extensionStart = a := by rw [extensionStart, ha, Option.getD_some]
    have hsome : p.headerExtension ≠ none := by
      rw [ha]
      exact Option.some_ne_none a
    have hle := (hp.headerExtension a ha).1
    rw [headerSize] at hle
    rw [ha, Option.getD_some] at hmove
    split_ifs
    · have hsame (b : ℕ) (hb : b < a + 2) :
          store (p.movePayload (p.extensionsShift size)).buffer (a + 2)
            (bytes16 (BitVec.ofNat 16 (size / 4))) b = p.buffer b :=
        (store_of_lt hb).trans (hmove _ (by omega) _)
      refine ⟨hstart ▸ ha, ?_, (format_eq_of_id ?_).trans (hfmt hsome)⟩
      · rw [hbit hsome]
        exact hsame 0 (by omega)
      · rw [getHeaderExtensionId_of_some ha]
        refine (getHeaderExtensionId_of_some (a := a) ?_).trans ?_
        · exact ha
        · exact field16_congr (hsame a (by omega)) (hsame (a + 1) (by omega))
    · exact ⟨hstart ▸ ha, (hbit hsome).symm, hfmt hsome⟩
  · rename_i hnone
    have hstart : p.extensionStart = p.payload := by rw [extensionStart, hnone, Option.getD_none]
    rw [hnone, Option.getD_none] at hmove
    refine ⟨congrArg some hstart.symm, ?_, format_of_id htype ?_⟩
    · show store (store (movePayload _ _).buffer p.payload (bytes16 (headerExtensionId type)))
        (p.payload + 2) (bytes16 (BitVec.ofNat 16 (size / 4))) 0 = _
      rw [store_of_lt (by omega), store_of_lt (by omega)]
      exact (hmove _ (by omega) _).trans (store_singleton p.buffer 0 (p.buffer 0 ||| 0x10))
    · show field16 (store (store (movePayload _ _).buffer p.payload (bytes16 (headerExtensionId type)))
        (p.payload + 2) (bytes16 (BitVec.ofNat 16 (size / 4)))) p.payload = _
      rw [field16_congr (store_of_lt (by omega)) (store_of_lt (by omega))]
      exact field16_store _ _ _

theorem makeRoom_maps (p : RtpPacket) (type size : ℕ) :
    (p.makeRoom type size).mapOneByteExtensions = p.mapOneByteExtensions ∧
      (p.makeRoom type size).mapTwoBytesExtensions = p.mapTwoBytesExtensions := by
  unfold makeRoom
  dsimp only
  split
  · split_ifs
    · exact ⟨rfl, rfl⟩
    · exact ⟨rfl, rfl⟩
  · exact ⟨rfl, rfl⟩

end Prepare

/-! ## The whole of it -/

section Whole

variable {p : RtpPacket} {type : ℕ} {extensions : List GenericExtension}

/-- **The header extension changes its size by an `int16_t`**, and the size of the elements is a
`uint16_t` when it is padded. -/
structure ExtensionsFit (p : RtpPacket) (type : ℕ) (extensions : List GenericExtension) : Prop where
  size : extensionsTotalSize type extensions < 2 ^ 16 - 4
  shrinks : p.extensionRegionSize ≤ 4 + paddedSize type extensions + 2 ^ 15
  grows : 4 + paddedSize type extensions < p.extensionRegionSize + 2 ^ 15

theorem Consistent.layout (hp : p.Consistent) : p.Layout where
  headerExtension a ha := by
    obtain ⟨hstart, hend⟩ := hp.headerExtension_spec ha
    have hle := hp.extensionStart_eq
    exact ⟨by omega, hend.symm⟩
  payload := hp.headerSize_le
  size := hp.size

theorem ExtensionsFit.extensionsShift_eq (h : ExtensionsFit p type extensions) (hp : p.Layout) :
    (p.extensionStart : ℤ) + 4 + paddedSize type extensions =
      p.payload + p.extensionsShift (paddedSize type extensions) := by
  have hpl := hp.payload_eq
  have hshrinks := h.shrinks
  have hgrows := h.grows
  unfold extensionRegionSize at hpl hshrinks hgrows
  unfold extensionsShift
  split
  · rename_i hnone
    rw [hnone] at hpl hgrows
    dsimp only at hpl hgrows
    have hinner : int16 (paddedSize type extensions : ℤ) = paddedSize type extensions :=
      int16_of_bounds (by omega) (by omega)
    rw [hinner, int16_of_bounds (by omega) (by omega)]
    omega
  · rename_i a ha
    rw [ha] at hpl hshrinks hgrows
    dsimp only at hpl hshrinks hgrows
    rw [int16_of_bounds (by omega) (by omega)]
    omega

theorem or_extensionBit : ∀ b : Byte, (b ||| 0x10).bit 4 = true ∧
    (b ||| 0x10).bit 5 = b.bit 5 ∧ (b ||| 0x10) &&& 0x0F = b &&& 0x0F ∧
    isVersionTwo (b ||| 0x10) = isVersionTwo b ∧ (b.bit 4 = true → b ||| 0x10 = b) := by
  decide

theorem elements_of_format (htype : type = 1 ∨ type = 2) (h : p.format = some (formatOf type)) :
    (if type = 1 then p.oneByteElements else p.twoBytesElements) =
        (formatOf type).scan p.buffer p.extensionEnd (p.extensionStart + 4) ∧
      (if type = 1 then p.twoBytesElements else p.oneByteElements) = [] := by
  have hone : oneByteFormat ≠ twoBytesFormat := fun heq =>
    absurd (congrArg ElementFormat.head heq) (by decide)
  unfold oneByteElements twoBytesElements
  rcases htype with rfl | rfl
  · rcases format_cases h with ⟨hone', -⟩ | ⟨-, -, heq⟩
    · rw [hone']
      exact ⟨rfl, rfl⟩
    · exact absurd heq hone
  · rcases format_cases h with ⟨-, heq⟩ | ⟨hone', htwo, -⟩
    · exact absurd heq.symm hone
    · rw [hone', htwo]
      exact ⟨rfl, rfl⟩

theorem Prepared.consistent {p' : RtpPacket} (h : Prepared p p' type) (htype : type = 1 ∨ type = 2)
    (hp : p.Consistent) {shift : ℤ} (hmv : Moved p p' shift)
    (hlen : p.extensionStart + 4 + p'.getHeaderExtensionLength = p'.payload)
    (hmap : p'.mapOf type = index ((formatOf type).scan p'.buffer p'.payload (p.extensionStart + 4)) .empty)
    (hother : if type = 1 then p'.mapTwoBytesExtensions = .empty
      else p'.mapOneByteExtensions = .empty) : p'.Consistent := by
  obtain ⟨hbit, hpaddingBit, hcsrc, hver, -⟩ := or_extensionBit (p.buffer 0)
  rw [← h.first] at hbit hpaddingBit hcsrc hver
  have hsize := hp.size
  have hcsrcs : csrcListSize p'.buffer = csrcListSize p.buffer := congrArg (·.toNat * 4) hcsrc
  have hstart : p.extensionStart = headerSize + csrcListSize p'.buffer := by
    rw [hcsrcs]
    exact hp.extensionStart_eq
  have hext : p'.extensionStart = p.extensionStart := by
    rw [extensionStart, h.headerExtension, Option.getD_some]
  have hextensionEnd : p'.extensionEnd = p'.payload := by
    rw [extensionEnd, hext, extensionRegionSize, h.headerExtension, ← hlen, add_assoc]
  have hsize' : p'.size = p'.payload + p'.payloadLength + p'.payloadPadding := by
    have hmovedPayload := hmv.payload
    have hmovedSize := hmv.size
    rw [hmv.payloadLength, hmv.payloadPadding]
    omega
  obtain ⟨hels, hnil⟩ := elements_of_format htype h.format
  rw [hextensionEnd, hext] at hels
  refine {
    isRtp := ?_, headerExtension := ?_, payload := ?_, size := hsize', padding := ?_
    padding_pos := ?_, mapOneByteExtensions := ?_, mapTwoBytesExtensions := ?_ }
  · have hrtp := hp.isRtp
    rw [isRtp_eq, Bool.and_eq_true] at hrtp
    rw [isRtp_eq, hver, hrtp.2, decide_eq_true (by omega)]
    rfl
  · rw [hbit, if_pos rfl, h.headerExtension, hstart]
  · rw [getHeaderExtensionLength, h.headerExtension] at hlen
    rw [headersSize, headerExtensionSize, hbit, if_pos rfl, ← hstart, ← hlen, add_assoc]
  · rw [hmv.payloadPadding, hp.padding, paddingSize, paddingSize, hpaddingBit]
    by_cases hset : (p.buffer 0).bit 5 = true
    · have hpos := hp.padding_pos hset
      have hlast := hmv.bytes (p.payloadLength + p.payloadPadding - 1) (by omega)
      have hold : p.payload + (p.payloadLength + p.payloadPadding - 1) = p.size - 1 := by omega
      have hnew : p'.payload + (p.payloadLength + p.payloadPadding - 1) = p'.size - 1 := by
        rw [hsize', hmv.payloadLength, hmv.payloadPadding]
        omega
      rw [hold, hnew] at hlast
      rw [hlast]
    · rw [if_neg hset, if_neg hset]
  · rw [hpaddingBit, hmv.payloadPadding]
    exact hp.padding_pos
  · rcases htype with rfl | rfl
    · exact hmap.trans (congrArg (index · .empty) hels.symm)
    · exact Eq.trans hother (congrArg (index · .empty) hnil.symm)
  · rcases htype with rfl | rfl
    · exact Eq.trans hother (congrArg (index · .empty) hnil.symm)
    · exact hmap.trans (congrArg (index · .empty) hels.symm)

theorem Prepared.written {p' p'' : RtpPacket} {ptr : ℕ} (h : Prepared p p' type)
    (hwr : Written p' p'' (p.extensionStart + 4) ptr) : Prepared p p'' type where
  headerExtension := hwr.headerExtension.trans h.headerExtension
  first := (hwr.buffer 0 (.inl (by omega))).trans h.first
  format := by
    refine (format_eq_of_id ?_).trans h.format
    rw [getHeaderExtensionId_of_some h.headerExtension,
      getHeaderExtensionId_of_some (hwr.headerExtension.trans h.headerExtension)]
    exact field16_congr (hwr.buffer _ (.inl (by omega))) (hwr.buffer _ (.inl (by omega)))

/-- **`SetExtensions`**, if the change of the size fits. -/
theorem Consistent.setExtensions (hp : p.Consistent) (htype : type = 1 ∨ type = 2)
    (h : ExtensionsFit p type extensions) :
    ∃ p', p.setExtensions type extensions = .ok p' ∧ p'.Consistent := by
  have hlay := hp.layout
  have hlay' := layout_resetExtensions hlay type
  have hshift := h.extensionsShift_eq hlay
  obtain ⟨hext, -, hreset⟩ := resetExtensions_spec hlay type
  obtain ⟨hstart, hshift'⟩ := resetExtensions_extensions hlay type (paddedSize type extensions)
  obtain ⟨hfirst, hfmt, hone, htwo⟩ := resetExtensions_prepares htype hp
  have hpl := hreset.payload
  have hle : extensionsTotalSize type extensions ≤ paddedSize type extensions := by
    unfold paddedSize
    omega
  have hsize := h.size
  have hroomEq : ((p.resetExtensions type).extensionStart : ℤ) + 4 + paddedSize type extensions =
      (p.resetExtensions type).payload +
        (p.resetExtensions type).extensionsShift (paddedSize type extensions) := by
    rw [hstart, hshift', hpl, add_zero]
    exact hshift
  obtain ⟨hext', hlen, hroom⟩ := makeRoom_spec hlay' type (paddedSize type extensions)
    (by unfold paddedSize; omega) (by unfold paddedSize; omega) hroomEq
  have hbit (hsome : p.headerExtension ≠ none) : p.buffer 0 ||| 0x10 = p.buffer 0 := by
    refine (or_extensionBit (p.buffer 0)).2.2.2.2 ?_
    by_contra hclear
    exact hsome (hp.headerExtension.trans (if_neg hclear))
  have hprep := makeRoom_prepares htype hlay' (paddedSize type extensions) hroomEq
    (fun hsome => hfmt (hext ▸ hsome))
    (fun hsome => by rw [hfirst]; exact hbit (hext ▸ hsome))
  have hprep' : Prepared p ((p.resetExtensions type).makeRoom type (paddedSize type extensions))
      type := ⟨hstart ▸ hprep.headerExtension, hfirst ▸ hprep.first, hprep.format⟩
  have hend := hroom.payload
  rw [hstart] at hext'
  obtain ⟨p', hp', hwr, hmap, hother⟩ := fillExtensions_spec htype extensions
    (paddedSize type extensions - extensionsTotalSize type extensions) hext' (by omega)
  refine ⟨p', (setExtensions_eq p htype hsize).trans hp', ?_⟩
  obtain ⟨hone', htwo'⟩ :=
    (p.resetExtensions type).makeRoom_maps type (paddedSize type extensions)
  rw [hone] at hone'
  rw [htwo] at htwo'
  refine (hprep'.written hwr).consistent htype hp
    ((hreset.trans hroom).trans_zero (hwr.moved le_rfl)) ?_ ?_ ?_
  · have hsame := hwr.getHeaderExtensionLength_eq (by
      rw [hext']
      rintro a ⟨⟩
      exact .inl le_rfl)
    rw [hsame, hlen, hwr.payload]
    omega
  · have hnil : ((p.resetExtensions type).makeRoom type (paddedSize type extensions)).mapOf type =
        .empty := by
      unfold mapOf
      split_ifs
      · exact hone'
      · exact htwo'
    rw [hmap, hnil, hwr.payload]
  · rw [hone', htwo'] at hother
    exact hother

end Whole

end RtpPacket
end MediasoupWorker.RTC
