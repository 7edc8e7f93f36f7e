import MediasoupWorker.RTC.RtpPacket

/-!
# Replacing the header extension of a packet

`SetExtensions` moves the payload by a distance that it computes as an `int16_t`.
-/

namespace MediasoupWorker.RTC

open Library List

namespace RtpPacket

/-! ## Sizes -/

theorem int16_eq (v : ℤ) : int16 v = v.bmod (2 ^ 16) := BitVec.toInt_ofInt v

theorem int16_of_bounds {value : ℤ} (h : -32768 ≤ value) (h' : value < 32768) : int16 value = value := by
  rw [int16_eq, Int.bmod]
  split_ifs <;> omega

theorem int16_of_lt {v : ℤ} (h : -65536 < v) (h' : v < -32768) : int16 v = v + 65536 := by
  rw [int16_eq, Int.bmod]
  split_ifs <;> omega

/-! ## Moving the payload -/

def extensionRegionSize (p : RtpPacket) : ℕ :=
  match p.headerExtension with
  | none => 0
  | some _ => 4 + p.getHeaderExtensionLength

def extensionStart (p : RtpPacket) : ℕ := p.headerExtension.getD p.payload

structure Moved (p p' : RtpPacket) (shift : ℤ) : Prop where
  payload : (p'.payload : ℤ) = p.payload + shift
  size : (p'.size : ℤ) = p.size + shift
  payloadLength : p'.payloadLength = p.payloadLength
  payloadPadding : p'.payloadPadding = p.payloadPadding
  bytes : ∀ i < p.payloadLength + p.payloadPadding, p'.buffer (p'.payload + i) = p.buffer (p.payload + i)

namespace Moved

variable {p p' p'' : RtpPacket} {shift shift' : ℤ}

theorem trans (h : Moved p p' shift) (h' : Moved p' p'' shift') : Moved p p'' (shift + shift') := by
  refine ⟨?_, ?_, h'.payloadLength.trans h.payloadLength,
    h'.payloadPadding.trans h.payloadPadding, fun i hi => ?_⟩
  · rw [h'.payload, h.payload, add_assoc]
  · rw [h'.size, h.size, add_assoc]
  · rw [h'.bytes i (by rw [h.payloadLength, h.payloadPadding]; exact hi), h.bytes i hi]

theorem trans_zero (h : Moved p p' shift) (h' : Moved p' p'' 0) : Moved p p'' shift := by
  have htrans := h.trans h'
  rwa [add_zero] at htrans

theorem of_buffer (hpl : p'.payload = p.payload) (hsize : p'.size = p.size)
    (hlen : p'.payloadLength = p.payloadLength) (hpad : p'.payloadPadding = p.payloadPadding)
    (hbs : ∀ a, p.payload ≤ a → p'.buffer a = p.buffer a) : Moved p p' 0 := by
  refine ⟨by rw [hpl, add_zero], by rw [hsize, add_zero], hlen, hpad, fun i _ => ?_⟩
  rw [hpl, hbs _ (Nat.le_add_right _ _)]

end Moved

theorem moved_movePayload {p : RtpPacket} {shift : ℤ} (hpl : 0 ≤ p.payload + shift)
    (hsize : 0 ≤ p.size + shift) : Moved p (p.movePayload shift) shift := by
  refine ⟨Int.toNat_of_nonneg hpl, Int.toNat_of_nonneg hsize, rfl, rfl, fun i hi => ?_⟩
  exact move_add hi

/-! ## The parts of `SetExtensions` -/

section Parts

variable {p : RtpPacket} {type : ℕ}

variable {a : ℕ}

theorem field16_congr {buf buf' : ℕ → Byte} (h : buf a = buf' a) (h' : buf (a + 1) = buf' (a + 1)) :
    field16 buf a = field16 buf' a := by
  rw [field16, field16, h, h']

theorem field16_store (buf : ℕ → Byte) (a : ℕ) (value : BitVec 16) :
    field16 (store buf a (bytes16 value)) a = value := by
  have hhigh : store buf a (bytes16 value) a = value.extractLsb' 8 8 := by
    simp [store, bytes16]
  have hlow : store buf a (bytes16 value) (a + 1) = value.extractLsb' 0 8 := by
    simp [store, bytes16]
  rw [field16, hhigh, hlow]
  ext i hi
  rw [BitVec.getElem_append]
  split_ifs with hi8
  · rw [BitVec.getElem_extractLsb', zero_add]
    exact BitVec.getLsbD_eq_getElem hi
  · rw [BitVec.getElem_extractLsb', Nat.add_sub_of_le (not_lt.mp hi8)]
    exact BitVec.getLsbD_eq_getElem hi

theorem resetExtensions_spec (h : p.Layout) (type : ℕ) :
    (p.resetExtensions type).headerExtension = p.headerExtension ∧
      (p.resetExtensions type).getHeaderExtensionLength = p.getHeaderExtensionLength ∧
      Moved p (p.resetExtensions type) 0 := by
  unfold resetExtensions
  dsimp only
  split_ifs
  · exact ⟨rfl, rfl, .of_buffer rfl rfl rfl rfl fun _ _ => rfl⟩
  · exact ⟨rfl, rfl, .of_buffer rfl rfl rfl rfl fun _ _ => rfl⟩
  · split
    · exact ⟨rfl, rfl, .of_buffer rfl rfl rfl rfl fun _ _ => rfl⟩
    · rename_i a ha
      have hpl := (h.headerExtension a ha).2
      refine ⟨rfl, ?_, .of_buffer rfl rfl rfl rfl fun b hb => ?_⟩
      · unfold getHeaderExtensionLength
        rw [show p.headerExtension = some a from ha]
        dsimp only
        have hfield : field16 (store p.buffer a (bytes16 (headerExtensionId type))) (a + 2) =
            field16 p.buffer (a + 2) :=
          field16_congr (store_of_ge le_rfl) (store_of_ge (Nat.le_succ _))
        rw [hfield]
      · exact store_of_ge (show a + 2 ≤ b by omega)

theorem makeRoom_spec (h : p.Layout) (type size : ℕ) (hsize : size < 2 ^ 16) (hfour : size % 4 = 0)
    (hroom : (p.extensionStart : ℤ) + 4 + size = p.payload + p.extensionsShift size) :
    (p.makeRoom type size).headerExtension = some p.extensionStart ∧
      (p.makeRoom type size).getHeaderExtensionLength = size ∧
      Moved p (p.makeRoom type size) (p.extensionsShift size) := by
  have hbs (buf : ℕ → Byte) (a : ℕ) :
      (field16 (store buf a (bytes16 (BitVec.ofNat 16 (size / 4)))) a).toNat * 4 = size := by
    rw [field16_store, BitVec.toNat_ofNat]
    omega
  have hpl : 0 ≤ (p.payload : ℤ) + p.extensionsShift size := by omega
  have hsize' : 0 ≤ (p.size : ℤ) + p.extensionsShift size := by
    rw [h.size]
    push_cast
    omega
  unfold extensionStart at hroom ⊢
  unfold makeRoom
  dsimp only
  split
  · rename_i a ha
    rw [ha, Option.getD_some] at hroom ⊢
    split_ifs with hshift
    · have hmoved := moved_movePayload hpl hsize'
      refine ⟨ha, ?_, hmoved.trans_zero (.of_buffer rfl rfl rfl rfl fun b hb => ?_)⟩
      · unfold getHeaderExtensionLength
        rw [show (p.movePayload _).headerExtension = some a from ha]
        exact hbs _ _
      · have hend := hmoved.payload
        exact store_of_ge (show a + 2 + 2 ≤ b by omega)
    · -- the new header extension is as long as the old one
      rw [not_not] at hshift
      have hlen : p.getHeaderExtensionLength = size := by
        have hpl := (h.headerExtension a ha).2
        omega
      rw [hshift]
      exact ⟨ha, hlen, .of_buffer rfl rfl rfl rfl fun _ _ => rfl⟩
  · rename_i hnone
    rw [hnone, Option.getD_none] at hroom ⊢
    have hbit : Moved p { p with
        buffer := store p.buffer 0 [p.buffer 0 ||| 0x10], headerExtension := some p.payload } 0 := by
      refine .of_buffer rfl rfl rfl rfl fun b hb => ?_
      have hhdr := h.payload
      rw [headerSize] at hhdr
      exact store_of_ge (p := 0) (l := [p.buffer 0 ||| 0x10]) (show 0 + 1 ≤ b by omega)
    have hmoved := hbit.trans (moved_movePayload hpl hsize')
    rw [zero_add] at hmoved
    refine ⟨rfl, hbs _ _, hmoved.trans_zero (.of_buffer rfl rfl rfl rfl fun b hb => ?_)⟩
    have hend := hmoved.payload
    exact (store_of_ge (show p.payload + 2 + 2 ≤ b by omega)).trans
      (store_of_ge (show p.payload + 2 ≤ b by omega))

theorem length_elementBytes (htype : type = 1 ∨ type = 2) (ext : GenericExtension) :
    (ext.elementBytes type).length = ext.elementSize type := by
  unfold GenericExtension.elementBytes GenericExtension.elementSize
  rcases htype with rfl | rfl
  · rw [if_pos rfl, length_cons, add_comm]
  · rw [if_neg (by decide), length_cons, length_cons]
    omega

theorem extensionsTotalSize_cons (type : ℕ) (ext : GenericExtension) (extensions : List GenericExtension) :
    extensionsTotalSize type (ext :: extensions) = (if ext.isValid type then ext.elementSize type else 0) +
        extensionsTotalSize type extensions := by
  unfold extensionsTotalSize
  rw [filter_cons]
  split_ifs
  · rw [map_cons, sum_cons]
  · rw [zero_add]

structure Written (p p' : RtpPacket) (ptr ptr' : ℕ) : Prop where
  headerExtension : p'.headerExtension = p.headerExtension
  payload : p'.payload = p.payload
  size : p'.size = p.size
  payloadLength : p'.payloadLength = p.payloadLength
  payloadPadding : p'.payloadPadding = p.payloadPadding
  buffer : ∀ a, a < ptr ∨ ptr' ≤ a → p'.buffer a = p.buffer a

namespace Written

variable {p' p'' : RtpPacket} {ptr ptr' ptr'' : ℕ}

variable (h : Written p p' ptr ptr')

include h

theorem trans (h' : Written p' p'' ptr' ptr'') (hle : ptr ≤ ptr') (hle' : ptr' ≤ ptr'') :
    Written p p'' ptr ptr'' := by
  refine ⟨h'.headerExtension.trans h.headerExtension, h'.payload.trans h.payload,
    h'.size.trans h.size, h'.payloadLength.trans h.payloadLength,
    h'.payloadPadding.trans h.payloadPadding, fun a ha => ?_⟩
  rw [h'.buffer a (by omega), h.buffer a (by omega)]

theorem moved (hle : ptr' ≤ p.payload) : Moved p p' 0 :=
  .of_buffer h.payload h.size h.payloadLength h.payloadPadding fun a ha =>
    h.buffer a (.inr (hle.trans ha))

theorem getHeaderExtensionLength_eq (hptr : ∀ a ∈ p.headerExtension, a + 4 ≤ ptr ∨ ptr' ≤ a + 2) :
    p'.getHeaderExtensionLength = p.getHeaderExtensionLength := by
  unfold getHeaderExtensionLength
  rw [h.headerExtension]
  split
  · rfl
  · rename_i a ha
    have hle := hptr a ha
    rw [field16_congr (h.buffer _ (by omega)) (h.buffer _ (by omega))]

end Written

theorem written_writeExtension (htype : type = 1 ∨ type = 2) (p : RtpPacket) (ext : GenericExtension)
    (ptr : ℕ) : Written p (p.writeExtension type ext ptr) ptr
      (ptr + ext.elementSize type) := by
  have hbuf (a : ℕ) (ha : a < ptr ∨ ptr + ext.elementSize type ≤ a) :
      store p.buffer ptr (ext.elementBytes type) a = p.buffer a := by
    rcases ha with ha | ha
    · exact store_of_lt ha
    · exact store_of_ge (by rwa [length_elementBytes htype])
  unfold writeExtension
  dsimp only
  split_ifs
  · exact ⟨rfl, rfl, rfl, rfl, rfl, hbuf⟩
  · exact ⟨rfl, rfl, rfl, rfl, rfl, hbuf⟩

theorem written_writeExtensions (htype : type = 1 ∨ type = 2) (extensions : List GenericExtension)
    (p : RtpPacket) (ptr : ℕ) :
    (writeExtensions type extensions p ptr).2 = ptr + extensionsTotalSize type extensions ∧
      Written p (writeExtensions type extensions p ptr).1 ptr
        (ptr + extensionsTotalSize type extensions) := by
  induction extensions generalizing p ptr with
  | nil => exact ⟨rfl, ⟨rfl, rfl, rfl, rfl, rfl, fun _ _ => rfl⟩⟩
  | cons ext extensions ih =>
    rw [writeExtensions, extensionsTotalSize_cons]
    by_cases hvalid : ext.isValid type = true
    · rw [if_pos hvalid, if_pos hvalid, ← add_assoc]
      obtain ⟨hptr, hrest⟩ := ih (p.writeExtension type ext ptr)
        (ptr + ext.elementSize type)
      exact ⟨hptr, (written_writeExtension htype p ext ptr).trans hrest
        (Nat.le_add_right _ _) (Nat.le_add_right _ _)⟩
    · rw [if_neg hvalid, if_neg hvalid, zero_add]
      exact ih p ptr

theorem makeRoom_pointers (p : RtpPacket) (type size : ℕ) :
    (p.makeRoom type size).headerExtension = some p.extensionStart ∧
      (p.makeRoom type size).payload = (p.payload + p.extensionsShift size).toNat := by
  unfold makeRoom extensionStart
  dsimp only
  split
  · rename_i a ha
    rw [ha]
    split_ifs with hshift
    · exact ⟨ha, rfl⟩
    · rw [not_not.mp hshift, add_zero]
      exact ⟨ha, rfl⟩
  · rename_i hnone
    rw [hnone]
    exact ⟨rfl, rfl⟩

theorem fillExtensions_of_eq (htype : type = 1 ∨ type = 2) (extensions : List GenericExtension) (pad : ℕ)
    (ha : p.headerExtension = some a) (hend : a + 4 + extensionsTotalSize type extensions + pad = p.payload) :
    ∃ p', p.fillExtensions type extensions pad = .ok p' ∧ Written p p' (a + 4) p.payload := by
  obtain ⟨hptr, hwr⟩ := written_writeExtensions htype extensions p (a + 4)
  unfold fillExtensions
  rw [ha]
  dsimp only
  rw [hptr, hwr.payload, beq_iff_eq.mpr hend]
  refine ⟨_, rfl, hwr.trans ⟨rfl, hwr.payload.symm, rfl, rfl, rfl, fun b hb => ?_⟩
    (Nat.le_add_right _ _) (by omega)⟩
  rcases hb with hb | hb
  · exact store_of_lt hb
  · exact store_of_ge (by rw [length_replicate]; omega)

theorem fillExtensions_of_ne (htype : type = 1 ∨ type = 2) {extensions : List GenericExtension} {pad : ℕ}
    (ha : p.headerExtension = some a) (hend : a + 4 + extensionsTotalSize type extensions + pad ≠ p.payload) :
    p.fillExtensions type extensions pad = .error (.assertion "wrong ptr calculation") := by
  obtain ⟨hptr, hwr⟩ := written_writeExtensions htype extensions p (a + 4)
  unfold fillExtensions
  rw [ha]
  dsimp only
  rw [hptr, hwr.payload, beq_eq_false_iff_ne.mpr hend]
  rfl

end Parts

/-! ## The whole of it -/

def paddedSize (type : ℕ) (extensions : List GenericExtension) : ℕ :=
  (extensionsTotalSize type extensions + 3) / 4 * 4

section Whole

variable {p : RtpPacket} {type : ℕ} {extensions : List GenericExtension}

theorem setExtensions_eq (p : RtpPacket) (htype : type = 1 ∨ type = 2)
    (hsize : extensionsTotalSize type extensions < 2 ^ 16 - 4) : p.setExtensions type extensions =
      ((p.resetExtensions type).makeRoom type (paddedSize type extensions)).fillExtensions type
        extensions (paddedSize type extensions - extensionsTotalSize type extensions) := by
  have hpad : (paddedSize type extensions + 2 ^ 64 - extensionsTotalSize type extensions) %
      2 ^ 64 = paddedSize type extensions - extensionsTotalSize type extensions := by
    unfold paddedSize
    omega
  unfold setExtensions
  rw [show (type == 1 || type == 2) = true by rcases htype with rfl | rfl <;> rfl]
  show fillExtensions _ _ _ _ = _
  rw [toNat_padTo4Bytes hsize.le]
  exact congrArg _ hpad

section

variable (h : p.Layout)

include h

theorem resetExtensions_extensions (type size : ℕ) :
    (p.resetExtensions type).extensionStart = p.extensionStart ∧
      (p.resetExtensions type).extensionsShift size = p.extensionsShift size := by
  obtain ⟨hext, hlen, hmv⟩ := resetExtensions_spec h type
  have hpl := hmv.payload
  rw [add_zero, Nat.cast_inj] at hpl
  unfold extensionStart extensionsShift
  rw [hext, hlen, hpl]
  exact ⟨rfl, rfl⟩

theorem layout_resetExtensions (type : ℕ) : (p.resetExtensions type).Layout := by
  obtain ⟨hext, hlen, hmv⟩ := resetExtensions_spec h type
  have hpl := hmv.payload
  have hsize := hmv.size
  rw [add_zero, Nat.cast_inj] at hpl hsize
  refine ⟨?_, hpl ▸ h.payload, ?_⟩
  · rw [hext, hpl, hlen]
    exact h.headerExtension
  · rw [hsize, hpl, hmv.payloadLength, hmv.payloadPadding]
    exact h.size

section

variable (htype : type = 1 ∨ type = 2) (hsize : extensionsTotalSize type extensions < 2 ^ 16 - 4)

include htype hsize

theorem setExtensions_of_eq (hshift : (p.extensionStart : ℤ) + 4 + paddedSize type extensions =
      p.payload + p.extensionsShift (paddedSize type extensions)) :
    ∃ p', p.setExtensions type extensions = .ok p' ∧ p'.extensionRegionSize = 4 + paddedSize type extensions ∧
      Moved p p' (p.extensionsShift (paddedSize type extensions)) := by
  obtain ⟨-, hlen, hreset⟩ := resetExtensions_spec h type
  obtain ⟨hstart, hshift'⟩ :=
    resetExtensions_extensions h type (paddedSize type extensions)
  have hpl := hreset.payload
  obtain ⟨hext, hroomLength, hroom⟩ := makeRoom_spec (layout_resetExtensions h type) type
    (paddedSize type extensions) (by unfold paddedSize; omega)
    (by unfold paddedSize; omega) (by omega)
  have hmv := hreset.trans hroom
  rw [hshift', zero_add] at hmv
  rw [hstart] at hext
  have hle : extensionsTotalSize type extensions ≤ paddedSize type extensions := by
    unfold paddedSize
    omega
  have hend := hmv.payload
  obtain ⟨p', hp', hwr⟩ := fillExtensions_of_eq htype extensions
    (paddedSize type extensions - extensionsTotalSize type extensions) hext (by omega)
  rw [setExtensions_eq p htype hsize]
  refine ⟨p', hp', ?_, hmv.trans_zero (hwr.moved le_rfl)⟩
  unfold extensionRegionSize
  rw [hwr.headerExtension, hext]
  dsimp only
  rw [hwr.getHeaderExtensionLength_eq (by rw [hext]; rintro a ⟨⟩; exact .inl le_rfl), hroomLength]

theorem setExtensions_of_ne (hshift : (p.extensionStart : ℤ) + 4 + paddedSize type extensions ≠
      p.payload + p.extensionsShift (paddedSize type extensions)) :
    p.setExtensions type extensions = .error (.assertion "wrong ptr calculation") := by
  obtain ⟨hstart, hshift'⟩ :=
    resetExtensions_extensions h type (paddedSize type extensions)
  obtain ⟨hext, hpl⟩ :=
    (p.resetExtensions type).makeRoom_pointers type (paddedSize type extensions)
  have hreset := (resetExtensions_spec h type).2.2.payload
  rw [hstart] at hext
  rw [hreset, add_zero, hshift'] at hpl
  have hle : extensionsTotalSize type extensions ≤ paddedSize type extensions := by
    unfold paddedSize
    omega
  rw [setExtensions_eq p htype hsize]
  exact fillExtensions_of_ne htype hext (by omega)

end

theorem Layout.payload_eq : p.payload = p.extensionStart + p.extensionRegionSize := by
  unfold extensionStart extensionRegionSize
  cases hext : p.headerExtension with
  | none => rfl
  | some a =>
    rw [(h.headerExtension a hext).2, add_assoc]
    rfl

theorem Layout.getHeaderExtensionLength_lt (hsize : p.size ≤ 65535) :
    p.getHeaderExtensionLength < 2 ^ 16 := by
  have hp := h.size
  have hpl := h.payload_eq
  unfold extensionRegionSize at hpl
  cases hext : p.headerExtension with
  | none =>
    unfold getHeaderExtensionLength
    rw [hext]
    show 0 < 2 ^ 16
    decide
  | some a =>
    rw [hext] at hpl
    dsimp only at hpl
    omega

theorem extensionsShift_eq_iff (hold : p.getHeaderExtensionLength < 2 ^ 16) (size : ℕ)
    (hsize : size < 2 ^ 15 - 4) : (p.extensionStart : ℤ) + 4 + size = p.payload + p.extensionsShift size ↔
      p.getHeaderExtensionLength ≤ size + 32768 := by
  rw [h.payload_eq]
  unfold extensionRegionSize extensionsShift
  cases hextension : p.headerExtension with
  | none =>
    have hlength : p.getHeaderExtensionLength = 0 := by
      unfold getHeaderExtensionLength
      rw [hextension]
    dsimp only
    have hinner : int16 (size : ℤ) = size := int16_of_bounds (by omega) (by omega)
    rw [hinner, int16_of_bounds (by omega) (by omega)]
    push_cast
    omega
  | some a =>
    dsimp only
    push_cast
    rcases lt_or_ge (size + 32768) p.getHeaderExtensionLength with hlong | hshort
    · rw [int16_of_lt (by omega) (by omega)]
      omega
    · rw [int16_of_bounds (by omega) (by omega)]
      omega

end

/-- **When the payload survives a new header extension**: exactly when the old one is at most 32768
bytes longer than the new one. -/
theorem setExtensions_moves_payload_iff (data : ℕ → Byte) (len : ℕ) (p : RtpPacket)
    (hparse : parse data len = .ok (some p)) (hlen : len ≤ 65535)
    (extensions : List GenericExtension) (hsize : extensionsTotalSize 1 extensions ≤ 255) :
    (∃ p', p.setExtensions 1 extensions = .ok p' ∧ p'.extensionRegionSize = 4 + paddedSize 1 extensions ∧
      Moved p p' ((p'.extensionRegionSize : ℤ) - p.extensionRegionSize)) ↔
      p.getHeaderExtensionLength ≤ paddedSize 1 extensions + 32768 := by
  obtain ⟨hlayout, hp⟩ := layout_of_parse hparse
  have hpayload := hlayout.payload_eq
  have hold := hlayout.getHeaderExtensionLength_lt (hp.trans_le hlen)
  have hshift := extensionsShift_eq_iff hlayout hold (paddedSize 1 extensions)
    (by unfold paddedSize; omega)
  rw [← hshift]
  constructor
  · rintro ⟨p', hp', -⟩
    by_contra hne
    rw [setExtensions_of_ne hlayout (Or.inl rfl) (by omega) hne] at hp'
    cases hp'
  · intro heq
    obtain ⟨p', hp', hregion, hmoved⟩ :=
      setExtensions_of_eq hlayout (Or.inl rfl) (by omega) heq
    refine ⟨p', hp', hregion, ?_⟩
    have hdistance : p.extensionsShift (paddedSize 1 extensions) =
        (p'.extensionRegionSize : ℤ) - p.extensionRegionSize := by
      rw [hregion]
      push_cast
      omega
    rwa [hdistance] at hmoved

end Whole

def midExtension : GenericExtension := ⟨1, [0, 0, 0, 0, 0, 0, 0, 0], by decide⟩

def plainBytes (a : ℕ) : Byte := if a = 0 then 0x80 else 0

theorem setExtensions_moves_payload_plain :
    ∃ p, parse plainBytes 16 = .ok (some p) ∧ ∃ p', p.setExtensions 1 [midExtension] = .ok p' ∧
        p'.extensionRegionSize = 4 + paddedSize 1 [midExtension] ∧
        Moved p p' ((p'.extensionRegionSize : ℤ) - p.extensionRegionSize) := by
  refine ⟨_, rfl, ?_⟩
  exact (setExtensions_moves_payload_iff plainBytes 16 _ rfl (by decide) [midExtension]
    (by decide)).mpr (by decide)

def longExtensionBytes (a : ℕ) : Byte :=
  if a = 0 then 0x90 else if a = 14 then 0x20 else if a = 15 then 0x10 else 0

def longExtensionPacket : RtpPacket where
  buffer := longExtensionBytes
  headerExtension := some 12
  mapOneByteExtensions := .empty
  mapTwoBytesExtensions := .empty
  extensionIds := {}
  payload := 32848
  payloadLength := 10
  payloadPadding := 0
  size := 32858

theorem long_extension_aborts :
    parse longExtensionBytes 32858 = .ok (some longExtensionPacket) ∧
      longExtensionPacket.setExtensions 1 [midExtension] = .error (.assertion "wrong ptr calculation") := by
  have hparse : parse longExtensionBytes 32858 = .ok (some longExtensionPacket) := rfl
  exact ⟨hparse, setExtensions_of_ne (layout_of_parse hparse).1 (Or.inl rfl) (by decide)
    (by decide +kernel)⟩

end RtpPacket
end MediasoupWorker.RTC
