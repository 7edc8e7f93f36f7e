import MediasoupWorker.RTC.RtpPacketAgreement

/-!
# `UpdateMid`

`UpdateMid` writes a value over an element and fills what is left of the old one with zeros. So an
element keeps the room that it was created with: behind a shorter value there is padding.
-/

namespace MediasoupWorker.RTC

open Library

namespace RtpPacket

def HasRoom (p : RtpPacket) (id room : ℕ) : Prop :=
  ∃ F e, p.format = some F ∧ p.address id = some e ∧ F.HasRoom p.buffer p.extensionEnd e id room

section Room

variable {p p' : RtpPacket} {F : ElementFormat Byte} {id e room : ℕ}

theorem Consistent.hasRoom (hp : p.Consistent) {val : ℕ × ℕ} (h : p.getExtension id = some val) :
    p.HasRoom id val.2 := by
  cases hF : p.format with
  | none =>
    rw [getExtension_of_none (.inl hF)] at h
    cases h
  | some F =>
    cases he : p.address id with
    | none =>
      rw [getExtension_of_none (.inr he)] at h
      cases h
    | some e =>
      obtain ⟨hpad, len, hread, -, hend⟩ := hp.readAt_eq hF he
      rw [hp.getExtension_eq hF he hread] at h
      split_ifs at h
      cases h
      exact ⟨F, e, hF, he, hpad, ⟨len, hread, Nat.le_refl _, fun a ha hlt => absurd hlt (by omega)⟩, hend⟩

theorem Kept.hasRoom (h : Kept p p') (hp : p.Consistent) (hroom : p.HasRoom id room) :
    p'.HasRoom id room := by
  have hlay := h.sameHeaders.sameLayout hp
  obtain ⟨F, e, hF, he, hroom⟩ := hroom
  have hstart := (ElementFormat.mem_scan (hp.mem_elements hF he)).1
  have hend := hroom.room
  rw [hp.extensionEnd_eq] at hend
  refine ⟨F, e, (hlay.format_eq hp).trans hF, (hlay.address_eq hp id).trans he, ?_⟩
  rw [hlay.extensionEnd_eq hp]
  exact hroom.congr fun a ha hlt => h.sameHeaders.extensionBytes hp (by omega) (by omega)

structure Updated (p : RtpPacket) (F : ElementFormat Byte) (id e room : ℕ) (buffer : ℕ → Byte) :
    Prop where
  format : p.format = some F
  address : p.address id = some e
  before : F.HasRoom p.buffer p.extensionEnd e id room
  after : F.HasRoom buffer p.extensionEnd e id room
  same : ∀ a, a < e ∨ e + F.head + room ≤ a → buffer a = p.buffer a

namespace Updated

variable {buffer : ℕ → Byte}

variable (h : Updated p F id e room buffer)

include h

section

variable (hp : p.Consistent)

include hp

theorem sameLayout : SameLayout p { p with buffer } where
  head := by
    have hstart := (ElementFormat.mem_scan (hp.mem_elements h.format h.address)).1
    exact congrArg (· &&& 0xDF) (h.same 0 (.inl (by omega)))
  headerExtension := rfl
  payload := rfl
  bytes a _ hlt _ := by
    have hstart := (ElementFormat.mem_scan (hp.mem_elements h.format h.address)).1
    exact h.same a (.inl (by omega))
  elements F' hF' := by
    rw [h.format] at hF'
    cases hF'
    exact ElementFormat.scan_update (hp.mem_elements h.format h.address) h.before h.after h.same
  mapOneByteExtensions := rfl
  mapTwoBytesExtensions := rfl

theorem consistent : Consistent { p with buffer } := by
  have hlay := h.sameLayout hp
  have hsize := hp.size
  have hend := h.before.room
  rw [hp.extensionEnd_eq] at hend
  have hfirst : buffer 0 = p.buffer 0 := by
    have hstart := (ElementFormat.mem_scan (hp.mem_elements h.format h.address)).1
    exact h.same 0 (.inl (by omega))
  refine hp.of_same_layout hlay hsize (hp.paddingSize_eq hfirst fun hpad => ?_).symm ?_
  · exact h.same (p.size - 1) (.inr (by omega))
  · dsimp only
    rw [hfirst]
    exact hp.padding_pos

theorem hasRoom_of_ne {id' room' : ℕ} (hne : id' ≠ id) (hroom : p.HasRoom id' room') :
    HasRoom { p with buffer } id' room' := by
  have hlay := h.sameLayout hp
  obtain ⟨F', e', hF', he', hroom'⟩ := hroom
  obtain rfl : F' = F := Option.some.inj (hF'.symm.trans h.format)
  have hmem := hp.mem_elements h.format h.address
  have hmem' := hp.mem_elements hF' he'
  refine ⟨F', e', (hlay.format_eq hp).trans hF', (hlay.address_eq hp id').trans he', ?_⟩
  rw [hlay.extensionEnd_eq hp]
  refine hroom'.congr fun a ha hlt => h.same a ?_
  -- the two rooms are disjoint, since the elements are different
  rcases lt_trichotomy e' e with hpre | rfl | hafter
  · have hdisjoint := hroom'.le_of_lt hmem' hmem hpre
    exact .inl (by omega)
  · obtain ⟨len, hread, -⟩ := h.before.element
    obtain ⟨len', hread', -⟩ := hroom'.element
    rw [hread] at hread'
    cases hread'
    exact absurd rfl hne
  · have hdisjoint := h.before.le_of_lt hmem hmem' hafter
    exact .inr (by omega)

theorem hasRoom_self : HasRoom { p with buffer } id room := by
  have hlay := h.sameLayout hp
  refine ⟨F, e, (hlay.format_eq hp).trans h.format, (hlay.address_eq hp id).trans h.address, ?_⟩
  rw [hlay.extensionEnd_eq hp]
  exact h.after

end

end Updated

end Room

/-! ## Writing a value -/

def writeValue (buffer : ℕ → Byte) (value : ℕ) (bytes : List Byte) (currentLen : ℕ) : ℕ → Byte :=
  if bytes.length < currentLen then
    store (store buffer value bytes) (value + bytes.length)
      (List.replicate (currentLen - bytes.length) 0)
  else store buffer value bytes

section WriteValue

variable {buf : ℕ → Byte} {v currentLen : ℕ} {bs : List Byte}

variable {a : ℕ}

theorem writeValue_of_lt (ha : a < v) : writeValue buf v bs currentLen a = buf a := by
  unfold writeValue
  split_ifs
  · rw [store_of_lt (by omega), store_of_lt ha]
  · exact store_of_lt ha

theorem writeValue_of_ge (hbs : v + bs.length ≤ a) (hold : v + currentLen ≤ a) :
    writeValue buf v bs currentLen a = buf a := by
  unfold writeValue
  split_ifs
  · rw [store_of_ge (by rw [List.length_replicate]; omega), store_of_ge hbs]
  · exact store_of_ge hbs

theorem writeValue_cleared (hbs : v + bs.length ≤ a) (hold : a < v + currentLen) :
    writeValue buf v bs currentLen a = 0 := by
  obtain ⟨i, rfl⟩ := Nat.exists_eq_add_of_le hbs
  rw [writeValue, if_pos (by omega), store_add (by rw [List.length_replicate]; omega), List.getElem_replicate]

theorem writeValue_padding {F : ElementFormat Byte} (hzero : F.isPadding 0 = true) {room : ℕ}
    (hpad : ∀ a, v + currentLen ≤ a → a < v + room → F.isPadding (buf a) = true) (hbs : v + bs.length ≤ a)
    (ha : a < v + room) : F.isPadding (writeValue buf v bs currentLen a) = true := by
  rcases lt_or_ge a (v + currentLen) with hold | hold
  · rw [writeValue_cleared hbs hold]
    exact hzero
  · rw [writeValue_of_ge hbs hold]
    exact hpad a hold ha

end WriteValue

section Update

variable {p : RtpPacket} {id e room : ℕ} {mid : List Byte}

def oneByteUpdate (buffer : ℕ → Byte) (e : ℕ) (mid : List Byte) : ℕ → Byte :=
  let buffer := writeValue buffer (e + 1) mid ((buffer e &&& 0x0F).toNat + 1)
  store buffer e [(buffer e &&& 0xF0) ||| (BitVec.ofNat 8 (mid.length - 1) &&& 0x0F)]

def twoBytesUpdate (buffer : ℕ → Byte) (e : ℕ) (mid : List Byte) : ℕ → Byte :=
  store (writeValue buffer (e + 2) mid (buffer (e + 1)).toNat) (e + 1) [BitVec.ofNat 8 mid.length]

theorem oneByteUpdate_of_ne {buffer : ℕ → Byte} {a : ℕ} (ha : a ≠ e) :
    oneByteUpdate buffer e mid a = writeValue buffer (e + 1) mid ((buffer e &&& 0x0F).toNat + 1) a := by
  unfold oneByteUpdate
  rcases Nat.lt_or_gt_of_ne ha with hlt | hgt
  · exact store_of_lt hlt
  · exact store_of_ge hgt

theorem oneByteUpdate_head (buffer : ℕ → Byte) (e : ℕ) (mid : List Byte) :
    oneByteUpdate buffer e mid e = (buffer e &&& 0xF0) ||| (BitVec.ofNat 8 (mid.length - 1) &&& 0x0F) := by
  unfold oneByteUpdate
  rw [writeValue_of_lt (Nat.lt_succ_self e)]
  exact store_singleton _ _ _

theorem updated_oneByte (hF : p.format = some oneByteFormat) (he : p.address id = some e)
    (hroom : oneByteFormat.HasRoom p.buffer p.extensionEnd e id room) (hpos : 1 ≤ mid.length)
    (hmid : mid.length ≤ room) (hlimit : mid.length ≤ 16) :
    Updated p oneByteFormat id e room (oneByteUpdate p.buffer e mid) := by
  obtain ⟨len, hread, hle, hpad⟩ := hroom.element
  obtain ⟨hid, hlen⟩ := eq_of_oneByteFormat_readAt hread
  rw [hlen] at hle hpad
  have hhead := oneByteUpdate_head p.buffer e mid
  refine ⟨hF, he, hroom, ⟨?_, ⟨mid.length, ?_, hmid, fun a ha hlt => ?_⟩, hroom.room⟩, fun a ha => ?_⟩
  · have hstart := hroom.start
    unfold oneByteFormat at hstart ⊢
    dsimp only at hstart ⊢
    rw [hhead, nibbles_and_high]
    exact hstart
  · have hlow : (BitVec.ofNat 8 (mid.length - 1) &&& 0x0F).toNat + 1 = mid.length := by
      rw [toNat_ofNat_and_low (by omega)]
      omega
    rw [oneByteFormat_readAt] at hread ⊢
    rw [hhead, nibbles_and_high, nibbles_and_low, hlow]
    split_ifs at hread ⊢
    rw [← hid]
  · rw [oneByteUpdate_of_ne (ne_of_gt (by omega))]
    exact writeValue_padding rfl hpad ha hlt
  · rcases ha with ha | ha
    · rw [oneByteUpdate_of_ne (ne_of_lt ha), writeValue_of_lt (by omega)]
    · have hstop : e + 1 + room ≤ a := ha
      rw [oneByteUpdate_of_ne (ne_of_gt (by omega)), writeValue_of_ge (by omega) (by omega)]

theorem twoBytesUpdate_of_ne {buffer : ℕ → Byte} {a : ℕ} (ha : a ≠ e + 1) :
    twoBytesUpdate buffer e mid a = writeValue buffer (e + 2) mid (buffer (e + 1)).toNat a := by
  unfold twoBytesUpdate
  rcases Nat.lt_or_gt_of_ne ha with hlt | hgt
  · exact store_of_lt hlt
  · exact store_of_ge hgt

theorem twoBytesUpdate_length (buffer : ℕ → Byte) (e : ℕ) (mid : List Byte) :
    twoBytesUpdate buffer e mid (e + 1) = BitVec.ofNat 8 mid.length :=
  store_singleton _ _ _

theorem updated_twoBytes (hF : p.format = some twoBytesFormat) (he : p.address id = some e)
    (hroom : twoBytesFormat.HasRoom p.buffer p.extensionEnd e id room) (hmid : mid.length ≤ room)
    (hlimit : mid.length < 256) : Updated p twoBytesFormat id e room (twoBytesUpdate p.buffer e mid) := by
  obtain ⟨len, hread, hle, hpad⟩ := hroom.element
  obtain ⟨hid, hlen⟩ := eq_of_twoBytesFormat_readAt hread
  rw [hlen] at hle hpad
  have hhead : twoBytesUpdate p.buffer e mid e = p.buffer e := by
    rw [twoBytesUpdate_of_ne (ne_of_lt (Nat.lt_succ_self e)), writeValue_of_lt (by omega)]
  refine ⟨hF, he, hroom, ⟨?_, ⟨mid.length, ?_, hmid, fun a ha hlt => ?_⟩, hroom.room⟩, fun a ha => ?_⟩
  · rw [hhead]
    exact hroom.start
  · rw [twoBytesFormat_readAt, hhead, twoBytesUpdate_length, BitVec.toNat_ofNat,
      Nat.mod_eq_of_lt hlimit, ← hid]
  · have hstop : e + 2 + mid.length ≤ a := ha
    rw [twoBytesUpdate_of_ne (ne_of_gt (by omega))]
    exact writeValue_padding rfl hpad ha hlt
  · rcases ha with ha | ha
    · rw [twoBytesUpdate_of_ne (ne_of_lt (by omega)), writeValue_of_lt (by omega)]
    · have hstop : e + 2 + room ≤ a := ha
      rw [twoBytesUpdate_of_ne (ne_of_gt (by omega)), writeValue_of_ge (by omega) (by omega)]

theorem setExtensionLength_oneByte {len : ℕ} (hlen : len ≠ 0) (hid : id ≠ 0)
    (hone : p.hasOneByteExtensions = true) (he : p.mapOneByteExtensions.find id = some e) :
    (p.setExtensionLength id len).1 =
      { p with buffer :=
          let buffer := (p.clearValue (e + 1) len ((p.buffer e &&& 0x0F).toNat + 1)).buffer
          store buffer e [(buffer e &&& 0xF0) ||| (BitVec.ofNat 8 (len - 1) &&& 0x0F)] } := by
  rw [setExtensionLength, if_neg hlen, if_neg hid, if_pos hone, he]
  dsimp only
  unfold clearValue
  split_ifs <;> rfl

theorem setExtensionLength_twoBytes {len : ℕ} (hlen : len ≠ 0) (hid : id ≠ 0)
    (hone : p.hasOneByteExtensions = false) (htwo : p.hasTwoBytesExtensions = true)
    (he : p.mapTwoBytesExtensions.find id = some e) : (p.setExtensionLength id len).1 = { p with
        buffer := store (p.clearValue (e + 2) len (p.buffer (e + 1)).toNat).buffer (e + 1)
          [BitVec.ofNat 8 len] } := by
  rw [setExtensionLength, if_neg hlen, if_neg hid, hone, if_neg Bool.false_ne_true, if_pos htwo, he]
  dsimp only
  unfold clearValue
  split_ifs <;> rfl

theorem getHeaderExtensionId_store (hp : p.Consistent) {val : ℕ} {bytes : List Byte}
    (hv : p.extensionStart + 4 ≤ val) :
    getHeaderExtensionId { p with buffer := store p.buffer val bytes } = p.getHeaderExtensionId := by
  unfold getHeaderExtensionId
  dsimp only
  split
  · rfl
  · rename_i a ha
    have hstart := (hp.headerExtension_spec ha).1
    exact field16_congr (store_of_lt (by omega)) (store_of_lt (by omega))

theorem clearValue_store (val : ℕ) (currentLen : ℕ) :
    (clearValue { p with buffer := store p.buffer val mid } val mid.length currentLen).buffer =
      writeValue p.buffer val mid currentLen := by
  unfold clearValue writeValue
  split_ifs <;> rfl

section

variable (hp : p.Consistent) (hroom : p.HasRoom p.extensionIds.mid midMaxLength) (hpos : 1 ≤ mid.length)
  (hmid : mid.length ≤ midMaxLength)

include hp hroom hpos hmid

/-- **What `UpdateMid` writes** is an update inside of the room of the element. -/
theorem updated_updateMid {val : ℕ × ℕ} (hv : p.getExtension p.extensionIds.mid = some val) :
    ∃ F e buffer, (p.updateMid mid).1 = { p with buffer } ∧
      Updated p F p.extensionIds.mid e midMaxLength buffer := by
  obtain ⟨F, e, hF, he, hroom⟩ := hroom
  obtain ⟨-, len, hread, hstart, -⟩ := hp.readAt_eq hF he
  have hlen : mid.length ≠ 0 := Nat.one_le_iff_ne_zero.mp hpos
  have hid := hp.id_ne_zero hF he
  have hhdr (val : ℕ) (hle : p.extensionStart + 4 ≤ val) :
      getHeaderExtensionId { p with buffer := store p.buffer val mid } = p.getHeaderExtensionId :=
    getHeaderExtensionId_store hp hle
  obtain rfl : val = (e + F.head, len) := by
    rw [hp.getExtension_eq hF he hread] at hv
    split_ifs at hv
    exact (Option.some.inj hv).symm
  unfold RtpPacket.updateMid
  rw [hv]
  dsimp only
  rw [if_neg (not_lt.mpr hmid)]
  unfold address at he
  rcases format_cases hF with ⟨hone, rfl⟩ | ⟨hone, htwo, rfl⟩
  · rw [if_pos hone] at he
    refine ⟨oneByteFormat, e, oneByteUpdate p.buffer e mid, ?_, ?_⟩
    · have hone' : hasOneByteExtensions { p with buffer := store p.buffer (e + 1) mid } = true := by
        rw [hasOneByteExtensions, hhdr _ (by omega)]
        exact hone
      refine (setExtensionLength_oneByte hlen hid hone' he).trans ?_
      dsimp only
      rw [store_of_lt (Nat.lt_succ_self e), clearValue_store]
      rfl
    · exact updated_oneByte hF ((if_pos hone).trans he) hroom hpos hmid (hmid.trans (by decide))
  · rw [hone, if_neg Bool.false_ne_true] at he
    refine ⟨twoBytesFormat, e, twoBytesUpdate p.buffer e mid, ?_, ?_⟩
    · have hone' : hasOneByteExtensions { p with buffer := store p.buffer (e + 2) mid } = false := by
        rw [hasOneByteExtensions, hhdr _ (by omega)]
        exact hone
      have htwo' : hasTwoBytesExtensions { p with buffer := store p.buffer (e + 2) mid } = true := by
        rw [hasTwoBytesExtensions, hhdr _ (by omega)]
        exact htwo
      refine (setExtensionLength_twoBytes hlen hid hone' htwo' he).trans ?_
      dsimp only
      rw [store_of_lt (Nat.lt_succ_self (e + 1)), clearValue_store]
      rfl
    · refine updated_twoBytes hF ?_ hroom hmid (hmid.trans_lt (by decide))
      rw [address, hone, if_neg Bool.false_ne_true]
      exact he

/-- **`UpdateMid`**, for an element with room for 8 bytes. -/
theorem Consistent.updateMid :
    (p.updateMid mid).1.Consistent ∧ (p.updateMid mid).1.HasRoom p.extensionIds.mid midMaxLength ∧
      ∀ id room, id ≠ p.extensionIds.mid → p.HasRoom id room → (p.updateMid mid).1.HasRoom id room := by
  cases hv : p.getExtension p.extensionIds.mid with
  | none =>
    have hsame : (p.updateMid mid).1 = p := by
      rw [RtpPacket.updateMid, hv]
    rw [hsame]
    exact ⟨hp, hroom, fun _ _ _ h => h⟩
  | some value =>
    obtain ⟨F, e, buffer, heq, hupd⟩ := updated_updateMid hp hroom hpos hmid hv
    rw [heq]
    exact ⟨hupd.consistent hp, hupd.hasRoom_self hp, fun _ _ hne h => hupd.hasRoom_of_ne hp hne h⟩

end

end Update

end RtpPacket
end MediasoupWorker.RTC
