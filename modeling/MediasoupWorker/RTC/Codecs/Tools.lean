import MediasoupWorker.RTC.Codecs.H264
import MediasoupWorker.RTC.Codecs.VP9
import MediasoupWorker.RTC.RtpDictionaries

/-!
# The codecs of a packet

`src/include/RTC/Codecs/Tools.hpp`. When a stream receives a packet, the codec reads a payload descriptor,
and the packet keeps it. Consumers write other numbers into the payload, and the descriptor writes back the
ones that it has read, which restores the payload.
-/

namespace MediasoupWorker.RTC.Codecs

open Library Option BitVec List

inductive PayloadDescriptor where
  | vp8 (d : VP8.PayloadDescriptor)
  | vp9 (d : VP9.PayloadDescriptor)
  | h264 (d : H264.PayloadDescriptor)
  deriving DecidableEq, Repr

namespace PayloadDescriptor

def isKeyFrame : PayloadDescriptor → Bool
  | .vp8 d => d.isKeyFrame
  | .vp9 d => d.isKeyFrame
  | .h264 d => d.isKeyFrame

def temporalLayer : PayloadDescriptor → ℕ
  | .vp8 d => if d.hasTlIndex then d.tlIndex.toNat else 0
  | .vp9 d => d.temporalLayer
  | .h264 d => d.tid.toNat

def restore : PayloadDescriptor → List Byte → List Byte
  | .vp8 d, data => VP8.restore d data
  | .vp9 _, data => data
  | .h264 _, data => data

end PayloadDescriptor

/-! ## The reading of the descriptor -/

def VP8.processRtpPacket (data : List Byte) : Option VP8.PayloadDescriptor × List Byte :=
  match VP8.parse data with
  | none => (none, data)
  | some d =>
    if d.hasOneBytePictureId then
      (some { d with hasOneBytePictureId := false, hasTwoBytesPictureId := true },
        data.take 2 ++ 0x80 :: data.drop 2)
    else (some d, data)

def processRtpPacket (mimeType : RtpCodecMimeType) (frameMarking : Option (FrameMarking × ℕ))
    (data : List Byte) : Except Fault (Option PayloadDescriptor × List Byte) :=
  match mimeType.type, mimeType.subtype with
  | .video, .vp8 => .ok ((VP8.processRtpPacket data).map (·.map .vp8) id)
  | .video, .vp9 => .ok ((VP9.parse data).map .vp9, data)
  | .video, .h264 => do return ((← H264.parse data frameMarking).map .h264, data)
  | _, _ => .ok (none, data)

namespace VP8

/-! ## The restoring of VP8 payloads -/

section Restore

variable {d d' : PayloadDescriptor} {data : List Byte} {offset offset' : ℕ}

theorem encode_encode (d : PayloadDescriptor) (data : List Byte) (pid pid' : BitVec 16)
    (tl0PictureIndex tl0PictureIndex' : Byte) :
    d.encode (d.encode data pid tl0PictureIndex) pid' tl0PictureIndex' =
      d.encode data pid' tl0PictureIndex' := by
  simp only [PayloadDescriptor.encode]
  refine ext_getElem? fun i => ?_
  split_ifs <;> simp only [getElem?_set, length_set] <;> split_ifs <;> rfl

theorem set_of_getElem? {l : List Byte} {i : ℕ} {a : Byte} (h : l[i]? = some a) : l.set i a = l := by
  obtain ⟨hi, rfl⟩ := List.getElem?_eq_some_iff.mp h
  exact List.set_getElem_self hi

theorem and_7F_or_80 : ∀ byte : Byte, byte.bit 7 = true → (byte &&& 0x7F) ||| 0x80 = byte := by
  decide

theorem and_7F_of_not_bit : ∀ byte : Byte, byte.bit 7 = false → byte &&& 0x7F = byte := by
  decide

theorem twoBytesPictureId_high (high low : Byte) :
    ((((high &&& 0x7F).setWidth 16 <<< 8) + low.setWidth 16 : BitVec 16) >>> 8).setWidth 8 =
      high &&& 0x7F := by
  have hhigh := toNat_and_7F high
  have hlow := low.isLt
  refine eq_of_toNat_eq ?_
  rw [toNat_setWidth, toNat_ushiftRight, toNat_add, toNat_shiftLeft,
    toNat_setWidth, toNat_setWidth, Nat.shiftLeft_eq, Nat.shiftRight_eq_div_pow]
  omega

theorem twoBytesPictureId_low (high low : Byte) :
    (((high &&& 0x7F).setWidth 16 <<< 8) + low.setWidth 16 : BitVec 16).setWidth 8 = low := by
  have hhigh := toNat_and_7F high
  have hlow := low.isLt
  refine eq_of_toNat_eq ?_
  rw [toNat_setWidth, toNat_add, toNat_shiftLeft, toNat_setWidth, toNat_setWidth, Nat.shiftLeft_eq]
  omega

theorem oneBytePictureId_high (b : Byte) :
    (((b &&& 0x7F).setWidth 16 : BitVec 16) >>> 8).setWidth 8 = (0 : Byte) := by
  have hbyte := toNat_and_7F b
  refine eq_of_toNat_eq ?_
  rw [toNat_setWidth, toNat_ushiftRight, toNat_setWidth, Nat.shiftRight_eq_div_pow]
  show _ = 0
  omega

theorem oneBytePictureId_low (b : Byte) : ((b &&& 0x7F).setWidth 16 : BitVec 16).setWidth 8 = b &&& 0x7F := by
  refine eq_of_toNat_eq ?_
  rw [toNat_setWidth, toNat_setWidth]
  have hbyte := toNat_and_7F b
  omega

theorem parsePictureId_reads (h : parsePictureId data d offset = some (d', offset'))
    (hnone : d.hasPictureId = false) (hsome : d'.hasPictureId = true) :
    d.i = true ∧ ∃ pictureId : BitVec 16, (offset' = offset + 2 ∧
        d' = { d with hasTwoBytesPictureId := true, pictureId, hasPictureId := true } ∧
        data[offset + 1]? = some ((pictureId >>> 8).setWidth 8 ||| 0x80) ∧
        data[offset + 2]? = some (pictureId.setWidth 8)) ∨ (offset' = offset + 1 ∧
        d' = { d with hasOneBytePictureId := true, pictureId, hasPictureId := true } ∧
        (pictureId >>> 8).setWidth 8 = (0 : Byte) ∧ data[offset + 1]? = some (pictureId.setWidth 8)) := by
  rw [parsePictureId] at h
  split_ifs at h with hi
  · obtain ⟨first, hfirst, h⟩ := bind_eq_some_iff.mp h
    split_ifs at h with hbit
    · obtain ⟨second, hsecond, h⟩ := bind_eq_some_iff.mp h
      cases h
      refine ⟨hi, _, .inl ⟨rfl, rfl, ?_, ?_⟩⟩
      · rw [twoBytesPictureId_high, and_7F_or_80 first hbit]
        exact hfirst
      · rw [twoBytesPictureId_low]
        exact hsecond
    · cases h
      refine ⟨hi, _, .inr ⟨rfl, rfl, oneBytePictureId_high first, ?_⟩⟩
      rw [oneBytePictureId_low, and_7F_of_not_bit first (by simpa using hbit)]
      exact hfirst
  · cases h
    rw [hnone] at hsome
    cases hsome

theorem parseTl0PictureIndex_reads (h : parseTl0PictureIndex data d offset = some (d', offset'))
    (hnone : d.hasTl0PictureIndex = false) (hsome : d'.hasTl0PictureIndex = true) :
    d.l = true ∧ ∃ tl0PictureIndex, d' = { d with hasTl0PictureIndex := true, tl0PictureIndex } ∧
      data[offset + 1]? = some tl0PictureIndex := by
  rw [parseTl0PictureIndex] at h
  split_ifs at h with hl
  · obtain ⟨b, hbyte, h⟩ := bind_eq_some_iff.mp h
    cases h
    exact ⟨hl, b, rfl, hbyte⟩
  · cases h
    rw [hnone] at hsome
    cases hsome

theorem parsePictureId_hasTl0PictureIndex (h : parsePictureId data d offset = some (d', offset')) :
    d'.hasTl0PictureIndex = d.hasTl0PictureIndex := by
  rw [parsePictureId] at h
  split_ifs at h
  · obtain ⟨first, -, h⟩ := bind_eq_some_iff.mp h
    split_ifs at h
    · obtain ⟨second, -, h⟩ := bind_eq_some_iff.mp h
      cases h
      rfl
    · cases h
      rfl
  · cases h
    rfl

theorem parseTlIndex_encode (h : parseTlIndex data d offset = some (d', offset')) :
    ∃ hasTlIndex tlIndex y keyIndex, d' = { d with hasTlIndex, tlIndex, y, keyIndex } := by
  rw [parseTlIndex] at h
  split_ifs at h
  · obtain ⟨b, -, h⟩ := bind_eq_some_iff.mp h
    cases h
    exact ⟨_, _, _, _, rfl⟩
  · cases h
    exact ⟨_, _, _, _, rfl⟩

theorem parseKeyFrame_encode (data : List Byte) (d : PayloadDescriptor) (offset : ℕ) :
    ∃ isKeyFrame, parseKeyFrame data d offset = { d with isKeyFrame } := by
  rw [parseKeyFrame]
  split
  · split_ifs
    · exact ⟨true, rfl⟩
    · exact ⟨d.isKeyFrame, rfl⟩
  · exact ⟨d.isKeyFrame, rfl⟩

structure ReadsTwoBytes (data : List Byte) (d : PayloadDescriptor) : Prop where
  high : data[2]? = some ((d.pictureId >>> 8).setWidth 8 ||| 0x80)
  low : data[3]? = some (d.pictureId.setWidth 8)
  tl0PictureIndex : data[4]? = some d.tl0PictureIndex

structure ReadsOneByte (data : List Byte) (d : PayloadDescriptor) : Prop where
  high : (d.pictureId >>> 8).setWidth 8 = (0 : Byte)
  low : data[2]? = some (d.pictureId.setWidth 8)
  tl0PictureIndex : data[3]? = some d.tl0PictureIndex

/-- **What `Parse` has read stands in the payload.** -/
theorem parse_reads (h : parse data = some d) (hpid : d.hasPictureId = true)
    (htl0 : d.hasTl0PictureIndex = true) : d.extended = true ∧ d.i = true ∧ d.l = true ∧
      (d.hasOneBytePictureId = false ∧ d.hasTwoBytesPictureId = true ∧ ReadsTwoBytes data d ∨
        d.hasOneBytePictureId = true ∧ ReadsOneByte data d) := by
  rw [parse] at h
  obtain ⟨b, -, h⟩ := bind_eq_some_iff.mp h
  dsimp only at h
  split_ifs at h with hext
  obtain ⟨flags, -, h⟩ := bind_eq_some_iff.mp h
  obtain ⟨⟨d₁, o₁⟩, h₁, h⟩ := bind_eq_some_iff.mp h
  obtain ⟨⟨d₂, o₂⟩, h₂, h⟩ := bind_eq_some_iff.mp h
  obtain ⟨⟨d₃, o₃⟩, h₃, h⟩ := bind_eq_some_iff.mp h
  obtain ⟨hasTlIndex, tlIndex, y, keyIndex, rfl⟩ := parseTlIndex_encode h₃
  dsimp only at h
  obtain ⟨key, hkey⟩ := parseKeyFrame_encode data
    { d₂ with hasTlIndex, tlIndex, y, keyIndex } o₃
  rw [hkey] at h
  cases h
  dsimp only at hpid htl0 ⊢
  have hpre : d₁.hasTl0PictureIndex = false := parsePictureId_hasTl0PictureIndex h₁
  obtain ⟨hl, tl0, rfl, hread⟩ := parseTl0PictureIndex_reads h₂ hpre htl0
  obtain ⟨hi, pid, ⟨rfl, rfl, hhigh, hlow⟩ | ⟨rfl, rfl, hhigh, hlow⟩⟩ :=
    parsePictureId_reads h₁ rfl hpid
  · exact ⟨by simpa using hext, hi, hl, .inl ⟨rfl, rfl, hhigh, hlow, hread⟩⟩
  · exact ⟨by simpa using hext, hi, hl, .inr ⟨rfl, hhigh, hlow, hread⟩⟩

theorem encode_of_reads (hext : d.extended = true) (hi : d.i = true) (hl : d.l = true)
    (htwo : d.hasTwoBytesPictureId = true) (h : ReadsTwoBytes data d) :
    d.encode data d.pictureId d.tl0PictureIndex = data := by
  simp only [PayloadDescriptor.encode, hext, hi, hl, htwo, Bool.not_true, Bool.false_eq_true,
    if_false, Bool.and_self, if_true]
  rw [set_of_getElem? h.high, set_of_getElem? h.low, set_of_getElem? h.tl0PictureIndex]

theorem ReadsOneByte.widen (h : ReadsOneByte data d) : ReadsTwoBytes (data.take 2 ++ 0x80 :: data.drop 2)
      { d with hasOneBytePictureId := false, hasTwoBytesPictureId := true } := by
  have hlen : (data.take 2).length = 2 := by
    obtain ⟨hlt, -⟩ := List.getElem?_eq_some_iff.mp h.low
    rw [List.length_take]
    omega
  have hget : ∀ i, (data.take 2 ++ 0x80 :: data.drop 2)[2 + (i + 1)]? = data[2 + i]? := by
    intro i
    rw [List.getElem?_append_right (by omega), hlen, Nat.add_sub_cancel_left,
      List.getElem?_cons_succ, List.getElem?_drop]
  refine ⟨?_, (hget 0).trans h.low, (hget 1).trans h.tl0PictureIndex⟩
  dsimp only
  rw [h.high, List.getElem?_append_right (by omega), hlen]
  rfl

variable {payload : List Byte}

theorem restore_of_processRtpPacket (h : processRtpPacket data = (some d, payload)) :
    restore d payload = payload := by
  rw [restore]
  split_ifs with hboth
  · obtain ⟨hpid, htl0⟩ := Bool.and_eq_true_iff.mp hboth
    rw [processRtpPacket] at h
    cases hparse : parse data with
    | none =>
      rw [hparse] at h
      cases h
    | some d₀ =>
      rw [hparse] at h
      dsimp only at h
      split_ifs at h with hone
      · cases h
        obtain ⟨hext, hi, hl, ⟨hnot, -⟩ | ⟨-, hreads⟩⟩ := parse_reads hparse hpid htl0
        · rw [hone] at hnot
          cases hnot
        · exact encode_of_reads hext hi hl rfl hreads.widen
      · cases h
        obtain ⟨hext, hi, hl, ⟨-, htwo, hreads⟩ | ⟨hyes, -⟩⟩ :=
          parse_reads hparse hpid htl0
        · exact encode_of_reads hext hi hl htwo hreads
        · exact absurd hyes hone
  · rfl

variable {c c' : EncodingContext}

variable (h : process c d data = .ok (c', some payload))

include h

theorem exists_encode_of_process : ∃ pid tl0, payload =
      if d.hasPictureId && d.hasTl0PictureIndex then d.encode data pid tl0
      else data := by
  have hin : ∀ c, (processInput c d data).2 = some payload → ∃ pid tl0, payload =
        if d.hasPictureId && d.hasTl0PictureIndex then d.encode data pid tl0
        else data := by
    intro c hpl
    rw [processInput] at hpl
    split at hpl
    · cases hpl
    · split at hpl
      · cases hpl
      · exact ⟨_, _, (some.inj hpl).symm⟩
  by_cases htgt : c.targetTemporalLayer ≥ 0
  · rw [process_eq c d data htgt, Except.ok.injEq] at h
    split_ifs at h
    · cases h
    · exact hin (c.sync d) (congrArg Prod.snd h)
  · rw [process, decide_eq_false htgt] at h
    cases h

theorem restore_of_process : restore d payload = restore d data := by
  obtain ⟨pid, tl0, rfl⟩ := exists_encode_of_process h
  rw [restore, restore]
  split_ifs
  · exact encode_encode ..
  · rfl

end Restore

end VP8

/-- **A payload from which the descriptor has just been read** is not changed by `Restore`. -/
theorem restore_of_processRtpPacket {mime : RtpCodecMimeType} {fm : Option (FrameMarking × ℕ)}
    {data payload : List Byte} {d : PayloadDescriptor}
    (h : processRtpPacket mime fm data = .ok (some d, payload)) : d.restore payload = payload := by
  cases d with
  | vp9 d => rfl
  | h264 d => rfl
  | vp8 d =>
    rw [processRtpPacket] at h
    split at h
    · rw [Except.ok.injEq, Prod.map] at h
      obtain ⟨hd, hpl⟩ := Prod.mk.inj h
      obtain ⟨d', hd', heq⟩ := map_eq_some_iff.mp hd
      cases heq
      exact VP8.restore_of_processRtpPacket (Prod.ext hd' hpl)
    · cases hparse : VP9.parse data with
      | none =>
        rw [hparse] at h
        cases h
      | some d' =>
        rw [hparse] at h
        cases h
    · obtain ⟨d', -, h⟩ := bind_eq_ok.mp h
      cases d' with
      | none => cases h
      | some d' => cases h
    · cases h

/-! ## Simulcast -/

inductive SimulcastCodec where
  | vp8
  | h264
  deriving DecidableEq, Repr

namespace SimulcastCodec

def handler : SimulcastCodec → Handler
  | .vp8 => VP8.handler
  | .h264 => H264.handler

def descriptor? : (codec : SimulcastCodec) → PayloadDescriptor → Option codec.handler.Descriptor
  | .vp8, .vp8 d => some d
  | .h264, .h264 d => some d
  | _, _ => none

variable {codec : SimulcastCodec} {d : PayloadDescriptor} {own : codec.handler.Descriptor}

variable (h : codec.descriptor? d = some own)

include h

theorem isKeyFrame_eq : codec.handler.isKeyFrame own = d.isKeyFrame := by
  cases codec <;> cases d <;> cases h <;> rfl

theorem temporalLayer_eq : codec.handler.temporalLayer own = d.temporalLayer := by
  cases codec <;> cases d <;> cases h <;> rfl

theorem process_restored {ctx ctx' : codec.handler.Context} {data payload : List Byte} {m : Bool}
    (hproc : codec.handler.process ctx own data = .ok (ctx', some (payload, m))) :
    m = false ∧ d.restore payload = d.restore data := by
  cases codec with
  | vp8 =>
    cases d <;> cases h
    obtain ⟨⟨c₁, r⟩, hproc, heq⟩ := map_eq_ok.mp hproc
    obtain ⟨pl', hres, hpl⟩ := map_eq_some_iff.mp (congrArg Prod.snd heq)
    cases hpl
    cases hres
    exact ⟨rfl, VP8.restore_of_process hproc⟩
  | h264 =>
    cases d <;> cases h
    obtain ⟨⟨c₁, r⟩, -, heq⟩ := map_eq_ok.mp hproc
    cases r with
    | false => cases heq
    | true =>
      cases heq
      exact ⟨rfl, rfl⟩

end SimulcastCodec

end MediasoupWorker.RTC.Codecs
