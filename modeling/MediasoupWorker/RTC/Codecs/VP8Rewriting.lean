import MediasoupWorker.RTC.Codecs.Tools
import MediasoupWorker.RTC.RtpPacketRewrite

/-!
# The rewriting of VP8 payloads in the packet

`VP8::ProcessRtpPacket`, `RtpPacket::ProcessPayload` and `RtpPacket::RestorePayload` with the buffer of the
packet. The first of them widens a picture ID of one byte; the others write numbers into the payload and
write them back.
-/

namespace MediasoupWorker.RTC

open Library Option List

def RtpPacket.payloadBytes (p : RtpPacket) : List Byte := fetch p.buffer p.payload p.payloadLength

namespace Codecs
namespace VP8

/-! ## The functions of the packet -/

def PayloadDescriptor.widen (d : PayloadDescriptor) : PayloadDescriptor :=
  { d with hasOneBytePictureId := false, hasTwoBytesPictureId := true }

def processPacket (p : RtpPacket) : Except Fault (RtpPacket × Option PayloadDescriptor) :=
  match parse p.payloadBytes with
  | none => .ok (p, none)
  | some d =>
    if d.hasOneBytePictureId then do
      -- shift the payload one byte from the beginning of the picture ID
      let p ← p.shiftPayload 2 1 true
      -- set the marker bit of a picture ID of two bytes
      return ({ p with buffer := store p.buffer (p.payload + 2) [0x80] }, some d.widen)
    else .ok (p, some d)

def processPayload (p : RtpPacket) (d : PayloadDescriptor) (context : EncodingContext) :
    Except Fault (EncodingContext × RtpPacket × Bool) := do
  let (context, data) ← process context d p.payloadBytes
  match data with
  | none => return (context, p, false)
  | some data => return (context, { p with buffer := store p.buffer p.payload data }, true)

def restorePayload (p : RtpPacket) (d : PayloadDescriptor) : RtpPacket :=
  { p with buffer := store p.buffer p.payload (restore d p.payloadBytes) }

/-! ## The widened payload -/

section Widen

variable {data : List Byte} {d d' : PayloadDescriptor} {offset offset' : ℕ}

def widenPayload (data : List Byte) : List Byte := data.take 2 ++ 0x80 :: data.drop 2

theorem getElem?_widenPayload_of_lt {i : ℕ} (hlen : 2 < data.length) (hi : i < 2) :
    (widenPayload data)[i]? = data[i]? := by
  rw [widenPayload, getElem?_append_left (by rw [length_take]; omega), getElem?_take_of_lt hi]

theorem getElem?_widenPayload_two (hlen : 2 < data.length) : (widenPayload data)[2]? = some 0x80 := by
  have htake : (data.take 2).length = 2 := by
    rw [length_take]
    omega
  rw [widenPayload, getElem?_append_right (by omega), htake]
  rfl

theorem getElem?_widenPayload_succ {i : ℕ} (hlen : 2 < data.length) (hi : 2 ≤ i) :
    (widenPayload data)[i + 1]? = data[i]? := by
  have htake : (data.take 2).length = 2 := by
    rw [length_take]
    omega
  obtain ⟨j, rfl⟩ := Nat.exists_eq_add_of_le hi
  rw [widenPayload, getElem?_append_right (by omega), htake,
    show 2 + j + 1 - 2 = j + 1 by omega, getElem?_cons_succ, getElem?_drop]

theorem parsePictureId_widen (hfresh : d.hasOneBytePictureId = false)
    (h : parsePictureId data d 1 = some (d', offset')) (hone : d'.hasOneBytePictureId = true) :
    offset' = 2 ∧ 2 < data.length ∧ parsePictureId (widenPayload data) d 1 = some (d'.widen, 3) := by
  rw [parsePictureId] at h
  split_ifs at h with hi
  · obtain ⟨b, hbyte, h⟩ := bind_eq_some_iff.mp h
    have hlen : 2 < data.length := (List.getElem?_eq_some_iff.mp hbyte).1
    split_ifs at h with hbit
    · obtain ⟨low, -, h⟩ := bind_eq_some_iff.mp h
      cases h
      exact absurd hone (by rw [hfresh]; exact Bool.false_ne_true)
    · cases h
      have hv : (((0x80 &&& 0x7F : Byte).setWidth 16 <<< 8) + b.setWidth 16 : BitVec 16) =
          (b &&& 0x7F).setWidth 16 := by
        rw [and_7F_of_not_bit b (by simpa using hbit)]
        exact zero_add _
      refine ⟨rfl, hlen, ?_⟩
      rw [parsePictureId, if_pos hi]
      refine bind_eq_some_iff.mpr ⟨0x80, getElem?_widenPayload_two hlen, ?_⟩
      refine bind_eq_some_iff.mpr
        ⟨b, (getElem?_widenPayload_succ hlen le_rfl).trans hbyte, ?_⟩
      rw [hv, PayloadDescriptor.widen, hfresh]
      rfl
  · cases h
    exact absurd hone (by rw [hfresh]; exact Bool.false_ne_true)

theorem parseTl0PictureIndex_hasOneBytePictureId
    (h : parseTl0PictureIndex data d offset = some (d', offset')) :
    d'.hasOneBytePictureId = d.hasOneBytePictureId := by
  rw [parseTl0PictureIndex] at h
  split_ifs at h
  · obtain ⟨b, -, h⟩ := bind_eq_some_iff.mp h
    cases h
    rfl
  · cases h
    rfl

section

variable (hlen : 2 < data.length) (hoff : 2 ≤ offset)

include hlen hoff

theorem parseByte_widen {c : Bool} {g : Byte → PayloadDescriptor}
    (h : (if c then data[offset + 1]?.bind fun b => some (g b, offset + 1) else some (d, offset)) =
      some (d', offset')) : 2 ≤ offset' ∧ (if c then (widenPayload data)[offset + 1 + 1]?.bind fun b =>
      some ((g b).widen, offset + 1 + 1) else some (d.widen, offset + 1)) = some (d'.widen, offset' + 1) := by
  split_ifs at h ⊢
  · obtain ⟨b, hbyte, h⟩ := bind_eq_some_iff.mp h
    cases h
    refine ⟨by omega, ?_⟩
    exact bind_eq_some_iff.mpr ⟨b, (getElem?_widenPayload_succ hlen (by omega)).trans hbyte, rfl⟩
  · cases h
    exact ⟨hoff, rfl⟩

theorem parseTl0PictureIndex_widen (h : parseTl0PictureIndex data d offset = some (d', offset')) :
    2 ≤ offset' ∧ parseTl0PictureIndex (widenPayload data) d.widen (offset + 1) =
        some (d'.widen, offset' + 1) :=
  parseByte_widen hlen hoff h

theorem parseTlIndex_widen (h : parseTlIndex data d offset = some (d', offset')) :
    2 ≤ offset' ∧ parseTlIndex (widenPayload data) d.widen (offset + 1) = some (d'.widen, offset' + 1) :=
  parseByte_widen hlen hoff h

end

theorem parseKeyFrame_widen (hlen : 2 < data.length) (hoff : 2 ≤ offset) :
    parseKeyFrame (widenPayload data) d.widen (offset + 1) = (parseKeyFrame data d offset).widen := by
  rw [parseKeyFrame, parseKeyFrame, getElem?_widenPayload_succ hlen (by omega)]
  cases data[offset + 1]? with
  | none => rfl
  | some b =>
    show (if (d.start && d.partitionIndex == 0 && !b.bit 0) = true
        then { d.widen with isKeyFrame := true } else d.widen) =
      (if (d.start && d.partitionIndex == 0 && !b.bit 0) = true
        then { d with isKeyFrame := true } else d).widen
    split_ifs <;> rfl

/-- **A payload with a picture ID of one byte, once widened, parses to the same fields** with a
picture ID of two bytes. -/
theorem parse_widen (h : parse data = some d) (hone : d.hasOneBytePictureId = true) :
    2 < data.length ∧ parse (widenPayload data) = some d.widen := by
  rw [parse] at h
  obtain ⟨b, hbyte, h⟩ := bind_eq_some_iff.mp h
  dsimp only at h
  split_ifs at h with hext
  obtain ⟨flags, hflags, h⟩ := bind_eq_some_iff.mp h
  obtain ⟨⟨d₁, o₁⟩, h₁, h⟩ := bind_eq_some_iff.mp h
  obtain ⟨⟨d₂, o₂⟩, h₂, h⟩ := bind_eq_some_iff.mp h
  obtain ⟨⟨d₃, o₃⟩, h₃, h⟩ := bind_eq_some_iff.mp h
  dsimp only at h₁ h₂ h₃ h
  obtain rfl : parseKeyFrame data d₃ o₃ = d := some.inj h
  obtain ⟨key, hkey⟩ := parseKeyFrame_encode data d₃ o₃
  -- the flag for one byte is set by the picture ID, and the steps behind it leave it
  have hone₁ : d₁.hasOneBytePictureId = true := by
    obtain ⟨hasTlIndex, tlIndex, y, keyIndex, hd₃⟩ := parseTlIndex_encode h₃
    rw [hkey, hd₃] at hone
    exact (parseTl0PictureIndex_hasOneBytePictureId h₂).symm.trans hone
  obtain ⟨rfl, hlen, h₁'⟩ := parsePictureId_widen rfl h₁ hone₁
  obtain ⟨ho₂, h₂'⟩ := parseTl0PictureIndex_widen hlen le_rfl h₂
  obtain ⟨ho₃, h₃'⟩ := parseTlIndex_widen hlen ho₂ h₃
  refine ⟨hlen, ?_⟩
  rw [parse]
  refine bind_eq_some_iff.mpr
    ⟨b, (getElem?_widenPayload_of_lt hlen (by omega)).trans hbyte, ?_⟩
  dsimp only
  rw [if_neg hext]
  refine bind_eq_some_iff.mpr
    ⟨flags, (getElem?_widenPayload_of_lt hlen (by omega)).trans hflags, ?_⟩
  refine bind_eq_some_iff.mpr ⟨_, h₁', ?_⟩
  refine bind_eq_some_iff.mpr ⟨_, h₂', ?_⟩
  refine bind_eq_some_iff.mpr ⟨_, h₃', ?_⟩
  exact congrArg some (parseKeyFrame_widen hlen ho₃)

end Widen

/-! ## The packet -/

section Packet

variable {p p' : RtpPacket} {d : PayloadDescriptor}

theorem payloadBytes_shifted (hlen : 2 < p.payloadLength) (h : p.shiftPayload 2 1 true = .ok p') :
    ({ p' with buffer := store p'.buffer (p'.payload + 2) [0x80] } : RtpPacket).payloadBytes =
      widenPayload p.payloadBytes := by
  rw [RtpPacket.shiftPayload, if_neg Nat.one_ne_zero, decide_eq_true hlen] at h
  cases h
  obtain ⟨n, hn⟩ : ∃ n, p.payloadLength = 2 + n := ⟨p.payloadLength - 2, by omega⟩
  set m := move p.buffer (p.payload + 2 + 1) (p.payload + 2)
    (p.payloadLength + p.payloadPadding - 2) with hm
  have hpre : fetch (store m (p.payload + 2) [0x80]) p.payload 2 = fetch p.buffer p.payload 2 := by
    rw [fetch_store_of_le le_rfl]
    exact fetch_congr fun a _ ha => move_of_not (by omega)
  have hmarker : fetch (store m (p.payload + 2) [0x80]) (p.payload + 2) 1 = [0x80] :=
    fetch_store_self ..
  have hbehind : fetch (store m (p.payload + 2) [0x80]) (p.payload + 2 + 1) n =
      fetch p.buffer (p.payload + 2) n := by
    rw [fetch_store_of_ge (by simp)]
    refine map_congr_left fun i hi => ?_
    have hlt := mem_range.mp hi
    exact move_add (by omega)
  show fetch (store m (p.payload + 2) [0x80]) p.payload (p.payloadLength + 1) = _
  rw [widenPayload, RtpPacket.payloadBytes, take_fetch _ _ (by omega), drop_fetch _ _ (by omega), hn,
    show 2 + n + 1 = 2 + (1 + n) by omega, fetch_add, fetch_add, hpre, hmarker, hbehind,
    Nat.add_sub_cancel_left]
  rfl

/-- **`ProcessRtpPacket` never fails**, and does to the bytes of the payload what
`processRtpPacket` says. -/
theorem processPacket_eq (p : RtpPacket) :
    ∃ p', processPacket p = .ok (p', (processRtpPacket p.payloadBytes).1) ∧
      p'.payloadBytes = (processRtpPacket p.payloadBytes).2 := by
  rw [processPacket, processRtpPacket]
  cases hparse : parse p.payloadBytes with
  | none => exact ⟨p, rfl, rfl⟩
  | some d =>
    dsimp only
    split_ifs with hone
    · obtain ⟨hlen, -⟩ := parse_widen hparse hone
      rw [RtpPacket.payloadBytes, length_fetch] at hlen
      have hshift : ∃ p', p.shiftPayload 2 1 true = .ok p' := by
        rw [RtpPacket.shiftPayload, if_neg Nat.one_ne_zero, decide_eq_true hlen]
        exact ⟨_, rfl⟩
      obtain ⟨p', hp'⟩ := hshift
      rw [hp']
      exact ⟨_, rfl, payloadBytes_shifted hlen hp'⟩
    · exact ⟨p, rfl, rfl⟩

theorem length_encode (d : PayloadDescriptor) (data : List Byte) (pid : BitVec 16) (tl0 : Byte) :
    (d.encode data pid tl0).length = data.length := by
  simp only [PayloadDescriptor.encode]
  split_ifs <;> simp

theorem length_of_process {c c' : EncodingContext} {data pl : List Byte}
    (h : process c d data = .ok (c', some pl)) : pl.length = data.length := by
  obtain ⟨pid, tl0, rfl⟩ := exists_encode_of_process h
  split_ifs
  · exact length_encode ..
  · rfl

theorem restorePayload_self (h : restore d p.payloadBytes = p.payloadBytes) : restorePayload p d = p := by
  rw [restorePayload, h, RtpPacket.payloadBytes, store_fetch_self]

theorem restorePayload_stored {payload : List Byte} (hlen : payload.length = p.payloadLength)
    (h : restore d payload = p.payloadBytes) :
    restorePayload { p with buffer := store p.buffer p.payload payload } d = p := by
  have hbs : ({ p with buffer := store p.buffer p.payload payload } : RtpPacket).payloadBytes = payload := by
    show fetch (store p.buffer p.payload payload) p.payload p.payloadLength = payload
    rw [← hlen, fetch_store_self]
  have hst : store (store p.buffer p.payload payload) p.payload p.payloadBytes = p.buffer := by
    rw [store_store (by rw [hlen, RtpPacket.payloadBytes, length_fetch]), RtpPacket.payloadBytes,
      store_fetch_self]
  rw [restorePayload, hbs, h]
  show { p with buffer := store (store p.buffer p.payload payload) p.payload p.payloadBytes } = p
  rw [hst]

theorem restorePayload_of_processPayload (c : EncodingContext)
    (h : restore d p.payloadBytes = p.payloadBytes) : Meets (fun r => restorePayload r.2.1 d = p)
      (fun f => c.targetTemporalLayer < 0 ∧ f = noTargetTemporalLayer)
      (processPayload p d c) := by
  rw [processPayload]
  cases hproc : process c d p.payloadBytes with
  | error f =>
    refine ⟨?_, process_fault hproc⟩
    by_contra htarget
    rw [process_eq c d _ (Int.not_lt.mp htarget)] at hproc
    cases hproc
  | ok r =>
    obtain ⟨c', data⟩ := r
    cases data with
    | none => exact restorePayload_self h
    | some pl =>
      refine restorePayload_stored ?_ ((restore_of_process hproc).trans h)
      rw [length_of_process hproc, RtpPacket.payloadBytes, length_fetch]

end Packet

end VP8
end Codecs
end MediasoupWorker.RTC
