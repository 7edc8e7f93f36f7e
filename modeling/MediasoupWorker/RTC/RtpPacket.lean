import MediasoupWorker.Library.Memory
import MediasoupWorker.Library.OrderedMap
import MediasoupWorker.Utils.Byte

/-!
# RTP packets and their header extensions

`src/src/RTC/RtpPacket.cpp` and `src/include/RTC/RtpPacket.hpp`. A packet is a set of pointers
into the buffer that holds it. The model has the buffer as a function of the address, counted from
the start of the packet, and the pointers as addresses.
-/

namespace MediasoupWorker.RTC

open Library

structure RtpPacket.ExtensionIds where
  mid : ℕ := 0
  rid : ℕ := 0
  rrid : ℕ := 0
  absSendTime : ℕ := 0
  transportWideCc01 : ℕ := 0
  frameMarking07 : ℕ := 0
  frameMarking : ℕ := 0
  ssrcAudioLevel : ℕ := 0
  videoOrientation : ℕ := 0
  deriving DecidableEq, Repr, Inhabited

structure RtpPacket where
  buffer : ℕ → Byte
  headerExtension : Option ℕ
  mapOneByteExtensions : OrderedMap ℕ ℕ
  mapTwoBytesExtensions : OrderedMap ℕ ℕ
  extensionIds : RtpPacket.ExtensionIds
  payload : ℕ
  payloadLength : ℕ
  payloadPadding : ℕ
  size : ℕ

namespace RtpPacket

def headerSize : ℕ := 12

def field16 (buffer : ℕ → Byte) (a : ℕ) : BitVec 16 := buffer a ++ buffer (a + 1)

def bytes16 (value : BitVec 16) : List Byte := [value.extractLsb' 8 8, value.extractLsb' 0 8]

def bytes32 (value : BitVec 32) : List Byte :=
  [value.extractLsb' 24 8, value.extractLsb' 16 8, value.extractLsb' 8 8, value.extractLsb' 0 8]

/-! ## Getters and setters -/

section Fields

variable (p : RtpPacket)

def getHeaderExtensionId : BitVec 16 :=
  match p.headerExtension with
  | none => 0
  | some headerExtension => field16 p.buffer headerExtension

def getHeaderExtensionLength : ℕ :=
  match p.headerExtension with
  | none => 0
  | some headerExtension => (field16 p.buffer (headerExtension + 2)).toNat * 4

def hasOneByteExtensions : Bool := p.getHeaderExtensionId == 0xBEDE

def hasTwoBytesExtensions : Bool :=
  p.getHeaderExtensionId &&& 0b1111111111110000 == 0b0001000000000000

def getPayloadType : ℕ := (p.buffer 1 &&& 0x7F).toNat

def setPayloadType (payloadType : ℕ) : RtpPacket :=
  { p with
    buffer := store p.buffer 1 [(p.buffer 1 &&& 0x80) ||| (BitVec.ofNat 8 payloadType &&& 0x7F)] }

def setSsrc (ssrc : ℕ) : RtpPacket :=
  { p with buffer := store p.buffer 8 (bytes32 (BitVec.ofNat 32 ssrc)) }

def getExtension (id : ℕ) : Option (ℕ × ℕ) :=
  if id = 0 then none
  else if p.hasOneByteExtensions then
    match p.mapOneByteExtensions.find id with
    | none => none
    | some extension => some (extension + 1, (p.buffer extension &&& 0x0F).toNat + 1)
  else if p.hasTwoBytesExtensions then
    match p.mapTwoBytesExtensions.find id with
    | none => none
    | some extension =>
      if p.buffer (extension + 1) = 0 then none
      else some (extension + 2, (p.buffer (extension + 1)).toNat)
  else none

end Fields

/-! ## Parse -/

def skipZeros (buffer : ℕ → Byte) : (n ptr : ℕ) → ℕ
  | 0, ptr => ptr
  | n + 1, ptr => if buffer ptr = 0 then skipZeros buffer n (ptr + 1) else ptr

def skipPadding (buffer : ℕ → Byte) (extensionEnd ptr : ℕ) : ℕ :=
  skipZeros buffer (extensionEnd - ptr) ptr

theorem le_skipPadding (buf : ℕ → Byte) (extensionEnd ptr : ℕ) : ptr ≤ skipPadding buf extensionEnd ptr := by
  unfold skipPadding
  generalize extensionEnd - ptr = n
  induction n generalizing ptr with
  | zero => exact le_rfl
  | succ n ih =>
    unfold skipZeros
    split_ifs
    · exact (Nat.le_succ ptr).trans (ih (ptr + 1))
    · exact le_rfl

def parseOneByteExtensions (buffer : ℕ → Byte) (extensionEnd ptr : ℕ) (map : OrderedMap ℕ ℕ) :
    OrderedMap ℕ ℕ :=
  if h : ptr < extensionEnd then
    let id := ((buffer ptr &&& 0xF0) >>> 4).toNat
    let len := (buffer ptr &&& 0x0F).toNat + 1
    if id = 15 then map
    else if id ≠ 0 then
      if extensionEnd < ptr + 1 + len then map
      else
        parseOneByteExtensions buffer extensionEnd
          (skipPadding buffer extensionEnd (ptr + 1 + len)) (map.insert id ptr)
    else
      parseOneByteExtensions buffer extensionEnd (skipPadding buffer extensionEnd (ptr + 1)) map
  else map
termination_by extensionEnd - ptr
decreasing_by
  · have := le_skipPadding buffer extensionEnd (ptr + 1 + ((buffer ptr &&& 0x0F).toNat + 1))
    omega
  · have := le_skipPadding buffer extensionEnd (ptr + 1)
    omega

def parseTwoBytesExtensions (buffer : ℕ → Byte) (extensionEnd ptr : ℕ) (map : OrderedMap ℕ ℕ) :
    OrderedMap ℕ ℕ :=
  if h : ptr + 1 < extensionEnd then
    let id := (buffer ptr).toNat
    let len := (buffer (ptr + 1)).toNat
    if id ≠ 0 then
      if extensionEnd < ptr + 2 + len then map
      else
        parseTwoBytesExtensions buffer extensionEnd
          (skipPadding buffer extensionEnd (ptr + 2 + len)) (map.insert id ptr)
    else
      parseTwoBytesExtensions buffer extensionEnd (skipPadding buffer extensionEnd (ptr + 1)) map
  else map
termination_by extensionEnd - ptr
decreasing_by
  · have := le_skipPadding buffer extensionEnd (ptr + 2 + (buffer (ptr + 1)).toNat)
    omega
  · have := le_skipPadding buffer extensionEnd (ptr + 1)
    omega

def parseExtensions (p : RtpPacket) : RtpPacket :=
  match p.headerExtension with
  | none => p
  | some headerExtension =>
    let extensionStart := headerExtension + 4
    let extensionEnd := extensionStart + p.getHeaderExtensionLength
    if p.hasOneByteExtensions then
      { p with mapOneByteExtensions :=
          parseOneByteExtensions p.buffer extensionEnd extensionStart .empty }
    else if p.hasTwoBytesExtensions then
      { p with mapTwoBytesExtensions :=
          parseTwoBytesExtensions p.buffer extensionEnd extensionStart .empty }
    else p

def isRtp (data : ℕ → Byte) (len : ℕ) : Bool :=
  decide (headerSize ≤ len) && decide (127 < (data 0).toNat) && decide ((data 0).toNat < 192) &&
    data 0 >>> 6 == 2

def parseHeaderExtension (data : ℕ → Byte) (len ptr : ℕ) : Option (Option ℕ × ℕ) :=
  if (data 0).bit 4 then
    if len < ptr + 4 then none
    else
      let extensionValueSize := (field16 data (ptr + 2)).toNat * 4
      if len < ptr + 4 + extensionValueSize then none
      else some (some ptr, ptr + 4 + extensionValueSize)
  else some (none, ptr)

def parsePadding (data : ℕ → Byte) (len payloadLength : ℕ) : Option ℕ :=
  if (data 0).bit 5 then
    if payloadLength = 0 then none
    else
      let payloadPadding := (data (len - 1)).toNat
      if payloadPadding = 0 then none
      else if payloadLength < payloadPadding then none
      else some payloadPadding
  else some 0

def parse (data : ℕ → Byte) (len : ℕ) : Except Fault (Option RtpPacket) :=
  if !isRtp data len then .ok none
  else
    let csrcListSize := (data 0 &&& 0x0F).toNat * 4
    if len < headerSize + csrcListSize then .ok none
    else
      match parseHeaderExtension data len (headerSize + csrcListSize) with
      | none => .ok none
      | some (headerExtension, payload) => do
        msAssert (decide (payload ≤ len)) "payload has negative size"
        match parsePadding data len (len - payload) with
        | none => return none
        | some payloadPadding =>
          let payloadLength := len - payload - payloadPadding
          msAssert (len == payload + payloadLength + payloadPadding)
            "packet's computed size does not match received size"
          return some <| parseExtensions {
            buffer := data, headerExtension, payload, payloadLength, payloadPadding, size := len
            mapOneByteExtensions := .empty
            mapTwoBytesExtensions := .empty
            extensionIds := {} }

/-! ## SetExtensions -/

structure GenericExtension where
  id : Byte
  value : List Byte
  length_lt : value.length < 2 ^ 8

namespace GenericExtension

variable (extension : GenericExtension)

def isValid (type : ℕ) : Bool :=
  if type = 1 then
    !(extension.id == 0 || decide (14 < extension.id.toNat) || extension.value.length == 0 ||
      decide (16 < extension.value.length))
  else extension.id != 0

def elementSize (type : ℕ) : ℕ := type + extension.value.length

def elementBytes (type : ℕ) : List Byte :=
  if type = 1 then
    ((extension.id <<< 4) ||| (BitVec.ofNat 8 (extension.value.length - 1) &&& 0x0F)) :: extension.value
  else extension.id :: BitVec.ofNat 8 extension.value.length :: extension.value

end GenericExtension

def int16 (value : ℤ) : ℤ := (BitVec.ofInt 16 value).toInt

def headerExtensionId (type : ℕ) : BitVec 16 := if type = 1 then 0xBEDE else 0b0001000000000000

section SetExtensions

variable (p : RtpPacket) (type : ℕ)

def resetExtensions : RtpPacket :=
  let p := { p with
    extensionIds := {}, mapOneByteExtensions := .empty, mapTwoBytesExtensions := .empty }
  if type = 1 ∧ p.hasOneByteExtensions then p
  else if type = 2 ∧ p.hasTwoBytesExtensions then p
  else
    match p.headerExtension with
    | none => p
    | some headerExtension =>
      { p with buffer := store p.buffer headerExtension (bytes16 (headerExtensionId type)) }

def extensionsTotalSize (extensions : List GenericExtension) : ℕ :=
  ((extensions.filter (·.isValid type)).map (·.elementSize type)).sum

def extensionsShift (size : ℕ) : ℤ :=
  match p.headerExtension with
  | none => int16 (4 + int16 size)
  | some _ => int16 ((size : ℤ) - p.getHeaderExtensionLength)

def movePayload (shift : ℤ) : RtpPacket :=
  let payload := ((p.payload : ℤ) + shift).toNat
  { p with
    buffer := move p.buffer payload p.payload (p.payloadLength + p.payloadPadding)
    payload
    size := ((p.size : ℤ) + shift).toNat }

def makeRoom (size : ℕ) : RtpPacket :=
  let shift := p.extensionsShift size
  match p.headerExtension with
  | some headerExtension =>
    if shift ≠ 0 then
      let p := p.movePayload shift
      let length := bytes16 (BitVec.ofNat 16 (size / 4))
      { p with buffer := store p.buffer (headerExtension + 2) length }
    else p
  | none =>
    let headerExtension := p.payload
    let p := { p with
      buffer := store p.buffer 0 [p.buffer 0 ||| 0x10]
      headerExtension := some headerExtension }
    let p := p.movePayload shift
    let p := { p with buffer := store p.buffer headerExtension (bytes16 (headerExtensionId type)) }
    let length := bytes16 (BitVec.ofNat 16 (size / 4))
    { p with buffer := store p.buffer (headerExtension + 2) length }

def writeExtension (extension : GenericExtension) (ptr : ℕ) : RtpPacket :=
  let buffer := store p.buffer ptr (extension.elementBytes type)
  if type = 1 then
    { p with
      buffer, mapOneByteExtensions := p.mapOneByteExtensions.insert extension.id.toNat ptr }
  else
    { p with
      buffer, mapTwoBytesExtensions := p.mapTwoBytesExtensions.insert extension.id.toNat ptr }

def writeExtensions : (extensions : List GenericExtension) → (p : RtpPacket) → (ptr : ℕ) → RtpPacket × ℕ
  | [], p, ptr => (p, ptr)
  | extension :: extensions, p, ptr =>
    if extension.isValid type then
      writeExtensions extensions (p.writeExtension type extension ptr)
        (ptr + extension.elementSize type)
    else writeExtensions extensions p ptr

def fillExtensions (extensions : List GenericExtension) (padding : ℕ) : Except Fault RtpPacket :=
  match p.headerExtension with
  | none => .error .nullPointer
  | some headerExtension => do
    let (p, ptr) := writeExtensions type extensions p (headerExtension + 4)
    let p := { p with buffer := store p.buffer ptr (List.replicate padding 0) }
    msAssert (ptr + padding == p.payload) "wrong ptr calculation"
    return p

def setExtensions (extensions : List GenericExtension) : Except Fault RtpPacket := do
  msAssert (type == 1 || type == 2) "type must be 1 or 2"
  let p := p.resetExtensions type
  let size := extensionsTotalSize type extensions
  let paddedSize := (padTo4Bytes (BitVec.ofNat 16 size)).toNat
  let p := p.makeRoom type paddedSize
  p.fillExtensions type extensions ((paddedSize + 2 ^ 64 - size) % 2 ^ 64)

end SetExtensions

/-! ## The layout of a parsed packet -/

structure Layout (p : RtpPacket) : Prop where
  headerExtension : ∀ headerExtension ∈ p.headerExtension,
    headerSize ≤ headerExtension ∧ p.payload = headerExtension + 4 + p.getHeaderExtensionLength
  payload : headerSize ≤ p.payload
  size : p.size = p.payload + p.payloadLength + p.payloadPadding

variable {data : ℕ → Byte} {len : ℕ}

theorem parseHeaderExtension_spec {ptr pl : ℕ} {headerExtension : Option ℕ}
    (h : parseHeaderExtension data len ptr = some (headerExtension, pl)) (hptr : ptr ≤ len) :
    ptr ≤ pl ∧ pl ≤ len ∧ ∀ a ∈ headerExtension, a = ptr ∧ pl = a + 4 + (field16 data (a + 2)).toNat * 4 := by
  unfold parseHeaderExtension at h
  dsimp only at h
  split_ifs at h
  · cases h
    refine ⟨by omega, by omega, ?_⟩
    rintro a ⟨⟩
    exact ⟨rfl, rfl⟩
  · cases h
    exact ⟨Nat.le_refl _, hptr, by simp⟩

theorem parsePadding_le {payloadLength pad : ℕ} (h : parsePadding data len payloadLength = some pad) :
    pad ≤ payloadLength := by
  unfold parsePadding at h
  dsimp only at h
  split_ifs at h
  · cases h
    omega
  · cases h
    exact Nat.zero_le _

section ParseExtensions

variable (p : RtpPacket)

theorem parseExtensions_size : p.parseExtensions.size = p.size := by
  unfold parseExtensions
  split
  · rfl
  · split_ifs <;> rfl

theorem layout_parseExtensions (h : p.Layout) : p.parseExtensions.Layout := by
  unfold parseExtensions
  split
  · exact h
  · split_ifs
    · exact ⟨h.headerExtension, h.payload, h.size⟩
    · exact ⟨h.headerExtension, h.payload, h.size⟩
    · exact h

end ParseExtensions

theorem layout_of_parse {p : RtpPacket} (h : parse data len = .ok (some p)) : p.Layout ∧ p.size = len := by
  unfold parse at h
  dsimp only at h
  split_ifs at h with hrtp hcsrc
  · cases h
  · cases h
  split at h
  · cases h
  · rename_i headerExtension pl hext
    obtain ⟨hle, hlen, hhdr⟩ := parseHeaderExtension_spec hext (by omega)
    obtain ⟨u, -, h⟩ := bind_eq_ok.mp h
    split at h
    · cases h
    · rename_i pad hpad
      have hpaddingLe := parsePadding_le hpad
      obtain ⟨u, -, h⟩ := bind_eq_ok.mp h
      obtain rfl := Option.some.inj (Except.ok.inj h)
      refine ⟨layout_parseExtensions _ ⟨?_, ?_, ?_⟩, parseExtensions_size _⟩
      · intro a ha
        obtain ⟨rfl, hpl⟩ := hhdr a ha
        refine ⟨Nat.le_add_right _ _, ?_⟩
        rw [getHeaderExtensionLength, show headerExtension = some _ from ha]
        exact hpl
      · exact (Nat.le_add_right _ _).trans hle
      · show len = pl + (len - pl - pad) + pad
        omega

end RtpPacket
end MediasoupWorker.RTC
