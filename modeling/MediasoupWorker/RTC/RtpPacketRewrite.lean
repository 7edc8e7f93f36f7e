import MediasoupWorker.Library.Runs
import MediasoupWorker.RTC.RtpPacketParse

/-!
# Rewriting a packet in place

`src/src/RTC/RtpPacket.cpp`: the functions that change the bytes of a packet and the pointers into
them, and `Clone`.
-/

namespace MediasoupWorker.RTC

open Library

namespace RtpPacket

def midMaxLength : ℕ := 8

section Operations

variable (p : RtpPacket)

def setPayloadPaddingFlag (flag : Bool) : RtpPacket :=
  { p with buffer := store p.buffer 0 [(p.buffer 0 &&& 0xDF) ||| if flag then 0x20 else 0] }

def getSequenceNumber : BitVec 16 := field16 p.buffer 2

def setSequenceNumber (seq : BitVec 16) : RtpPacket :=
  { p with buffer := store p.buffer 2 (bytes16 seq) }

def setMidExtensionId (id : ℕ) : RtpPacket :=
  { p with extensionIds := { p.extensionIds with mid := id } }

/-! ### `UpdateMid` -/

def clearValue (value len currentLen : ℕ) : RtpPacket :=
  if len < currentLen then
    { p with buffer := store p.buffer (value + len) (List.replicate (currentLen - len) 0) }
  else p

def setExtensionLength (id len : ℕ) : RtpPacket × Bool :=
  if len = 0 then (p, false)
  else if id = 0 then (p, false)
  else if p.hasOneByteExtensions then
    match p.mapOneByteExtensions.find id with
    | none => (p, false)
    | some extension =>
      let currentLen := (p.buffer extension &&& 0x0F).toNat + 1
      let p := p.clearValue (extension + 1) len currentLen
      ({ p with
          buffer := store p.buffer extension
            [(p.buffer extension &&& 0xF0) ||| (BitVec.ofNat 8 (len - 1) &&& 0x0F)] }, true)
  else if p.hasTwoBytesExtensions then
    match p.mapTwoBytesExtensions.find id with
    | none => (p, false)
    | some extension =>
      let currentLen := (p.buffer (extension + 1)).toNat
      let p := p.clearValue (extension + 2) len currentLen
      ({ p with buffer := store p.buffer (extension + 1) [BitVec.ofNat 8 len] }, true)
  else (p, false)

def updateMid (mid : List Byte) : RtpPacket × Bool :=
  match p.getExtension p.extensionIds.mid with
  | none => (p, false)
  | some (extenValue, _) =>
    if mid.length > midMaxLength then (p, false)
    else
      let p := { p with buffer := store p.buffer extenValue mid }
      ((p.setExtensionLength p.extensionIds.mid mid.length).1, true)

/-! ### The payload -/

def setPayloadLength (length : ℕ) : RtpPacket :=
  let length := (padTo4Bytes (BitVec.ofNat 16 length)).toNat
  let p := { p with
    size := p.size - p.payloadLength - p.payloadPadding + length
    payloadLength := length
    payloadPadding := 0 }
  p.setPayloadPaddingFlag false

def removePadding : RtpPacket :=
  if p.payloadPadding ≠ 0 then
    let p := p.setPayloadPaddingFlag false
    { p with size := p.size - p.payloadPadding, payloadPadding := 0 }
  else p

def rtxEncode (payloadType ssrc : ℕ) (seq : BitVec 16) : RtpPacket :=
  let p := p.setPayloadType payloadType
  let p := p.setSsrc ssrc
  let p := { p with buffer := move p.buffer (p.payload + 2) p.payload p.payloadLength }
  let p := { p with buffer := store p.buffer p.payload (bytes16 p.getSequenceNumber) }
  let p := p.setSequenceNumber seq
  let p := { p with payloadLength := p.payloadLength + 2, size := p.size + 2 }
  p.removePadding

def rtxDecode (payloadType ssrc : ℕ) : RtpPacket × Bool :=
  if p.payloadLength < 2 then (p, false)
  else
    let p := p.setPayloadType payloadType
    let p := p.setSequenceNumber (field16 p.buffer p.payload)
    let p := p.setSsrc ssrc
    let p := { p with buffer := move p.buffer p.payload (p.payload + 2) (p.payloadLength - 2) }
    let p := { p with payloadLength := p.payloadLength - 2, size := p.size - 2 }
    (p.removePadding, true)

def shiftPayload (payloadOffset shift : ℕ) (expand : Bool) : Except Fault RtpPacket :=
  if shift = 0 then .ok p
  else do
    msAssert (decide (payloadOffset < p.payloadLength)) "payload offset bigger than payload size"
    if expand then
      return { p with
        buffer := move p.buffer (p.payload + payloadOffset + shift) (p.payload + payloadOffset)
          (p.payloadLength + p.payloadPadding - payloadOffset)
        payloadLength := p.payloadLength + shift
        size := p.size + shift }
    else
      msAssert (decide (shift ≤ p.payloadLength - payloadOffset)) "shift too big"
      return { p with
        buffer := move p.buffer (p.payload + payloadOffset) (p.payload + payloadOffset + shift)
          (p.payloadLength + p.payloadPadding - payloadOffset - shift)
        payloadLength := p.payloadLength - shift
        size := p.size - shift }

/-! ### `Clone` -/

def cloneHeaders (buffer : ℕ → Byte) : (ℕ → Byte) × Option ℕ × ℕ :=
  let buffer := store buffer 0 (fetch p.buffer 0 headerSize)
  let numBytes := csrcListSize p.buffer
  let buffer := store buffer headerSize (fetch p.buffer headerSize numBytes)
  let ptr := headerSize + numBytes
  match p.headerExtension with
  | none => (buffer, none, ptr)
  | some headerExtension =>
    let numBytes := 4 + p.getHeaderExtensionLength
    (store buffer ptr (fetch p.buffer headerExtension numBytes), some ptr, ptr + numBytes)

def clonePadding (buffer : ℕ → Byte) (ptr : ℕ) : ℕ → Byte :=
  if p.payloadPadding ≠ 0 then
    store buffer (ptr + p.payloadPadding - 1) [BitVec.ofNat 8 p.payloadPadding]
  else buffer

def clone (buffer : ℕ → Byte) : Except Fault RtpPacket := do
  let (buffer, headerExtension, payload) := p.cloneHeaders buffer
  let buffer := store buffer payload (fetch p.buffer p.payload p.payloadLength)
  let buffer := p.clonePadding buffer (payload + p.payloadLength)
  msAssert (payload + p.payloadLength + p.payloadPadding == p.size) "ptr - buffer == this->size"
  let packet := parseExtensions {
    buffer, headerExtension, payload
    payloadLength := p.payloadLength
    payloadPadding := p.payloadPadding
    size := p.size
    mapOneByteExtensions := .empty
    mapTwoBytesExtensions := .empty
    extensionIds := {} }
  return { packet with extensionIds := p.extensionIds }

end Operations

/-! ## Sessions -/

inductive Rewrite where
  | setExtensions (type : ℕ) (extensions : List GenericExtension)
  | setMidExtensionId (id : ℕ)
  | updateMid (mid : List Byte)
  | shiftPayload (payloadOffset shift : ℕ) (expand : Bool)
  | setPayloadLength (length : ℕ)
  | rtxEncode (payloadType ssrc : ℕ) (seq : BitVec 16)
  | rtxDecode (payloadType ssrc : ℕ)
  | clone (buffer : ℕ → Byte)

structure Session where
  packet : RtpPacket
  created : ℕ → Option ℕ

namespace Session

def new (p : RtpPacket) : Session where
  packet := p
  created id := (p.getExtension id).map Prod.snd

def step (s : Session) : Rewrite → Except Fault Session
  | .setExtensions type extensions => new <$> s.packet.setExtensions type extensions
  | .setMidExtensionId id => .ok { s with packet := s.packet.setMidExtensionId id }
  | .updateMid mid => .ok { s with packet := (s.packet.updateMid mid).1 }
  | .shiftPayload payloadOffset shift expand => do
    let packet ← s.packet.shiftPayload payloadOffset shift expand
    return { s with packet }
  | .setPayloadLength length => .ok { s with packet := s.packet.setPayloadLength length }
  | .rtxEncode payloadType ssrc seq =>
    .ok { s with packet := s.packet.rtxEncode payloadType ssrc seq }
  | .rtxDecode payloadType ssrc => .ok { s with packet := (s.packet.rtxDecode payloadType ssrc).1 }
  | .clone buffer => do
    let packet ← s.packet.clone buffer
    return { s with packet }

end Session

/-! ## Agreement -/

structure Contents where
  header : List Byte
  csrcs : List Byte
  extensions : ℕ → Option (List Byte)
  payload : List Byte
  payloadPadding : ℕ

def contents (p : RtpPacket) : Contents where
  header := fetch p.buffer 0 headerSize
  csrcs := fetch p.buffer headerSize (csrcListSize p.buffer)
  extensions id := (p.getExtension id).map fun value => fetch p.buffer value.1 value.2
  payload := fetch p.buffer p.payload p.payloadLength
  payloadPadding := p.payloadPadding

/-- **The bytes and the packet agree**: the first `GetSize()` bytes are parsed to a packet that
reports the same. -/
def Agrees (p : RtpPacket) : Prop :=
  ∀ data, (∀ a < p.size, data a = p.buffer a) →
    ∃ p', parse data p.size = .ok (some p') ∧ p'.contents = p.contents

end RtpPacket
end MediasoupWorker.RTC
