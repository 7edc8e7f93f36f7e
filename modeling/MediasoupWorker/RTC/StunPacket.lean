import MediasoupWorker.Library.Memory
import MediasoupWorker.Library.ParseLoop
import MediasoupWorker.Utils.Byte

/-!
# STUN packets

`src/src/RTC/StunPacket.cpp`, `src/include/RTC/StunPacket.hpp`. The bytes that a packet was parsed from, or
serialized to, are its `data`, and the pointer to the value of MESSAGE-INTEGRITY is its place there.
The loop of `Parse` is modelled with a number of turns, and `none` says that they were not enough.
-/

namespace MediasoupWorker

open Library

abbrev Bytes (n : ℕ) := { bytes : List Byte // bytes.length = n }

def bytesAt (n : ℕ) (data : List Byte) (i : ℕ) : Bytes n :=
  ⟨(List.range n).map fun k => read1Byte data (i + k), by simp⟩

structure Crypto where
  getHmacSha1 : (key data : List Byte) → Bytes 20
  getCRC32 : List Byte → BitVec 32

namespace RTC

inductive SockAddr where
  | inet (port : BitVec 16) (addr : BitVec 32)
  | inet6 (port : BitVec 16) (addr : Bytes 16)
  | other
  deriving DecidableEq

namespace StunPacket

inductive Class where
  | request
  | indication
  | successResponse
  | errorResponse
  deriving DecidableEq, Repr

def Class.value : Class → BitVec 16
  | .request => 0
  | .indication => 1
  | .successResponse => 2
  | .errorResponse => 3

def Class.ofBits (bits : BitVec 16) : Class :=
  if bits = 0 then .request
  else if bits = 1 then .indication
  else if bits = 2 then .successResponse
  else .errorResponse

def binding : BitVec 16 := 1

inductive Attribute where
  | mappedAddress | username | messageIntegrity | errorCode | unknownAttributes | realm | nonce
  | xorMappedAddress | priority | useCandidate | software | alternateServer | fingerprint
  | iceControlled | iceControlling
  deriving DecidableEq, Repr

def Attribute.value : Attribute → BitVec 16
  | .mappedAddress => 0x0001
  | .username => 0x0006
  | .messageIntegrity => 0x0008
  | .errorCode => 0x0009
  | .unknownAttributes => 0x000A
  | .realm => 0x0014
  | .nonce => 0x0015
  | .xorMappedAddress => 0x0020
  | .priority => 0x0024
  | .useCandidate => 0x0025
  | .software => 0x8022
  | .alternateServer => 0x8023
  | .fingerprint => 0x8028
  | .iceControlled => 0x8029
  | .iceControlling => 0x802A

def Attribute.ofBits (bits : BitVec 16) : Option Attribute :=
  [Attribute.mappedAddress, .username, .messageIntegrity, .errorCode, .unknownAttributes, .realm,
    .nonce, .xorMappedAddress, .priority, .useCandidate, .software, .alternateServer, .fingerprint,
    .iceControlled, .iceControlling].find? fun a => a.value == bits

@[simp] theorem Attribute.ofBits_value (a : Attribute) : ofBits a.value = some a := by
  cases a <;> rfl

inductive Authentication where
  | ok
  | unauthorized
  | badRequest
  deriving DecidableEq, Repr

def magicCookie : BitVec 32 := 0x2112A442

def isStun (data : List Byte) : Except Fault Bool :=
  if data.length < 20 then .ok false
  else do
    let first ← get1Byte data 0
    if ¬ first < 3 then return false
    else
      let cookie ← get4Bytes data 4
      return cookie == magicCookie

end StunPacket

open StunPacket

structure StunPacket where
  klass : StunPacket.Class
  method : BitVec 16
  transactionId : Bytes 12
  data : List Byte := []
  size : ℕ := 0
  username : List Byte := []
  priority : BitVec 32 := 0
  iceControlling : BitVec 64 := 0
  iceControlled : BitVec 64 := 0
  hasUseCandidate : Bool := false
  messageIntegrity : Option ℕ := none
  hasFingerprint : Bool := false
  xorMappedAddress : Option SockAddr := none
  errorCode : BitVec 16 := 0
  password : List Byte := []
  deriving DecidableEq

namespace StunPacket

/-! ## `Parse` -/

structure Scan where
  packet : StunPacket
  pos : ℕ := 20
  hasMessageIntegrity : Bool := false
  fingerprint : Option (ℕ × BitVec 32) := none
  deriving DecidableEq

def parseValue (data : List Byte) (attrType : Option Attribute) (attrLength : ℕ) (s : Scan) :
    Except Fault (Option Scan) :=
  let attrValuePos := s.pos + 4
  match attrType with
  | some .username => do
    let username ← getBytes data attrValuePos attrLength
    return some { s with packet := { s.packet with username } }
  | some .priority =>
    if attrLength ≠ 4 then .ok none
    else do
      let priority ← get4Bytes data attrValuePos
      return some { s with packet := { s.packet with priority } }
  | some .iceControlling =>
    if attrLength ≠ 8 then .ok none
    else do
      let iceControlling ← get8Bytes data attrValuePos
      return some { s with packet := { s.packet with iceControlling } }
  | some .iceControlled =>
    if attrLength ≠ 8 then .ok none
    else do
      let iceControlled ← get8Bytes data attrValuePos
      return some { s with packet := { s.packet with iceControlled } }
  | some .useCandidate =>
    if attrLength ≠ 0 then .ok none
    else .ok (some { s with packet := { s.packet with hasUseCandidate := true } })
  | some .messageIntegrity =>
    if attrLength ≠ 20 then .ok none
    else .ok (some { s with
      hasMessageIntegrity := true
      packet := { s.packet with messageIntegrity := some attrValuePos } })
  | some .fingerprint =>
    if attrLength ≠ 4 then .ok none
    else do
      let fingerprint ← get4Bytes data attrValuePos
      return some { s with
        fingerprint := some (s.pos, fingerprint)
        packet := { s.packet with hasFingerprint := true } }
  | some .errorCode =>
    if attrLength < 4 then .ok none
    else do
      let errorClass ← get1Byte data (attrValuePos + 2)
      let errorNumber ← get1Byte data (attrValuePos + 3)
      let errorCode := errorClass.setWidth 16 * 100 + errorNumber.setWidth 16
      return some { s with packet := { s.packet with errorCode } }
  | _ => .ok (some s)

def parseAttribute (data : List Byte) (s : Scan) : Except Fault (Option Scan) := do
  let attrType := Attribute.ofBits (← get2Bytes data s.pos)
  let attrLength := (← get2Bytes data (s.pos + 2)).toNat
  if s.pos + 4 + attrLength > data.length then return none
  else if s.fingerprint.isSome then return none
  else if s.hasMessageIntegrity ∧ attrType ≠ some .fingerprint then return none
  else
    match ← parseValue data attrType attrLength s with
    | none => return none
    | some s' =>
      return some { s' with pos := (padTo4Bytes (BitVec.ofNat 16 (s.pos + 4 + attrLength))).toNat }

def parseAttributes (data : List Byte) : (turns : ℕ) → Scan → Option (Except Fault (Option Scan))
  | 0, s => if s.pos + 4 ≤ data.length then none else some (.ok (some s))
  | turns + 1, s =>
    if s.pos + 4 ≤ data.length then
      match parseAttribute data s with
      | .error fault => some (.error fault)
      | .ok none => some (.ok none)
      | .ok (some s) => parseAttributes data turns s
    else some (.ok (some s))

def headerClass (first second : Byte) : Class :=
  Class.ofBits
    ((((first &&& 0x01#8).setWidth 16) <<< 1) ||| (((second &&& 0x10#8).setWidth 16) >>> 4))

def headerMethod (msgType : BitVec 16) : BitVec 16 :=
  (msgType &&& 0x000F#16) ||| ((msgType &&& 0x00E0#16) >>> 1) ||| ((msgType &&& 0x3E00#16) >>> 2)

def parseHeader (data : List Byte) : Except Fault (Option StunPacket) := do
  if !(← isStun data) then return none
  else
    let msgType ← get2Bytes data 0
    let msgLength ← get2Bytes data 2
    if msgLength.toNat ≠ data.length - 20 ∨ msgLength &&& 0x03 ≠ 0 then return none
    else
      let klass := headerClass (← get1Byte data 0) (← get1Byte data 1)
      return some { klass, method := headerMethod msgType, transactionId := bytesAt 12 data 8, data,
                    size := data.length }

section Parse

variable (crypto : Crypto)

def computedFingerprint (bytes : List Byte) : BitVec 32 := crypto.getCRC32 bytes ^^^ 0x5354554E

def checkFingerprint (data : List Byte) (s : Scan) : Except Fault (Option StunPacket) :=
  if s.pos ≠ data.length then .ok none
  else
    match s.fingerprint with
    | none => .ok (some s.packet)
    | some (fingerprintAttrPos, fingerprint) => do
      let bytes ← getBytes data 0 fingerprintAttrPos
      if fingerprint ≠ computedFingerprint crypto bytes then return none
      else return some s.packet

def parse (turns : ℕ) (data : List Byte) : Option (Except Fault (Option StunPacket)) :=
  match parseHeader data with
  | .error fault => some (.error fault)
  | .ok none => some (.ok none)
  | .ok (some packet) =>
    match parseAttributes data turns { packet } with
    | none => none
    | some (.error fault) => some (.error fault)
    | some (.ok none) => some (.ok none)
    | some (.ok (some s)) => some (checkFingerprint crypto data s)

/-! ## `CheckAuthentication` -/

def setLength (length : BitVec 16) (data : List Byte) : List Byte :=
  data.take 2 ++ set2Bytes length ++ data.drop 4

def checkAuthentication (localUsername localPassword : List Byte) (p : StunPacket) :
    Authentication × StunPacket :=
  if p.klass = .successResponse ∨ p.klass = .errorResponse then (.badRequest, p)
  else
    match p.messageIntegrity with
    | none => (.badRequest, p)
    | some messageIntegrity =>
      if p.username.isEmpty then (.badRequest, p)
      else if p.username.length ≤ localUsername.length ∨ p.username[localUsername.length]? ≠ some 0x3A ∨
          p.username.take localUsername.length ≠ localUsername then (.unauthorized, p)
      else
        let data :=
          if p.hasFingerprint then setLength (BitVec.ofNat 16 (p.size - 20 - 8)) p.data else p.data
        let computed := crypto.getHmacSha1 localPassword (data.take (messageIntegrity - 4))
        let result :=
          if (data.drop messageIntegrity).take 20 = computed.1 then Authentication.ok else .unauthorized
        let data := if p.hasFingerprint then setLength (BitVec.ofNat 16 (p.size - 20)) data else data
        (result, { p with data })

end Parse

/-! ## Responses -/

def createSuccessResponse (p : StunPacket) : Except Fault StunPacket := do
  msAssert (p.klass == .request) "attempt to create a success response for a non Request STUN packet"
  return { klass := .successResponse, method := p.method, transactionId := p.transactionId }

def createErrorResponse (errorCode : BitVec 16) (p : StunPacket) : Except Fault StunPacket := do
  msAssert (p.klass == .request) "attempt to create an error response for a non Request STUN packet"
  return { klass := .errorResponse, method := p.method, transactionId := p.transactionId, errorCode }

def authenticate (password : List Byte) (p : StunPacket) : StunPacket :=
  if p.klass = .errorResponse then p else { p with password }

/-! ## `Serialize` -/

structure Writer where
  buffer : ℕ → Byte
  pos : ℕ

def Writer.putAttribute (a : Attribute) (length : BitVec 16) (value : List Byte) (paddedLen : ℕ)
    (w : Writer) : Writer where
  buffer := store (store (store w.buffer w.pos (set2Bytes a.value)) (w.pos + 2) (set2Bytes length))
    (w.pos + 4) value
  pos := w.pos + (4 + paddedLen)

def Writer.putIf (condition : Bool) (a : Attribute) (value : List Byte) (w : Writer) : Writer :=
  if condition then w.putAttribute a (BitVec.ofNat 16 value.length) value value.length else w

def usernamePaddedLen (p : StunPacket) : ℕ :=
  if p.username.isEmpty then 0 else (padTo4Bytes (BitVec.ofNat 16 p.username.length)).toNat

def xorMappedValue (p : StunPacket) : Option (List Byte) :=
  if p.method = binding ∧ p.klass = .successResponse then
    match p.xorMappedAddress with
    | some (.inet port addr) =>
      some ([0, 0x01] ++ set2Bytes (port ^^^ magicCookie.extractLsb' 16 16) ++
        set4Bytes (addr ^^^ magicCookie))
    | some (.inet6 port addr) =>
      some ([0, 0x02] ++ set2Bytes (port ^^^ magicCookie.extractLsb' 16 16) ++
        List.zipWith (· ^^^ ·) addr.1 (set4Bytes magicCookie ++ p.transactionId.1))
    | _ => none
  else none

def errorCodeValue (p : StunPacket) : List Byte :=
  let codeClass : Byte := (p.errorCode / 100).setWidth 8
  set2Bytes 0 ++ [codeClass, p.errorCode.setWidth 8 - codeClass * 100]

@[simp] theorem length_errorCodeValue (p : StunPacket) : p.errorCodeValue.length = 4 := rfl

def addErrorCode (p : StunPacket) : Bool := p.errorCode != 0 && p.klass == .errorResponse

def addMessageIntegrity (p : StunPacket) : Bool := p.klass != .errorResponse && !p.password.isEmpty

def requiredSize (p : StunPacket) : ℕ :=
  20 + (if p.username.isEmpty then 0 else 4 + p.usernamePaddedLen) +
    (if p.priority != 0 then 4 + 4 else 0) + (if p.iceControlling != 0 then 4 + 8 else 0) +
    (if p.iceControlled != 0 then 4 + 8 else 0) + (if p.hasUseCandidate then 4 else 0) +
    (p.xorMappedValue.elim 0 fun value => 4 + value.length) +
    (if p.addErrorCode then 4 + 4 else 0) + (if p.addMessageIntegrity then 4 + 20 else 0) + (4 + 4)

def typeField (p : StunPacket) : BitVec 16 :=
  (p.method &&& 0x0F80#16) <<< 2 ||| (p.method &&& 0x0070#16) <<< 1 ||| (p.method &&& 0x000F#16) |||
    (p.klass.value &&& 0x02#16) <<< 7 ||| (p.klass.value &&& 0x01#16) <<< 4

def header (p : StunPacket) (length : BitVec 16) : List Byte :=
  set2Bytes p.typeField ++ set2Bytes length ++ set4Bytes magicCookie ++ p.transactionId.1

def putAttributes (p : StunPacket) (w : Writer) : Writer :=
  let w :=
    if p.usernamePaddedLen ≠ 0 then
      w.putAttribute .username (BitVec.ofNat 16 p.username.length) p.username p.usernamePaddedLen
    else w
  let w := w.putIf (p.priority != 0) .priority (set4Bytes p.priority)
  let w := w.putIf (p.iceControlling != 0) .iceControlling (set8Bytes p.iceControlling)
  let w := w.putIf (p.iceControlled != 0) .iceControlled (set8Bytes p.iceControlled)
  let w := w.putIf p.hasUseCandidate .useCandidate []
  let w := w.putIf p.xorMappedValue.isSome .xorMappedAddress (p.xorMappedValue.getD [])
  w.putIf p.addErrorCode .errorCode p.errorCodeValue

section Serialize

variable (crypto : Crypto)

def putMessageIntegrity (p : StunPacket) (size : ℕ) (w : Writer) : Writer :=
  let buffer := store w.buffer 2 (set2Bytes (BitVec.ofNat 16 (size - 20 - 8)))
  let computed := crypto.getHmacSha1 p.password (fetch buffer 0 w.pos)
  let w := Writer.putAttribute .messageIntegrity 20 computed.1 20 { w with buffer }
  { w with buffer := store w.buffer 2 (set2Bytes (BitVec.ofNat 16 (size - 20))) }

def putFingerprint (w : Writer) : Writer :=
  w.putAttribute .fingerprint 4 (set4Bytes (computedFingerprint crypto (fetch w.buffer 0 w.pos))) 4

def serialize (buffer : ℕ → Byte) (p : StunPacket) : Except Fault (StunPacket × (ℕ → Byte)) := do
  let size := p.requiredSize
  let w : Writer := ⟨store buffer 0 (p.header (BitVec.ofNat 16 size - 20)), 20⟩
  let w := p.putAttributes w
  let integrityPos := w.pos + 4
  let w := if p.addMessageIntegrity then p.putMessageIntegrity crypto size w else w
  let w := putFingerprint crypto w
  msAssert (w.pos == size) "pos != this->size"
  return ({ p with
    data := fetch w.buffer 0 size
    size
    messageIntegrity := if p.addMessageIntegrity then some integrityPos else none
    hasFingerprint := true }, w.buffer)

end Serialize

end StunPacket

end RTC
end MediasoupWorker
