import MediasoupWorker.Utils.Byte

/-!
# The common header of RTCP packets

`src/src/RTC/RTCP/Packet.cpp`, without `Packet::Parse`. The header has a count of five bits, and the
length of the packet in words minus one, in sixteen.
-/

namespace MediasoupWorker.RTC.RTCP

open BitVec

inductive PacketType where
  | sr | rr | sdes | bye | app | rtpfb | psfb | xr
  deriving DecidableEq, Repr

def PacketType.value : PacketType → Byte
  | .sr => 200
  | .rr => 201
  | .sdes => 202
  | .bye => 203
  | .app => 204
  | .rtpfb => 205
  | .psfb => 206
  | .xr => 207

def PacketType.ofByte (byte : Byte) : Option PacketType :=
  [PacketType.sr, .rr, .sdes, .bye, .app, .rtpfb, .psfb, .xr].find? fun type => type.value == byte

@[simp] theorem PacketType.ofByte_value (type : PacketType) : ofByte type.value = some type := by
  cases type <;> rfl

namespace Packet

def commonHeaderSize : ℕ := 4

def firstByte (count : ℕ) : Byte := 0x80#8 ||| BitVec.ofNat 8 (count % 32)

def serialize (count : ℕ) (type : PacketType) (size : ℕ) : List Byte :=
  firstByte count :: type.value :: set2Bytes (BitVec.ofNat 16 (size / 4 - 1))

def headerCount (data : List Byte) : ℕ := ((read1Byte data 0).setWidth 5).toNat

def headerType (data : List Byte) : Byte := read1Byte data 1

def headerLength (data : List Byte) : ℕ := (read2Bytes data 2).toNat

def isRtcp (data : List Byte) : Bool :=
  decide (data.length ≥ commonHeaderSize) &&
    (decide (127 < (read1Byte data 0).toNat) && decide ((read1Byte data 0).toNat < 192)) &&
    ((read1Byte data 0).extractLsb' 6 2 == 2#2) &&
    (decide (192 ≤ (headerType data).toNat) && decide ((headerType data).toNat ≤ 223))

/-! ## Reading a header that was written -/

section Serialize

variable (count : ℕ) (type : PacketType) (size : ℕ) (rest : List Byte)

@[simp] theorem length_serialize : (serialize count type size).length = 4 := rfl

theorem firstByte_setWidth : ((firstByte count).setWidth 5).toNat = count % 32 := by
  have hlt : count % 32 < 2 ^ 5 := Nat.mod_lt _ (by decide)
  have hmask : (0x80#8).setWidth 5 = 0#5 := rfl
  rw [firstByte, setWidth_or, hmask, zero_or, toNat_setWidth,
    toNat_ofNat, Nat.mod_mod_of_dvd _ (by decide : 2 ^ 5 ∣ 2 ^ 8), Nat.mod_eq_of_lt hlt]

theorem headerCount_serialize : headerCount (serialize count type size ++ rest) = count % 32 :=
  firstByte_setWidth count

theorem headerType_serialize : headerType (serialize count type size ++ rest) = type.value := rfl

theorem headerLength_serialize :
    headerLength (serialize count type size ++ rest) = (size / 4 - 1) % 2 ^ 16 := by
  have h : read2Bytes (serialize count type size ++ rest) 2 = BitVec.ofNat 16 (size / 4 - 1) :=
    read2Bytes_set2Bytes _ rest
  rw [headerLength, h, BitVec.toNat_ofNat]

theorem isRtcp_serialize : isRtcp (serialize count type size ++ rest) = true := by
  have hlt : count % 32 < 32 := Nat.mod_lt _ (by decide)
  have hfirst : ∀ n < 32, 127 < (firstByte n).toNat ∧ (firstByte n).toNat < 192 ∧
      (firstByte n).extractLsb' 6 2 = 2#2 := by decide
  have hmod : firstByte (count % 32) = firstByte count := by
    rw [firstByte, firstByte, Nat.mod_mod]
  obtain ⟨hlow, hhigh, hver⟩ := hfirst _ hlt
  rw [hmod] at hlow hhigh hver
  have hread : read1Byte (serialize count type size ++ rest) 0 = firstByte count := rfl
  have htype : 192 ≤ type.value.toNat ∧ type.value.toNat ≤ 223 := by
    cases type <;> decide
  rw [isRtcp, hread, headerType_serialize, hver]
  simp [hlow, hhigh, htype.1, htype.2, commonHeaderSize]

end Serialize

end Packet

end MediasoupWorker.RTC.RTCP
