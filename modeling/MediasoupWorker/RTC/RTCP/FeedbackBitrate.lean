import MediasoupWorker.Library.ScaledNumber
import MediasoupWorker.RTC.RTCP.Packet

/-!
# Bitrates in feedback packets

`src/src/RTC/RTCP/FeedbackPsRemb.cpp` and `FeedbackRtpTmmb.cpp`. A REMB packet has a bitrate with a
mantissa of eighteen bits and a list of ssrcs; an item of a TMMBR or TMMBN packet has the exponent, a
mantissa of seventeen bits and the overhead in one word.
-/

namespace MediasoupWorker.RTC.RTCP

open Library BitVec List

structure FeedbackPsRembPacket where
  senderSsrc : BitVec 32
  mediaSsrc : BitVec 32
  ssrcs : List (BitVec 32) := []
  bitrate : BitVec 64 := 0
  deriving DecidableEq, Repr

namespace FeedbackPsRembPacket

def uniqueIdentifier : BitVec 32 := 0x52454D42

def getSize (packet : FeedbackPsRembPacket) : ℕ := 12 + 8 + 4 * packet.ssrcs.length

def serialize (packet : FeedbackPsRembPacket) : List Byte :=
  let (mantissa, exponent) := normalize 0x3FFFF packet.bitrate.toNat 0
  -- The message type AFB, 15, is the count of the header.
  Packet.serialize 15 .psfb packet.getSize ++
    (set4Bytes packet.senderSsrc ++ (set4Bytes packet.mediaSsrc ++ (set4Bytes uniqueIdentifier ++
      (BitVec.ofNat 8 packet.ssrcs.length :: BitVec.ofNat 8 (exponent <<< 2 ||| mantissa >>> 16) ::
        (set2Bytes (BitVec.ofNat 16 (mantissa &&& 0xFFFF)) ++ packet.ssrcs.flatMap set4Bytes)))))

def numSsrcs (data : List Byte) : ℕ := (read1Byte data 16).toNat

def exponent (data : List Byte) : ℕ := (read1Byte data 17).toNat >>> 2

def mantissa (data : List Byte) : ℕ :=
  ((read1Byte data 17).toNat &&& 0x03) <<< 16 ||| (read2Bytes data 18).toNat

def parse (data : List Byte) : Option FeedbackPsRembPacket :=
  if data.length < 12 + 8 then none
  else if data.length < (Packet.headerLength data + 1) * 4 then none
  else if (Packet.headerLength data + 1) * 4 ≠ 12 + 8 + numSsrcs data * 4 then none
  else if read4Bytes data 12 ≠ uniqueIdentifier then none
  else if losesBits 64 (mantissa data) (exponent data) then none
  else
    some {
      senderSsrc := read4Bytes data 4
      mediaSsrc := read4Bytes data 8
      ssrcs := (List.range (numSsrcs data)).map fun n => read4Bytes data (12 + 8 + 4 * n)
      bitrate := scaled 64 (mantissa data) (exponent data) }

structure Framed (data : List Byte) : Prop where
  room : 12 + 8 ≤ data.length
  announced : (Packet.headerLength data + 1) * 4 ≤ data.length
  exact : (Packet.headerLength data + 1) * 4 = 12 + 8 + numSsrcs data * 4
  identifier : read4Bytes data 12 = uniqueIdentifier

theorem parse_of_framed {data : List Byte} (h : Framed data) : parse data =
      if losesBits 64 (mantissa data) (exponent data) then none
      else
        some {
          senderSsrc := read4Bytes data 4
          mediaSsrc := read4Bytes data 8
          ssrcs := (range (numSsrcs data)).map fun n => read4Bytes data (12 + 8 + 4 * n)
          bitrate := scaled 64 (mantissa data) (exponent data) } := by
  rw [parse, if_neg (not_lt.mpr h.room), if_neg (not_lt.mpr h.announced),
    if_neg (not_not.mpr h.exact), if_neg (not_not.mpr h.identifier)]

theorem mantissa_eq (data : List Byte) :
    mantissa data = (read1Byte data 17).toNat % 4 * 2 ^ 16 + (read2Bytes data 18).toNat := by
  have hand : (read1Byte data 17).toNat &&& 0x03 = (read1Byte data 17).toNat % 4 :=
    Nat.and_two_pow_sub_one_eq_mod _ 2
  rw [mantissa, hand, ← Nat.shiftLeft_add_eq_or_of_lt (read2Bytes data 18).isLt, Nat.shiftLeft_eq]

theorem mantissa_lt (data : List Byte) : mantissa data < 2 ^ 18 := by
  have := (read2Bytes data 18).isLt
  rw [mantissa_eq]
  omega

theorem parse_eq_none_iff {data : List Byte} (h : Framed data) :
    parse data = none ↔ 2 ^ 64 ≤ mantissa data * 2 ^ exponent data := by
  have hm : mantissa data < 2 ^ 64 := (mantissa_lt data).trans (by decide)
  rw [parse_of_framed h, ← losesBits_iff hm]
  split <;> simp [*]

/-! ## Reading what was written -/

theorem read4Bytes_flatMap {ssrcs : List (BitVec 32)} {n : ℕ} (hn : n < ssrcs.length) :
    read4Bytes (ssrcs.flatMap set4Bytes) (4 * n) = ssrcs.get ⟨n, hn⟩ := by
  induction ssrcs generalizing n with
  | nil => exact absurd hn (Nat.not_lt_zero n)
  | cons ssrc ssrcs ih =>
    rw [flatMap_cons]
    cases n with
    | zero => exact read4Bytes_set4Bytes ssrc _
    | succ n =>
      rw [Nat.mul_succ, add_comm, ← length_set4Bytes ssrc, read4Bytes_append_right]
      exact ih (Nat.lt_of_succ_lt_succ hn)

variable {p : FeedbackPsRembPacket} {m e : ℕ}

theorem serialize_eq (h : normalize 0x3FFFF p.bitrate.toNat 0 = (m, e)) :
    p.serialize = Packet.serialize 15 .psfb p.getSize ++
      (set4Bytes p.senderSsrc ++ (set4Bytes p.mediaSsrc ++ (set4Bytes uniqueIdentifier ++
        (BitVec.ofNat 8 p.ssrcs.length :: BitVec.ofNat 8 (e <<< 2 ||| m >>> 16) ::
          (set2Bytes (BitVec.ofNat 16 (m &&& 0xFFFF)) ++ p.ssrcs.flatMap set4Bytes))))) := by
  rw [serialize, h]

theorem length_serialize (p : FeedbackPsRembPacket) : p.serialize.length = p.getSize := by
  rw [serialize_eq rfl]
  simp [getSize, mul_comm]
  omega

theorem numSsrcs_serialize (hssrcs : p.ssrcs.length ≤ 255) : numSsrcs p.serialize = p.ssrcs.length := by
  have hread : read1Byte p.serialize 16 = BitVec.ofNat 8 p.ssrcs.length := rfl
  rw [numSsrcs, hread, BitVec.toNat_ofNat, Nat.mod_eq_of_lt (by omega)]

theorem framed_serialize (hssrcs : p.ssrcs.length ≤ 255) : Framed p.serialize := by
  have hlen : (Packet.headerLength p.serialize + 1) * 4 = p.getSize := by
    rw [serialize_eq rfl, Packet.headerLength_serialize, getSize]
    omega
  refine ⟨?_, ?_, ?_, ?_⟩
  · rw [length_serialize, getSize]
    omega
  · rw [hlen, length_serialize]
  · rw [hlen, numSsrcs_serialize hssrcs, getSize, mul_comm]
  · rw [serialize_eq rfl]
    exact read4Bytes_set4Bytes uniqueIdentifier []

theorem ssrcs_serialize (p : FeedbackPsRembPacket) :
    (range p.ssrcs.length).map (fun n => read4Bytes p.serialize (12 + 8 + 4 * n)) = p.ssrcs := by
  have hdrop : p.serialize.drop (12 + 8) = p.ssrcs.flatMap set4Bytes := by
    rw [serialize_eq rfl]
    rfl
  have htake : (p.serialize.take (12 + 8)).length = 12 + 8 := by
    rw [length_take, length_serialize, getSize, min_eq_left (Nat.le_add_right ..)]
  refine ext_getElem (by simp) fun n _ hn => ?_
  have hread := read4Bytes_append_right (p.serialize.take (12 + 8)) (p.serialize.drop (12 + 8)) (4 * n)
  rw [htake, take_append_drop, hdrop, read4Bytes_flatMap hn] at hread
  rw [getElem_map, getElem_range, hread]
  rfl

section Fields

variable (h : normalize 0x3FFFF p.bitrate.toNat 0 = (m, e))

include h

theorem rateByte_serialize : (read1Byte p.serialize 17).toNat = e * 4 + m / 2 ^ 16 := by
  have hm := normalize_le h
  have he := normalize_exponent_le (n := 18) (by decide) p.bitrate.isLt h
  have hread : read1Byte p.serialize 17 = BitVec.ofNat 8 (e <<< 2 ||| m >>> 16) := by
    rw [serialize_eq h]
    rfl
  have hhigh : m / 2 ^ 16 < 2 ^ 2 := by omega
  rw [hread, BitVec.toNat_ofNat, Nat.shiftRight_eq_div_pow, ← Nat.shiftLeft_add_eq_or_of_lt hhigh,
    Nat.shiftLeft_eq]
  omega

theorem exponent_serialize : exponent p.serialize = e := by
  have hm := normalize_le h
  rw [exponent, rateByte_serialize h, Nat.shiftRight_eq_div_pow]
  omega

theorem mantissa_serialize : mantissa p.serialize = m := by
  have hm := normalize_le h
  have hread : read2Bytes p.serialize 18 = BitVec.ofNat 16 (m &&& 0xFFFF) := by
    rw [serialize_eq h]
    exact read2Bytes_set2Bytes _ []
  have hlow : m &&& 0xFFFF = m % 2 ^ 16 := Nat.and_two_pow_sub_one_eq_mod m 16
  rw [mantissa_eq, rateByte_serialize h, hread, BitVec.toNat_ofNat, hlow]
  omega

end Fields

/-- **What was written is parsed**, with the bitrate rounded down to the unit of its exponent. -/
theorem parse_serialize (hssrcs : p.ssrcs.length ≤ 255) :
    ∃ bitrate, parse p.serialize = some { p with bitrate } ∧
      RoundsDown 0x3FFFF (exponent p.serialize) p.bitrate bitrate := by
  rcases hrate : normalize 0x3FFFF p.bitrate.toNat 0 with ⟨m, e⟩
  obtain ⟨hkeeps, hrounds⟩ := scaled_normalize hrate
  have hsend : read4Bytes p.serialize 4 = p.senderSsrc :=
    read4Bytes_set4Bytes p.senderSsrc []
  have hmedia : read4Bytes p.serialize 8 = p.mediaSsrc :=
    read4Bytes_set4Bytes p.mediaSsrc []
  refine ⟨scaled 64 m e, ?_, ?_⟩
  · rw [parse_of_framed (framed_serialize hssrcs), mantissa_serialize hrate, exponent_serialize hrate,
      hkeeps, numSsrcs_serialize hssrcs, ssrcs_serialize, hsend, hmedia]
    rfl
  · rwa [exponent_serialize hrate]

end FeedbackPsRembPacket

structure FeedbackRtpTmmbItem where
  ssrc : BitVec 32 := 0
  bitrate : BitVec 64 := 0
  overhead : BitVec 16 := 0
  isCorrect : Bool := true
  deriving DecidableEq, Repr

namespace FeedbackRtpTmmbItem

def serialize (item : FeedbackRtpTmmbItem) : List Byte :=
  let (mantissa, exponent) := normalize 0x1ffff item.bitrate.toNat 0
  set4Bytes item.ssrc ++
    set4Bytes (BitVec.ofNat 32 (exponent <<< 26 ||| mantissa <<< 9 ||| item.overhead.toNat))

def exponent (data : List Byte) : ℕ := (read4Bytes data 4).toNat >>> 26

def mantissa (data : List Byte) : ℕ := (read4Bytes data 4).toNat >>> 9 &&& 0x1ffff

def parse (data : List Byte) : Option FeedbackRtpTmmbItem :=
  if 8 > data.length then none
  else
    some {
      ssrc := read4Bytes data 0
      bitrate := scaled 64 (mantissa data) (exponent data)
      overhead := BitVec.ofNat 16 ((read4Bytes data 4).toNat &&& 0x1ff)
      isCorrect := !losesBits 64 (mantissa data) (exponent data) }

theorem mantissa_eq (data : List Byte) : mantissa data = (read4Bytes data 4).toNat / 2 ^ 9 % 2 ^ 17 := by
  rw [mantissa, Nat.shiftRight_eq_div_pow]
  exact Nat.and_two_pow_sub_one_eq_mod _ 17

theorem exists_parse {data : List Byte} (h : 8 ≤ data.length) : ∃ item, parse data = some item ∧
      (item.isCorrect = false ↔ 2 ^ 64 ≤ mantissa data * 2 ^ exponent data) := by
  have hm : mantissa data < 2 ^ 64 := by
    rw [mantissa_eq]
    omega
  refine ⟨_, if_neg (not_lt.mpr h), ?_⟩
  rw [← losesBits_iff hm, Bool.not_eq_false']

variable {item : FeedbackRtpTmmbItem} {m e : ℕ}

theorem compact_serialize (hover : item.overhead.toNat < 512)
    (h : normalize 0x1ffff item.bitrate.toNat 0 = (m, e)) :
    (read4Bytes item.serialize 4).toNat = e * 2 ^ 26 + m * 2 ^ 9 + item.overhead.toNat := by
  have hm := normalize_le h
  have he := normalize_exponent_le (n := 17) (by decide) item.bitrate.isLt h
  have hread : read4Bytes item.serialize 4 =
      BitVec.ofNat 32 (e <<< 26 ||| m <<< 9 ||| item.overhead.toNat) := by
    rw [serialize, h]
    exact read4Bytes_set4Bytes _ []
  have hlow : m <<< 9 ||| item.overhead.toNat = m * 2 ^ 9 + item.overhead.toNat := by
    rw [← Nat.shiftLeft_add_eq_or_of_lt hover, Nat.shiftLeft_eq]
  have hlt : m * 2 ^ 9 + item.overhead.toNat < 2 ^ 26 := by omega
  rw [hread, BitVec.toNat_ofNat, Nat.or_assoc, hlow, ← Nat.shiftLeft_add_eq_or_of_lt hlt, Nat.shiftLeft_eq]
  omega

/-- **An item that was written is parsed**, with the bitrate rounded down. -/
theorem parse_serialize (hover : item.overhead.toNat < 512) :
    ∃ bitrate, parse item.serialize = some { item with bitrate, isCorrect := true } ∧
      RoundsDown 0x1ffff (exponent item.serialize) item.bitrate bitrate := by
  rcases hrate : normalize 0x1ffff item.bitrate.toNat 0 with ⟨m, e⟩
  obtain ⟨hkeeps, hrounds⟩ := scaled_normalize hrate
  have hm := normalize_le hrate
  have hcompact := compact_serialize hover hrate
  have hexponent : exponent item.serialize = e := by
    rw [exponent, hcompact, Nat.shiftRight_eq_div_pow]
    omega
  have hmantissa : mantissa item.serialize = m := by
    rw [mantissa_eq, hcompact]
    omega
  have hread : (read4Bytes item.serialize 4).toNat &&& 0x1ff = item.overhead.toNat := by
    rw [hcompact]
    refine (Nat.and_two_pow_sub_one_eq_mod _ 9).trans ?_
    omega
  have hssrc : read4Bytes item.serialize 0 = item.ssrc := by
    rw [serialize]
    exact read4Bytes_set4Bytes item.ssrc _
  refine ⟨scaled 64 m e, ?_, ?_⟩
  · rw [parse, if_neg (by rw [serialize]; exact lt_irrefl 8), hexponent, hmantissa, hread, hssrc,
      hkeeps, ofNat_toNat, setWidth_eq, Bool.not_false]
  · rwa [hexponent]

end FeedbackRtpTmmbItem

/-- **A bitrate is rounded down by less than the unit of its exponent**, and a packet or an item is refused
for its bitrate if the product of mantissa and exponent does not fit into sixty-four bits. -/
theorem bitrates_round_down :
    (∀ packet : FeedbackPsRembPacket, packet.ssrcs.length ≤ 255 →
      ∃ bitrate, FeedbackPsRembPacket.parse packet.serialize = some { packet with bitrate } ∧
        RoundsDown 0x3FFFF (FeedbackPsRembPacket.exponent packet.serialize) packet.bitrate bitrate) ∧
    (∀ data, FeedbackPsRembPacket.Framed data → (FeedbackPsRembPacket.parse data = none ↔
        2 ^ 64 ≤ FeedbackPsRembPacket.mantissa data * 2 ^ FeedbackPsRembPacket.exponent data)) ∧
    (∀ item : FeedbackRtpTmmbItem, item.overhead.toNat < 512 →
      ∃ bitrate, FeedbackRtpTmmbItem.parse item.serialize = some { item with bitrate, isCorrect := true } ∧
        RoundsDown 0x1ffff (FeedbackRtpTmmbItem.exponent item.serialize) item.bitrate bitrate) ∧
    ∀ data : List Byte, 8 ≤ data.length → ∃ item, FeedbackRtpTmmbItem.parse data = some item ∧
        (item.isCorrect = false ↔
          2 ^ 64 ≤ FeedbackRtpTmmbItem.mantissa data * 2 ^ FeedbackRtpTmmbItem.exponent data) :=
  ⟨fun _ => FeedbackPsRembPacket.parse_serialize, fun _ => FeedbackPsRembPacket.parse_eq_none_iff,
    fun _ => FeedbackRtpTmmbItem.parse_serialize, fun _ => FeedbackRtpTmmbItem.exists_parse⟩

def megabit : FeedbackPsRembPacket := ⟨1, 2, [3, 4], 1000003⟩

theorem bitrates_round_down_megabit :
    ∃ bitrate, FeedbackPsRembPacket.parse megabit.serialize = some { megabit with bitrate } ∧
      RoundsDown 0x3FFFF (FeedbackPsRembPacket.exponent megabit.serialize) megabit.bitrate bitrate :=
  bitrates_round_down.1 megabit (by decide)

end MediasoupWorker.RTC.RTCP
