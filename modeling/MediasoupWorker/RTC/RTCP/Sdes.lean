import MediasoupWorker.Library.ParseLoop
import MediasoupWorker.RTC.RTCP.Packet
import Mathlib.Algebra.BigOperators.Ring.List

/-!
# Source descriptions

`src/src/RTC/RTCP/Sdes.cpp`. `SdesChunk::Serialize` fills the last word of a chunk with zeros, and the
first of them ends the items. A chunk that fills its last word by itself has no such zero: the ssrc of the
next chunk is read as another item unless it begins with a zero byte or announces more bytes than there are.
-/

namespace MediasoupWorker.RTC.RTCP

open Library List

structure SdesItem where
  type : Byte
  value : List Byte
  length_lt : value.length < 256
  deriving DecidableEq, Repr

structure SdesChunk where
  ssrc : BitVec 32
  items : List SdesItem := []
  deriving DecidableEq, Repr

structure SdesPacket where
  chunks : List SdesChunk := []
  deriving DecidableEq, Repr

namespace SdesItem

def endType : Byte := 0

def cnameType : Byte := 1

def ofValue (type : Byte) (value : List Byte) : SdesItem where
  type := type
  value := value.take (value.length % 256)
  length_lt := by
    have hmod : value.length % 256 < 256 := Nat.mod_lt _ (by decide)
    rw [List.length_take]
    omega

def getSize (item : SdesItem) : ℕ := 2 + item.value.length

def serialize (item : SdesItem) : List Byte :=
  item.type :: BitVec.ofNat 8 item.value.length :: item.value

def parse : List Byte → Option SdesItem
  | type :: length :: rest =>
    if rest.length < length.toNat then none
    else if type = endType then none
    else
      some {
        type
        value := rest.take length.toNat
        length_lt := (List.length_take_le _ _).trans_lt length.isLt }
  | _ => none

theorem readsBack : ReadsBack parse getSize serialize fun item => item.type ≠ endType where
  length_write item := by
    rw [serialize, length_cons, length_cons, getSize]
    omega
  size_pos item := lt_of_lt_of_le two_pos (Nat.le_add_right _ _)
  parse_write := by
    rintro ⟨type, v, length_lt⟩ htype rest
    have hlen : (BitVec.ofNat 8 v.length).toNat = v.length := by
      rw [BitVec.toNat_ofNat, Nat.mod_eq_of_lt length_lt]
    have hfits : ¬ (v ++ rest).length < v.length := by
      rw [length_append]
      omega
    show parse (type :: BitVec.ofNat 8 v.length :: (v ++ rest)) = _
    simp only [parse, hlen, if_neg hfits, if_neg htype, take_left]

theorem parse_zero (rest : List Byte) : parse (0 :: rest) = none := by
  cases rest with
  | nil => rfl
  | cons len rest =>
    rw [parse]
    split_ifs with hlen htype
    · rfl
    · rfl
    · exact absurd rfl htype

theorem parse_cons_cons_eq_none {type len : Byte} {rest : List Byte} :
    parse (type :: len :: rest) = none ↔ type = endType ∨ rest.length < len.toNat := by
  rw [parse]
  split_ifs with hlen htype
  · exact ⟨fun _ => .inr hlen, fun _ => rfl⟩
  · exact ⟨fun _ => .inl htype, fun _ => rfl⟩
  · constructor
    · intro h
      cases h
    · rintro (h | h)
      · exact absurd h htype
      · exact absurd h hlen

end SdesItem

namespace SdesChunk

def contentSize (chunk : SdesChunk) : ℕ := 4 + (chunk.items.map SdesItem.getSize).sum

def getSize (chunk : SdesChunk) : ℕ := (chunk.contentSize + 3) / 4 * 4

def padding (chunk : SdesChunk) : ℕ := (4 - chunk.contentSize % 4) % 4

def serialize (chunk : SdesChunk) : List Byte :=
  set4Bytes chunk.ssrc ++ chunk.items.flatMap SdesItem.serialize ++ List.replicate chunk.padding 0

def parse (data : List Byte) : Option SdesChunk :=
  if data.length < 4 then none
  else
    some {
      ssrc := read4Bytes data 0
      items := parseWhile SdesItem.parse SdesItem.getSize (data.drop 4) }

theorem getSize_eq (c : SdesChunk) : c.getSize = c.contentSize + c.padding := by
  unfold getSize padding
  omega

theorem length_serialize (c : SdesChunk) : c.serialize.length = c.getSize := by
  rw [serialize, length_append, length_append, length_set4Bytes, length_replicate,
    length_flatMap_write SdesItem.readsBack.length_write, getSize_eq, contentSize]

theorem getSize_pos (c : SdesChunk) : 0 < c.getSize := by
  rw [getSize_eq, contentSize]
  omega

theorem parse_serialize {c : SdesChunk} (hits : ∀ item ∈ c.items, item.type ≠ SdesItem.endType)
    (rest : List Byte) : parse (c.serialize ++ rest) = some { c with
        items := c.items ++ parseWhile SdesItem.parse SdesItem.getSize (replicate c.padding 0 ++ rest) } := by
  have hassoc : c.serialize ++ rest = set4Bytes c.ssrc ++ (c.items.flatMap SdesItem.serialize ++
        (replicate c.padding 0 ++ rest)) := by
    simp only [serialize, append_assoc]
  have hlen : ¬ (c.serialize ++ rest).length < 4 := by
    rw [hassoc, length_append, length_set4Bytes]
    omega
  have hdrop : (c.serialize ++ rest).drop 4 =
      c.items.flatMap SdesItem.serialize ++ (replicate c.padding 0 ++ rest) := by
    rw [hassoc, drop_set4Bytes]
  rw [parse, if_neg hlen, hdrop, parseWhile_flatMap SdesItem.readsBack hits, hassoc, read4Bytes_set4Bytes]

end SdesChunk

namespace SdesPacket

def getCount (packet : SdesPacket) : ℕ := packet.chunks.length

def getSize (packet : SdesPacket) : ℕ :=
  Packet.commonHeaderSize + (packet.chunks.map SdesChunk.getSize).sum

def serialize (packet : SdesPacket) : List Byte :=
  Packet.serialize packet.getCount .sdes packet.getSize ++ packet.chunks.flatMap SdesChunk.serialize

def parse (data : List Byte) : SdesPacket where
  chunks :=
    parseLoop SdesChunk.parse SdesChunk.getSize (Packet.headerCount data)
      (data.drop Packet.commonHeaderSize)

theorem getSize_mod_four (p : SdesPacket) : p.getSize % 4 = 0 := by
  have hdvd : 4 ∣ (p.chunks.map SdesChunk.getSize).sum := by
    refine dvd_sum fun size hsize => ?_
    obtain ⟨c, -, rfl⟩ := mem_map.mp hsize
    exact Dvd.intro_left _ rfl
  rw [getSize, Packet.commonHeaderSize]
  omega

theorem length_serialize (p : SdesPacket) : p.serialize.length = p.getSize := by
  rw [serialize, length_append, Packet.length_serialize, length_flatMap_write SdesChunk.length_serialize]
  rfl

theorem parse_serialize {p : SdesPacket} (hn : p.chunks.length ≤ 31) :
    parse p.serialize = ⟨parseLoop SdesChunk.parse SdesChunk.getSize p.chunks.length
        (p.chunks.flatMap SdesChunk.serialize)⟩ := by
  have hhdr : Packet.headerCount p.serialize = p.chunks.length := by
    rw [serialize, Packet.headerCount_serialize]
    exact Nat.mod_eq_of_lt (Nat.lt_succ_of_le hn)
  have hbody : p.serialize.drop Packet.commonHeaderSize = p.chunks.flatMap SdesChunk.serialize := rfl
  rw [parse, hhdr, hbody]

end SdesPacket

/-! ## What ends the items of a chunk -/

def EndsItems : List SdesChunk → Prop
  | [] => True
  | chunk :: chunks =>
    chunk.ssrc.extractLsb' 24 8 = 0 ∨
      ((chunk :: chunks).map SdesChunk.getSize).sum < 2 + (chunk.ssrc.extractLsb' 16 8).toNat

instance (chunks : List SdesChunk) : Decidable (EndsItems chunks) :=
  match chunks with
  | [] => .isTrue trivial
  | chunk :: chunks =>
    inferInstanceAs (Decidable (chunk.ssrc.extractLsb' 24 8 = 0 ∨
      ((chunk :: chunks).map SdesChunk.getSize).sum < 2 + (chunk.ssrc.extractLsb' 16 8).toNat))

def Delimited : List SdesChunk → Prop :=
  EachBefore fun chunk chunks => chunk.contentSize % 4 ≠ 0 ∨ EndsItems chunks

instance (chunks : List SdesChunk) : Decidable (Delimited chunks) :=
  inferInstanceAs (Decidable (EachBefore _ chunks))

theorem serialize_cons (c : SdesChunk) (cs : List SdesChunk) : ∃ rest, (c :: cs).flatMap SdesChunk.serialize =
        c.ssrc.extractLsb' 24 8 :: c.ssrc.extractLsb' 16 8 :: rest ∧
      2 + rest.length = ((c :: cs).map SdesChunk.getSize).sum := by
  have hlen := length_flatMap_write SdesChunk.length_serialize (c :: cs)
  refine ⟨c.ssrc.extractLsb' 8 8 :: c.ssrc.extractLsb' 0 8 ::
    (c.items.flatMap SdesItem.serialize ++ replicate c.padding 0 ++ cs.flatMap SdesChunk.serialize), ?_, ?_⟩
  · rw [flatMap_cons, SdesChunk.serialize, set4Bytes]
    simp only [cons_append, nil_append]
  · rw [← hlen, flatMap_cons, SdesChunk.serialize, set4Bytes]
    simp only [cons_append, nil_append, length_cons]
    omega

theorem items_of_chunks_eq_nil_iff (chunks : List SdesChunk) :
    parseWhile SdesItem.parse SdesItem.getSize (chunks.flatMap SdesChunk.serialize) = [] ↔
      EndsItems chunks := by
  cases chunks with
  | nil => exact ⟨fun _ => trivial, fun _ => rfl⟩
  | cons c chunks =>
    obtain ⟨rest, hbs, hsize⟩ := serialize_cons c chunks
    have hends : EndsItems (c :: chunks) ↔
        SdesItem.parse ((c :: chunks).flatMap SdesChunk.serialize) = none := by
      rw [hbs, SdesItem.parse_cons_cons_eq_none, EndsItems, ← hsize, Nat.add_lt_add_iff_left]
      rfl
    rw [hends]
    constructor
    · intro hnil
      cases hparse : SdesItem.parse ((c :: chunks).flatMap SdesChunk.serialize) with
      | none => rfl
      | some item =>
        have hne : (c :: chunks).flatMap SdesChunk.serialize ≠ [] := by
          rw [hbs]
          exact cons_ne_nil _ _
        rw [parseWhile_of_some SdesItem.readsBack.size_pos hne hparse] at hnil
        cases hnil
    · exact parseWhile_of_none

theorem items_behind_eq_nil_iff (c : SdesChunk) (chunks : List SdesChunk) :
    parseWhile SdesItem.parse SdesItem.getSize
        (replicate c.padding 0 ++ chunks.flatMap SdesChunk.serialize) = [] ↔
      c.contentSize % 4 ≠ 0 ∨ EndsItems chunks := by
  by_cases hal : c.contentSize % 4 = 0
  · have hpad : c.padding = 0 := by
      rw [SdesChunk.padding, hal]
    rw [hpad, replicate_zero, nil_append, items_of_chunks_eq_nil_iff]
    exact ⟨.inr, fun h => h.resolve_left (not_not_intro hal)⟩
  · obtain ⟨n, hn⟩ : ∃ n, c.padding = n + 1 := by
      refine ⟨c.padding - 1, ?_⟩
      unfold SdesChunk.padding
      omega
    have hnone : SdesItem.parse
        (replicate c.padding 0 ++ chunks.flatMap SdesChunk.serialize) = none := by
      rw [hn, replicate_succ, cons_append]
      exact SdesItem.parse_zero _
    exact ⟨fun _ => .inl hal, fun _ => parseWhile_of_none hnone⟩

theorem SdesChunk.parse_serialize_iff {c : SdesChunk} (hits : ∀ item ∈ c.items, item.type ≠ SdesItem.endType)
    (chunks : List SdesChunk) : SdesChunk.parse (c.serialize ++ chunks.flatMap SdesChunk.serialize) = some c ↔
      c.contentSize % 4 ≠ 0 ∨ EndsItems chunks := by
  rw [SdesChunk.parse_serialize hits, ← items_behind_eq_nil_iff]
  constructor
  · intro h
    exact append_right_eq_self.mp (congrArg SdesChunk.items (Option.some.inj h))
  · intro hnil
    rw [hnil, append_nil]

theorem chunks_round_trip_iff {chunks : List SdesChunk}
    (hits : ∀ c ∈ chunks, ∀ item ∈ c.items, item.type ≠ SdesItem.endType) :
    parseLoop SdesChunk.parse SdesChunk.getSize chunks.length
        (chunks.flatMap SdesChunk.serialize) = chunks ↔ Delimited chunks := by
  rw [parseLoop_flatMap_iff SdesChunk.length_serialize SdesChunk.getSize_pos]
  exact eachBefore_congr fun c hc behind =>
    SdesChunk.parse_serialize_iff (hits c hc) behind

/-- **Source descriptions are read back exactly if every chunk ends its items.** -/
theorem sdes_round_trip_iff (packet : SdesPacket) (hcount : packet.chunks.length ≤ 31)
    (hitems : ∀ chunk ∈ packet.chunks, ∀ item ∈ chunk.items, item.type ≠ SdesItem.endType) :
    SdesPacket.parse packet.serialize = packet ↔ Delimited packet.chunks := by
  obtain ⟨chunks⟩ := packet
  rw [SdesPacket.parse_serialize hcount, SdesPacket.mk.injEq]
  exact chunks_round_trip_iff hitems

def twoBareChunks : SdesPacket := { chunks := [{ ssrc := 0 }, { ssrc := 0x01000000 }] }

theorem bare_chunks_not_read_back : SdesPacket.parse twoBareChunks.serialize ≠ twoBareChunks := by
  decide

def paddedChunks : SdesPacket where
  chunks := [{ ssrc := 5, items := [⟨SdesItem.cnameType, [97, 98, 99], by decide⟩] }, { ssrc := 0x01000000 }]

theorem sdes_round_trip_paddedChunks : SdesPacket.parse paddedChunks.serialize = paddedChunks :=
  (sdes_round_trip_iff paddedChunks (by decide) (by decide)).mpr (by decide)

end MediasoupWorker.RTC.RTCP
