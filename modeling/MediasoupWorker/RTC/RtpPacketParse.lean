import MediasoupWorker.Library.ElementScan
import MediasoupWorker.RTC.RtpPacketExtensions

/-!
# What `RtpPacket::Parse` accepts

`Parse` accepts a packet whose announced parts fit into it, and then the parts follow each other from the
first byte to the last one. The loops of `ParseExtensions` skip padding bytes in a loop of their own; both
are the scan of a region for elements.
-/

namespace MediasoupWorker.RTC

open Library List

namespace RtpPacket

/-! ## The elements of a header extension -/

def oneByteFormat : ElementFormat Byte where
  head := 1
  head_pos := Nat.one_pos
  isPadding b := decide (((b &&& 0xF0) >>> 4).toNat = 0)
  read
    | [b] =>
      if ((b &&& 0xF0) >>> 4).toNat = 15 then none
      else some (((b &&& 0xF0) >>> 4).toNat, (b &&& 0x0F).toNat + 1)
    | _ => none

def twoBytesFormat : ElementFormat Byte where
  head := 2
  head_pos := Nat.two_pos
  isPadding b := decide (b.toNat = 0)
  read
    | [b, len] => some (b.toNat, len.toNat)
    | _ => none

def index (elements : List (ℕ × ℕ)) (map : OrderedMap ℕ ℕ) : OrderedMap ℕ ℕ :=
  elements.foldl (fun map e => map.insert e.1 e.2) map

theorem mem_of_find_index {elements : List (ℕ × ℕ)} {map : OrderedMap ℕ ℕ} {id e : ℕ}
    (h : (index elements map).find id = some e) : (id, e) ∈ elements ∨ map.find id = some e := by
  induction elements generalizing map with
  | nil => exact .inr h
  | cons e' elements ih =>
    rcases ih h with hmem | hfind
    · exact .inl (mem_cons_of_mem _ hmem)
    · rw [OrderedMap.find_insert] at hfind
      split_ifs at hfind with hid
      · obtain rfl := Option.some.inj hfind
        rw [hid]
        exact .inl (mem_cons_self ..)
      · exact .inr hfind

theorem nibbles_and_high (b b' : Byte) : ((b &&& 0xF0) ||| (b' &&& 0x0F)) &&& 0xF0 = b &&& 0xF0 := by
  ext i hi
  interval_cases i <;> simp

theorem nibbles_and_low (b b' : Byte) : ((b &&& 0xF0) ||| (b' &&& 0x0F)) &&& 0x0F = b' &&& 0x0F := by
  ext i hi
  interval_cases i <;> simp

theorem toNat_ofNat_and_low {n : ℕ} (h : n < 16) : (BitVec.ofNat 8 n &&& 0x0F).toNat = n := by
  rw [BitVec.toNat_and, BitVec.toNat_ofNat, Nat.mod_eq_of_lt (by omega)]
  exact (Nat.and_two_pow_sub_one_eq_mod n 4).trans (Nat.mod_eq_of_lt h)

section Loops

variable {buf : ℕ → Byte} {extensionEnd ptr : ℕ}

theorem skipPadding_spec (buf : ℕ → Byte) :
    ∀ a, ptr ≤ a → a < skipPadding buf extensionEnd ptr → buf a = 0 := by
  unfold skipPadding
  generalize extensionEnd - ptr = n
  induction n generalizing ptr with
  | zero =>
    intro a ha hlt
    rw [skipZeros] at hlt
    omega
  | succ n ih =>
    intro a ha hlt
    unfold skipZeros at hlt
    split_ifs at hlt with hzero
    · rcases Nat.eq_or_lt_of_le ha with rfl | ha
      · exact hzero
      · exact ih a ha hlt
    · omega

theorem scan_skipPadding {F : ElementFormat Byte} (hzero : F.isPadding 0 = true) :
    F.scan buf extensionEnd (skipPadding buf extensionEnd ptr) = F.scan buf extensionEnd ptr := by
  refine (ElementFormat.scan_skip (le_skipPadding buf extensionEnd ptr) fun a ha hlt => ?_).symm
  rw [skipPadding_spec buf a ha hlt]
  exact hzero

theorem oneByteFormat_readAt (buf : ℕ → Byte) (ptr : ℕ) : oneByteFormat.readAt buf ptr =
      if ((buf ptr &&& 0xF0) >>> 4).toNat = 15 then none
      else some (((buf ptr &&& 0xF0) >>> 4).toNat, (buf ptr &&& 0x0F).toNat + 1) := rfl

theorem eq_of_oneByteFormat_readAt {id length : ℕ} (h : oneByteFormat.readAt buf ptr = some (id, length)) :
    id = ((buf ptr &&& 0xF0) >>> 4).toNat ∧ length = (buf ptr &&& 0x0F).toNat + 1 := by
  rw [oneByteFormat_readAt] at h
  split_ifs at h
  obtain ⟨rfl, rfl⟩ := Prod.mk.inj (Option.some.inj h)
  exact ⟨rfl, rfl⟩

theorem twoBytesFormat_readAt (buf : ℕ → Byte) (ptr : ℕ) :
    twoBytesFormat.readAt buf ptr = some ((buf ptr).toNat, (buf (ptr + 1)).toNat) := rfl

theorem eq_of_twoBytesFormat_readAt {id length : ℕ} (h : twoBytesFormat.readAt buf ptr = some (id, length)) :
    id = (buf ptr).toNat ∧ length = (buf (ptr + 1)).toNat := by
  rw [twoBytesFormat_readAt] at h
  obtain ⟨rfl, rfl⟩ := Prod.mk.inj (Option.some.inj h)
  exact ⟨rfl, rfl⟩

/-- **The loop over One-Byte elements** indexes the elements of the scan. -/
theorem parseOneByteExtensions_eq (map : OrderedMap ℕ ℕ) : parseOneByteExtensions buf extensionEnd ptr map =
      index (oneByteFormat.scan buf extensionEnd ptr) map := by
  fun_induction parseOneByteExtensions buf extensionEnd ptr map with
  | case1 ptr map hlt id hstop =>
    have hid : oneByteFormat.isPadding (buf ptr) = false :=
      decide_eq_false fun hid => absurd (hstop.symm.trans hid) (by decide)
    rw [ElementFormat.scan_of_end hid fun id' length hread => ?_]
    · rfl
    · rw [oneByteFormat_readAt, if_pos hstop] at hread
      cases hread
  | case2 ptr map hlt id len hstop hid hlong =>
    rw [ElementFormat.scan_of_end (decide_eq_false hid) fun id' length hread => ?_]
    · rfl
    · rw [oneByteFormat_readAt, if_neg hstop] at hread
      cases hread
      exact hlong
  | case3 ptr map hlt id len hstop hid hlong ih =>
    rw [ih, scan_skipPadding rfl, ElementFormat.scan_element (decide_eq_false hid)
      ((oneByteFormat_readAt buf ptr).trans (if_neg hstop)) (not_lt.mp hlong)]
    rfl
  | case4 ptr map hlt id hstop hid ih =>
    rw [ih, scan_skipPadding rfl]
    exact congrArg (index · map)
      (ElementFormat.scan_padding hlt (decide_eq_true (not_not.mp hid))).symm
  | case5 ptr map hlt =>
    rw [ElementFormat.scan_of_lt (Nat.lt_succ_of_le (not_lt.mp hlt))]
    rfl

/-- **The loop over Two-Bytes elements** indexes the elements of the scan. -/
theorem parseTwoBytesExtensions_eq (map : OrderedMap ℕ ℕ) : parseTwoBytesExtensions buf extensionEnd ptr map =
      index (twoBytesFormat.scan buf extensionEnd ptr) map := by
  fun_induction parseTwoBytesExtensions buf extensionEnd ptr map with
  | case1 ptr map hlt id len hid hlong =>
    rw [ElementFormat.scan_of_end (decide_eq_false hid) fun id' length hread => ?_]
    · rfl
    · rw [twoBytesFormat_readAt] at hread
      cases hread
      exact hlong
  | case2 ptr map hlt id len hid hlong ih =>
    rw [ih, scan_skipPadding rfl, ElementFormat.scan_element (decide_eq_false hid)
      (twoBytesFormat_readAt buf ptr) (not_lt.mp hlong)]
    rfl
  | case3 ptr map hlt id hid ih =>
    rw [ih, scan_skipPadding rfl]
    exact congrArg (index · map)
      (ElementFormat.scan_padding hlt (decide_eq_true (not_not.mp hid))).symm
  | case4 ptr map hlt =>
    rw [ElementFormat.scan_of_lt (Nat.lt_succ_of_le (not_lt.mp hlt))]
    rfl

end Loops

section Elements

variable (p : RtpPacket)

def extensionEnd : ℕ := p.extensionStart + p.extensionRegionSize

def oneByteElements : List (ℕ × ℕ) :=
  if p.hasOneByteExtensions then
    oneByteFormat.scan p.buffer p.extensionEnd (p.extensionStart + 4)
  else []

def twoBytesElements : List (ℕ × ℕ) :=
  if p.hasOneByteExtensions then []
  else if p.hasTwoBytesExtensions then
    twoBytesFormat.scan p.buffer p.extensionEnd (p.extensionStart + 4)
  else []

def format : Option (ElementFormat Byte) :=
  if p.hasOneByteExtensions then some oneByteFormat
  else if p.hasTwoBytesExtensions then some twoBytesFormat
  else none

def reindexed : RtpPacket :=
  { p with
    mapOneByteExtensions := index p.oneByteElements .empty
    mapTwoBytesExtensions := index p.twoBytesElements .empty }

theorem hasExtensions_of_none (h : p.headerExtension = none) :
    p.hasOneByteExtensions = false ∧ p.hasTwoBytesExtensions = false := by
  unfold hasOneByteExtensions hasTwoBytesExtensions getHeaderExtensionId
  rw [h]
  dsimp only
  decide

theorem parseExtensions_eq_ite : p.parseExtensions =
      if p.hasOneByteExtensions then
        { p with mapOneByteExtensions := index p.oneByteElements .empty }
      else if p.hasTwoBytesExtensions then
        { p with mapTwoBytesExtensions := index p.twoBytesElements .empty }
      else p := by
  unfold parseExtensions oneByteElements twoBytesElements
  split
  · rename_i hnone
    obtain ⟨hone, htwo⟩ := p.hasExtensions_of_none hnone
    rw [hone, htwo]
    rfl
  · rename_i a ha
    have hstart : p.extensionStart = a := by
      rw [extensionStart, ha, Option.getD_some]
    have hend : a + 4 + p.getHeaderExtensionLength = p.extensionEnd := by
      rw [extensionEnd, hstart, extensionRegionSize, ha, add_assoc]
    dsimp only
    rw [hend, hstart, parseOneByteExtensions_eq, parseTwoBytesExtensions_eq]
    split_ifs <;> rfl

/-- **What `ParseExtensions` does** for a new packet. -/
theorem parseExtensions_eq (hmap : p.mapOneByteExtensions = .empty)
    (hmap' : p.mapTwoBytesExtensions = .empty) : p.parseExtensions = p.reindexed := by
  rw [parseExtensions_eq_ite, reindexed]
  split_ifs with hone htwo
  · have hnil : p.twoBytesElements = [] := if_pos hone
    rw [hnil, ← hmap']
    rfl
  · have hnil : p.oneByteElements = [] := if_neg hone
    rw [hnil]
    exact congrArg (fun map => { p with
      mapOneByteExtensions := map, mapTwoBytesExtensions := index p.twoBytesElements .empty }) hmap
  · have hnil : p.oneByteElements = [] := if_neg hone
    have hnil' : p.twoBytesElements = [] := by rw [twoBytesElements, if_neg hone, if_neg htwo]
    rw [hnil, hnil']
    cases p
    cases hmap
    cases hmap'
    rfl

structure ExtensionsInside : Prop where
  oneByte : ∀ {id e}, p.mapOneByteExtensions.find id = some e →
    p.extensionStart + 4 ≤ e ∧ e + 1 + ((p.buffer e &&& 0x0F).toNat + 1) ≤ p.extensionEnd
  twoBytes : ∀ {id e}, p.mapTwoBytesExtensions.find id = some e →
    p.extensionStart + 4 ≤ e ∧ e + 2 + (p.buffer (e + 1)).toNat ≤ p.extensionEnd

theorem extensionsInside_reindexed : p.reindexed.ExtensionsInside where
  oneByte {id e} h := by
    have hmem : (id, e) ∈ p.oneByteElements := (mem_of_find_index h).resolve_right nofun
    unfold oneByteElements at hmem
    split_ifs at hmem
    · obtain ⟨hle, -, length, hread, hend⟩ := ElementFormat.mem_scan hmem
      rw [(eq_of_oneByteFormat_readAt hread).2] at hend
      exact ⟨hle, hend⟩
    · cases hmem
  twoBytes {id e} h := by
    have hmem : (id, e) ∈ p.twoBytesElements := (mem_of_find_index h).resolve_right nofun
    unfold twoBytesElements at hmem
    split_ifs at hmem
    · cases hmem
    · obtain ⟨hle, -, length, hread, hend⟩ := ElementFormat.mem_scan hmem
      rw [(eq_of_twoBytesFormat_readAt hread).2] at hend
      exact ⟨hle, hend⟩
    · cases hmem

end Elements

/-! ## The parts of a packet -/

section Parts

variable (data : ℕ → Byte) (len : ℕ)

def csrcListSize : ℕ := (data 0 &&& 0x0F).toNat * 4

def headerExtensionSize : ℕ :=
  if (data 0).bit 4 then 4 + (field16 data (headerSize + csrcListSize data + 2)).toNat * 4 else 0

def headersSize : ℕ := headerSize + csrcListSize data + headerExtensionSize data

/-- **What is accepted**: the announced CSRC list and header extension fit, and the padding is what
the last byte says. -/
structure Acceptable : Prop where
  isRtp : isRtp data len = true
  headers : headersSize data ≤ len
  padding : (data 0).bit 5 = true →
    1 ≤ (data (len - 1)).toNat ∧ (data (len - 1)).toNat ≤ len - headersSize data

def paddingSize : ℕ := if (data 0).bit 5 then (data (len - 1)).toNat else 0

def parsed : RtpPacket :=
  reindexed {
    buffer := data
    headerExtension := if (data 0).bit 4 then some (headerSize + csrcListSize data) else none
    payload := headersSize data
    payloadLength := len - headersSize data - paddingSize data len
    payloadPadding := paddingSize data len
    size := len
    mapOneByteExtensions := .empty
    mapTwoBytesExtensions := .empty
    extensionIds := {} }

variable {data len}

theorem parseHeaderExtension_eq (hcsrc : headerSize + csrcListSize data ≤ len) :
    parseHeaderExtension data len (headerSize + csrcListSize data) =
      if headersSize data ≤ len then
        some (if (data 0).bit 4 then some (headerSize + csrcListSize data) else none, headersSize data)
      else none := by
  unfold parseHeaderExtension headersSize headerExtensionSize
  by_cases hbit : (data 0).bit 4 = true
  · rw [if_pos hbit, if_pos hbit, if_pos hbit]
    dsimp only
    by_cases hfits : headerSize + csrcListSize data +
        (4 + (field16 data (headerSize + csrcListSize data + 2)).toNat * 4) ≤ len
    · rw [if_pos hfits, if_neg (by omega), if_neg (by omega), add_assoc]
    · rw [if_neg hfits]
      by_cases hhead : len < headerSize + csrcListSize data + 4
      · rw [if_pos hhead]
      · rw [if_neg hhead, if_pos (by omega)]
  · rw [if_neg hbit, if_neg hbit, if_neg hbit, add_zero, if_pos hcsrc]

theorem parsePadding_eq_some (h : (data 0).bit 5 = true →
    1 ≤ (data (len - 1)).toNat ∧ (data (len - 1)).toNat ≤ len - headersSize data) :
    parsePadding data len (len - headersSize data) = some (paddingSize data len) := by
  unfold parsePadding paddingSize
  by_cases hbit : (data 0).bit 5 = true
  · obtain ⟨hpos, hle⟩ := h hbit
    rw [if_pos hbit, if_pos hbit]
    dsimp only
    rw [if_neg (by omega), if_neg (by omega), if_neg (by omega)]
  · rw [if_neg hbit, if_neg hbit]

theorem parsePadding_eq_none (h : ¬ ((data 0).bit 5 = true →
    1 ≤ (data (len - 1)).toNat ∧ (data (len - 1)).toNat ≤ len - headersSize data)) :
    parsePadding data len (len - headersSize data) = none := by
  obtain ⟨hbit, hbad⟩ := Classical.not_imp.mp h
  unfold parsePadding
  rw [if_pos hbit]
  dsimp only
  split_ifs
  · rfl
  · rfl
  · rfl
  · omega

theorem paddingSize_le (h : Acceptable data len) : paddingSize data len ≤ len - headersSize data := by
  unfold paddingSize
  split_ifs with hbit
  · exact (h.padding hbit).2
  · exact Nat.zero_le _

theorem parse_of_isRtp (hrtp : isRtp data len = true) (hhdrs : headersSize data ≤ len) :
    parse data len = match parsePadding data len (len - headersSize data) with
      | none => .ok none
      | some payloadPadding => do
        msAssert (len == headersSize data + (len - headersSize data - payloadPadding) + payloadPadding)
          "packet's computed size does not match received size"
        return some <| parseExtensions {
          buffer := data
          headerExtension := if (data 0).bit 4 then some (headerSize + csrcListSize data) else none
          payload := headersSize data
          payloadLength := len - headersSize data - payloadPadding
          payloadPadding
          size := len
          mapOneByteExtensions := .empty
          mapTwoBytesExtensions := .empty
          extensionIds := {} } := by
  have hcsrc : headerSize + csrcListSize data ≤ len := (Nat.le_add_right _ _).trans hhdrs
  have hfind := parseHeaderExtension_eq hcsrc
  rw [if_pos hhdrs] at hfind
  have hsize : (data 0 &&& 0x0F).toNat * 4 = csrcListSize data := rfl
  unfold parse
  rw [hrtp, if_neg (by decide)]
  dsimp only
  rw [hsize, if_neg (not_lt.mpr hcsrc), hfind]
  dsimp only
  rw [decide_eq_true hhdrs]
  rfl

theorem parse_of_acceptable (h : Acceptable data len) : parse data len = .ok (some (parsed data len)) := by
  have hle := paddingSize_le h
  have hheaders := h.headers
  have hsize : len = headersSize data + (len - headersSize data - paddingSize data len) +
      paddingSize data len := by omega
  rw [parse_of_isRtp h.isRtp hheaders, parsePadding_eq_some h.padding]
  dsimp only
  rw [beq_iff_eq.mpr hsize, parseExtensions_eq _ rfl rfl]
  rfl

theorem parse_of_not_acceptable (h : ¬ Acceptable data len) : parse data len = .ok none := by
  by_cases hrtp : isRtp data len = true
  · by_cases hheaders : headersSize data ≤ len
    · have hpad := parsePadding_eq_none fun hpad => h ⟨hrtp, hheaders, hpad⟩
      rw [parse_of_isRtp hrtp hheaders, hpad]
    · have hsize : (data 0 &&& 0x0F).toNat * 4 = csrcListSize data := rfl
      unfold parse
      rw [hrtp, if_neg (by decide)]
      dsimp only
      rw [hsize]
      by_cases hcsrc : len < headerSize + csrcListSize data
      · rw [if_pos hcsrc]
      · rw [if_neg hcsrc, parseHeaderExtension_eq (not_lt.mp hcsrc), if_neg hheaders]
  · unfold parse
    rw [Bool.eq_false_iff.mpr hrtp]
    rfl

def regions (p : RtpPacket) : List (ℕ × ℕ) :=
  [(0, headerSize), (headerSize, csrcListSize p.buffer), (p.extensionStart, p.extensionRegionSize),
    (p.payload, p.payloadLength), (p.payload + p.payloadLength, p.payloadPadding)]

/-- **The parts tile the packet**: each starts where the one before it ends, and together they are as
long as the packet. -/
structure Tiled (p : RtpPacket) (len : ℕ) : Prop where
  consecutive : p.regions.IsChain fun region next => next.1 = region.1 + region.2
  disjoint : p.regions.Pairwise fun region next => region.1 + region.2 ≤ next.1
  sum : (p.regions.map Prod.snd).sum = len
  size : p.size = len

theorem extensionStart_parsed : (parsed data len).extensionStart = headerSize + csrcListSize data := by
  unfold extensionStart parsed reindexed headersSize headerExtensionSize
  dsimp only
  split_ifs
  · rfl
  · rfl

theorem extensionRegionSize_parsed : (parsed data len).extensionRegionSize = headerExtensionSize data := by
  unfold extensionRegionSize getHeaderExtensionLength parsed reindexed headerExtensionSize
  dsimp only
  split_ifs
  · rfl
  · rfl

theorem regions_parsed : (parsed data len).regions = [(0, headerSize), (headerSize, csrcListSize data),
        (headerSize + csrcListSize data, headerExtensionSize data),
        (headersSize data, len - headersSize data - paddingSize data len),
        (headersSize data + (len - headersSize data - paddingSize data len), paddingSize data len)] := by
  rw [regions, extensionStart_parsed, extensionRegionSize_parsed]
  rfl

theorem tiled_parsed (h : Acceptable data len) : (parsed data len).Tiled len := by
  have hhdrs := h.headers
  have hpad := paddingSize_le h
  have hparts : headersSize data = headerSize + csrcListSize data + headerExtensionSize data := rfl
  refine ⟨?_, ?_, ?_, rfl⟩
  · rw [regions_parsed]
    simp [hparts]
  · rw [regions_parsed]
    simp only [pairwise_cons, forall_mem_cons, not_mem_nil, false_implies, implies_true,
      List.Pairwise.nil, and_true]
    omega
  · rw [regions_parsed]
    simp only [map_cons, map_nil, sum_cons, sum_nil]
    omega

end Parts

end RtpPacket
end MediasoupWorker.RTC
