import MediasoupWorker.RTC.StunPacket

/-!
# Which bytes are a STUN packet

`Parse` computes the next position in 16 bits and with a padding that it does not compare with the length of
the packet. Both do no harm: the length of an accepted header is a multiple of four that is at most 65532.
A turn of the loop is `Scan.meet` on the first of the attributes that are left (`parseAttribute_eq`).
-/

namespace MediasoupWorker.RTC.StunPacket

open Library Option List

/-! ## Attributes with their padding -/

structure Tlv where
  type : BitVec 16
  value : List Byte
  padding : List Byte
  length_value_lt : value.length < 2 ^ 16
  length_padded : value.length + padding.length = (value.length + 3) / 4 * 4

namespace Tlv

def attr (a : Tlv) : Option Attribute := Attribute.ofBits a.type

def head (a : Tlv) : List Byte := set2Bytes a.type ++ set2Bytes (BitVec.ofNat 16 a.value.length)

def bytes (a : Tlv) : List Byte := a.head ++ (a.value ++ a.padding)

def size (a : Tlv) : ℕ := 4 + (a.value.length + 3) / 4 * 4

@[simp] theorem length_head (a : Tlv) : a.head.length = 4 := rfl

@[simp] theorem length_bytes (a : Tlv) : a.bytes.length = a.size := by
  rw [bytes, length_append, length_head, length_append, a.length_padded, size]

def allowsSize : Option Attribute → ℕ → Bool
  | some .priority, length => length == 4
  | some .iceControlling, length => length == 8
  | some .iceControlled, length => length == 8
  | some .useCandidate, length => length == 0
  | some .messageIntegrity, length => length == 20
  | some .fingerprint, length => length == 4
  | some .errorCode, length => decide (4 ≤ length)
  | _, _ => true

def Sized (a : Tlv) : Prop := allowsSize a.attr a.value.length = true

instance (a : Tlv) : Decidable a.Sized := inferInstanceAs (Decidable (_ = true))

def MayPrecede (a b : Tlv) : Prop :=
  a.attr ≠ some .fingerprint ∧ (a.attr = some .messageIntegrity → b.attr = some .fingerprint)

theorem read_type (a : Tlv) : read2Bytes a.head 0 = a.type :=
  read2Bytes_set2Bytes a.type _

theorem read_length (a : Tlv) : (read2Bytes a.head 2).toNat = a.value.length := by
  have hread : read2Bytes a.head 2 = BitVec.ofNat 16 a.value.length :=
    read2Bytes_set2Bytes (BitVec.ofNat 16 a.value.length) []
  rw [hread, BitVec.toNat_ofNat, Nat.mod_eq_of_lt a.length_value_lt]

variable {a : Tlv}

theorem eq_of_bytes_append_eq {b : Tlv} {rest rest' : List Byte} (h : a.bytes ++ rest = b.bytes ++ rest') :
    a = b ∧ rest = rest' := by
  have hhead : a.head = b.head ∧ a.value ++ a.padding ++ rest = b.value ++ b.padding ++ rest' := by
    rw [bytes, bytes, append_assoc a.head, append_assoc b.head] at h
    exact append_inj h rfl
  have htype : a.type = b.type := by rw [← read_type a, hhead.1, read_type]
  have hlen : a.value.length = b.value.length := by rw [← read_length a, hhead.1, read_length]
  have hpadding : a.padding.length = b.padding.length := by
    have ha := a.length_padded
    have hb := b.length_padded
    omega
  have htail := hhead.2
  rw [append_assoc, append_assoc] at htail
  obtain ⟨hv, htail⟩ := append_inj htail hlen
  obtain ⟨hpad, hrest⟩ := append_inj htail hpadding
  cases a
  cases b
  cases htype
  cases hv
  cases hpad
  exact ⟨rfl, hrest⟩

theorem bytes_ne_nil (a : Tlv) : a.bytes ≠ [] := by
  intro h
  have hlen := congrArg length h
  rw [length_bytes, size, length_nil] at hlen
  omega

theorem flatMap_bytes_eq_nil {attrs : List Tlv} (h : attrs.flatMap bytes = []) : attrs = [] := by
  cases attrs with
  | nil => rfl
  | cons a attrs => exact absurd (append_eq_nil_iff.mp h).1 a.bytes_ne_nil

theorem eq_cons_of_flatMap_bytes {attrs : List Tlv} {rest : List Byte}
    (h : a.bytes ++ rest = attrs.flatMap bytes) :
    ∃ attrs', attrs = a :: attrs' ∧ rest = attrs'.flatMap bytes := by
  cases attrs with
  | nil => exact absurd (append_eq_nil_iff.mp h).1 a.bytes_ne_nil
  | cons b attrs =>
    obtain ⟨rfl, hrest⟩ := eq_of_bytes_append_eq h
    exact ⟨attrs, rfl, hrest⟩

theorem flatMap_bytes_injective : Function.Injective (flatMap bytes) := by
  intro attrs
  induction attrs with
  | nil => exact fun attrs' h => (flatMap_bytes_eq_nil h.symm).symm
  | cons a attrs ih =>
    intro attrs' h
    obtain ⟨rest, rfl, hrest⟩ := eq_cons_of_flatMap_bytes h
    rw [ih hrest]

theorem eq_nil_of_fingerprint {before after : List Tlv} (h : (before ++ a :: after).Pairwise MayPrecede)
    (ha : a.attr = some .fingerprint) : after = [] := by
  rw [eq_nil_iff_forall_not_mem]
  intro b hb
  have hcons := (pairwise_append.mp h).2.1
  exact ((pairwise_cons.mp hcons).1 b hb).1 ha

theorem exists_bytes_append (data : List Byte)
    (h : 4 + ((read2Bytes data 2).toNat + 3) / 4 * 4 ≤ data.length) :
    ∃ (a : Tlv) (rest : List Byte), data = a.bytes ++ rest ∧ a.type = read2Bytes data 0 ∧
      a.value.length = (read2Bytes data 2).toNat := by
  generalize hn : (read2Bytes data 2).toNat = n at h
  have hlt : n < 2 ^ 16 := hn ▸ BitVec.isLt _
  have hv : ((data.drop 4).take n).length = n := by
    rw [length_take, length_drop]
    omega
  have hpad : ((data.drop (4 + n)).take ((n + 3) / 4 * 4 - n)).length = (n + 3) / 4 * 4 - n := by
    rw [length_take, length_drop]
    omega
  have hhead : set2Bytes (read2Bytes data 0) ++ set2Bytes (BitVec.ofNat 16 n) = data.take 4 := by
    rw [← hn, BitVec.ofNat_toNat, BitVec.setWidth_eq, set2Bytes_read2Bytes (by omega),
      set2Bytes_read2Bytes (by omega), drop_zero, ← take_add]
  refine ⟨⟨read2Bytes data 0, (data.drop 4).take n, (data.drop (4 + n)).take ((n + 3) / 4 * 4 - n),
    by rwa [hv], by rw [hv, hpad]; omega⟩, data.drop (4 + (n + 3) / 4 * 4), ?_, rfl, hv⟩
  have hsplit : (data.drop 4).take n ++ (data.drop (4 + n)).take ((n + 3) / 4 * 4 - n) =
      (data.drop 4).take ((n + 3) / 4 * 4) := by
    rw [← drop_drop, ← take_add]
    congr 1
    omega
  simp only [bytes, head, hv, hhead, hsplit]
  rw [← take_add, take_append_drop]

end Tlv

/-! ## What the loop makes of an attribute -/

namespace Scan

def absorb (attr : Option Attribute) (value : List Byte) (s : Scan) : Scan :=
  match attr with
  | some .username => { s with packet := { s.packet with username := value } }
  | some .priority => { s with packet := { s.packet with priority := read4Bytes value 0 } }
  | some .iceControlling =>
    { s with packet := { s.packet with iceControlling := read8Bytes value 0 } }
  | some .iceControlled =>
    { s with packet := { s.packet with iceControlled := read8Bytes value 0 } }
  | some .useCandidate => { s with packet := { s.packet with hasUseCandidate := true } }
  | some .messageIntegrity =>
    { s with
      hasMessageIntegrity := true
      packet := { s.packet with messageIntegrity := some (s.pos + 4) } }
  | some .fingerprint =>
    { s with
      fingerprint := some (s.pos, read4Bytes value 0)
      packet := { s.packet with hasFingerprint := true } }
  | some .errorCode =>
    { s with packet := { s.packet with
      errorCode := (read1Byte value 2).setWidth 16 * 100 + (read1Byte value 3).setWidth 16 } }
  | _ => s

def Allows (s : Scan) (a : Tlv) : Prop :=
  s.fingerprint = none ∧ (s.hasMessageIntegrity = true → a.attr = some .fingerprint)

instance (s : Scan) (a : Tlv) : Decidable (s.Allows a) := inferInstanceAs (Decidable (_ ∧ _))

def take (s : Scan) (a : Tlv) : Scan := { s.absorb a.attr a.value with pos := s.pos + a.size }

def meet (s : Scan) (a : Tlv) : Option Scan := if s.Allows a ∧ a.Sized then some (s.take a) else none

theorem meet_eq_some {s t : Scan} {a : Tlv} : s.meet a = some t ↔ (s.Allows a ∧ a.Sized) ∧ s.take a = t := by
  unfold meet
  split
  · simp [*]
  · simp [*]

theorem pos_of_meet {s t : Scan} {a : Tlv} (h : s.meet a = some t) : t.pos = s.pos + a.size := by
  obtain ⟨-, rfl⟩ := meet_eq_some.mp h
  rfl

end Scan

section Loop

variable {data pre rest : List Byte} {s : Scan} {a : Tlv}

section

variable (hdata : data = pre ++ (a.bytes ++ rest)) (hpos : s.pos = pre.length)

include hdata hpos

theorem parseValue_eq (attr : Option Attribute) : parseValue data attr a.value.length s =
      .ok (if Tlv.allowsSize attr a.value.length then some (s.absorb attr a.value) else none) := by
  have hv : data = (pre ++ a.head) ++ (a.value ++ (a.padding ++ rest)) := by
    rw [hdata, Tlv.bytes]
    simp only [append_assoc]
  have hfront : s.pos + 4 = (pre ++ a.head).length := by
    rw [length_append, Tlv.length_head, hpos]
  have h1 (i : ℕ) (h : i + 1 ≤ a.value.length) :
      get1Byte data (s.pos + 4 + i) = .ok (read1Byte a.value i) := by
    rw [hfront]
    exact get1Byte_middle hv h
  have h4 (h : 4 ≤ a.value.length) : get4Bytes data (s.pos + 4) = .ok (read4Bytes a.value 0) := by
    rw [hfront]
    exact get4Bytes_middle (i := 0) hv h
  have h8 (h : 8 ≤ a.value.length) : get8Bytes data (s.pos + 4) = .ok (read8Bytes a.value 0) := by
    rw [hfront]
    exact get8Bytes_middle (i := 0) hv h
  have hbs : getBytes data (s.pos + 4) a.value.length = .ok a.value := by
    rw [hfront]
    exact getBytes_middle hv
  unfold parseValue Scan.absorb
  cases attr with
  | none => rfl
  | some attr =>
    cases attr with
    | username => simp [Tlv.allowsSize, hbs]
    | priority =>
      by_cases hlen : a.value.length = 4
      · simp [Tlv.allowsSize, hlen, h4 hlen.ge]
      · simp [Tlv.allowsSize, hlen]
    | iceControlling =>
      by_cases hlen : a.value.length = 8
      · simp [Tlv.allowsSize, hlen, h8 hlen.ge]
      · simp [Tlv.allowsSize, hlen]
    | iceControlled =>
      by_cases hlen : a.value.length = 8
      · simp [Tlv.allowsSize, hlen, h8 hlen.ge]
      · simp [Tlv.allowsSize, hlen]
    | useCandidate =>
      by_cases hlen : a.value.length = 0
      · simp [Tlv.allowsSize, hlen]
      · simp [Tlv.allowsSize, hlen]
    | messageIntegrity =>
      by_cases hlen : a.value.length = 20
      · simp [Tlv.allowsSize, hlen]
      · simp [Tlv.allowsSize, hlen]
    | fingerprint =>
      by_cases hlen : a.value.length = 4
      · simp [Tlv.allowsSize, hlen, h4 hlen.ge]
      · simp [Tlv.allowsSize, hlen]
    | errorCode =>
      by_cases hlen : 4 ≤ a.value.length
      · simp [Tlv.allowsSize, hlen, h1 2 (by omega), h1 3 (by omega)]
      · simp [Tlv.allowsSize, hlen]
    | _ => rfl

theorem parseAttribute_eq (halign : 4 ∣ s.pos) (hlen : data.length ≤ 2 ^ 16 - 4) :
    parseAttribute data s = .ok (s.meet a) := by
  have hhead : data = pre ++ (a.head ++ (a.value ++ a.padding ++ rest)) := by
    rw [hdata, Tlv.bytes, append_assoc]
  have htype : get2Bytes data s.pos = .ok a.type := by
    rw [hpos, ← a.read_type]
    exact get2Bytes_middle (i := 0) hhead (by rw [Tlv.length_head]; decide)
  have hlength : get2Bytes data (s.pos + 2) = .ok (read2Bytes a.head 2) := by
    rw [hpos]
    exact get2Bytes_middle hhead (by rw [Tlv.length_head])
  have hsize : s.pos + a.size ≤ data.length := by
    rw [hdata, length_append, length_append, Tlv.length_bytes, hpos]
    omega
  have hfits : ¬ s.pos + 4 + a.value.length > data.length := by
    rw [Tlv.size] at hsize
    omega
  -- The position is computed in 16 bits, and a packet of this length leaves room for the padding.
  have hnext : (padTo4Bytes (BitVec.ofNat 16 (s.pos + 4 + a.value.length))).toNat = s.pos + a.size := by
    rw [toNat_padTo4Bytes (by omega), Tlv.size]
    omega
  rw [parseAttribute, htype, ok_bind, hlength, ok_bind, a.read_length]
  simp only [if_neg hfits, parseValue_eq hdata hpos]
  rw [show Attribute.ofBits a.type = a.attr from rfl, hnext, ok_bind]
  by_cases hfp : s.fingerprint.isSome = true
  · rw [if_pos hfp, Scan.meet, if_neg fun h => by simp [h.1.1] at hfp]
    rfl
  rw [if_neg hfp]
  by_cases hord : s.hasMessageIntegrity = true ∧ a.attr ≠ some .fingerprint
  · rw [if_pos hord, Scan.meet, if_neg fun h => hord.2 (h.1.2 hord.1)]
    rfl
  rw [if_neg hord]
  have hallows : s.Allows a :=
    ⟨by simpa using hfp, fun hmi => of_not_not fun hne => hord ⟨hmi, hne⟩⟩
  by_cases hsized : Tlv.allowsSize a.attr a.value.length = true
  · rw [if_pos hsized, Scan.meet, if_pos ⟨hallows, hsized⟩]
    rfl
  · rw [if_neg hsized, Scan.meet, if_neg fun h => hsized h.2]
    rfl

end

theorem parseAttribute_eq_none (hpos : s.pos + 4 ≤ data.length) (halign : 4 ∣ s.pos) (hal : 4 ∣ data.length)
    (hno : ¬ ∃ (a : Tlv) (rest : List Byte), data.drop s.pos = a.bytes ++ rest) :
    parseAttribute data s = .ok none := by
  have hread : read2Bytes (data.drop s.pos) 2 = read2Bytes data (s.pos + 2) := by
    have := read2Bytes_append_right (data.take s.pos) (data.drop s.pos) 2
    rwa [take_append_drop, length_take, min_eq_left (by omega), eq_comm] at this
  have hlong : s.pos + 4 + (read2Bytes data (s.pos + 2)).toNat > data.length := by
    by_contra hfits
    refine hno ?_
    obtain ⟨a, rest, heq, -⟩ := Tlv.exists_bytes_append (data.drop s.pos)
      (by rw [hread, length_drop]; omega)
    exact ⟨a, rest, heq⟩
  rw [parseAttribute, get2Bytes_eq (by omega), ok_bind, get2Bytes_eq (by omega), ok_bind, if_pos hlong]
  rfl

theorem parseAttributes_end (turns : ℕ) (hpos : data.length ≤ s.pos) :
    parseAttributes data turns s = some (.ok (some s)) := by
  have hend : ¬ s.pos + 4 ≤ data.length := by omega
  cases turns with
  | zero => exact if_neg hend
  | succ turns => exact if_neg hend

def Reads (data : List Byte) (s s' : Scan) : Prop :=
  ∃ attrs : List Tlv, data.drop s.pos = attrs.flatMap Tlv.bytes ∧ attrs.foldlM Scan.meet s = some s'

variable {s' : Scan}

theorem reads_end (hpos : data.length ≤ s.pos) : Reads data s s' ↔ s = s' := by
  have hnil : data.drop s.pos = [] := drop_eq_nil_of_le hpos
  constructor
  · rintro ⟨attrs, hattrs, hfold⟩
    obtain rfl := Tlv.flatMap_bytes_eq_nil (hattrs.symm.trans hnil)
    exact some.inj hfold
  · rintro rfl
    exact ⟨[], hnil, rfl⟩

theorem reads_step (h : data.drop s.pos = a.bytes ++ rest) :
    Reads data s s' ↔ ∃ t, s.meet a = some t ∧ Reads data t s' := by
  have hrest (t : Scan) (ht : s.meet a = some t) : data.drop t.pos = rest := by
    rw [Scan.pos_of_meet ht, ← drop_drop, h, ← a.length_bytes, drop_left]
  constructor
  · rintro ⟨attrs, hattrs, hfold⟩
    obtain ⟨attrs, rfl, hrest'⟩ := Tlv.eq_cons_of_flatMap_bytes (h.symm.trans hattrs)
    rw [foldlM_cons] at hfold
    obtain ⟨t, ht, hfold⟩ := bind_eq_some_iff.mp hfold
    exact ⟨t, ht, attrs, (hrest t ht).trans hrest', hfold⟩
  · rintro ⟨t, ht, attrs, hattrs, hfold⟩
    refine ⟨a :: attrs, ?_, ?_⟩
    · rw [h, flatMap_cons, ← hattrs, hrest t ht]
    · rw [foldlM_cons, ht]
      exact hfold

theorem exists_bytes_of_reads (hpos : s.pos < data.length) (h : Reads data s s') :
    ∃ (a : Tlv) (rest : List Byte), data.drop s.pos = a.bytes ++ rest := by
  obtain ⟨attrs, hattrs, -⟩ := h
  cases attrs with
  | nil => exact absurd (drop_eq_nil_iff.mp hattrs) (not_le.mpr hpos)
  | cons a attrs => exact ⟨a, attrs.flatMap Tlv.bytes, hattrs⟩

/-- **The loop over the attributes** ends, and what it makes of the packet is what the attributes make of
it one after the other. -/
theorem parseAttributes_spec (hal : 4 ∣ data.length) (hlen : data.length ≤ 2 ^ 16 - 4) {turns : ℕ}
    (halign : 4 ∣ s.pos) (hturns : data.length ≤ s.pos + 4 * turns) :
    ∃ r, parseAttributes data turns s = some (.ok r) ∧ ∀ s', r = some s' ↔ Reads data s s' := by
  induction turns generalizing s with
  | zero =>
    refine ⟨some s, parseAttributes_end 0 hturns, fun s' => ?_⟩
    rw [reads_end hturns, some.injEq]
  | succ turns ih =>
    by_cases hpos : data.length ≤ s.pos
    · refine ⟨some s, parseAttributes_end (turns + 1) hpos, fun s' => ?_⟩
      rw [reads_end hpos, some.injEq]
    have hroom : s.pos + 4 ≤ data.length := by omega
    rw [parseAttributes, if_pos hroom]
    by_cases hattr : ∃ (a : Tlv) (rest : List Byte), data.drop s.pos = a.bytes ++ rest
    · obtain ⟨a, rest, hdrop⟩ := hattr
      have hdata : data = data.take s.pos ++ (a.bytes ++ rest) := by
        rw [← hdrop, take_append_drop]
      have hfront : s.pos = (data.take s.pos).length := by
        rw [length_take]
        omega
      rw [parseAttribute_eq hdata hfront halign hlen]
      cases hmeet : s.meet a with
      | none =>
        refine ⟨none, rfl, fun s' => ?_⟩
        rw [reads_step hdrop, hmeet]
        simp
      | some t =>
        have htpos : t.pos = s.pos + a.size := Scan.pos_of_meet hmeet
        obtain ⟨r, hres, hreads⟩ := ih (s := t)
          (by rw [htpos, Tlv.size]; omega) (by rw [htpos, Tlv.size]; omega)
        refine ⟨r, hres, fun s' => ?_⟩
        rw [reads_step hdrop, hmeet, hreads]
        simp
    · rw [parseAttribute_eq_none hroom halign hal hattr]
      refine ⟨none, rfl, fun s' => ?_⟩
      simp only [reduceCtorEq, false_iff]
      intro hreads
      exact hattr (exists_bytes_of_reads (by omega) hreads)

end Loop

/-! ## Which attributes the loop takes -/

namespace Scan

theorem take_hasMessageIntegrity (s : Scan) (a : Tlv) : (s.take a).hasMessageIntegrity = true ↔
      s.hasMessageIntegrity = true ∨ a.attr = some .messageIntegrity := by
  unfold take absorb
  split <;> simp_all

theorem take_fingerprint (s : Scan) (a : Tlv) : (s.take a).fingerprint =
      if a.attr = some .fingerprint then some (s.pos, read4Bytes a.value 0) else s.fingerprint := by
  unfold take absorb
  split <;> simp_all

@[simp] theorem take_pos (s : Scan) (a : Tlv) : (s.take a).pos = s.pos + a.size := rfl

theorem take_allows {s : Scan} {a b : Tlv} : (s.take a).Allows b ↔ s.Allows b ∧ a.MayPrecede b := by
  unfold Allows Tlv.MayPrecede
  rw [take_hasMessageIntegrity, take_fingerprint]
  split
  · simp [*]
  · simp only [ne_eq, *, not_false_eq_true, true_and]
    tauto

theorem foldlM_meet {attrs : List Tlv} {s s' : Scan} : attrs.foldlM meet s = some s' ↔
      (∀ a ∈ attrs, s.Allows a ∧ a.Sized) ∧ attrs.Pairwise Tlv.MayPrecede ∧ attrs.foldl take s = s' := by
  induction attrs generalizing s with
  | nil => simp
  | cons a attrs ih =>
    rw [foldlM_cons, pairwise_cons, forall_mem_cons, foldl_cons]
    constructor
    · intro h
      obtain ⟨t, ht, hfold⟩ := bind_eq_some_iff.mp h
      obtain ⟨ha, rfl⟩ := meet_eq_some.mp ht
      obtain ⟨hattrs, hpw, hlast⟩ := ih.mp hfold
      exact ⟨⟨ha, fun b hb => ⟨(take_allows.mp (hattrs b hb).1).1, (hattrs b hb).2⟩⟩,
        ⟨fun b hb => (take_allows.mp (hattrs b hb).1).2, hpw⟩, hlast⟩
    · rintro ⟨⟨ha, hattrs⟩, ⟨hpre, hpw⟩, hlast⟩
      refine bind_eq_some_iff.mpr ⟨s.take a, meet_eq_some.mpr ⟨ha, rfl⟩, ih.mpr ⟨?_, hpw, hlast⟩⟩
      exact fun b hb => ⟨take_allows.mpr ⟨(hattrs b hb).1, hpre b hb⟩, (hattrs b hb).2⟩

theorem foldl_take_pos (attrs : List Tlv) (s : Scan) :
    (attrs.foldl take s).pos = s.pos + (attrs.flatMap Tlv.bytes).length := by
  induction attrs generalizing s with
  | nil => rfl
  | cons a attrs ih =>
    rw [foldl_cons, ih, take_pos, flatMap_cons, length_append, Tlv.length_bytes, add_assoc]

theorem foldl_take_fingerprint_of_not {attrs : List Tlv} (s : Scan)
    (h : ∀ a ∈ attrs, a.attr ≠ some .fingerprint) : (attrs.foldl take s).fingerprint = s.fingerprint := by
  induction attrs generalizing s with
  | nil => rfl
  | cons a attrs ih =>
    obtain ⟨ha, hattrs⟩ := forall_mem_cons.mp h
    rw [foldl_cons, ih _ hattrs, take_fingerprint, if_neg ha]

theorem foldl_take_fingerprint_append {before after : List Tlv} {a : Tlv} (s : Scan)
    (hpw : (before ++ a :: after).Pairwise Tlv.MayPrecede) (ha : a.attr = some .fingerprint) :
    ((before ++ a :: after).foldl take s).fingerprint =
      some (s.pos + (before.flatMap Tlv.bytes).length, read4Bytes a.value 0) := by
  rw [Tlv.eq_nil_of_fingerprint hpw ha, foldl_append, foldl_cons, foldl_nil, take_fingerprint, if_pos ha,
    foldl_take_pos]

end Scan

/-! ## The header -/

structure ValidHeader (data : List Byte) : Prop where
  length_ge : 20 ≤ data.length
  first : read1Byte data 0 < 3
  cookie : read4Bytes data 4 = magicCookie
  length_eq : (read2Bytes data 2).toNat = data.length - 20
  aligned : 4 ∣ (read2Bytes data 2).toNat

def ofHeader (data : List Byte) : StunPacket where
  klass := headerClass (read1Byte data 0) (read1Byte data 1)
  method := headerMethod (read2Bytes data 0)
  transactionId := bytesAt 12 data 8
  data := data
  size := data.length

theorem and_three_eq_zero_iff (word : BitVec 16) : word &&& 0x03 = 0 ↔ 4 ∣ word.toNat := by
  have hlow : (word &&& 0x03).toNat = word.toNat % 4 := by
    rw [BitVec.toNat_and]
    exact Nat.and_two_pow_sub_one_eq_mod word.toNat 2
  rw [Nat.dvd_iff_mod_eq_zero, ← hlow, ← BitVec.toNat_inj]
  rfl

theorem isStun_eq (data : List Byte) : isStun data =
      .ok (decide (20 ≤ data.length ∧ read1Byte data 0 < 3 ∧ read4Bytes data 4 = magicCookie)) := by
  unfold isStun
  by_cases hlen : data.length < 20
  · rw [if_pos hlen, decide_eq_false fun h => not_le.mpr hlen h.1]
  have hge : 20 ≤ data.length := not_lt.mp hlen
  rw [if_neg hlen, get1Byte_eq (by omega), ok_bind]
  by_cases hfirst : read1Byte data 0 < 3
  · rw [if_neg (not_not.mpr hfirst), get4Bytes_eq (by omega), ok_bind]
    simp only [hge, hfirst, true_and]
    rfl
  · rw [if_pos hfirst, decide_eq_false fun h => hfirst h.2.1]
    rfl

theorem parseHeader_of_valid {data : List Byte} (h : ValidHeader data) :
    parseHeader data = .ok (some (ofHeader data)) := by
  have hge := h.length_ge
  have hlen : ¬ ((read2Bytes data 2).toNat ≠ data.length - 20 ∨ read2Bytes data 2 &&& 0x03 ≠ 0) := by
    rw [not_or, not_not, not_not, and_three_eq_zero_iff]
    exact ⟨h.length_eq, h.aligned⟩
  rw [parseHeader, isStun_eq, decide_eq_true ⟨hge, h.first, h.cookie⟩, ok_bind]
  simp only [Bool.not_true, Bool.false_eq_true, ↓reduceIte, get2Bytes_eq (show 0 + 2 ≤ data.length by omega),
    get2Bytes_eq (show 2 + 2 ≤ data.length by omega), ok_bind, if_neg hlen,
    get1Byte_eq (show 0 + 1 ≤ data.length by omega), get1Byte_eq (show 1 + 1 ≤ data.length by omega)]
  rfl

theorem parseHeader_of_not_valid {data : List Byte} (h : ¬ ValidHeader data) :
    parseHeader data = .ok none := by
  rw [parseHeader, isStun_eq, ok_bind]
  by_cases hstun : 20 ≤ data.length ∧ read1Byte data 0 < 3 ∧ read4Bytes data 4 = magicCookie
  · have hge := hstun.1
    have hlen : (read2Bytes data 2).toNat ≠ data.length - 20 ∨ read2Bytes data 2 &&& 0x03 ≠ 0 := by
      rw [← not_and_or, and_three_eq_zero_iff]
      exact fun hok => h ⟨hge, hstun.2.1, hstun.2.2, hok.1, hok.2⟩
    simp only [decide_eq_true hstun, Bool.not_true, Bool.false_eq_true, ↓reduceIte,
      get2Bytes_eq (show 0 + 2 ≤ data.length by omega),
      get2Bytes_eq (show 2 + 2 ≤ data.length by omega), ok_bind, if_pos hlen]
    rfl
  · simp only [decide_eq_false hstun, Bool.not_false, ↓reduceIte]
    rfl

/-! ## Which packets are accepted -/

section Accept

variable (crypto : Crypto)

structure WellFormed (data : List Byte) (attrs : List Tlv) : Prop where
  fills : data.drop 20 = attrs.flatMap Tlv.bytes
  sized : ∀ a ∈ attrs, a.Sized
  ordered : attrs.Pairwise Tlv.MayPrecede
  fingerprint : ∀ before a after, attrs = before ++ a :: after → a.attr = some .fingerprint →
    a.value = set4Bytes (computedFingerprint crypto (data.take 20 ++ before.flatMap Tlv.bytes))

def Acceptable (data : List Byte) : Prop := ValidHeader data ∧ ∃ attrs, WellFormed crypto data attrs

def packetOf (data : List Byte) (attrs : List Tlv) : StunPacket :=
  (attrs.foldl Scan.take { packet := ofHeader data }).packet

variable {crypto} {data : List Byte} {attrs : List Tlv}

theorem reads_start {s' : Scan} : Reads data { packet := ofHeader data } s' ↔
      ∃ attrs : List Tlv, data.drop 20 = attrs.flatMap Tlv.bytes ∧ (∀ a ∈ attrs, a.Sized) ∧
        attrs.Pairwise Tlv.MayPrecede ∧ attrs.foldl Scan.take { packet := ofHeader data } = s' := by
  refine exists_congr fun attrs => and_congr_right fun _ => ?_
  rw [Scan.foldlM_meet]
  refine and_congr_left fun _ => forall₂_congr fun a _ => ?_
  exact and_iff_right ⟨rfl, fun h => Bool.noConfusion h⟩

theorem eq_set4Bytes_iff {v : List Byte} (h : v.length = 4) (word : BitVec 32) :
    v = set4Bytes word ↔ read4Bytes v 0 = word := by
  constructor
  · rintro rfl
    exact read4Bytes_set4Bytes word []
  · rintro rfl
    rw [set4Bytes_read4Bytes (by omega), drop_zero, ← h, take_length]

theorem pos_foldl_take (hge : 20 ≤ data.length) (hfills : data.drop 20 = attrs.flatMap Tlv.bytes) :
    (attrs.foldl Scan.take { packet := ofHeader data }).pos = data.length := by
  rw [Scan.foldl_take_pos, ← hfills, length_drop]
  show 20 + (data.length - 20) = data.length
  omega

theorem getBytes_before {before after : List Tlv} {a : Tlv} (hge : 20 ≤ data.length)
    (hfills : data.drop 20 = (before ++ a :: after).flatMap Tlv.bytes) :
    getBytes data 0 (20 + (before.flatMap Tlv.bytes).length) =
      .ok (data.take 20 ++ before.flatMap Tlv.bytes) := by
  have hdata : data = [] ++ ((data.take 20 ++ before.flatMap Tlv.bytes) ++ (a :: after).flatMap Tlv.bytes) := by
    rw [nil_append, append_assoc, ← flatMap_append, ← hfills, take_append_drop]
  have hget := getBytes_middle hdata
  rwa [length_append, length_take, min_eq_left hge] at hget

variable (crypto) in
theorem checkFingerprint_spec (hge : 20 ≤ data.length) (hfills : data.drop 20 = attrs.flatMap Tlv.bytes)
    (hsized : ∀ a ∈ attrs, a.Sized) (hord : attrs.Pairwise Tlv.MayPrecede) :
    ∃ r, checkFingerprint crypto data (attrs.foldl Scan.take { packet := ofHeader data }) = .ok r ∧
      ∀ p, r = some p ↔ WellFormed crypto data attrs ∧ packetOf data attrs = p := by
  rw [checkFingerprint, if_neg (not_not.mpr (pos_foldl_take hge hfills))]
  by_cases hany : ∃ a ∈ attrs, a.attr = some .fingerprint
  · obtain ⟨a, hmem, ha⟩ := hany
    obtain ⟨before, after, rfl⟩ := append_of_mem hmem
    have hv : a.value.length = 4 := by
      have := hsized a hmem
      rw [Tlv.Sized, ha] at this
      exact beq_iff_eq.mp this
    -- FINGERPRINT is last, so that it stands at one place only.
    have hfp := Scan.foldl_take_fingerprint_append { packet := ofHeader data } hord ha
    have hwf : WellFormed crypto data (before ++ a :: after) ↔ read4Bytes a.value 0 =
          computedFingerprint crypto (data.take 20 ++ before.flatMap Tlv.bytes) := by
      rw [← eq_set4Bytes_iff hv]
      constructor
      · exact fun h => h.fingerprint before a after rfl ha
      · intro heq
        refine ⟨hfills, hsized, hord, fun pre' a' after' happend ha' => ?_⟩
        have hlast := Tlv.eq_nil_of_fingerprint hord ha
        have hlast' := Tlv.eq_nil_of_fingerprint (happend ▸ hord) ha'
        rw [hlast, hlast'] at happend
        obtain ⟨rfl, heq'⟩ := append_inj' happend rfl
        obtain rfl := singleton_inj.mp heq'
        exact heq
    rw [hfp]
    simp only
    rw [getBytes_before hge hfills, ok_bind]
    by_cases heq : read4Bytes a.value 0 =
        computedFingerprint crypto (data.take 20 ++ before.flatMap Tlv.bytes)
    · rw [if_neg (not_not.mpr heq)]
      refine ⟨_, rfl, fun p => ?_⟩
      rw [and_iff_right (hwf.mpr heq), some.injEq]
      rfl
    · rw [if_pos heq]
      refine ⟨_, rfl, fun p => ?_⟩
      simp [hwf, heq]
  · have hnone := Scan.foldl_take_fingerprint_of_not { packet := ofHeader data }
      fun a ha hattr => hany ⟨a, ha, hattr⟩
    rw [hnone]
    refine ⟨_, rfl, fun p => ?_⟩
    have hwf : WellFormed crypto data attrs := by
      refine ⟨hfills, hsized, hord, ?_⟩
      rintro before a after rfl ha
      exact absurd ⟨a, by simp, ha⟩ hany
    rw [and_iff_right hwf, some.injEq]
    rfl

variable (crypto) in
theorem parse_of_valid (hhdr : ValidHeader data) (hlen : data.length ≤ 65535) {turns : ℕ}
    (hturns : data.length ≤ 4 * turns) : ∃ r, parse crypto turns data = some (.ok r) ∧
      ∀ p, r = some p ↔ ∃ attrs, WellFormed crypto data attrs ∧ packetOf data attrs = p := by
  have hge := hhdr.length_ge
  have hal : 4 ∣ data.length := by
    have := hhdr.aligned
    rw [hhdr.length_eq] at this
    omega
  obtain ⟨scan, hscan, hreads⟩ := parseAttributes_spec (s := { packet := ofHeader data }) hal
    (by omega) (show 4 ∣ 20 by decide) (show data.length ≤ 20 + 4 * turns by omega)
  rw [parse, parseHeader_of_valid hhdr]
  simp only [hscan]
  cases scan with
  | none =>
    refine ⟨none, rfl, fun p => ?_⟩
    simp only [reduceCtorEq, false_iff]
    rintro ⟨attrs, hattrs, -⟩
    have := (hreads _).mpr (reads_start.mpr ⟨attrs, hattrs.fills, hattrs.sized, hattrs.ordered, rfl⟩)
    cases this
  | some s =>
    obtain ⟨attrs, hfills, hsized, hord, rfl⟩ := reads_start.mp ((hreads s).mp rfl)
    obtain ⟨r, hres, hp⟩ := checkFingerprint_spec crypto hge hfills hsized hord
    refine ⟨r, congrArg some hres, fun p => ?_⟩
    rw [hp]
    constructor
    · rintro ⟨hwf, rfl⟩
      exact ⟨attrs, hwf, rfl⟩
    · rintro ⟨attrs', hwf, rfl⟩
      obtain rfl := Tlv.flatMap_bytes_injective (hfills.symm.trans hwf.fills)
      exact ⟨hwf, rfl⟩

/-- **`Parse` is exact.**  It ends, reads nothing outside of the bytes, and returns a packet exactly if
they are acceptable. -/
theorem parse_accepts_iff (crypto : Crypto) (data : List Byte) (hlen : data.length ≤ 65535)
    {turns : ℕ} (hturns : data.length ≤ 4 * turns) :
    ∃ result, parse crypto turns data = some (.ok result) ∧
      (result.isSome = true ↔ Acceptable crypto data) := by
  by_cases hheader : ValidHeader data
  · obtain ⟨result, hresult, hp⟩ := parse_of_valid crypto hheader hlen hturns
    refine ⟨result, hresult, ?_⟩
    rw [Option.isSome_iff_exists, Acceptable, and_iff_right hheader]
    simp only [hp]
    constructor
    · rintro ⟨p, attrs, hwf, -⟩
      exact ⟨attrs, hwf⟩
    · rintro ⟨attrs, hwf⟩
      exact ⟨_, attrs, hwf, rfl⟩
  · refine ⟨none, ?_, ?_⟩
    · rw [parse, parseHeader_of_not_valid hheader]
    · simp [Acceptable, hheader]

def nomination : List Byte :=
  [0x00, 0x01, 0x00, 0x04, 0x21, 0x12, 0xA4, 0x42] ++ List.replicate 12 0x07 ++ [0x00, 0x25, 0x00, 0x00]

def constantCrypto : Crypto := ⟨fun _ _ => ⟨List.replicate 20 0, rfl⟩, fun _ => 0⟩

theorem nomination_acceptable : Acceptable constantCrypto nomination := by
  obtain ⟨result, hresult, hiff⟩ := parse_accepts_iff constantCrypto nomination (by decide)
    (show nomination.length ≤ 4 * 6 by decide)
  refine hiff.mp ?_
  cases result with
  | none => exact absurd hresult (by decide)
  | some p => rfl

end Accept

end MediasoupWorker.RTC.StunPacket
