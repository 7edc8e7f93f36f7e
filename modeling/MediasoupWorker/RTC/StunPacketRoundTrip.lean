import MediasoupWorker.RTC.StunPacketParse

/-!
# What `Serialize` writes is read back and passes the check

MESSAGE-INTEGRITY is computed while the header has the length of a packet without FINGERPRINT, and
FINGERPRINT while it has the length of the whole packet; `CheckAuthentication` does the same. USERNAME is
written without its padding, so the attributes that are written depend on what the buffer had before.
-/

namespace MediasoupWorker.RTC.StunPacket

open Library List

/-! ## The attributes of a packet -/

namespace Tlv

structure IsPlain (value : List Byte) : Prop where
  length_lt : value.length < 2 ^ 16
  aligned : 4 ∣ value.length

theorem isPlain_of_length {value : List Byte} {n : ℕ} (hlen : value.length = n) (hlt : n < 2 ^ 16)
    (hal : 4 ∣ n) : IsPlain value :=
  ⟨hlen ▸ hlt, hlen ▸ hal⟩

theorem isPlain_nil : IsPlain [] := isPlain_of_length rfl (by decide) (by decide)

theorem isPlain_set4Bytes (word : BitVec 32) : IsPlain (set4Bytes word) :=
  isPlain_of_length (length_set4Bytes word) (by decide) (by decide)

theorem isPlain_set8Bytes (word : BitVec 64) : IsPlain (set8Bytes word) :=
  isPlain_of_length (length_set8Bytes word) (by decide) (by decide)

theorem isPlain_hmac (hmac : Bytes 20) : IsPlain hmac.1 :=
  isPlain_of_length hmac.2 (by decide) (by decide)

def plain (attr : Attribute) (value : List Byte) (h : IsPlain value) : Tlv where
  type := attr.value
  value := value
  padding := []
  length_value_lt := h.length_lt
  length_padded := by
    have := h.aligned
    rw [List.length_nil]
    omega

def when (condition : Bool) (a : Tlv) : List Tlv := if condition then [a] else []

@[simp] theorem when_false (a : Tlv) : when false a = [] := rfl

@[simp] theorem when_true (a : Tlv) : when true a = [a] := rfl

theorem mem_when {cond : Bool} {a b : Tlv} : a ∈ when cond b ↔ cond = true ∧ a = b := by
  cases cond <;> simp

section Plain

variable {attr : Attribute} {value : List Byte} {h : IsPlain value}

@[simp] theorem attr_plain : (plain attr value h).attr = some attr := Attribute.ofBits_value attr

@[simp] theorem value_plain : (plain attr value h).value = value := rfl

@[simp] theorem size_plain : (plain attr value h).size = 4 + value.length := by
  have := h.aligned
  rw [size, value_plain]
  omega

theorem sized_plain : (plain attr value h).Sized ↔ allowsSize (some attr) value.length = true := by
  rw [Sized, attr_plain, value_plain]

theorem bytes_plain : (plain attr value h).bytes =
    set2Bytes attr.value ++ (set2Bytes (BitVec.ofNat 16 value.length) ++ value) := by
  rw [bytes, head, value_plain, show (plain attr value h).padding = [] from rfl, append_nil, append_assoc]
  rfl

end Plain

end Tlv

/-! ## Writing -/

namespace Writer

def Holds (w : Writer) (bytes : List Byte) : Prop := fetch w.buffer 0 w.pos = bytes

variable {w : Writer} {bs : List Byte}

theorem Holds.pos_eq (h : w.Holds bs) : w.pos = bs.length := by
  rw [← h, length_fetch]

variable {v : List Byte}

theorem Holds.putAttribute (h : w.Holds bs) (attr : Attribute) (length : BitVec 16) {plen : ℕ} (hle : v.length ≤ plen) :
    (w.putAttribute attr length v plen).Holds
      (bs ++ (set2Bytes attr.value ++ (set2Bytes length ++ (v ++
        fetch w.buffer (w.pos + 4 + v.length) (plen - v.length))))) := by
  have hbuf : (w.putAttribute attr length v plen).buffer =
      store w.buffer w.pos (set2Bytes attr.value ++ set2Bytes length ++ v) := by
    rw [← store_append, ← store_append]
    rfl
  have hpos : (w.putAttribute attr length v plen).pos = w.pos +
      ((set2Bytes attr.value ++ set2Bytes length ++ v).length + (plen - v.length)) := by
    simp only [Writer.putAttribute, length_append, length_set2Bytes]
    omega
  have hlen : w.pos + (set2Bytes attr.value ++ set2Bytes length ++ v).length = w.pos + 4 + v.length := by
    simp only [length_append, length_set2Bytes]
    omega
  rw [Holds, hbuf, hpos, fetch_store_append, h, hlen]
  simp only [append_assoc]

theorem Holds.putPlain (h : w.Holds bs) (attr : Attribute) (hv : Tlv.IsPlain v) {n : ℕ}
    (hlen : v.length = n) : (w.putAttribute attr (BitVec.ofNat 16 n) v n).Holds
      (bs ++ (Tlv.plain attr v hv).bytes) := by
  subst hlen
  have hput := h.putAttribute attr (BitVec.ofNat 16 v.length) (Nat.le_refl v.length)
  rwa [Nat.sub_self, show fetch w.buffer _ 0 = [] from rfl, append_nil, ← Tlv.bytes_plain] at hput

theorem Holds.putIf (h : w.Holds bs) (cond : Bool) (attr : Attribute) (hv : Tlv.IsPlain v) :
    (w.putIf cond attr v).Holds
      (bs ++ (Tlv.when cond (Tlv.plain attr v hv)).flatMap Tlv.bytes) := by
  cases cond with
  | false =>
    rw [Tlv.when_false, flatMap_nil, append_nil]
    exact h
  | true =>
    rw [Tlv.when_true, flatMap_singleton]
    exact h.putPlain attr hv rfl

end Writer

/-! ## The attributes that a packet has -/

section Attributes

variable {p : StunPacket} {w : Writer} {bs body : List Byte}

theorem usernamePaddedLen_eq (hname : p.username.length ≤ 65000) :
    p.usernamePaddedLen = (p.username.length + 3) / 4 * 4 := by
  unfold usernamePaddedLen
  split
  · rename_i hnil
    rw [isEmpty_iff.mp hnil]
    rfl
  · exact toNat_padTo4Bytes (by omega)

def usernameTlv (p : StunPacket) (hname : p.username.length ≤ 65000)
    (padding : Bytes (p.usernamePaddedLen - p.username.length)) : Tlv where
  type := Attribute.username.value
  value := p.username
  padding := padding.1
  length_value_lt := by omega
  length_padded := by
    rw [padding.2, usernamePaddedLen_eq hname]
    omega

theorem length_xorMappedValue (p : StunPacket) :
    (p.xorMappedValue.getD []).length = 0 ∨ (p.xorMappedValue.getD []).length = 8 ∨
      (p.xorMappedValue.getD []).length = 20 := by
  unfold xorMappedValue
  split
  · split
    · exact .inr (.inl rfl)
    · rename_i port addr _
      simp [addr.2, p.transactionId.2]
    · exact .inl rfl
  · exact .inl rfl

theorem isPlain_xorMappedValue (p : StunPacket) : Tlv.IsPlain (p.xorMappedValue.getD []) := by
  rcases p.length_xorMappedValue with hlen | hlen | hlen <;>
    exact Tlv.isPlain_of_length hlen (by decide) (by decide)

theorem isPlain_errorCodeValue (p : StunPacket) : Tlv.IsPlain p.errorCodeValue :=
  Tlv.isPlain_of_length p.length_errorCodeValue (by decide) (by decide)

def withAttributes (p q : StunPacket) : StunPacket :=
  { q with
    username := p.username
    priority := p.priority
    iceControlling := p.iceControlling
    iceControlled := p.iceControlled
    hasUseCandidate := p.hasUseCandidate }

def attributes (p : StunPacket) (hname : p.username.length ≤ 65000)
    (padding : Bytes (p.usernamePaddedLen - p.username.length)) : List Tlv :=
  Tlv.when (!p.username.isEmpty) (p.usernameTlv hname padding) ++
    Tlv.when (p.priority != 0) (.plain .priority (set4Bytes p.priority) (Tlv.isPlain_set4Bytes _)) ++
    Tlv.when (p.iceControlling != 0)
      (.plain .iceControlling (set8Bytes p.iceControlling) (Tlv.isPlain_set8Bytes _)) ++
    Tlv.when (p.iceControlled != 0)
      (.plain .iceControlled (set8Bytes p.iceControlled) (Tlv.isPlain_set8Bytes _)) ++
    Tlv.when p.hasUseCandidate (.plain .useCandidate [] Tlv.isPlain_nil) ++ Tlv.when p.xorMappedValue.isSome
      (.plain .xorMappedAddress (p.xorMappedValue.getD []) p.isPlain_xorMappedValue) ++
    Tlv.when p.addErrorCode (.plain .errorCode p.errorCodeValue p.isPlain_errorCodeValue)

theorem holds_putUsername (hname : p.username.length ≤ 65000) (h : w.Holds bs) :
    ∃ pad, (if p.usernamePaddedLen ≠ 0 then
        w.putAttribute .username (BitVec.ofNat 16 p.username.length) p.username p.usernamePaddedLen
      else w).Holds (bs ++ (Tlv.when (!p.username.isEmpty) (p.usernameTlv hname pad)).flatMap
        Tlv.bytes) := by
  refine ⟨⟨fetch w.buffer (w.pos + 4 + p.username.length) _, length_fetch⟩, ?_⟩
  have hpadded := usernamePaddedLen_eq hname
  by_cases hnil : p.username = []
  · have hzero : ¬ p.usernamePaddedLen ≠ 0 := by
      rw [hpadded, hnil]
      decide
    have hwhen (a : Tlv) : Tlv.when (!p.username.isEmpty) a = [] := by
      simp [Tlv.when, hnil]
    rw [if_neg hzero, hwhen, flatMap_nil, append_nil]
    exact h
  · have hpos : 0 < p.username.length := length_pos_iff.mpr hnil
    rw [if_pos (by omega)]
    have hput := h.putAttribute .username (BitVec.ofNat 16 p.username.length)
      (show p.username.length ≤ p.usernamePaddedLen by omega)
    have hwhen (a : Tlv) : Tlv.when (!p.username.isEmpty) a = [a] := by
      simp [Tlv.when, hnil]
    rw [hwhen, flatMap_singleton]
    exact hput

theorem length_flatMap_when (cond : Bool) (a : Tlv) :
    ((Tlv.when cond a).flatMap Tlv.bytes).length = if cond then a.size else 0 := by
  cases cond with
  | false => rfl
  | true => rw [Tlv.when, if_pos rfl, flatMap_singleton, Tlv.length_bytes, if_pos rfl]

theorem requiredSize_eq (hname : p.username.length ≤ 65000)
    (pad : Bytes (p.usernamePaddedLen - p.username.length)) :
    p.requiredSize = 20 + ((p.attributes hname pad).flatMap Tlv.bytes).length +
      (if p.addMessageIntegrity then 24 else 0) + 8 := by
  have huser : (p.usernameTlv hname pad).size = 4 + p.usernamePaddedLen := by
    rw [usernamePaddedLen_eq hname]
    rfl
  have hxor : (p.xorMappedValue.elim 0 fun value => 4 + value.length) =
      if p.xorMappedValue.isSome then 4 + (p.xorMappedValue.getD []).length else 0 := by
    cases p.xorMappedValue <;> rfl
  simp only [requiredSize, hxor, attributes, flatMap_append, length_append,
    length_flatMap_when, huser, Tlv.size_plain, length_set4Bytes, length_set8Bytes, length_nil,
    length_errorCodeValue]
  cases p.username.isEmpty <;> simp <;> omega

theorem mem_attributes {hname : p.username.length ≤ 65000}
    {pad : Bytes (p.usernamePaddedLen - p.username.length)} {a : Tlv} (ha : a ∈ p.attributes hname pad) :
    a.Sized ∧ a.attr ≠ some .fingerprint ∧ a.attr ≠ some .messageIntegrity := by
  simp only [attributes, mem_append, Tlv.mem_when] at ha
  rcases ha with (((((⟨-, rfl⟩ | ⟨-, rfl⟩) | ⟨-, rfl⟩) | ⟨-, rfl⟩) | ⟨-, rfl⟩) | ⟨-, rfl⟩) | ⟨-, rfl⟩
  · have hattr : (p.usernameTlv hname pad).attr = some .username := rfl
    rw [Tlv.Sized, hattr]
    exact ⟨rfl, by decide⟩
  all_goals
    rw [Tlv.sized_plain, Tlv.attr_plain]
    exact ⟨rfl, by decide⟩

/-! ### The packet that is read -/

section ReadBack

variable {s : Scan} {q : StunPacket}

theorem packet_when {cond : Bool} {a : Tlv} (htake : cond = true → (s.take a).packet = q)
    (hskip : cond = false → s.packet = q) : ((Tlv.when cond a).foldl Scan.take s).packet = q := by
  cases cond with
  | false => exact hskip rfl
  | true => exact htake rfl

theorem take_plain {attr : Attribute} {value : List Byte} {h : Tlv.IsPlain value} :
    (s.take (.plain attr value h)).packet = (s.absorb (some attr) value).packet := by
  rw [Scan.take, Tlv.attr_plain, Tlv.value_plain]

theorem packet_number (attr : Attribute) {value : List Byte} (h : Tlv.IsPlain value) {n : ℕ}
    {number read : BitVec n} (set : StunPacket → BitVec n → StunPacket) (hs : s.packet = q)
    (hdefault : set q 0 = q) (hset : (s.absorb (some attr) value).packet = set s.packet read)
    (hread : read = number) :
    ((Tlv.when (number != 0) (.plain attr value h)).foldl Scan.take s).packet = set q number := by
  refine packet_when (fun _ => ?_) fun hskip => ?_
  · rw [take_plain, hset, hs, hread]
  · rw [bne_eq_false_iff_eq.mp hskip, hs, hdefault]

theorem packet_attributes (hname : p.username.length ≤ 65000)
    (pad : Bytes (p.usernamePaddedLen - p.username.length))
    (hklass : p.klass = .request ∨ p.klass = .indication) {data : List Byte} (hs : s.packet = ofHeader data) :
    ((p.attributes hname pad).foldl Scan.take s).packet = p.withAttributes (ofHeader data) := by
  have hxor : p.xorMappedValue = none := by
    unfold xorMappedValue
    rcases hklass with hklass | hklass <;> simp [hklass]
  have herror : p.addErrorCode = false := by
    unfold addErrorCode
    rcases hklass with hklass | hklass <;> simp [hklass]
  simp only [attributes, foldl_append, hxor, herror, Option.isSome_none, Tlv.when_false, foldl_nil]
  have huser : ((Tlv.when (!p.username.isEmpty) (p.usernameTlv hname pad)).foldl Scan.take s).packet =
      { ofHeader data with username := p.username } := by
    refine packet_when (fun _ => congrArg (fun q => { q with username := p.username }) hs) fun hskip => ?_
    have hnil : p.username = [] := by simpa using hskip
    rw [hs, hnil]
    rfl
  have hprio := packet_number .priority (Tlv.isPlain_set4Bytes p.priority)
    (fun q x => { q with priority := x }) huser rfl rfl (read4Bytes_set4Bytes p.priority [])
  have hcontrolling := packet_number .iceControlling (Tlv.isPlain_set8Bytes p.iceControlling)
    (fun q x => { q with iceControlling := x }) hprio rfl rfl (read8Bytes_set8Bytes p.iceControlling [])
  have hctl := packet_number .iceControlled (Tlv.isPlain_set8Bytes p.iceControlled)
    (fun q x => { q with iceControlled := x }) hcontrolling rfl rfl (read8Bytes_set8Bytes p.iceControlled [])
  refine packet_when (fun htake => ?_) fun hskip => ?_
  · rw [take_plain, withAttributes, htake]
    exact congrArg (fun q => { q with hasUseCandidate := true }) hctl
  · rw [hctl, withAttributes, hskip]
    rfl

end ReadBack

structure Describes (p : StunPacket) (attrs : List Tlv) : Prop where
  size : p.requiredSize = 20 + (attrs.flatMap Tlv.bytes).length +
    (if p.addMessageIntegrity then 24 else 0) + 8
  mem : ∀ a ∈ attrs, a.Sized ∧ a.attr ≠ some .fingerprint ∧ a.attr ≠ some .messageIntegrity
  packet : p.klass = .request ∨ p.klass = .indication → ∀ (s : Scan) (data : List Byte),
    s.packet = ofHeader data → (attrs.foldl Scan.take s).packet = p.withAttributes (ofHeader data)

theorem holds_putAttributes (hname : p.username.length ≤ 65000) (h : w.Holds bs) :
    ∃ attrs, p.Describes attrs ∧ (p.putAttributes w).Holds (bs ++ attrs.flatMap Tlv.bytes) := by
  obtain ⟨pad, huser⟩ := holds_putUsername hname h
  refine ⟨p.attributes hname pad, ⟨requiredSize_eq hname pad, fun _ => mem_attributes,
    fun hklass _ _ => packet_attributes hname pad hklass⟩, ?_⟩
  have hprio := huser.putIf (p.priority != 0) .priority (Tlv.isPlain_set4Bytes p.priority)
  have hctl := hprio.putIf (p.iceControlling != 0) .iceControlling
    (Tlv.isPlain_set8Bytes p.iceControlling)
  have hcontrolled := hctl.putIf (p.iceControlled != 0) .iceControlled
    (Tlv.isPlain_set8Bytes p.iceControlled)
  have hcandidate := hcontrolled.putIf p.hasUseCandidate .useCandidate Tlv.isPlain_nil
  have hxor := hcandidate.putIf p.xorMappedValue.isSome .xorMappedAddress p.isPlain_xorMappedValue
  have herror := hxor.putIf p.addErrorCode .errorCode p.isPlain_errorCodeValue
  simp only [append_assoc] at herror
  simp only [attributes, flatMap_append, append_assoc]
  exact herror

end Attributes

/-! ## MESSAGE-INTEGRITY and FINGERPRINT -/

section Serialize

variable (crypto : Crypto)

def integrityTlv (p : StunPacket) (body : List Byte) : Tlv :=
  .plain .messageIntegrity
    (crypto.getHmacSha1 p.password (p.header (BitVec.ofNat 16 (p.requiredSize - 20 - 8)) ++ body)).1
    (Tlv.isPlain_hmac _)

def fingerprintTlv (bytes : List Byte) : Tlv :=
  .plain .fingerprint (set4Bytes (computedFingerprint crypto bytes)) (Tlv.isPlain_set4Bytes _)

def signedAttributes (p : StunPacket) (attrs : List Tlv) : List Tlv :=
  attrs ++ Tlv.when p.addMessageIntegrity (p.integrityTlv crypto (attrs.flatMap Tlv.bytes))

def allAttributes (p : StunPacket) (attrs : List Tlv) : List Tlv :=
  p.signedAttributes crypto attrs ++ [fingerprintTlv crypto
    (p.header (BitVec.ofNat 16 (p.requiredSize - 20)) ++ (p.signedAttributes crypto attrs).flatMap Tlv.bytes)]

def message (p : StunPacket) (attrs : List Tlv) : List Byte :=
  p.header (BitVec.ofNat 16 (p.requiredSize - 20)) ++ (p.allAttributes crypto attrs).flatMap Tlv.bytes

def serialized (p : StunPacket) (attrs : List Tlv) : StunPacket :=
  { p with
    data := p.message crypto attrs
    size := p.requiredSize
    messageIntegrity :=
      if p.addMessageIntegrity then some (24 + (attrs.flatMap Tlv.bytes).length) else none
    hasFingerprint := true }

variable {crypto} {p : StunPacket} {w : Writer} {body : List Byte} {attrs : List Tlv}

@[simp] theorem size_integrityTlv : (p.integrityTlv crypto body).size = 24 := by
  rw [integrityTlv, Tlv.size_plain]
  exact congrArg (4 + ·) (crypto.getHmacSha1 _ _).2

@[simp] theorem size_fingerprintTlv : (fingerprintTlv crypto body).size = 8 := by
  rw [fingerprintTlv, Tlv.size_plain, length_set4Bytes]

@[simp] theorem length_header (p : StunPacket) (length : BitVec 16) : (p.header length).length = 20 := by
  simp [header, p.transactionId.2]

theorem setLength_header (p : StunPacket) (length len' : BitVec 16) (body : List Byte) :
    setLength len' (p.header length ++ body) = p.header len' ++ body := by
  simp [setLength, header, set2Bytes]

theorem holds_setLength {length : BitVec 16} (h : w.Holds (p.header length ++ body)) (len' : BitVec 16) :
    Writer.Holds { w with buffer := store w.buffer 2 (set2Bytes len') } (p.header len' ++ body) := by
  have hpos : w.pos = 2 + (2 + (w.pos - 4)) := by
    have := h.pos_eq
    rw [length_append, length_header] at this
    omega
  have hsplit : fetch w.buffer 0 2 ++ (fetch w.buffer 2 2 ++ fetch w.buffer (2 + 2) (w.pos - 4)) =
      set2Bytes p.typeField ++ (set2Bytes length ++
        (set4Bytes magicCookie ++ (p.transactionId.1 ++ body))) := by
    have hfetch : fetch w.buffer 0 (2 + (2 + (w.pos - 4))) = p.header length ++ body := hpos ▸ h
    rw [fetch_add, fetch_add] at hfetch
    rw [hfetch]
    simp only [header, append_assoc]
  obtain ⟨htype, hrest⟩ := append_inj hsplit (by rw [length_fetch, length_set2Bytes])
  have hbody := (append_inj hrest (by rw [length_fetch, length_set2Bytes])).2
  have hst := fetch_store_append w.buffer 2 (set2Bytes len') (w.pos - 4)
  rw [length_set2Bytes, ← hpos, htype, hbody] at hst
  refine hst.trans ?_
  simp only [header, append_assoc]

theorem holds_putMessageIntegrity {length : BitVec 16} (h : w.Holds (p.header length ++ body)) :
    (p.putMessageIntegrity crypto p.requiredSize w).Holds
      (p.header (BitVec.ofNat 16 (p.requiredSize - 20)) ++ (body ++ (p.integrityTlv crypto body).bytes)) := by
  have hshort := holds_setLength h (BitVec.ofNat 16 (p.requiredSize - 20 - 8))
  -- The bytes that are signed are those that have been written.
  have hsigned : fetch (store w.buffer 2 (set2Bytes (BitVec.ofNat 16 (p.requiredSize - 20 - 8)))) 0
      w.pos = p.header (BitVec.ofNat 16 (p.requiredSize - 20 - 8)) ++ body := hshort
  have hput (hmac : Bytes 20) :=
    hshort.putPlain .messageIntegrity (Tlv.isPlain_hmac hmac) hmac.2
  simp only [append_assoc] at hput
  unfold putMessageIntegrity
  simp only [hsigned]
  exact holds_setLength (hput _) (BitVec.ofNat 16 (p.requiredSize - 20))

variable (crypto) in
theorem holds_putFingerprint {bytes : List Byte} (h : w.Holds bytes) :
    (putFingerprint crypto w).Holds (bytes ++ (fingerprintTlv crypto bytes).bytes) := by
  have hbs : fetch w.buffer 0 w.pos = bytes := h
  rw [putFingerprint, hbs]
  exact h.putPlain .fingerprint (Tlv.isPlain_set4Bytes _) (length_set4Bytes _)

variable (crypto) in
theorem Describes.length_message (h : p.Describes attrs) :
    (p.message crypto attrs).length = p.requiredSize := by
  rw [h.size, message, allAttributes, signedAttributes]
  simp only [length_append, length_header, flatMap_append, length_flatMap_when,
    flatMap_singleton, Tlv.length_bytes, size_integrityTlv, size_fingerprintTlv]
  omega

theorem ofNat_requiredSize_sub (p : StunPacket) :
    BitVec.ofNat 16 p.requiredSize - 20 = BitVec.ofNat 16 (p.requiredSize - 20) := by
  have hge : 20 ≤ p.requiredSize := by
    unfold requiredSize
    omega
  refine BitVec.eq_of_toNat_eq ?_
  simp only [BitVec.toNat_sub, BitVec.toNat_ofNat]
  show (2 ^ 16 - 20 % 2 ^ 16 + p.requiredSize % 2 ^ 16) % 2 ^ 16 = _
  omega

theorem holds_header (p : StunPacket) (buf : ℕ → Byte) (length : BitVec 16) :
    Writer.Holds ⟨store buf 0 (p.header length), 20⟩ (p.header length) := by
  have hself := fetch_store_self buf 0 (p.header length)
  rwa [length_header] at hself

variable (crypto) in
/-- **What `Serialize` writes.** -/
theorem serialize_spec (hname : p.username.length ≤ 65000) (buf : ℕ → Byte) :
    ∃ attrs buf', p.Describes attrs ∧ p.serialize crypto buf = .ok (p.serialized crypto attrs, buf') ∧
        fetch buf' 0 p.requiredSize = p.message crypto attrs := by
  have hhdr := holds_header p buf (BitVec.ofNat 16 p.requiredSize - 20)
  obtain ⟨attrs, hdescribes, hattrs⟩ := holds_putAttributes hname hhdr
  rw [ofNat_requiredSize_sub] at hattrs
  simp only [serialize, ofNat_requiredSize_sub]
  generalize p.putAttributes _ = w at hattrs ⊢
  have hsigned : (if p.addMessageIntegrity then p.putMessageIntegrity crypto p.requiredSize w else w).Holds
      (p.header (BitVec.ofNat 16 (p.requiredSize - 20)) ++
        (p.signedAttributes crypto attrs).flatMap Tlv.bytes) := by
    rw [signedAttributes, flatMap_append]
    cases p.addMessageIntegrity with
    | false =>
      rw [Tlv.when_false, flatMap_nil, append_nil]
      exact hattrs
    | true =>
      rw [Tlv.when_true, flatMap_singleton]
      exact holds_putMessageIntegrity hattrs
  generalize (if p.addMessageIntegrity then p.putMessageIntegrity crypto p.requiredSize w else w) = w'
    at hsigned ⊢
  have hfp : (putFingerprint crypto w').Holds (p.message crypto attrs) := by
    have := holds_putFingerprint crypto hsigned
    rwa [append_assoc, ← flatMap_singleton Tlv.bytes, ← flatMap_append] at this
  have hpos : (putFingerprint crypto w').pos = p.requiredSize := by
    rw [hfp.pos_eq, hdescribes.length_message]
  have hdata : fetch (putFingerprint crypto w').buffer 0 p.requiredSize = p.message crypto attrs := by
    rw [← hpos]
    exact hfp
  have hint : w.pos + 4 = 24 + (attrs.flatMap Tlv.bytes).length := by
    rw [hattrs.pos_eq, length_append, length_header]
    omega
  refine ⟨attrs, (putFingerprint crypto w').buffer, hdescribes, ?_, hdata⟩
  rw [hpos, beq_self_eq_true, msAssert_true, ok_bind, hdata, hint]
  rfl

end Serialize

/-! ## Reading the header back -/

section Header

variable {p : StunPacket} {length : BitVec 16} {rest : List Byte}

theorem read2Bytes_header_zero : read2Bytes (p.header length ++ rest) 0 = p.typeField :=
  read2Bytes_set2Bytes p.typeField []

theorem read2Bytes_header_two : read2Bytes (p.header length ++ rest) 2 = length :=
  read2Bytes_set2Bytes length []

theorem read4Bytes_header_four : read4Bytes (p.header length ++ rest) 4 = magicCookie :=
  read4Bytes_set4Bytes magicCookie []

theorem bytesAt_header : bytesAt 12 (p.header length ++ rest) 8 = p.transactionId := by
  refine Subtype.ext (ext_getElem ?_ fun i hi hi' => ?_)
  · simp [bytesAt, p.transactionId.2]
  · have hget : read1Byte (p.header length ++ rest) (8 + i) = read1Byte (p.transactionId.1 ++ rest) i := by
      rw [header, append_assoc]
      exact read1Byte_append_right (set2Bytes p.typeField ++ set2Bytes length ++ set4Bytes magicCookie) _ i
    simp only [bytesAt, getElem_map, getElem_range]
    rw [hget, read1Byte_append_left hi', read1Byte, getD_eq_getElem _ _ hi']

theorem typeField_read (hklass : p.klass = .request ∨ p.klass = .indication) (hmeth : p.method.toNat < 256) :
    p.typeField.extractLsb' 8 8 < 3 ∧
      headerClass (p.typeField.extractLsb' 8 8) (p.typeField.extractLsb' 0 8) = p.klass ∧
      headerMethod p.typeField = p.method := by
  obtain ⟨m, hm⟩ : ∃ m : BitVec 8, p.method = m.setWidth 16 := by
    refine ⟨p.method.setWidth 8, BitVec.eq_of_toNat_eq ?_⟩
    simp only [BitVec.toNat_setWidth]
    omega
  rw [typeField, hm]
  clear hm
  rcases hklass with hklass | hklass
  all_goals
    rw [hklass]
    revert m
    decide +kernel

end Header

/-! ## The attributes are well formed -/

section WellFormed

variable {cr : Crypto} {p : StunPacket} {attrs : List Tlv} {s : Scan}

theorem attr_integrityTlv {body : List Byte} :
    (p.integrityTlv cr body).attr = some .messageIntegrity := Tlv.attr_plain

theorem attr_fingerprintTlv {bytes : List Byte} : (fingerprintTlv cr bytes).attr = some .fingerprint :=
  Tlv.attr_plain

theorem Describes.sized (h : p.Describes attrs) : ∀ a ∈ p.allAttributes cr attrs, a.Sized := by
  intro a ha
  simp only [allAttributes, signedAttributes, mem_append, Tlv.mem_when, mem_singleton] at ha
  rcases ha with (ha | ⟨-, rfl⟩) | rfl
  · exact (h.mem a ha).1
  · rw [integrityTlv, Tlv.sized_plain, Subtype.property (cr.getHmacSha1 _ _)]
    rfl
  · rw [fingerprintTlv, Tlv.sized_plain]
    rfl

theorem Describes.ordered (h : p.Describes attrs) : (p.allAttributes cr attrs).Pairwise Tlv.MayPrecede := by
  have hother (a : Tlv) (ha : a ∈ attrs) (b : Tlv) : a.MayPrecede b :=
    ⟨(h.mem a ha).2.1, fun hmi => absurd hmi (h.mem a ha).2.2⟩
  rw [allAttributes, signedAttributes, append_assoc, pairwise_append, pairwise_append]
  refine ⟨pairwise_of_forall_mem_list fun a ha b _ => hother a ha b, ⟨?_, by simp, ?_⟩,
    fun a ha b _ => hother a ha b⟩
  · cases p.addMessageIntegrity <;> simp
  · intro a ha b hb
    obtain ⟨-, rfl⟩ := Tlv.mem_when.mp ha
    rw [mem_singleton.mp hb, Tlv.MayPrecede, attr_integrityTlv, attr_fingerprintTlv]
    decide

theorem Describes.wellFormed (h : p.Describes attrs) :
    WellFormed cr (p.message cr attrs) (p.allAttributes cr attrs) := by
  refine ⟨drop_left' (length_header p _), h.sized, h.ordered, ?_⟩
  intro pre a after happend ha
  have hlast := Tlv.eq_nil_of_fingerprint (happend ▸ h.ordered) ha
  rw [hlast, allAttributes] at happend
  obtain ⟨rfl, hsingle⟩ := append_inj' happend rfl
  rw [← singleton_inj.mp hsingle, message, take_left' (length_header p _)]
  rfl

/-! ## The packet that is read back -/

theorem packet_messageIntegrity (cr : Crypto) (p : StunPacket) (body : List Byte)
    (hdefault : s.packet.messageIntegrity = none) :
    ((Tlv.when p.addMessageIntegrity (p.integrityTlv cr body)).foldl Scan.take s).packet = { s.packet with
        messageIntegrity := if p.addMessageIntegrity then some (s.pos + 4) else none } := by
  refine packet_when (fun htake => ?_) fun hskip => ?_
  · rw [integrityTlv, take_plain, if_pos htake]
    rfl
  · rw [hskip, if_neg Bool.false_ne_true, ← hdefault]

variable (cr) in
theorem Describes.packetOf_message (h : p.Describes attrs)
    (hklass : p.klass = .request ∨ p.klass = .indication) :
    packetOf (p.message cr attrs) (p.allAttributes cr attrs) =
      { p.withAttributes (ofHeader (p.message cr attrs)) with
        messageIntegrity :=
          if p.addMessageIntegrity then some (24 + (attrs.flatMap Tlv.bytes).length) else none
        hasFingerprint := true } := by
  generalize hdata : p.message cr attrs = data
  have hattrs := h.packet hklass { packet := ofHeader data } data rfl
  have hpos := Scan.foldl_take_pos attrs { packet := ofHeader data }
  rw [packetOf, allAttributes, signedAttributes, foldl_append, foldl_append]
  generalize attrs.foldl Scan.take { packet := ofHeader data } = s at *
  have hint := packet_messageIntegrity cr p (attrs.flatMap Tlv.bytes)
    (congrArg messageIntegrity hattrs)
  rw [hattrs, hpos, show 20 + (attrs.flatMap Tlv.bytes).length + 4 =
    24 + (attrs.flatMap Tlv.bytes).length by omega] at hint
  rw [foldl_cons, foldl_nil, fingerprintTlv, take_plain]
  exact congrArg (fun q => { q with hasFingerprint := true }) hint

end WellFormed

/-! ## The check -/

section Check

variable (crypto : Crypto)

def SignedWith (password : List Byte) (q : StunPacket) : Prop :=
  ∃ pos, q.messageIntegrity = some pos ∧ 24 ≤ pos ∧ (q.data.drop pos).take 20 = (crypto.getHmacSha1 password
      ((setLength (BitVec.ofNat 16 (q.size - 20 - 8)) q.data).take (pos - 4))).1

variable {crypto} {p : StunPacket} {attrs : List Tlv}

variable {q : StunPacket}

theorem SignedWith.congr {pw : List Byte} {q' : StunPacket} (h : SignedWith crypto pw q)
    (hint : q'.messageIntegrity = q.messageIntegrity) (hdata : q'.data = q.data) (hsize : q'.size = q.size) :
    SignedWith crypto pw q' := by
  rw [SignedWith, hint, hdata, hsize]
  exact h

theorem signedWith_serialized (hsigned : p.addMessageIntegrity = true) :
    SignedWith crypto p.password (p.serialized crypto attrs) := by
  refine ⟨24 + (attrs.flatMap Tlv.bytes).length, if_pos hsigned, Nat.le_add_right _ _, ?_⟩
  show ((p.message crypto attrs).drop _).take 20 = (crypto.getHmacSha1 p.password ((setLength
    (BitVec.ofNat 16 (p.requiredSize - 20 - 8)) (p.message crypto attrs)).take _)).1
  have hattrs : (p.allAttributes crypto attrs).flatMap Tlv.bytes = attrs.flatMap Tlv.bytes ++
      ((p.integrityTlv crypto (attrs.flatMap Tlv.bytes)).head ++
        ((p.integrityTlv crypto (attrs.flatMap Tlv.bytes)).value ++ (fingerprintTlv crypto
          (p.header (BitVec.ofNat 16 (p.requiredSize - 20)) ++
            (p.signedAttributes crypto attrs).flatMap Tlv.bytes)).bytes)) := by
    rw [allAttributes, flatMap_append, flatMap_singleton, signedAttributes, hsigned]
    simp [Tlv.when, Tlv.bytes, integrityTlv, Tlv.plain]
  rw [message, setLength_header, hattrs]
  generalize (fingerprintTlv crypto _).bytes = fingerprint
  generalize attrs.flatMap Tlv.bytes = body
  have hpre (length : BitVec 16) (rest : List Byte) :
      (p.header length ++ (body ++ rest)).take (24 + body.length - 4) = p.header length ++ body := by
    rw [← append_assoc]
    refine take_left' ?_
    rw [length_append, length_header]
    omega
  have hv (length : BitVec 16) (a : Tlv) (hlen : a.value.length = 20) :
      ((p.header length ++ (body ++ (a.head ++ (a.value ++ fingerprint)))).drop
        (24 + body.length)).take 20 = a.value := by
    have hfront : (p.header length ++ (body ++ a.head)).length = 24 + body.length := by
      simp only [length_append, length_header, Tlv.length_head]
      omega
    rw [← append_assoc body, ← append_assoc, drop_left' hfront, take_left' hlen]
  rw [hpre, hv _ _ (crypto.getHmacSha1 _ _).2]
  rfl

theorem drop_setLength {data : List Byte} (hlen : 4 ≤ data.length) (length : BitVec 16) {pos : ℕ}
    (hpos : 4 ≤ pos) : (setLength length data).drop pos = data.drop pos := by
  have hfront : (data.take 2 ++ set2Bytes length).length = 4 := by
    rw [length_append, length_take, length_set2Bytes]
    omega
  obtain ⟨n, rfl⟩ := Nat.exists_eq_add_of_le hpos
  rw [setLength, ← drop_drop, drop_left' hfront, drop_drop]

theorem setLength_setLength {data : List Byte} (hlen : 4 ≤ data.length) (length len' : BitVec 16) :
    setLength len' (setLength length data) = setLength len' data := by
  have htake : (setLength length data).take 2 = data.take 2 := by
    rw [setLength, append_assoc]
    refine take_left' ?_
    rw [length_take]
    omega
  rw [setLength, htake, drop_setLength hlen length le_rfl]
  rfl

theorem checkAuthentication_snd (hlen : 4 ≤ q.data.length)
    (hlength : setLength (BitVec.ofNat 16 (q.size - 20)) q.data = q.data) (u pw : List Byte) :
    (checkAuthentication crypto u pw q).2 = q := by
  unfold checkAuthentication
  split
  · rfl
  split
  · rfl
  split
  · rfl
  split
  · rfl
  split
  · simp only [setLength_setLength hlen, hlength]
  · rfl

theorem checkAuthentication_of_signedWith {u rest pw : List Byte}
    (hklass : q.klass = .request ∨ q.klass = .indication) (hfp : q.hasFingerprint = true)
    (huser : q.username = u ++ 0x3A :: rest) (hlen : 4 ≤ q.data.length)
    (hlength : setLength (BitVec.ofNat 16 (q.size - 20)) q.data = q.data) (hsigned : SignedWith crypto pw q) :
    checkAuthentication crypto u pw q = (.ok, q) := by
  obtain ⟨pos, hpos, hge, hmac⟩ := hsigned
  have hresp : ¬ (q.klass = .successResponse ∨ q.klass = .errorResponse) := by
    rcases hklass with hklass | hklass <;> simp [hklass]
  have hname : ¬ (q.username.length ≤ u.length ∨ q.username[u.length]? ≠ some 0x3A ∨
      q.username.take u.length ≠ u) := by
    rw [huser]
    simp
  have hnil : ¬ q.username.isEmpty = true := by
    rw [huser]
    simp
  rw [checkAuthentication, if_neg hresp, hpos]
  simp only [if_neg hnil, if_neg hname, hfp, if_true]
  rw [drop_setLength hlen _ (by omega), if_pos hmac, setLength_setLength hlen, hlength, ← hpos, ← hfp]

end Check

/-! ## The round trip -/

section RoundTrip

variable {cr : Crypto} {p : StunPacket}

theorem four_dvd_length_flatMap (attrs : List Tlv) : 4 ∣ (attrs.flatMap Tlv.bytes).length := by
  induction attrs with
  | nil => exact Nat.dvd_zero 4
  | cons a attrs ih =>
    rw [flatMap_cons, length_append, Tlv.length_bytes, Tlv.size]
    omega

theorem requiredSize_le (hname : p.username.length ≤ 65000) : p.requiredSize ≤ 65124 := by
  have hpadded := usernamePaddedLen_eq hname
  have hxor : (p.xorMappedValue.elim 0 fun value => 4 + value.length) ≤ 24 := by
    have hlen := p.length_xorMappedValue
    cases hv : p.xorMappedValue with
    | none => exact Nat.zero_le 24
    | some value =>
      rw [hv, Option.getD_some] at hlen
      rw [Option.elim_some]
      omega
  have hite (cond : Bool) (n : ℕ) : (if cond then n else 0) ≤ n := by
    split <;> omega
  have huser : (if p.username.isEmpty then 0 else 4 + p.usernamePaddedLen) ≤ 65004 := by
    split <;> omega
  calc p.requiredSize ≤ 20 + 65004 + (4 + 4) + (4 + 8) + (4 + 8) + 4 + 24 + (4 + 4) + (4 + 20) + (4 + 4) := by
        unfold requiredSize
        gcongr <;> apply hite
    _ = 65124 := rfl

variable (cr) in
theorem Describes.validHeader {attrs : List Tlv} (h : p.Describes attrs) (hle : p.requiredSize ≤ 65124)
    (hklass : p.klass = .request ∨ p.klass = .indication) (hmeth : p.method.toNat < 256) :
    ValidHeader (p.message cr attrs) := by
  have hlen := h.length_message cr
  have hbody : p.requiredSize = 20 + ((p.allAttributes cr attrs).flatMap Tlv.bytes).length := by
    rw [← hlen, message, length_append, length_header]
  have hread : read2Bytes (p.message cr attrs) 2 = BitVec.ofNat 16 (p.requiredSize - 20) :=
    read2Bytes_header_two
  have hlength : (read2Bytes (p.message cr attrs) 2).toNat = p.requiredSize - 20 := by
    rw [hread, BitVec.toNat_ofNat, Nat.mod_eq_of_lt (by omega)]
  refine ⟨by omega, (typeField_read hklass hmeth).1, read4Bytes_header_four, by rw [hlength, hlen], ?_⟩
  have hdvd := four_dvd_length_flatMap (p.allAttributes cr attrs)
  rw [hlength]
  omega

/-- **A request or an indication is read back as it was written**, and passes the check with the name and
the password that it was written with. -/
theorem serialize_parse_checkAuthentication (crypto : Crypto) (p : StunPacket) (buffer : ℕ → Byte)
    (hklass : p.klass = .request ∨ p.klass = .indication) (hmethod : p.method.toNat < 256)
    (hname : p.username.length ≤ 65000) :
    ∃ p' buffer' q, p.serialize crypto buffer = .ok (p', buffer') ∧ p'.data = fetch buffer' 0 p'.size ∧
      (∀ turns, p'.data.length ≤ 4 * turns → parse crypto turns p'.data = some (.ok (some q))) ∧
      q.klass = p.klass ∧ q.method = p.method ∧ q.transactionId = p.transactionId ∧
      q.username = p.username ∧ q.priority = p.priority ∧ q.iceControlling = p.iceControlling ∧
      q.iceControlled = p.iceControlled ∧ q.hasUseCandidate = p.hasUseCandidate ∧ q.data = p'.data ∧
      ∀ u rest, p.username = u ++ 0x3A :: rest → p.password ≠ [] →
        checkAuthentication crypto u p.password q = (.ok, q) := by
  obtain ⟨attrs, buffer', hdescribes, hserialize, hbuffer⟩ := serialize_spec crypto hname buffer
  have hle := requiredSize_le hname
  have hheader := hdescribes.validHeader crypto hle hklass hmethod
  have hlen := hdescribes.length_message crypto
  have hq := hdescribes.packetOf_message crypto hklass
  refine ⟨_, buffer', packetOf (p.message crypto attrs) (p.allAttributes crypto attrs), hserialize,
    hbuffer.symm, ?_, ?_⟩
  · intro turns hturns
    obtain ⟨result, hparse, hresult⟩ := parse_of_valid crypto hheader (by omega) hturns
    rw [(hresult _).mpr ⟨_, hdescribes.wellFormed, rfl⟩] at hparse
    exact hparse
  · obtain ⟨-, hclass, hmeth⟩ := typeField_read hklass hmethod
    rw [hq]
    refine ⟨hclass, ?_, bytesAt_header, rfl, rfl, rfl, rfl, rfl, rfl, ?_⟩
    · show headerMethod (read2Bytes (p.header _ ++ _) 0) = p.method
      rw [read2Bytes_header_zero, hmeth]
    · intro u rest husername hpassword
      have hsigned : p.addMessageIntegrity = true := by
        unfold addMessageIntegrity
        rcases hklass with hklass | hklass <;> simp [hklass, hpassword]
      have hrestore : setLength (BitVec.ofNat 16 (p.requiredSize - 20)) (p.message crypto attrs) =
          p.message crypto attrs := setLength_header p _ _ _
      refine checkAuthentication_of_signedWith
        (hklass.imp (fun h => hclass.trans h) fun h => hclass.trans h) rfl husername
        (Nat.le_trans (by decide) hheader.length_ge) ?_
        ((signedWith_serialized hsigned).congr rfl rfl hlen)
      show setLength (BitVec.ofNat 16 ((p.message crypto _).length - 20)) _ = _
      rw [hlen]
      exact hrestore

def connectivityCheck : StunPacket where
  klass := .request
  method := binding
  transactionId := ⟨List.replicate 12 0x07, rfl⟩
  username := [0x75, 0x3A, 0x76]
  priority := 1
  password := [0x70]

theorem connectivityCheck_authentic :
    ∃ p' buffer' q, connectivityCheck.serialize constantCrypto (fun _ => 0xFF) = .ok (p', buffer') ∧
      (∀ turns, p'.data.length ≤ 4 * turns → parse constantCrypto turns p'.data = some (.ok (some q))) ∧
      checkAuthentication constantCrypto [0x75] [0x70] q = (.ok, q) := by
  obtain ⟨p', buffer', q, hserialize, -, hparse, -, -, -, -, -, -, -, -, -, hcheck⟩ :=
    serialize_parse_checkAuthentication constantCrypto connectivityCheck (fun _ => 0xFF) (.inl rfl)
      (by decide) (by decide)
  exact ⟨p', buffer', q, hserialize, hparse, hcheck [0x75] [0x76] rfl (by decide)⟩

end RoundTrip

end MediasoupWorker.RTC.StunPacket
