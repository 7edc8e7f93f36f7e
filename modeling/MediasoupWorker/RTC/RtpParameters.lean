import MediasoupWorker.Library.Scan
import MediasoupWorker.RTC.RtpDictionaries

/-!
# `RtpParameters`: construction, validation and the codec lookups

`src/src/RTC/RtpDictionaries/RtpParameters.cpp`. The lookups trust what the constructor has validated.
`GetRtxCodecForEncoding` takes every feature codec for an RTX codec: it reads `apt` of ULPFEC, FLEXFEC and
RED codecs too, which no validation asks for.
-/

namespace MediasoupWorker.RTC

open Library List

inductive RtpParameters.Type where
  | none | simple | simulcast | svc | pipe
  deriving DecidableEq, Repr, Inhabited

structure RtpParameters where
  mid : String := ""
  codecs : List RtpCodecParameters := []
  encodings : List RtpEncodingParameters := []
  headerExtensions : List RtpHeaderExtensionParameters := []
  rtcp : RtcpParameters := {}
  hasRtcp : Bool := false

namespace RtpParameters

def type2String : «Type» → String
  | .none => "none"
  | .simple => "simple"
  | .simulcast => "simulcast"
  | .svc => "svc"
  | .pipe => "pipe"

def getType (p : RtpParameters) : «Type» :=
  match p.encodings with
  | [] => .none
  | [encoding] =>
    if encoding.spatialLayers > 1 || encoding.temporalLayers > 1 then .svc else .simple
  | _ => .simulcast

/-! ## Validation -/

def validateApt (apt : ℤ) : List RtpCodecParameters → Except Fault Unit
  | [] => throwTypeError "apt in RTX codec points to a non existing codec"
  | codec :: codecs =>
    if (codec.payloadType : ℤ) = apt then
      match codec.mimeType.subtype with
      | .rtx => throwTypeError "apt in RTX codec points to a RTX codec"
      | .ulpfec => throwTypeError "apt in RTX codec points to a ULPFEC codec"
      | .flexfec => throwTypeError "apt in RTX codec points to a FLEXFEC codec"
      | _ => .ok ()
    else validateApt apt codecs

def validateRtxCodec (codecs : List RtpCodecParameters) (codec : RtpCodecParameters) :
    Except Fault Unit :=
  match codec.mimeType.subtype with
  | .rtx => do
    let apt ← codec.parameters.getInteger "apt"
    validateApt apt codecs
  | _ => .ok ()

def validateCodecsFrom (codecs : List RtpCodecParameters) :
    List ℕ → List RtpCodecParameters → Except Fault Unit
  | _, [] => .ok ()
  | payloadTypes, codec :: rest => do
    throwTypeErrorIf (payloadTypes.contains codec.payloadType) "duplicated payloadType"
    validateRtxCodec codecs codec
    validateCodecsFrom codecs (codec.payloadType :: payloadTypes) rest

def validateCodecs (codecs : List RtpCodecParameters) : Except Fault Unit :=
  validateCodecsFrom codecs [] codecs

def validateCodecPayloadType (codecPayloadType : ℕ) : List RtpCodecParameters → Except Fault Unit
  | [] => throwTypeError "unknown codecPayloadType"
  | codec :: codecs =>
    if codec.payloadType = codecPayloadType then
      throwTypeErrorIf (!codec.mimeType.isMediaCodec) "invalid codecPayloadType"
    else validateCodecPayloadType codecPayloadType codecs

def validateEncoding (codecs : List RtpCodecParameters) (encodingsSize firstMediaPayloadType : ℕ)
    (encoding : RtpEncodingParameters) : Except Fault RtpEncodingParameters := do
  throwTypeErrorIf (decide (encoding.spatialLayers > 1) && decide (encodingsSize > 1))
    "cannot use both simulcast and encodings with multiple SVC spatial layers"
  if encoding.hasCodecPayloadType then do
    validateCodecPayloadType encoding.codecPayloadType codecs
    return encoding
  else
    return { encoding with
      codecPayloadType := firstMediaPayloadType
      hasCodecPayloadType := true }

def validateEncodings (codecs : List RtpCodecParameters)
    (encodings : List RtpEncodingParameters) : Except Fault (List RtpEncodingParameters) :=
  match codecs.find? fun codec => codec.mimeType.isMediaCodec with
  | none => throwTypeError "no media codecs found"
  | some codec => encodings.mapM (validateEncoding codecs encodings.length codec.payloadType)

/-! ## The constructor and the lookups -/

def ofJson (data : Json) : Except Fault RtpParameters := do
  throwTypeErrorIf (!data.isObject) "data is not an object"
  let mid := (data.find "mid").bind Json.asString
  throwTypeErrorIf (mid == some "") "empty mid"
  match (data.find "codecs").bind Json.asArray with
  | none => throwTypeError "missing codecs"
  | some entries =>
    let codecs ← entries.mapM RtpCodecParameters.ofJson
    throwTypeErrorIf codecs.isEmpty "empty codecs"
    match (data.find "encodings").bind Json.asArray with
    | none => throwTypeError "missing encodings"
    | some entries =>
      let encodings ← entries.mapM RtpEncodingParameters.ofJson
      throwTypeErrorIf encodings.isEmpty "empty encodings"
      let headerExtensions ← (((data.find "headerExtensions").bind Json.asArray).getD []).mapM
        RtpHeaderExtensionParameters.ofJson
      let rtcp ← ((data.find "rtcp").filter Json.isObject).mapM RtcpParameters.ofJson
      validateCodecs codecs
      let encodings ← validateEncodings codecs encodings
      return {
        mid := mid.getD ""
        codecs, encodings, headerExtensions
        rtcp := rtcp.getD {}
        hasRtcp := rtcp.isSome }

def getCodecForEncoding (p : RtpParameters) (encoding : RtpEncodingParameters) :
    Except Fault RtpCodecParameters :=
  match p.codecs.find? fun codec => codec.payloadType == encoding.codecPayloadType with
  | some codec => .ok codec
  | none => .error (.abort "no valid codec payload type for the given encoding")

def findRtxCodec (payloadType : ℕ) :
    List RtpCodecParameters → Except Fault (Option RtpCodecParameters)
  | [] => .ok none
  | codec :: codecs =>
    if codec.mimeType.isFeatureCodec then do
      let apt ← codec.parameters.getInteger "apt"
      if apt = (payloadType : ℤ) then return some codec
      else findRtxCodec payloadType codecs
    else findRtxCodec payloadType codecs

def getRtxCodecForEncoding (p : RtpParameters) (encoding : RtpEncodingParameters) :
    Except Fault (Option RtpCodecParameters) :=
  findRtxCodec encoding.codecPayloadType p.codecs

/-! ## What an accepted value satisfies -/

structure Valid (p : RtpParameters) : Prop where
  rtx : ∀ codec ∈ p.codecs, codec.mimeType.subtype = .rtx →
    ∃ n, codec.parameters.find "apt" = some (.integer n)
  types : ∀ codec ∈ p.codecs, codec.mimeType.type ≠ .unset
  payloadTypes : (p.codecs.map RtpCodecParameters.payloadType).Nodup
  encodings : ∀ encoding ∈ p.encodings, ∃ codec ∈ p.codecs,
    codec.payloadType = encoding.codecPayloadType ∧ codec.mimeType.isMediaCodec = true

section Validation

variable {codecs : List RtpCodecParameters}

theorem nodup_of_validateCodecsFrom {all : List RtpCodecParameters} {seen : List ℕ}
    (h : validateCodecsFrom all seen codecs = .ok ()) :
    (codecs.map RtpCodecParameters.payloadType).Nodup ∧ ∀ codec ∈ codecs, codec.payloadType ∉ seen := by
  induction codecs generalizing seen with
  | nil => exact ⟨nodup_nil, by simp⟩
  | cons codec rest ih =>
    rw [validateCodecsFrom] at h
    obtain ⟨u, hdup, h⟩ := bind_eq_ok.mp h
    have hnot : codec.payloadType ∉ seen := by
      simpa using throwTypeErrorIf_eq_ok.mp hdup
    obtain ⟨-, -, h⟩ := bind_eq_ok.mp h
    obtain ⟨hnd, hfresh⟩ := ih h
    refine ⟨?_, ?_⟩
    · rw [map_cons, nodup_cons]
      refine ⟨?_, hnd⟩
      intro hmem
      obtain ⟨c, hc, he⟩ := mem_map.mp hmem
      exact hfresh c hc (by simp [he])
    · exact forall_mem_cons.mpr ⟨hnot, fun c hc hin => hfresh c hc (mem_cons_of_mem _ hin)⟩

theorem exists_of_validateCodecPayloadType {payloadType : ℕ}
    (h : validateCodecPayloadType payloadType codecs = .ok ()) :
    ∃ codec ∈ codecs, codec.payloadType = payloadType ∧ codec.mimeType.isMediaCodec = true := by
  induction codecs with
  | nil => cases h
  | cons codec rest ih =>
    rw [validateCodecPayloadType] at h
    split_ifs at h with hpt
    · refine ⟨codec, mem_cons_self .., hpt, ?_⟩
      simpa using throwTypeErrorIf_eq_ok.mp h
    · obtain ⟨c, hc, hc'⟩ := ih h
      exact ⟨c, mem_cons_of_mem _ hc, hc'⟩

theorem exists_of_validateEncoding {size : ℕ} {first : RtpCodecParameters} {enc enc' : RtpEncodingParameters}
    (hfirst : first ∈ codecs) (hmedia : first.mimeType.isMediaCodec = true)
    (h : validateEncoding codecs size first.payloadType enc = .ok enc') :
    ∃ codec ∈ codecs, codec.payloadType = enc'.codecPayloadType ∧ codec.mimeType.isMediaCodec = true := by
  rw [validateEncoding] at h
  obtain ⟨-, -, h⟩ := bind_eq_ok.mp h
  split_ifs at h
  · obtain ⟨u, hpt, h⟩ := bind_eq_ok.mp h
    cases h
    exact exists_of_validateCodecPayloadType hpt
  · cases h
    exact ⟨first, hfirst, rfl, hmedia⟩

theorem exists_of_validateEncodings {encs encs' : List RtpEncodingParameters}
    (h : validateEncodings codecs encs = .ok encs') : ∀ enc ∈ encs', ∃ codec ∈ codecs,
      codec.payloadType = enc.codecPayloadType ∧ codec.mimeType.isMediaCodec = true := by
  intro enc henc
  rw [validateEncodings] at h
  split at h
  · cases h
  · rename_i first hfirst
    obtain ⟨e, -, he⟩ := exists_of_mem_mapM h henc
    exact exists_of_validateEncoding (mem_of_find?_eq_some hfirst)
      (find?_some (p := fun c : RtpCodecParameters => c.mimeType.isMediaCodec) hfirst) he

end Validation

/-- **An accepted value is valid.** -/
theorem valid_of_ofJson {data : Json} {p : RtpParameters} (h : ofJson data = .ok p) : p.Valid := by
  rw [ofJson] at h
  obtain ⟨-, -, h⟩ := bind_eq_ok.mp h
  obtain ⟨-, -, h⟩ := bind_eq_ok.mp h
  split at h
  · cases h
  obtain ⟨codecs, hcodecs, h⟩ := bind_eq_ok.mp h
  obtain ⟨-, -, h⟩ := bind_eq_ok.mp h
  split at h
  · cases h
  obtain ⟨encs, -, h⟩ := bind_eq_ok.mp h
  obtain ⟨-, -, h⟩ := bind_eq_ok.mp h
  obtain ⟨headerExtensions, -, h⟩ := bind_eq_ok.mp h
  obtain ⟨rtcp, -, h⟩ := bind_eq_ok.mp h
  obtain ⟨u, hvalidate, h⟩ := bind_eq_ok.mp h
  obtain ⟨encs', hencodings, h⟩ := bind_eq_ok.mp h
  cases h
  refine ⟨fun codec hcodec hrtx => ?_, fun codec hcodec => ?_,
    (nodup_of_validateCodecsFrom hvalidate).1, exists_of_validateEncodings hencodings⟩
  · obtain ⟨e, -, hentry⟩ := exists_of_mem_mapM hcodecs hcodec
    exact RtpCodecParameters.exists_apt_of_ofJson hentry hrtx
  · obtain ⟨e, -, hentry⟩ := exists_of_mem_mapM hcodecs hcodec
    exact (RtpCodecParameters.checked_of_ofJson hentry).1

/-! ## The lookups -/

/-- **The media codec of an encoding is found.** -/
theorem getCodecForEncoding_of_valid {p : RtpParameters} (h : p.Valid) {enc : RtpEncodingParameters}
    (he : enc ∈ p.encodings) : ∃ codec ∈ p.codecs, p.getCodecForEncoding enc = .ok codec ∧
      codec.payloadType = enc.codecPayloadType ∧ codec.mimeType.isMediaCodec = true := by
  obtain ⟨codec, hcodec, hpt, hmedia⟩ := h.encodings enc he
  rw [getCodecForEncoding]
  cases hfind : p.codecs.find? fun c => c.payloadType == enc.codecPayloadType with
  | none =>
    have hnone := find?_eq_none.mp hfind codec hcodec
    simp [hpt] at hnone
  | some c =>
    have hc := mem_of_find?_eq_some hfind
    have hcpt : c.payloadType = enc.codecPayloadType := by
      simpa using find?_some hfind
    -- payload types are different, so the first match is the media codec
    have heq : c = codec :=
      inj_on_of_nodup_map h.payloadTypes hc hcodec (hcpt.trans hpt.symm)
    rw [heq] at hcpt ⊢
    exact ⟨codec, hcodec, rfl, hcpt, hmedia⟩

def AptMatches (payloadType : ℕ) (codec : RtpCodecParameters) : Prop :=
  codec.mimeType.isFeatureCodec = true ∧
    ∃ value, codec.parameters.find "apt" = some value ∧ value.integerValue = payloadType

def RtxLookupSafe (payloadType : ℕ) : List RtpCodecParameters → Prop :=
  UpToFirst (AptMatches payloadType) fun codec =>
    (codec.mimeType.isFeatureCodec = true → (codec.parameters.find "apt").isSome) ∧
      (AptMatches payloadType codec → codec.mimeType.subtype = .rtx)

def AptReadable (payloadType : ℕ) : List RtpCodecParameters → Prop :=
  UpToFirst (AptMatches payloadType) fun codec =>
    codec.mimeType.isFeatureCodec = true → (codec.parameters.find "apt").isSome

section RtxLookup

variable {pt : ℕ} {codec : RtpCodecParameters} {codecs : List RtpCodecParameters}

theorem findRtxCodec_cons_of_matches (hmatch : AptMatches pt codec) :
    findRtxCodec pt (codec :: codecs) = .ok (some codec) := by
  obtain ⟨hfeat, v, hv, hapt⟩ := hmatch
  rw [findRtxCodec, if_pos hfeat, Parameters.getInteger, hv]
  show (if v.integerValue = _ then _ else _) = _
  rw [if_pos hapt]
  rfl

theorem findRtxCodec_cons_of_not_matches (hno : ¬ AptMatches pt codec)
    (hapt : codec.mimeType.isFeatureCodec = true → (codec.parameters.find "apt").isSome) :
    findRtxCodec pt (codec :: codecs) = findRtxCodec pt codecs := by
  rw [findRtxCodec]
  split_ifs with hfeat
  · obtain ⟨v, hv⟩ := Option.isSome_iff_exists.mp (hapt hfeat)
    rw [Parameters.getInteger, hv]
    show (if v.integerValue = _ then _ else _) = _
    rw [if_neg fun h => hno ⟨hfeat, v, hv, h⟩]
  · rfl

theorem findRtxCodec_cons_of_missing (hfeat : codec.mimeType.isFeatureCodec = true)
    (hgap : codec.parameters.find "apt" = none) :
    findRtxCodec pt (codec :: codecs) = .error (.assertion "key does not exist [key:apt]") := by
  rw [findRtxCodec, if_pos hfeat, Parameters.getInteger, hgap]
  rfl

theorem of_findRtxCodec_eq_some {c : RtpCodecParameters} (h : findRtxCodec pt codecs = .ok (some c)) :
    c ∈ codecs ∧ AptMatches pt c := by
  induction codecs with
  | nil => cases h
  | cons codec codecs ih =>
    by_cases hmatch : AptMatches pt codec
    · rw [findRtxCodec_cons_of_matches hmatch] at h
      cases h
      exact ⟨mem_cons_self .., hmatch⟩
    · by_cases hapt : codec.mimeType.isFeatureCodec = true → (codec.parameters.find "apt").isSome
      · rw [findRtxCodec_cons_of_not_matches hmatch hapt] at h
        exact ⟨mem_cons_of_mem _ (ih h).1, (ih h).2⟩
      · obtain ⟨hfeat, hgap⟩ := Classical.not_imp.mp hapt
        rw [findRtxCodec_cons_of_missing hfeat (by simpa using hgap)] at h
        cases h

theorem findRtxCodec_isOk_iff : (∃ r, findRtxCodec pt codecs = .ok r) ↔ AptReadable pt codecs := by
  induction codecs with
  | nil => exact ⟨fun _ => trivial, fun _ => ⟨none, rfl⟩⟩
  | cons codec codecs ih =>
    by_cases hmatch : AptMatches pt codec
    · rw [findRtxCodec_cons_of_matches hmatch, AptReadable, upToFirst_cons_of_stop hmatch]
      constructor
      · rintro - -
        obtain ⟨-, v, hv, -⟩ := hmatch
        rw [hv]
        rfl
      · intro
        exact ⟨some codec, rfl⟩
    · rw [AptReadable, upToFirst_cons_of_not_stop hmatch]
      by_cases hapt : codec.mimeType.isFeatureCodec = true → (codec.parameters.find "apt").isSome
      · rw [findRtxCodec_cons_of_not_matches hmatch hapt, ih]
        exact ⟨fun h => ⟨hapt, h⟩, fun h => h.2⟩
      · obtain ⟨hfeat, hgap⟩ := Classical.not_imp.mp hapt
        rw [findRtxCodec_cons_of_missing hfeat (by simpa using hgap)]
        constructor
        · rintro ⟨r, hr⟩
          cases hr
        · rintro ⟨h, -⟩
          exact absurd h hapt

theorem rtxLookupSafe_iff : RtxLookupSafe pt codecs ↔ AptReadable pt codecs ∧
      ∀ c, findRtxCodec pt codecs = .ok (some c) → c.mimeType.subtype = .rtx := by
  induction codecs with
  | nil =>
    refine ⟨fun _ => ⟨trivial, ?_⟩, fun _ => trivial⟩
    rintro c ⟨⟩
  | cons codec codecs ih =>
    by_cases hmatch : AptMatches pt codec
    · rw [RtxLookupSafe, AptReadable, upToFirst_cons_of_stop hmatch,
        upToFirst_cons_of_stop hmatch, findRtxCodec_cons_of_matches hmatch]
      refine and_congr_right fun _ => ⟨?_, fun h _ => h codec rfl⟩
      rintro h c ⟨⟩
      exact h hmatch
    · rw [RtxLookupSafe, AptReadable, upToFirst_cons_of_not_stop hmatch, upToFirst_cons_of_not_stop hmatch]
      constructor
      · rintro ⟨⟨hapt, -⟩, hrest⟩
        rw [findRtxCodec_cons_of_not_matches hmatch hapt]
        exact ⟨⟨hapt, (ih.mp hrest).1⟩, (ih.mp hrest).2⟩
      · rintro ⟨⟨hapt, hrest⟩, hrtx⟩
        rw [findRtxCodec_cons_of_not_matches hmatch hapt] at hrtx
        exact ⟨⟨hapt, fun h => absurd h hmatch⟩, ih.mpr ⟨hrest, hrtx⟩⟩

/-- **The lookup returns null or an RTX codec, exactly when it is safe.** -/
theorem findRtxCodec_ok_iff :
    (∃ r, findRtxCodec pt codecs = .ok r ∧ ∀ c ∈ r, c.mimeType.subtype = .rtx) ↔ RtxLookupSafe pt codecs := by
  rw [rtxLookupSafe_iff, ← findRtxCodec_isOk_iff]
  constructor
  · rintro ⟨r, hr, hrtx⟩
    refine ⟨⟨r, hr⟩, fun c hc => ?_⟩
    rw [hr] at hc
    cases hc
    exact hrtx c rfl
  · rintro ⟨⟨r, hr⟩, hrtx⟩
    refine ⟨r, hr, ?_⟩
    rintro c rfl
    exact hrtx c hr

end RtxLookup

/-- **Accepted parameters are usable exactly when the RTX lookup is safe**: the feature codecs that
it meets have an `apt`, and the first that matches is an RTX codec. -/
theorem lookups_usable_iff (data : Json) (p : RtpParameters) (hp : ofJson data = .ok p)
    (encoding : RtpEncodingParameters) (hencoding : encoding ∈ p.encodings) :
    (∃ codec ∈ p.codecs, p.getCodecForEncoding encoding = .ok codec ∧ codec.mimeType.isMediaCodec = true ∧
      ∃ r, p.getRtxCodecForEncoding encoding = .ok r ∧ ∀ c ∈ r, c ∈ p.codecs ∧ c.mimeType.subtype = .rtx ∧
        c.parameters.find "apt" = some (.integer codec.payloadType)) ↔
      RtxLookupSafe encoding.codecPayloadType p.codecs := by
  have hvalid := valid_of_ofJson hp
  obtain ⟨codec, hcodec, hget, hpt, hmedia⟩ := getCodecForEncoding_of_valid hvalid hencoding
  rw [← findRtxCodec_ok_iff]
  constructor
  · rintro ⟨c₀, -, -, -, r, hr, hrtx⟩
    exact ⟨r, hr, fun c hc => (hrtx c hc).2.1⟩
  · rintro ⟨r, hr, hrtx⟩
    refine ⟨codec, hcodec, hget, hmedia, r, hr, ?_⟩
    rintro c hc
    obtain rfl : r = some c := hc
    obtain ⟨hmem, -, value, hvalue, hapt⟩ := of_findRtxCodec_eq_some hr
    obtain ⟨n, hn⟩ := hvalid.rtx c hmem (hrtx c rfl)
    obtain rfl : value = .integer n := by simpa [hn] using hvalue.symm
    refine ⟨hmem, hrtx c rfl, ?_⟩
    rw [hvalue, hpt, ← hapt]
    rfl

def codecJson (mimeType : String) (payloadType : ℤ) (parameters : List (String × Json)) : Json :=
  .object [("mimeType", .string mimeType), ("payloadType", .integer payloadType),
    ("clockRate", .integer 90000), ("parameters", .object parameters)]

def parametersJson (codecs : List Json) : Json :=
  .object [("codecs", .array codecs), ("encodings", .array [.object []])]

def vp8RtxRedJson : Json :=
  parametersJson [codecJson "video/VP8" 96 [], codecJson "video/rtx" 97 [("apt", .integer 96)],
    codecJson "video/red" 98 []]

theorem lookups_usable_vp8_rtx_red :
    ∃ p, ofJson vp8RtxRedJson = .ok p ∧ ∃ encoding ∈ p.encodings, ∃ codec ∈ p.codecs,
        p.getCodecForEncoding encoding = .ok codec ∧ codec.mimeType.isMediaCodec = true ∧
        ∃ r, p.getRtxCodecForEncoding encoding = .ok r ∧ ∀ c ∈ r, c ∈ p.codecs ∧ c.mimeType.subtype = .rtx ∧
          c.parameters.find "apt" = some (.integer codec.payloadType) := by
  refine ⟨_, rfl, _, List.mem_cons_self .., ?_⟩
  refine (lookups_usable_iff vp8RtxRedJson _ rfl _ (List.mem_cons_self ..)).mpr ?_
  refine findRtxCodec_ok_iff.mp ⟨_, rfl, ?_⟩
  rintro c ⟨⟩
  rfl

/-- **An accepted ULPFEC codec breaks the RTX lookup.**  Without `apt` the lookup aborts; with the
`apt` of the media codec it is returned as the RTX codec. -/
theorem ulpfec_breaks_rtx_lookup :
    (∃ p, ofJson (parametersJson [codecJson "video/VP8" 96 [], codecJson "video/ulpfec" 97 []]) = .ok p ∧
      ∃ encoding ∈ p.encodings, p.getRtxCodecForEncoding encoding =
        .error (.assertion "key does not exist [key:apt]")) ∧
    ∃ p, ofJson (parametersJson [codecJson "video/VP8" 96 [],
        codecJson "video/ulpfec" 97 [("apt", .integer 96)]]) = .ok p ∧
      ∃ encoding ∈ p.encodings, ∃ codec, p.getRtxCodecForEncoding encoding = .ok (some codec) ∧
        codec.mimeType.subtype = .ulpfec :=
  ⟨⟨_, rfl, _, List.mem_cons_self .., rfl⟩, _, rfl, _, List.mem_cons_self .., _, rfl, rfl⟩

end RtpParameters

end MediasoupWorker.RTC
