import MediasoupWorker.Common

/-!
# RTP dictionaries: the parameters of a producer or consumer

`src/include/RTC/RtpDictionaries.hpp`, `src/include/RTC/Parameters.hpp` and the files of
`src/src/RTC/RtpDictionaries/`. Every dictionary has a constructor that reads a JSON value; here
it is a function `ofJson`, with the checks and messages of the source in their order.
-/

namespace MediasoupWorker.RTC

open Library

/-! ## Parameters -/

inductive Parameters.Value where
  | boolean (value : Bool)
  | integer (value : ℤ)
  | double (value : Float)
  | string (value : String)
  | arrayOfIntegers (values : List ℤ)

def Parameters.Value.integerValue : Parameters.Value → ℤ
  | .integer n => n
  | _ => 0

structure Parameters where
  mapKeyValues : List (String × Parameters.Value) := []

namespace Parameters

def Value.ofJson : Json → Option Value
  | .boolean b => some (.boolean b)
  | .integer n => some (.integer (Json.integer n).int32)
  | .float x => some (.double x)
  | .string s => some (.string s)
  | .array entries =>
    if !entries.isEmpty && entries.all Json.isInteger then
      some (.arrayOfIntegers (entries.map Json.int32))
    else none
  | _ => none

def find (p : Parameters) (key : String) : Option Value := p.mapKeyValues.lookup key

def emplace (p : Parameters) (key : String) (value : Value) : Parameters :=
  if (p.find key).isSome then p else { mapKeyValues := p.mapKeyValues ++ [(key, value)] }

def set (p : Parameters) (fields : List (String × Json)) : Parameters :=
  fields.foldl (fun p field =>
    match Value.ofJson field.2 with
    | some value => p.emplace field.1 value
    | none => p) p

def hasInteger (p : Parameters) (key : String) : Bool :=
  match p.find key with
  | some (.integer _) => true
  | _ => false

def hasPositiveInteger (p : Parameters) (key : String) : Bool :=
  match p.find key with
  | some (.integer n) => decide (0 ≤ n)
  | _ => false

def getInteger (p : Parameters) (key : String) : Except Fault ℤ :=
  match p.find key with
  | some value => .ok value.integerValue
  | none => .error (.assertion ("key does not exist [key:" ++ key ++ "]"))

end Parameters

/-! ## Codecs -/

inductive RtpCodecMimeType.Type where
  | unset | audio | video
  deriving DecidableEq, Repr, Inhabited

inductive RtpCodecMimeType.Subtype where
  | unset
  | opus | pcma | pcmu | isac | g722 | ilbc | silk
  | vp8 | vp9 | h264 | xH264uc | h265
  | cn | telephoneEvent
  | rtx | ulpfec | xUlpfecuc | flexfec | red
  deriving DecidableEq, Repr, Inhabited

structure RtpCodecMimeType where
  type : RtpCodecMimeType.Type := .unset
  subtype : RtpCodecMimeType.Subtype := .unset
  mimeType : String := ""
  deriving DecidableEq, Repr, Inhabited

namespace RtpCodecMimeType

def Subtype.value : Subtype → ℕ
  | .unset => 0
  | .opus => 100 | .pcma => 101 | .pcmu => 102 | .isac => 103 | .g722 => 104 | .ilbc => 105
  | .silk => 106
  | .vp8 => 200 | .vp9 => 201 | .h264 => 202 | .xH264uc => 203 | .h265 => 204
  | .cn => 300 | .telephoneEvent => 301
  | .rtx => 400 | .ulpfec => 401 | .xUlpfecuc => 402 | .flexfec => 403 | .red => 404

def string2Type : List (String × «Type») := [("audio", .audio), ("video", .video)]

def type2String : «Type» → String
  | .unset => ""
  | .audio => "audio"
  | .video => "video"

def string2Subtype : List (String × Subtype) :=
  [("opus", .opus), ("pcma", .pcma), ("pcmu", .pcmu), ("isac", .isac), ("g722", .g722),
   ("ilbc", .ilbc), ("silk", .silk),
   ("vp8", .vp8), ("vp9", .vp9), ("h264", .h264), ("x-h264uc", .xH264uc), ("h265", .h265),
   ("cn", .cn), ("telephone-event", .telephoneEvent),
   ("rtx", .rtx), ("ulpfec", .ulpfec), ("flexfec", .flexfec), ("x-ulpfecuc", .xUlpfecuc), ("red", .red)]

def subtype2String : Subtype → String
  | .unset => ""
  | .opus => "opus" | .pcma => "PCMA" | .pcmu => "PCMU" | .isac => "ISAC" | .g722 => "G722"
  | .ilbc => "iLBC" | .silk => "SILK"
  | .vp8 => "VP8" | .vp9 => "VP9" | .h264 => "H264" | .xH264uc => "X-H264UC" | .h265 => "H265"
  | .cn => "CN" | .telephoneEvent => "telephone-event"
  | .rtx => "rtx" | .ulpfec => "ulpfec" | .xUlpfecuc => "x-ulpfecuc" | .flexfec => "flexfec"
  | .red => "red"

def isMediaCodec (m : RtpCodecMimeType) : Bool :=
  decide (100 ≤ m.subtype.value) && decide (m.subtype.value < 300)

def isComplementaryCodec (m : RtpCodecMimeType) : Bool :=
  decide (300 ≤ m.subtype.value) && decide (m.subtype.value < 400)

def isFeatureCodec (m : RtpCodecMimeType) : Bool := decide (400 ≤ m.subtype.value)

def setMimeType (mimeType : String) : Except Fault RtpCodecMimeType := do
  let chars := mimeType.toList
  let slashPos := chars.findIdx (· == '/')
  throwTypeErrorIf (slashPos == chars.length || slashPos == 0 || slashPos == chars.length - 1)
    "wrong codec MIME"
  let type := toLowerCase (String.ofList (chars.take slashPos))
  let subtype := toLowerCase (String.ofList (chars.drop (slashPos + 1)))
  match string2Type.lookup type with
  | none => throwTypeError ("unknown codec MIME type '" ++ type ++ "'")
  | some type =>
    match string2Subtype.lookup subtype with
    | none => throwTypeError ("unknown codec MIME subtype '" ++ subtype ++ "'")
    | some subtype =>
      return { type, subtype, mimeType := type2String type ++ "/" ++ subtype2String subtype }

def updateMimeType (m : RtpCodecMimeType) : Except Fault RtpCodecMimeType := do
  msAssert (m.type != .unset) "type unset"
  msAssert (m.subtype != .unset) "subtype unset"
  return { m with mimeType := type2String m.type ++ "/" ++ subtype2String m.subtype }

theorem type_ne_unset_of_setMimeType {mime : String} {m : RtpCodecMimeType} (h : setMimeType mime = .ok m) :
    m.type ≠ .unset := by
  rw [setMimeType] at h
  obtain ⟨-, -, h⟩ := bind_eq_ok.mp h
  dsimp only at h
  split at h
  · cases h
  rename_i type htype
  split at h
  · cases h
  cases h
  obtain ⟨pre, after, htable, -⟩ := List.lookup_eq_some_iff.mp htype
  have hmem : type ∈ string2Type.map Prod.snd := by
    rw [htable]
    simp
  rintro (rfl : type = .unset)
  revert hmem
  decide

end RtpCodecMimeType

structure RtcpFeedback where
  type : String := ""
  parameter : String := ""
  deriving DecidableEq, Repr, Inhabited

def RtcpFeedback.ofJson (data : Json) : Except Fault RtcpFeedback := do
  throwTypeErrorIf (!data.isObject) "data is not an object"
  match (data.find "type").bind Json.asString with
  | none => throwTypeError "missing type"
  | some type =>
    return { type, parameter := ((data.find "parameter").bind Json.asString).getD "" }

structure RtpCodecParameters where
  mimeType : RtpCodecMimeType := {}
  payloadType : ℕ := 0
  clockRate : ℕ := 0
  channels : ℕ := 1
  parameters : Parameters := {}
  rtcpFeedback : List RtcpFeedback := []

namespace RtpCodecParameters

def checkCodec (codec : RtpCodecParameters) : Except Fault Unit :=
  match codec.mimeType.subtype with
  | .rtx =>
    throwTypeErrorIf (!codec.parameters.hasPositiveInteger "apt")
      "missing apt parameter in RTX codec"
  | _ => .ok ()

def ofJson (data : Json) : Except Fault RtpCodecParameters := do
  throwTypeErrorIf (!data.isObject) "data is not an object"
  match (data.find "mimeType").bind Json.asString with
  | none => throwTypeError "missing mimeType"
  | some mimeType =>
    let mimeType ← RtpCodecMimeType.setMimeType mimeType
    match (data.find "payloadType").bind (Json.unsigned 8) with
    | none => throwTypeError "missing payloadType"
    | some payloadType =>
      match (data.find "clockRate").bind (Json.unsigned 32) with
      | none => throwTypeError "missing clockRate"
      | some clockRate =>
        let channels := ((data.find "channels").bind (Json.unsigned 8)).getD 1
        let parameters := Parameters.set {}
          (((data.find "parameters").bind Json.asObject).getD [])
        let rtcpFeedback ← (((data.find "rtcpFeedback").bind Json.asArray).getD []).mapM RtcpFeedback.ofJson
        let codec := { mimeType, payloadType, clockRate, channels, parameters, rtcpFeedback }
        codec.checkCodec
        return codec

variable {data : Json} {codec : RtpCodecParameters}

variable (h : ofJson data = .ok codec)

include h

theorem checked_of_ofJson : codec.mimeType.type ≠ .unset ∧ codec.checkCodec = .ok () := by
  rw [ofJson] at h
  obtain ⟨-, -, h⟩ := bind_eq_ok.mp h
  split at h
  · cases h
  obtain ⟨mime, hmimeType, h⟩ := bind_eq_ok.mp h
  split at h
  · cases h
  split at h
  · cases h
  obtain ⟨rtcpFeedback, -, h⟩ := bind_eq_ok.mp h
  obtain ⟨u, hcheck, h⟩ := bind_eq_ok.mp h
  cases h
  exact ⟨RtpCodecMimeType.type_ne_unset_of_setMimeType hmimeType, hcheck⟩

theorem exists_apt_of_ofJson (hrtx : codec.mimeType.subtype = .rtx) :
    ∃ n, codec.parameters.find "apt" = some (.integer n) := by
  have hcheck := (checked_of_ofJson h).2
  rw [checkCodec, hrtx] at hcheck
  have hpos := throwTypeErrorIf_eq_ok.mp hcheck
  rw [Bool.not_eq_false', Parameters.hasPositiveInteger] at hpos
  split at hpos
  · rename_i n hn
    exact ⟨n, hn⟩
  · cases hpos

end RtpCodecParameters

/-! ## Encodings -/

structure RtpRtxParameters where
  ssrc : ℕ := 0
  deriving DecidableEq, Repr, Inhabited

def RtpRtxParameters.ofJson (data : Json) : Except Fault RtpRtxParameters := do
  throwTypeErrorIf (!data.isObject) "data is not an object"
  return { ssrc := ((data.find "ssrc").bind (Json.unsigned 32)).getD 0 }

structure RtpEncodingParameters where
  ssrc : ℕ := 0
  rid : String := ""
  codecPayloadType : ℕ := 0
  hasCodecPayloadType : Bool := false
  rtx : RtpRtxParameters := {}
  hasRtx : Bool := false
  maxBitrate : ℕ := 0
  maxFramerate : Float := 0
  dtx : Bool := false
  scalabilityMode : String := ""
  spatialLayers : ℕ := 1
  temporalLayers : ℕ := 1
  ksvc : Bool := false

namespace RtpEncodingParameters

def scalabilityNumber : List Char → Option (ℕ × List Char)
  | c :: chars =>
    if c.isDigit && c != '0' then
      let tens := c.toNat - '0'.toNat
      match chars with
      | d :: rest => if d.isDigit then some (10 * tens + (d.toNat - '0'.toNat), rest)
        else some (tens, chars)
      | [] => some (tens, [])
    else none
  | [] => none

def matchScalabilityMode : List Char → Option (ℕ × ℕ × Bool)
  | c :: chars =>
    if c == 'L' || c == 'S' then
      match scalabilityNumber chars with
      | some (spatialLayers, 'T' :: chars) =>
        match scalabilityNumber chars with
        | some (temporalLayers, chars) =>
          let ksvc := "_KEY".toList.isPrefixOf chars
          let tail := if ksvc then chars.drop 4 else chars
          if tail.all fun c => c != '\n' && c != '\r' then
            some (spatialLayers, temporalLayers, ksvc)
          else none
        | none => none
      | _ => none
    else none
  | [] => none

def ofJson (data : Json) : Except Fault RtpEncodingParameters := do
  throwTypeErrorIf (!data.isObject) "data is not an object"
  let codecPayloadType := (data.find "codecPayloadType").bind (Json.unsigned 8)
  let rtx ← ((data.find "rtx").filter Json.isObject).mapM RtpRtxParameters.ofJson
  let scalabilityMode := ((data.find "scalabilityMode").bind Json.asString).getD ""
  let layers := matchScalabilityMode scalabilityMode.toList
  return {
    ssrc := ((data.find "ssrc").bind (Json.unsigned 32)).getD 0
    rid := ((data.find "rid").bind Json.asString).getD ""
    codecPayloadType := codecPayloadType.getD 0
    hasCodecPayloadType := codecPayloadType.isSome
    rtx := rtx.getD {}
    hasRtx := rtx.isSome
    maxBitrate := ((data.find "maxBitrate").bind (Json.unsigned 32)).getD 0
    maxFramerate := ((data.find "maxFramerate").bind Json.asDouble).getD 0
    dtx := ((data.find "dtx").bind Json.asBoolean).getD false
    scalabilityMode := if layers.isSome then scalabilityMode else ""
    spatialLayers := (layers.map fun l => l.1).getD 1
    temporalLayers := (layers.map fun l => l.2.1).getD 1
    ksvc := (layers.map fun l => l.2.2).getD false }

end RtpEncodingParameters

/-! ## Header extensions and RTCP -/

inductive RtpHeaderExtensionUri.Type where
  | unknown | mid | rtpStreamId | repairedRtpStreamId | absSendTime | transportWideCc01
  | frameMarking07 | frameMarking | ssrcAudioLevel | videoOrientation | toffset
  deriving DecidableEq, Repr, Inhabited

def RtpHeaderExtensionUri.Type.value : RtpHeaderExtensionUri.Type → Byte
  | unknown => 0
  | mid => 1
  | rtpStreamId => 2
  | repairedRtpStreamId => 3
  | absSendTime => 4
  | transportWideCc01 => 5
  | frameMarking07 => 6
  | frameMarking => 7
  | ssrcAudioLevel => 10
  | videoOrientation => 11
  | toffset => 12

def RtpHeaderExtensionUri.string2Type : List (String × RtpHeaderExtensionUri.Type) :=
  [("urn:ietf:params:rtp-hdrext:sdes:mid", .mid),
   ("urn:ietf:params:rtp-hdrext:sdes:rtp-stream-id", .rtpStreamId),
   ("urn:ietf:params:rtp-hdrext:sdes:repaired-rtp-stream-id", .repairedRtpStreamId),
   ("http://www.webrtc.org/experiments/rtp-hdrext/abs-send-time", .absSendTime),
   ("http://www.ietf.org/id/draft-holmer-rmcat-transport-wide-cc-extensions-01", .transportWideCc01),
   ("http://tools.ietf.org/html/draft-ietf-avtext-framemarking-07", .frameMarking07),
   ("urn:ietf:params:rtp-hdrext:framemarking", .frameMarking),
   ("urn:ietf:params:rtp-hdrext:ssrc-audio-level", .ssrcAudioLevel),
   ("urn:3gpp:video-orientation", .videoOrientation), ("urn:ietf:params:rtp-hdrext:toffset", .toffset)]

structure RtpHeaderExtensionParameters where
  uri : String := ""
  type : RtpHeaderExtensionUri.Type := .unknown
  id : ℕ := 0
  encrypt : Bool := false
  parameters : Parameters := {}

def RtpHeaderExtensionParameters.ofJson (data : Json) :
    Except Fault RtpHeaderExtensionParameters := do
  throwTypeErrorIf (!data.isObject) "data is not an object"
  match (data.find "uri").bind Json.asString with
  | none => throwTypeError "missing uri"
  | some uri =>
    throwTypeErrorIf (uri == "") "empty uri"
    let uri := toLowerCase uri
    let type := (RtpHeaderExtensionUri.string2Type.lookup uri).getD .unknown
    match (data.find "id").bind (Json.unsigned 8) with
    | none => throwTypeError "missing id"
    | some id =>
      throwTypeErrorIf (id == 0) "invalid id 0"
      return {
        uri, type, id
        encrypt := ((data.find "encrypt").bind Json.asBoolean).getD false
        parameters := Parameters.set {} (((data.find "parameters").bind Json.asObject).getD []) }

structure RtcpParameters where
  cname : String := ""
  ssrc : ℕ := 0
  reducedSize : Bool := true
  deriving DecidableEq, Repr, Inhabited

def RtcpParameters.ofJson (data : Json) : Except Fault RtcpParameters := do
  throwTypeErrorIf (!data.isObject) "data is not an object"
  return {
    cname := ((data.find "cname").bind Json.asString).getD ""
    ssrc := ((data.find "ssrc").bind (Json.unsigned 32)).getD 0
    reducedSize := ((data.find "reducedSize").bind Json.asBoolean).getD true }

end MediasoupWorker.RTC
