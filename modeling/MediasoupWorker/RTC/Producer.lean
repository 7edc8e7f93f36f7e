import MediasoupWorker.Library.OrderedMap
import MediasoupWorker.RTC.RtpParameters

/-!
# `Producer`: construction, and the streams that it creates

`src/src/RTC/Producer.cpp`. A producer creates an `RtpStreamRecv` for an encoding when the first packet of
that encoding arrives, and finds the encoding of a packet by ssrc, by RID, or because there is a single
encoding that has neither. A pointer to a stream is a position in `streams`.
-/

namespace MediasoupWorker.RTC

open Library

/-! ## Construction -/

inductive Media.Kind where
  | all | audio | video
  deriving DecidableEq, Repr, Inhabited

def Media.getKind (str : String) : Except Fault Media.Kind :=
  let str := toLowerCase str
  if str = "" then .ok .all
  else if str = "audio" then .ok .audio
  else if str = "video" then .ok .video
  else throwTypeError ("invalid media kind [kind:" ++ str ++ "]")

def Codecs.isValidTypeForCodec (type : RtpParameters.Type) (mimeType : RtpCodecMimeType) : Bool :=
  match type with
  | .none => false
  | .simple => true
  | .simulcast =>
    mimeType.type == .video && (mimeType.subtype == .vp8 || mimeType.subtype == .h264)
  | .svc => mimeType.type == .video && mimeType.subtype == .vp9
  | .pipe => true

structure RtpHeaderExtensionIds where
  mid : ℕ := 0
  rid : ℕ := 0
  rrid : ℕ := 0
  absSendTime : ℕ := 0
  transportWideCc01 : ℕ := 0
  frameMarking07 : ℕ := 0
  frameMarking : ℕ := 0
  ssrcAudioLevel : ℕ := 0
  videoOrientation : ℕ := 0
  toffset : ℕ := 0
  deriving DecidableEq, Repr, Inhabited

def RtpHeaderExtensionIds.add (ids : RtpHeaderExtensionIds) (exten : RtpHeaderExtensionParameters) :
    RtpHeaderExtensionIds :=
  let first (id : ℕ) := if id = 0 then exten.id else id
  match exten.type with
  | .unknown => ids
  | .mid => { ids with mid := first ids.mid }
  | .rtpStreamId => { ids with rid := first ids.rid }
  | .repairedRtpStreamId => { ids with rrid := first ids.rrid }
  | .absSendTime => { ids with absSendTime := first ids.absSendTime }
  | .transportWideCc01 => { ids with transportWideCc01 := first ids.transportWideCc01 }
  | .frameMarking07 => { ids with frameMarking07 := first ids.frameMarking07 }
  | .frameMarking => { ids with frameMarking := first ids.frameMarking }
  | .ssrcAudioLevel => { ids with ssrcAudioLevel := first ids.ssrcAudioLevel }
  | .videoOrientation => { ids with videoOrientation := first ids.videoOrientation }
  | .toffset => { ids with toffset := first ids.toffset }

structure Producer.RtpEncodingMapping where
  rid : String := ""
  ssrc : ℕ := 0
  mappedSsrc : ℕ := 0
  deriving DecidableEq, Repr, Inhabited

structure Producer.RtpMapping where
  codecs : OrderedMap ℕ ℕ := .empty
  encodings : List Producer.RtpEncodingMapping := []

structure RtpStreamRecv where
  encodingIdx : ℕ
  ssrc : ℕ
  payloadType : ℕ
  mimeType : RtpCodecMimeType
  clockRate : ℕ
  rid : String
  cname : String
  rtxSsrc : ℕ := 0
  rtxPayloadType : ℕ := 0
  useNack : Bool := false
  usePli : Bool := false
  useFir : Bool := false
  useInBandFec : Bool := false
  useDtx : Bool := false
  spatialLayers : ℕ := 1
  temporalLayers : ℕ := 1
  score : ℕ := 10
  hasRtx : Bool := false
  paused : Bool := false
  deriving DecidableEq, Repr

structure Producer where
  kind : Media.Kind
  rtpParameters : RtpParameters
  type : RtpParameters.Type
  rtpMapping : Producer.RtpMapping
  rtpHeaderExtensionIds : RtpHeaderExtensionIds
  paused : Bool
  maxRtcpInterval : ℕ
  keyFrameRequestDelay : Option ℕ
  streams : List RtpStreamRecv
  mapSsrcRtpStream : OrderedMap ℕ ℕ
  mapRtxSsrcRtpStream : OrderedMap ℕ ℕ
  rtpStreamByEncodingIdx : List (Option ℕ)
  rtpStreamScores : List ℕ
  mapRtpStreamMappedSsrc : OrderedMap ℕ ℕ
  mapMappedSsrcSsrc : OrderedMap ℕ ℕ

namespace Producer

def codecMappingOfJson (codec : Json) : Except Fault (ℕ × ℕ) := do
  throwTypeErrorIf (!codec.isObject) "wrong entry in rtpMapping.codecs (not an object)"
  match (codec.find "payloadType").bind (Json.unsigned 8) with
  | none => throwTypeError "wrong entry in rtpMapping.codecs (missing payloadType)"
  | some payloadType =>
    match (codec.find "mappedPayloadType").bind (Json.unsigned 8) with
    | none => throwTypeError "wrong entry in rtpMapping.codecs (missing mappedPayloadType)"
    | some mappedPayloadType => return (payloadType, mappedPayloadType)

def encodingMappingOfJson (mid : String) (size : ℕ) (encoding : Json) :
    Except Fault RtpEncodingMapping := do
  throwTypeErrorIf (!encoding.isObject) "wrong entry in rtpMapping.encodings"
  let missing := (encoding.find "ssrc").isNone && (encoding.find "rid").isNone
  throwTypeErrorIf (decide (size > 1) && missing)
    "wrong entry in rtpMapping.encodings (missing ssrc or rid)"
  throwTypeErrorIf (mid == "" && decide (size = 1) && missing)
    "wrong entry in rtpMapping.encodings (missing ssrc or rid, or rtpParameters.mid)"
  match (encoding.find "mappedSsrc").bind (Json.unsigned 32) with
  | none => throwTypeError "wrong entry in rtpMapping.encodings (missing mappedSsrc)"
  | some mappedSsrc =>
    return {
      rid := ((encoding.find "rid").bind Json.asString).getD ""
      ssrc := ((encoding.find "ssrc").bind (Json.unsigned 32)).getD 0
      mappedSsrc }

def rtpMappingOfJson (mid : String) (data : Json) : Except Fault RtpMapping := do
  throwTypeErrorIf (!data.isObject) "missing rtpMapping"
  match (data.find "codecs").bind Json.asArray with
  | none => throwTypeError "missing rtpMapping.codecs"
  | some entries =>
    let codecs ← entries.mapM codecMappingOfJson
    match (data.find "encodings").bind Json.asArray with
    | none => throwTypeError "missing rtpMapping.encodings"
    | some entries =>
      let encodings ← entries.mapM (encodingMappingOfJson mid entries.length)
      return {
        codecs := codecs.foldl (fun map codec => map.insert codec.1 codec.2) .empty
        encodings }

def ofJson (data : Json) : Except Fault Producer := do
  match (data.find "kind").bind Json.asString with
  | none => throwTypeError "missing kind"
  | some kind =>
    let kind ← Media.getKind kind
    throwTypeErrorIf (kind == .all) "invalid empty kind"
    let rtpParameters := (data.find "rtpParameters").getD .null
    throwTypeErrorIf (!rtpParameters.isObject) "missing rtpParameters"
    let rtpParameters ← RtpParameters.ofJson rtpParameters
    let type := rtpParameters.getType
    match rtpParameters.encodings with
    | [] => .error .outOfBounds
    | encoding :: _ =>
      let mediaCodec ← rtpParameters.getCodecForEncoding encoding
      throwTypeErrorIf (!Codecs.isValidTypeForCodec type mediaCodec.mimeType)
        (mediaCodec.mimeType.mimeType ++ " codec not supported for " ++ RtpParameters.type2String type)
      let rtpMapping ← rtpMappingOfJson rtpParameters.mid ((data.find "rtpMapping").getD .null)
      throwTypeErrorIf (rtpParameters.encodings.length != rtpMapping.encodings.length)
        "rtpParameters.encodings size does not match rtpMapping.encodings size"
      throwTypeErrorIf (rtpParameters.headerExtensions.any fun exten => exten.id == 0)
        "RTP extension id cannot be 0"
      return {
        kind, rtpParameters, type, rtpMapping
        rtpHeaderExtensionIds := rtpParameters.headerExtensions.foldl RtpHeaderExtensionIds.add {}
        paused := ((data.find "paused").bind Json.asBoolean).getD false
        maxRtcpInterval := if kind = .audio then 5000 else 1000
        keyFrameRequestDelay :=
          if kind = .video then
            some (((data.find "keyFrameRequestDelay").bind (Json.wrapped 32)).getD 0)
          else none
        streams := []
        mapSsrcRtpStream := .empty
        mapRtxSsrcRtpStream := .empty
        rtpStreamByEncodingIdx := List.replicate rtpParameters.encodings.length none
        rtpStreamScores := List.replicate rtpParameters.encodings.length 0
        mapRtpStreamMappedSsrc := .empty
        mapMappedSsrcSsrc := .empty }

/-! ## Streams -/

structure StreamPacket where
  ssrc : ℕ
  payloadType : ℕ
  rid : Option String := none
  rid_ne : rid ≠ some "" := by decide
  deriving DecidableEq, Repr

end Producer

def RtpStreamRecv.setRtx (rtpStream : RtpStreamRecv) (payloadType ssrc : ℕ) :
    Except Fault RtpStreamRecv := do
  let mimeType ← RtpCodecMimeType.updateMimeType
    { type := rtpStream.mimeType.type, subtype := .rtx }
  msAssert (mimeType.subtype == .rtx) "mimeType.subtype is not RTX"
  return { rtpStream with rtxPayloadType := payloadType, rtxSsrc := ssrc, hasRtx := true }

theorem RtpStreamRecv.setRtx_eq_ok {s : RtpStreamRecv} (htype : s.mimeType.type ≠ .unset) (pt ssrc : ℕ) :
    s.setRtx pt ssrc = .ok { s with rtxPayloadType := pt, rtxSsrc := ssrc, hasRtx := true } := by
  have hne : (s.mimeType.type != .unset) = true := by simpa using htype
  rw [RtpStreamRecv.setRtx, RtpCodecMimeType.updateMimeType, hne]
  rfl

namespace Producer

def newRtpStream (p : Producer) (packet : StreamPacket) (mediaCodec : RtpCodecParameters)
    (encodingIdx : ℕ) (encoding : RtpEncodingParameters) : RtpStreamRecv :=
  let hasOne (key : String) :=
    mediaCodec.parameters.hasInteger key &&
      (mediaCodec.parameters.find key).any fun value => value.integerValue == 1
  { encodingIdx
    ssrc := packet.ssrc
    payloadType := mediaCodec.payloadType
    mimeType := mediaCodec.mimeType
    clockRate := mediaCodec.clockRate
    rid := encoding.rid
    cname := p.rtpParameters.rtcp.cname
    spatialLayers := encoding.spatialLayers
    temporalLayers := encoding.temporalLayers
    useInBandFec := hasOne "useinbandfec"
    useDtx := hasOne "usedtx" || encoding.dtx
    useNack := mediaCodec.rtcpFeedback.any fun fb => fb.type == "nack" && fb.parameter == ""
    usePli := mediaCodec.rtcpFeedback.any fun fb => fb.type == "nack" && fb.parameter == "pli"
    useFir := mediaCodec.rtcpFeedback.any fun fb => fb.type == "ccm" && fb.parameter == "fir"
    paused := p.paused }

def addRtpStream (p : Producer) (stream : RtpStreamRecv) (mappedSsrc : ℕ) : Producer :=
  let rtpStream := p.streams.length
  { p with
    streams := p.streams ++ [stream]
    mapSsrcRtpStream := p.mapSsrcRtpStream.insert stream.ssrc rtpStream
    rtpStreamByEncodingIdx := p.rtpStreamByEncodingIdx.set stream.encodingIdx (some rtpStream)
    rtpStreamScores := p.rtpStreamScores.set stream.encodingIdx stream.score
    mapRtpStreamMappedSsrc := p.mapRtpStreamMappedSsrc.insert rtpStream mappedSsrc
    mapMappedSsrcSsrc := p.mapMappedSsrcSsrc.insert mappedSsrc stream.ssrc }

def createRtpStream (p : Producer) (packet : StreamPacket) (mediaCodec : RtpCodecParameters)
    (encodingIdx : ℕ) : Except Fault (Producer × Option ℕ) := do
  msAssert (p.mapSsrcRtpStream.find packet.ssrc).isNone
    "RtpStream with given SSRC already exists"
  match p.rtpStreamByEncodingIdx[encodingIdx]?, p.rtpParameters.encodings[encodingIdx]?,
    p.rtpMapping.encodings[encodingIdx]? with
  | some slot, some encoding, some encodingMapping =>
    msAssert slot.isNone "RtpStream for given encoding index already exists"
    let stream := p.newRtpStream packet mediaCodec encodingIdx encoding
    return (p.addRtpStream stream encodingMapping.mappedSsrc, some p.streams.length)
  | _, _, _ => .error .outOfBounds

def setRtxData (p : Producer) (packet : StreamPacket) (rtpStream : ℕ) (stream : RtpStreamRecv) :
    Producer :=
  { p with
    streams := p.streams.set rtpStream stream
    mapRtxSsrcRtpStream := p.mapRtxSsrcRtpStream.insert packet.ssrc rtpStream }

def setRtxStream (p : Producer) (packet : StreamPacket) :
    Option ℕ → Except Fault (Producer × Option ℕ)
  | none => .ok (p, none)
  | some rtpStream =>
    match p.streams[rtpStream]? with
    | none => .error .nullPointer
    | some stream =>
      if stream.hasRtx then .ok (p, none)
      else do
        let stream ← stream.setRtx packet.payloadType packet.ssrc
        return (p.setRtxData packet rtpStream stream, some rtpStream)

def packetKind (p : Producer) (packet : StreamPacket) (encoding : RtpEncodingParameters) :
    Except Fault (RtpCodecParameters × Bool × Bool) := do
  let mediaCodec ← p.rtpParameters.getCodecForEncoding encoding
  let rtxCodec ← p.rtpParameters.getRtxCodecForEncoding encoding
  return (mediaCodec, mediaCodec.payloadType == packet.payloadType,
    rtxCodec.any fun codec => codec.payloadType == packet.payloadType)

def ssrcLookup (p : Producer) (packet : StreamPacket) :
    ℕ → List RtpEncodingParameters → Except Fault (Option (Producer × Option ℕ))
  | _, [] => .ok none
  | i, encoding :: encodings => do
    let (mediaCodec, isMediaPacket, isRtxPacket) ← p.packetKind packet encoding
    if isMediaPacket && encoding.ssrc == packet.ssrc then
      some <$> p.createRtpStream packet mediaCodec i
    else if isRtxPacket && encoding.hasRtx && encoding.rtx.ssrc == packet.ssrc then
      some <$> p.setRtxStream packet (p.mapSsrcRtpStream.find encoding.ssrc)
    else p.ssrcLookup packet (i + 1) encodings

def streamWithRid (p : Producer) (rid : String) : Option ℕ :=
  (p.mapSsrcRtpStream.entries.find? fun entry =>
    p.streams[entry.2]?.any fun stream => stream.rid == rid).map Prod.snd

def ridLookup (p : Producer) (packet : StreamPacket) (rid : String) :
    ℕ → List RtpEncodingParameters → Except Fault (Producer × Option ℕ)
  | _, [] => .ok (p, none)
  | i, encoding :: encodings =>
    if encoding.rid ≠ rid then p.ridLookup packet rid (i + 1) encodings
    else do
      let (mediaCodec, isMediaPacket, isRtxPacket) ← p.packetKind packet encoding
      if isMediaPacket then
        if (p.streamWithRid rid).isSome then return (p, none)
        else p.createRtpStream packet mediaCodec i
      else if isRtxPacket then p.setRtxStream packet (p.streamWithRid rid)
      else p.ridLookup packet rid (i + 1) encodings

def singleLookup (p : Producer) (packet : StreamPacket) : Except Fault (Producer × Option ℕ) :=
  match p.rtpParameters.encodings with
  | [encoding] =>
    if encoding.ssrc = 0 ∧ encoding.rid = "" then do
      let (mediaCodec, isMediaPacket, isRtxPacket) ← p.packetKind packet encoding
      if isMediaPacket then
        if !p.mapSsrcRtpStream.entries.isEmpty then return (p, none)
        else p.createRtpStream packet mediaCodec 0
      else if isRtxPacket then
        p.setRtxStream packet (p.mapSsrcRtpStream.entries.head?.map Prod.snd)
      else return (p, none)
    else .ok (p, none)
  | _ => .ok (p, none)

def getRtpStream (p : Producer) (packet : StreamPacket) : Except Fault (Producer × Option ℕ) :=
  match p.mapSsrcRtpStream.find packet.ssrc with
  | some rtpStream => .ok (p, some rtpStream)
  | none =>
    match p.mapRtxSsrcRtpStream.find packet.ssrc with
    | some rtpStream => .ok (p, some rtpStream)
    | none => do
      match ← p.ssrcLookup packet 0 p.rtpParameters.encodings with
      | some result => return result
      | none =>
        match packet.rid with
        | some rid => p.ridLookup packet rid 0 p.rtpParameters.encodings
        | none => p.singleLookup packet

end Producer
end MediasoupWorker.RTC
