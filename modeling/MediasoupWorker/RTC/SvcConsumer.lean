import MediasoupWorker.RTC.Codecs.VP9
import MediasoupWorker.RTC.Consumer

/-!
# The SVC consumer

`src/src/RTC/SvcConsumer.cpp`. The consumer selects target layers of one stream, and the encoding context
of the codec, which is VP9, follows them. Layers are integers as in the source, with `-1` for none.
-/

namespace MediasoupWorker.RTC

open Library

structure SvcEnv where
  nowMs : ℕ := 0
  score : ℕ := 0
  hasDtx : Bool := false
  spatialLayers : ℕ := 1
  temporalLayers : ℕ := 1
  layerBitrate : ℤ → ℤ → ℕ := fun _ _ => 0
  spatialLayerBitrate : ℤ → ℕ := fun _ => 0
  activeMs : ℕ := 0
  lossPercentage : Float32 := 0
  increases : List (ℕ × Bool) := []
  uninitialized : BitVec 16 := 0

structure SvcParameters where
  kind : Media.Kind := .video
  consumableSsrc : BitVec 32
  ssrc : BitVec 32
  spatialLayers : ℕ
  temporalLayers : ℕ
  supportedCodecPayloadTypes : List ℕ

abbrev SvcPacket := ConsumedPacket Codecs.VP9.PayloadDescriptor

namespace SvcPacket

def isKeyFrame (packet : SvcPacket) : Bool :=
  (packet.descriptor.map fun d => d.isKeyFrame).getD false

def processPayload (packet : SvcPacket) (context : Codecs.VP9.EncodingContext) :
    Except Fault (Codecs.VP9.EncodingContext × SvcPacket × Bool) :=
  match packet.descriptor with
  | none => .ok (context, packet, true)
  | some descriptor => do
    let (context, result) ← Codecs.VP9.process context descriptor
    match result with
    | none => return (context, packet, false)
    | some marker => return (context, { packet with marker := packet.marker || marker }, true)

def asksMarker (context : Codecs.VP9.EncodingContext) (packet : SvcPacket) : Bool :=
  match packet.descriptor with
  | none => false
  | some d =>
    match Codecs.VP9.process context d with
    | .ok (_, some marker) => marker
    | _ => false

theorem processPayload_packet {p : SvcPacket} {context : Codecs.VP9.EncodingContext}
    {r : Codecs.VP9.EncodingContext × SvcPacket × Bool} (h : p.processPayload context = .ok r) :
    r.2.1 = { p with marker := p.marker || p.asksMarker context } := by
  rw [processPayload] at h
  rw [asksMarker]
  cases hdesc : p.descriptor with
  | none =>
    rw [hdesc] at h
    cases h
    dsimp only
    rw [Bool.or_false, ← hdesc]
  | some d =>
    rw [hdesc] at h
    obtain ⟨⟨c', m⟩, hproc, h⟩ := bind_eq_ok.mp h
    dsimp only
    rw [hproc, ← hdesc]
    cases m with
    | none =>
      cases h
      dsimp only
      rw [Bool.or_false]
    | some m =>
      cases h
      rw [hdesc]

end SvcPacket

structure SvcConsumer extends Consumer where
  producerRtpStream : Bool := false
  syncRequired : Bool := false
  rtpSeqManager : SeqManager 16 := {}
  preferredSpatialLayer : ℤ
  preferredTemporalLayer : ℤ
  provisionalTargetSpatialLayer : ℤ := -1
  provisionalTargetTemporalLayer : ℤ := -1
  encodingContext : Codecs.VP9.EncodingContext
  lastBweDowngradeAtMs : ℕ := 0
  rtpStream : RtpStream := {}
  outputs : List ConsumerOutput := []

namespace SvcConsumer

/-! ## State and outputs -/

section Basic

variable (params : SvcParameters) (env : SvcEnv) (s : SvcConsumer)

def emit (output : ConsumerOutput) : SvcConsumer :=
  { s with outputs := s.outputs ++ [output] }

def emitLayersChange : SvcConsumer :=
  s.emit (.layersChange
    (if s.encodingContext.currentSpatialLayer ≥ 0 then
      some (s.encodingContext.currentSpatialLayer.toNat, s.encodingContext.currentTemporalLayer)
    else none))

def isActive : Bool :=
  s.toConsumer.isActive && s.producerRtpStream && (decide (0 < env.score) || env.hasDtx)

def requestKeyFrame : SvcConsumer :=
  if params.kind = .video then s.emit (.keyFrameRequest params.consumableSsrc) else s

end Basic

/-! ## The selection of layers -/

section Selection

variable (params : SvcParameters) (env : SvcEnv) (s : SvcConsumer)

def recentlyDowngraded (selected layer : ℤ) : Bool :=
  decide ((env.nowMs + 2 ^ 64 - s.lastBweDowngradeAtMs) % 2 ^ 64 < bweDowngradeConservativeMs) &&
    decide (selected > -1) && decide (layer > s.encodingContext.currentSpatialLayer)

def recalculateLoop : List ℕ → ℤ → ℤ
  | [], selected => selected
  | layer :: layers, selected =>
    if s.recentlyDowngraded env selected layer then recalculateLoop layers selected
    else if env.spatialLayerBitrate layer = 0 then recalculateLoop layers selected
    else if (layer : ℤ) ≥ s.preferredSpatialLayer then layer
    else recalculateLoop layers layer

def recalculateTargetLayers : ℤ × ℤ :=
  if !s.producerRtpStream || env.score == 0 then (-1, -1)
  else
    let spatialLayer := s.recalculateLoop env (List.range env.spatialLayers) (-1)
    if spatialLayer = -1 then (-1, -1)
    else if spatialLayer = s.preferredSpatialLayer then (spatialLayer, s.preferredTemporalLayer)
    else if spatialLayer < s.preferredSpatialLayer then
      (spatialLayer, (params.temporalLayers : ℤ) - 1)
    else (spatialLayer, 0)

def targetLayers : ℤ × ℤ :=
  (s.encodingContext.targetSpatialLayer, s.encodingContext.targetTemporalLayer)

def setTargetLayers (spatialLayer temporalLayer : ℤ) : SvcConsumer :=
  { s with
    encodingContext := { s.encodingContext with
      targetSpatialLayer := spatialLayer
      targetTemporalLayer := temporalLayer } }

def updateTargetLayers (newTargetSpatialLayer newTargetTemporalLayer : ℤ) : SvcConsumer :=
  if newTargetSpatialLayer = -1 then
    { s with
      encodingContext := { s.encodingContext with
        targetSpatialLayer := -1
        currentSpatialLayer := -1
        targetTemporalLayer := -1
        currentTemporalLayer := -1 } }.emitLayersChange
  -- K-SVC needs a key frame for every switch, and full SVC for an upgrade
  else if newTargetSpatialLayer ≠ s.encodingContext.currentSpatialLayer ∧ (s.encodingContext.ksvc = true ∨
        newTargetSpatialLayer > s.encodingContext.currentSpatialLayer) then
    (s.setTargetLayers newTargetSpatialLayer newTargetTemporalLayer).requestKeyFrame params
  else s.setTargetLayers newTargetSpatialLayer newTargetTemporalLayer

end Selection

/-! ## The selection by available bitrate -/

section Bitrate

variable (params : SvcParameters) (env : SvcEnv) (s : SvcConsumer)

def virtualBitrate (bitrate : ℕ) (considerLoss : Bool) : ℕ :=
  SimulcastConsumer.virtualBitrate ({ lossPercentage := env.lossPercentage } : Env 0) bitrate
    considerLoss

def searchTemporalLayer (layer : ℕ) : List ℕ → Option (ℕ × ℕ)
  | [] => none
  | temporalLayer :: temporalLayers =>
    if (layer : ℤ) = s.provisionalTargetSpatialLayer ∧
        (temporalLayer : ℤ) ≤ s.provisionalTargetTemporalLayer then
      searchTemporalLayer layer temporalLayers
    else
      let required := env.layerBitrate layer temporalLayer
      if required = 0 then none else some (required, temporalLayer)

def searchLayers : List ℕ → Option (ℕ × ℕ × ℕ)
  | [] => none
  | layer :: layers =>
    if s.recentlyDowngraded env s.provisionalTargetSpatialLayer layer then none
    else if (layer : ℤ) < s.provisionalTargetSpatialLayer then searchLayers layers
    else
      match s.searchTemporalLayer env layer (List.range env.temporalLayers) with
      | some (required, temporalLayer) => some (required, layer, temporalLayer)
      | none => if (layer : ℤ) ≥ s.preferredSpatialLayer then none else searchLayers layers

def setProvisionalLayers (spatialLayer temporalLayer : ℤ) : SvcConsumer :=
  { s with
    provisionalTargetSpatialLayer := spatialLayer
    provisionalTargetTemporalLayer := temporalLayer }

def increaseLayer (bitrate : ℕ) (considerLoss : Bool) : Except Fault (SvcConsumer × ℕ) := do
  msAssert s.externallyManagedBitrate "bitrate is not externally managed"
  msAssert (s.isActive env) "should be active"
  if env.score = 0 then return (s, 0)
  else if s.provisionalTargetSpatialLayer = s.preferredSpatialLayer ∧
      s.provisionalTargetTemporalLayer = s.preferredTemporalLayer then
    return (s, 0)
  else
    match s.searchLayers env (List.range env.spatialLayers) with
    | none => return (s, 0)
    | some (required, layer, temporalLayer) =>
      if virtualBitrate env bitrate considerLoss < required then return (s, 0)
      else
        return (s.setProvisionalLayers layer temporalLayer,
          if required ≤ bitrate then required else bitrate)

def increaseLayerWithin (virtualBitrate bitrate : ℕ) : Except Fault (SvcConsumer × ℕ) := do
  msAssert s.externallyManagedBitrate "bitrate is not externally managed"
  msAssert (s.isActive env) "should be active"
  if env.score = 0 then return (s, 0)
  else if s.provisionalTargetSpatialLayer = s.preferredSpatialLayer ∧
      s.provisionalTargetTemporalLayer = s.preferredTemporalLayer then
    return (s, 0)
  else
    match s.searchLayers env (List.range env.spatialLayers) with
    | none => return (s, 0)
    | some (required, layer, temporalLayer) =>
      if virtualBitrate < required then return (s, 0)
      else
        return (s.setProvisionalLayers layer temporalLayer,
          if required ≤ bitrate then required else bitrate)

def applyLayers : Except Fault SvcConsumer := do
  msAssert s.externallyManagedBitrate "bitrate is not externally managed"
  msAssert (s.isActive env) "should be active"
  let layers := (s.provisionalTargetSpatialLayer, s.provisionalTargetTemporalLayer)
  let s := s.setProvisionalLayers (-1) (-1)
  if layers = s.targetLayers then return s
  else
    let s := s.updateTargetLayers params layers.1 layers.2
    if bweDowngradeMinActiveMs < env.activeMs ∧
        s.encodingContext.targetSpatialLayer < s.encodingContext.currentSpatialLayer ∧
        s.encodingContext.currentSpatialLayer ≤ s.preferredSpatialLayer then
      return { s with lastBweDowngradeAtMs := env.nowMs }
    else return s

def increaseLayers : List (ℕ × Bool) → SvcConsumer → Except Fault SvcConsumer
  | [], s => .ok s
  | (bitrate, considerLoss) :: calls, s => do
    let (s, _) ← s.increaseLayer env bitrate considerLoss
    increaseLayers calls s

def distribute : Except Fault SvcConsumer := do
  msAssert s.externallyManagedBitrate "bitrate is not externally managed"
  if s.isActive env then
    let s ← s.increaseLayers env env.increases
    s.applyLayers params env
  else return s

def mayChangeLayers (force : Bool) : Except Fault SvcConsumer :=
  let layers := s.recalculateTargetLayers params env
  if layers = s.targetLayers then .ok s
  else if s.externallyManagedBitrate then
    if layers.1 ≠ s.encodingContext.targetSpatialLayer ∨ force then s.distribute params env
    else .ok s
  else .ok (s.updateTargetLayers params layers.1 layers.2)

end Bitrate

/-! ## The forwarding of packets -/

section Forwarding

variable (params : SvcParameters) (env : SvcEnv) (s : SvcConsumer)

def synchronize (packet : SvcPacket) : SvcConsumer :=
  if s.syncRequired then
    { s with
      rtpSeqManager := s.rtpSeqManager.sync (packet.sequenceNumber - 1)
      syncRequired := false }
  else s

def transmit (packet : SvcPacket) : SvcConsumer × SvcPacket :=
  let (rtpSeqManager, seq) := s.rtpSeqManager.input packet.sequenceNumber
  let rewritten := { packet with
    ssrc := params.ssrc
    sequenceNumber := seq.getD env.uninitialized }
  let (rtpStream, accepted) :=
    s.rtpStream.receivePacket env.nowMs rewritten.sequenceNumber rewritten.timestamp
  let s := { s with rtpSeqManager, rtpStream }
  let s := if accepted then s.emit (.rtp (rewritten.sent seq)) else s
  (s, { rewritten with ssrc := packet.ssrc, sequenceNumber := packet.sequenceNumber })

def filterAndTransmit (packet : SvcPacket) : Except Fault (SvcConsumer × SvcPacket) := do
  let (encodingContext, packet, processed) ← packet.processPayload s.encodingContext
  if !processed then
    return ({ s with
      encodingContext
      rtpSeqManager := s.rtpSeqManager.drop packet.sequenceNumber }, packet)
  else if
      s.encodingContext.currentSpatialLayer ≠ encodingContext.currentSpatialLayer ∨
      s.encodingContext.currentTemporalLayer ≠ encodingContext.currentTemporalLayer then
    return { s with encodingContext }.emitLayersChange.transmit params env packet
  else return { s with encodingContext }.transmit params env packet

def considers (packet : SvcPacket) : Bool :=
  s.isActive env &&
    !(s.encodingContext.targetSpatialLayer == -1 || s.encodingContext.targetTemporalLayer == -1) &&
    decide (packet.payloadType ∈ params.supportedCodecPayloadTypes)

def sendRtpPacket (packet : SvcPacket) : Except Fault (SvcConsumer × SvcPacket) :=
  if !s.considers params env packet then .ok (s, packet)
  else if s.syncRequired && !packet.isKeyFrame then .ok (s, packet)
  else (s.synchronize packet).filterAndTransmit params env packet

end Forwarding

/-! ## Events -/

section Events

variable (params : SvcParameters) (env : SvcEnv) (s : SvcConsumer)

def restart : Except Fault SvcConsumer :=
  let s := { s with syncRequired := true }
  if s.isActive env then s.mayChangeLayers params env false else .ok s

def stop : SvcConsumer := { s with lastBweDowngradeAtMs := 0 }.updateTargetLayers params (-1) (-1)

def userOnPaused : SvcConsumer :=
  if s.externallyManagedBitrate then (s.stop params).emit .needZeroBitrate else s.stop params

def derived : Consumer.Derived SvcConsumer where
  base s := s.toConsumer
  setBase base s := { s with toConsumer := base }
  isActive := isActive env
  userOnTransportConnected := restart params env
  userOnTransportDisconnected := stop params
  userOnPaused := userOnPaused params
  userOnResumed := restart params env

def producerNewRtpStream : Except Fault SvcConsumer :=
  let s := { s with producerRtpStream := true }.emit .score
  if s.isActive env then s.mayChangeLayers params env false else .ok s

def producerRtpStreamScore (score previousScore : ℕ) : Except Fault SvcConsumer :=
  let s := s.emit .score
  if s.toConsumer.isActive && (!s.externallyManagedBitrate || score == 0 || previousScore == 0) then
    s.mayChangeLayers params env false
  else .ok s

def setPreferredLayers (data : Json) : Except Fault SvcConsumer :=
  match (data.find "spatialLayer").bind (Json.unsigned 16) with
  | none => throwTypeError "missing spatialLayer"
  | some spatialLayer =>
    let spatialLayer := min ((spatialLayer : ℤ).bmod (2 ^ 16)) ((params.spatialLayers : ℤ) - 1)
    let maxTemporalLayer := (params.temporalLayers : ℤ) - 1
    let temporalLayer :=
      match (data.find "temporalLayer").bind (Json.unsigned 16) with
      | none => maxTemporalLayer
      | some temporalLayer => min ((temporalLayer : ℤ).bmod (2 ^ 16)) maxTemporalLayer
    let changed := decide
      ((spatialLayer, temporalLayer) ≠ (s.preferredSpatialLayer, s.preferredTemporalLayer))
    let s := { s with
      preferredSpatialLayer := spatialLayer
      preferredTemporalLayer := temporalLayer }
    if s.isActive env && changed then s.mayChangeLayers params env true else .ok s

inductive Event where
  | rtpPacket (packet : SvcPacket)
  | newRtpStream
  | score (score previousScore : ℕ)
  | ownScore
  | base (event : Consumer.Event)
  | setPreferredLayers (data : Json)
  | distribute
  | requestKeyFrame
  | keyFrameRequest

def new (producerRtpStream : Bool) (preferredSpatialLayer preferredTemporalLayer : ℤ)
    (ksvc paused producerPaused : Bool) : SvcConsumer where
  producerRtpStream := producerRtpStream
  preferredSpatialLayer := preferredSpatialLayer
  preferredTemporalLayer := preferredTemporalLayer
  encodingContext :=
    { spatialLayers := params.spatialLayers, temporalLayers := params.temporalLayers, ksvc := ksvc }
  paused := paused
  producerPaused := producerPaused

def step (s : SvcConsumer) (event : Event × SvcEnv) : Except Fault SvcConsumer :=
  let env := event.2
  match event.1 with
  | .rtpPacket packet => Prod.fst <$> s.sendRtpPacket params env packet
  | .newRtpStream => s.producerNewRtpStream params env
  | .score score previousScore => s.producerRtpStreamScore params env score previousScore
  | .ownScore =>
    let s := s.emit .score
    if s.isActive env && !s.externallyManagedBitrate then s.mayChangeLayers params env false
    else .ok s
  | .base event => (derived params env).handle s event
  | .setPreferredLayers data =>
    match s.setPreferredLayers params env data with
    | .error (.typeError _) => .ok s
    | result => result
  | .distribute => if s.externallyManagedBitrate then s.distribute params env else .ok s
  | .requestKeyFrame | .keyFrameRequest =>
    .ok (if s.isActive env then s.requestKeyFrame params else s)

end Events

end SvcConsumer

end MediasoupWorker.RTC
