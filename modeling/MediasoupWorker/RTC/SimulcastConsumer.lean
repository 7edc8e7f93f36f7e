import MediasoupWorker.RTC.Codecs.Handler
import MediasoupWorker.RTC.Producer
import MediasoupWorker.RTC.RtpStream

/-!
# The simulcast consumer

`src/src/RTC/SimulcastConsumer.cpp`, with the parts of `src/src/RTC/Consumer.cpp` that it builds on. The
consumer forwards one spatial layer at a time, and switches to its target layer at the next key frame, by
the RTCP sender reports of the target stream and of a reference stream. What the code reads from the
clock, the producer streams and the transport comes with each event, in an `Env`.
-/

namespace MediasoupWorker.RTC

open Library

def streamGoodScore : ℕ := 5
def streamMinActiveMs : ℕ := 2000
def bweDowngradeConservativeMs : ℕ := 10000
def bweDowngradeMinActiveMs : ℕ := 8000

structure StreamReading where
  score : ℕ := 0
  hasDtx : Bool := false
  activeMs : ℕ := 0
  temporalLayers : ℕ := 1
  layerBitrate : ℤ → ℕ := fun _ => 0
  bitrate : ℤ → ℕ := fun _ => 0

structure Env (n : ℕ) where
  nowMs : ℕ := 0
  reading : Fin n → StreamReading := fun _ => {}
  activeMs : ℕ := 0
  lossPercentage : Float32 := 0
  increases : List (ℕ × Bool) := []
  uninitialized : BitVec 16 := 0

structure SimulcastParameters (n : ℕ) where
  kind : Media.Kind := .video
  consumableSsrcs : Fin n → BitVec 32
  ssrc : BitVec 32
  clockRate : ℕ
  temporalLayers : ℕ
  supportedCodecPayloadTypes : List ℕ

structure SimulcastPacket (h : Codecs.Handler) where
  ssrc : BitVec 32
  payloadType : ℕ
  sequenceNumber : BitVec 16
  timestamp : BitVec 32
  marker : Bool := false
  descriptor : Option h.Descriptor := none
  payload : List Byte := []

namespace SimulcastPacket

variable {h : Codecs.Handler} (packet : SimulcastPacket h)

def isKeyFrame : Bool := (packet.descriptor.map h.isKeyFrame).getD false

def temporalLayer : ℕ := (packet.descriptor.map h.temporalLayer).getD 0

def processPayload (context : h.Context) :
    Except Fault (h.Context × SimulcastPacket h × Bool) :=
  match packet.descriptor with
  | none => .ok (context, packet, true)
  | some descriptor => do
    let (context, result) ← h.process context descriptor packet.payload
    match result with
    | none => return (context, packet, false)
    | some (payload, marker) =>
      return (context, { packet with payload, marker := packet.marker || marker }, true)

variable {packet}

theorem processPayload_header {c : h.Context} {r : h.Context × SimulcastPacket h × Bool}
    (hr : packet.processPayload c = .ok r) :
    r.2.1.sequenceNumber = packet.sequenceNumber ∧ r.2.1.timestamp = packet.timestamp := by
  rw [processPayload] at hr
  split at hr
  · cases hr
    exact ⟨rfl, rfl⟩
  · obtain ⟨⟨c', sent⟩, -, hr⟩ := bind_eq_ok.mp hr
    cases sent with
    | none =>
      cases hr
      exact ⟨rfl, rfl⟩
    | some sent =>
      cases hr
      exact ⟨rfl, rfl⟩

end SimulcastPacket

structure SentPacket where
  ssrc : BitVec 32
  payloadType : ℕ
  sequenceNumber : Option (BitVec 16)
  timestamp : BitVec 32
  marker : Bool
  payload : List Byte
  deriving DecidableEq, Repr

inductive SimulcastOutput where
  | rtp (packet : SentPacket)
  | keyFrameRequest (mappedSsrc : BitVec 32)
  | layersChange (layers : Option (ℕ × ℤ))
  | score
  | needZeroBitrate
  deriving DecidableEq, Repr

structure SimulcastConsumer (h : Codecs.Handler) (n : ℕ) where
  transportConnected : Bool := false
  paused : Bool := false
  producerPaused : Bool := false
  producerClosed : Bool := false
  externallyManagedBitrate : Bool := false
  producerRtpStreams : Fin n → Option LastSenderReport := fun _ => none
  syncRequired : Bool := false
  rtpSeqManager : SeqManager 16 := {}
  preferredSpatialLayer : ℤ
  preferredTemporalLayer : ℤ
  provisionalTargetSpatialLayer : Option (Fin n) := none
  provisionalTargetTemporalLayer : ℤ := -1
  targetSpatialLayer : Option (Fin n) := none
  targetTemporalLayer : ℤ := -1
  currentSpatialLayer : Option (Fin n) := none
  tsReferenceSpatialLayer : Option (Fin n) := none
  encodingContext : h.Context
  tsOffset : BitVec 32 := 0
  keyFrameForTsOffsetRequested : Bool := false
  lastBweDowngradeAtMs : ℕ := 0
  rtpStream : RtpStream := {}
  outputs : List SimulcastOutput := []

def layerNumber {n : ℕ} : Option (Fin n) → ℤ
  | none => -1
  | some layer => layer

def SimulcastParameters.spatialLayerOf {n : ℕ} (params : SimulcastParameters n)
    (mappedSsrc : BitVec 32) : Option (Fin n) :=
  (List.finRange n).reverse.find? fun layer => params.consumableSsrcs layer == mappedSsrc

namespace SimulcastConsumer

variable {h : Codecs.Handler} {n : ℕ}

/-! ## State and outputs -/

section Basic

variable (params : SimulcastParameters n) (env : Env n) (s : SimulcastConsumer h n)

def emit (output : SimulcastOutput) : SimulcastConsumer h n :=
  { s with outputs := s.outputs ++ [output] }

def emitLayersChange : SimulcastConsumer h n :=
  s.emit (.layersChange (s.currentSpatialLayer.map fun layer =>
    ((layer : ℕ), h.currentTemporalLayer s.encodingContext)))

def isConsumerActive : Bool :=
  s.transportConnected && !s.paused && !s.producerPaused && !s.producerClosed

def isActive : Bool :=
  s.isConsumerActive && (List.finRange n).any fun layer =>
      (s.producerRtpStreams layer).isSome &&
        (decide (0 < (env.reading layer).score) || (env.reading layer).hasDtx)

def getProducerTargetRtpStream : Option LastSenderReport :=
  s.targetSpatialLayer.bind s.producerRtpStreams

def getProducerCurrentRtpStream : Option LastSenderReport :=
  s.currentSpatialLayer.bind s.producerRtpStreams

def getProducerTsReferenceRtpStream : Option LastSenderReport :=
  s.tsReferenceSpatialLayer.bind s.producerRtpStreams

def requestKeyFrameFor (layer : Option (Fin n)) : SimulcastConsumer h n :=
  match layer with
  | none => s
  | some layer =>
    if params.kind = .video ∧ (s.producerRtpStreams layer).isSome then
      s.emit (.keyFrameRequest (params.consumableSsrcs layer))
    else s

def requestKeyFrameForTargetSpatialLayer : SimulcastConsumer h n :=
  s.requestKeyFrameFor params s.targetSpatialLayer

def requestKeyFrameForCurrentSpatialLayer : SimulcastConsumer h n :=
  s.requestKeyFrameFor params s.currentSpatialLayer

def requestKeyFrames : SimulcastConsumer h n :=
  let s := s.requestKeyFrameFor params s.targetSpatialLayer
  if s.currentSpatialLayer = s.targetSpatialLayer then s
  else s.requestKeyFrameFor params s.currentSpatialLayer

end Basic

/-! ## The selection of layers -/

section Selection

variable (params : SimulcastParameters n) (env : Env n) (s : SimulcastConsumer h n)

def canSwitchToSpatialLayer (layer : Fin n) : Except Fault Bool :=
  match s.producerRtpStreams layer with
  | none => .error (.assertion
      ("no Producer RtpStream for the given spatialLayer:" ++ toString (layer : ℕ)))
  | some stream =>
    match s.tsReferenceSpatialLayer with
    | none => .ok true
    | some reference =>
      if layer = reference then .ok true
      else
        match s.producerRtpStreams reference with
        | none => .error .nullPointer
        | some referenceStream => .ok (referenceStream.ntpMs != 0 && stream.ntpMs != 0)

def recentlyDowngraded (selected : Option (Fin n)) (layer : Fin n) : Bool :=
  decide ((env.nowMs + 2 ^ 64 - s.lastBweDowngradeAtMs) % 2 ^ 64 < bweDowngradeConservativeMs) &&
    selected.isSome && decide (layerNumber s.currentSpatialLayer < (layer : ℕ))

def producerScore (layer : Fin n) : ℕ :=
  match s.producerRtpStreams layer with
  | none => 0
  | some _ => (env.reading layer).score

def passesOver (selected : Option (Fin n)) (layer : Fin n) : Bool :=
  s.recentlyDowngraded env selected layer ||
    decide (s.producerScore env layer = 0) || (s.externallyManagedBitrate && selected.isSome &&
      decide ((env.reading layer).activeMs < streamMinActiveMs))

def recalculateLoop : List (Fin n) → Option (Fin n) → ℕ → Except Fault (Option (Fin n))
  | [], selected, _ => .ok selected
  | layer :: layers, selected, maxProducerScore =>
    if s.passesOver env selected layer then recalculateLoop layers selected maxProducerScore
    else do
      if !(← s.canSwitchToSpatialLayer layer) then
        recalculateLoop layers selected maxProducerScore
      else if s.producerScore env layer < maxProducerScore ∧ s.producerScore env layer < streamGoodScore then
        recalculateLoop layers selected maxProducerScore
      else if s.preferredSpatialLayer ≤ (layer : ℕ) ∧ streamGoodScore ≤ s.producerScore env layer then
        return some layer
      else recalculateLoop layers (some layer) (s.producerScore env layer)

def newTargetTemporalLayer (selected : Option (Fin n)) : ℤ :=
  match selected with
  | none => -1
  | some layer =>
    if ((layer : ℕ) : ℤ) = s.preferredSpatialLayer then s.preferredTemporalLayer
    else if ((layer : ℕ) : ℤ) < s.preferredSpatialLayer then (params.temporalLayers : ℤ) - 1
    else 0

def recalculateTargetLayers : Except Fault (Option (Fin n) × ℤ) := do
  let selected ← s.recalculateLoop env (List.finRange n) none 0
  return (selected, s.newTargetTemporalLayer params selected)

def unsetLayers : SimulcastConsumer h n :=
  { s with
    targetSpatialLayer := none
    targetTemporalLayer := -1
    currentSpatialLayer := none
    encodingContext :=
      h.setCurrentTemporalLayer (-1) (h.setTargetTemporalLayer (-1) s.encodingContext) }
  |>.emitLayersChange

def setTargetLayers (layer : Fin n) (newTargetTemporalLayer : ℤ) : SimulcastConsumer h n :=
  let s := { s with
    tsReferenceSpatialLayer := s.tsReferenceSpatialLayer.orElse fun _ => some layer
    targetSpatialLayer := some layer
    targetTemporalLayer := newTargetTemporalLayer }
  if s.targetSpatialLayer = s.currentSpatialLayer then
    { s with
      encodingContext := h.setTargetTemporalLayer s.targetTemporalLayer s.encodingContext }
  else s.requestKeyFrameForTargetSpatialLayer params

def updateTargetLayers (newTargetSpatialLayer : Option (Fin n)) (newTargetTemporalLayer : ℤ) :
    SimulcastConsumer h n :=
  match newTargetSpatialLayer with
  | none => s.unsetLayers
  | some layer => s.setTargetLayers params layer newTargetTemporalLayer

end Selection

/-! ## The selection by available bitrate -/

section Bitrate

variable (params : SimulcastParameters n) (env : Env n) (s : SimulcastConsumer h n)

def virtualBitrate (bitrate : ℕ) (considerLoss : Bool) : ℕ :=
  if !considerLoss then bitrate
  else if env.lossPercentage < 2 then (1.08 * Float.ofNat bitrate).toUInt32.toNat
  else if 10 < env.lossPercentage then
    ((1 - 0.5 * (env.lossPercentage / 100).toFloat) * Float.ofNat bitrate).toUInt32.toNat
  else bitrate

def isTooYoung (layer : Fin n) : Except Fault Bool :=
  match s.provisionalTargetSpatialLayer with
  | none => .ok false
  | some provisional =>
    if layer ≠ provisional ∧ (env.reading layer).activeMs < streamMinActiveMs then
      match s.producerRtpStreams provisional with
      | none => .error .nullPointer
      | some _ => .ok (decide (streamMinActiveMs ≤ (env.reading provisional).activeMs))
    else .ok false

def requiredBitrate (layer : Fin n) (temporalLayer : ℕ) : Except Fault ℕ :=
  let required := (env.reading layer).layerBitrate temporalLayer
  match s.provisionalTargetSpatialLayer with
  | none => .ok required
  | some provisional =>
    if required ≠ 0 ∧ temporalLayer = 0 ∧ provisional < layer then
      match s.producerRtpStreams provisional with
      | none => .error .nullPointer
      | some _ =>
        let provisionalRequired :=
          (env.reading provisional).bitrate s.provisionalTargetTemporalLayer
        .ok (if provisionalRequired < required then required - provisionalRequired else 1)
    else .ok required

def searchTemporalLayer (layer : Fin n) : List ℕ → Except Fault (Option (ℕ × ℕ))
  | [] => .ok none
  | temporalLayer :: temporalLayers =>
    if some layer = s.provisionalTargetSpatialLayer ∧
        (temporalLayer : ℤ) ≤ s.provisionalTargetTemporalLayer then
      searchTemporalLayer layer temporalLayers
    else do
      let required ← s.requiredBitrate env layer temporalLayer
      return if required = 0 then none else some (required, temporalLayer)

def searchLayers : List (Fin n) → Except Fault (Option (ℕ × Fin n × ℕ))
  | [] => .ok none
  | layer :: layers =>
    if s.recentlyDowngraded env s.provisionalTargetSpatialLayer layer then .ok none
    else if ((layer : ℕ) : ℤ) < layerNumber s.provisionalTargetSpatialLayer then
      searchLayers layers
    else if (s.producerRtpStreams layer).isNone ∨ (env.reading layer).score < streamGoodScore then
      searchLayers layers
    else do
      if ← s.isTooYoung env layer then searchLayers layers
      else if !(← s.canSwitchToSpatialLayer layer) then searchLayers layers
      else
        match ← s.searchTemporalLayer env layer
            (List.range (env.reading layer).temporalLayers) with
        | some (required, temporalLayer) => return some (required, layer, temporalLayer)
        | none =>
          if s.preferredSpatialLayer ≤ (layer : ℕ) then return none else searchLayers layers

def setProvisionalLayers (spatialLayer : Option (Fin n)) (temporalLayer : ℤ) :
    SimulcastConsumer h n :=
  { s with
    provisionalTargetSpatialLayer := spatialLayer
    provisionalTargetTemporalLayer := temporalLayer }

def increaseLayer (bitrate : ℕ) (considerLoss : Bool) :
    Except Fault (SimulcastConsumer h n × ℕ) := do
  msAssert s.externallyManagedBitrate "bitrate is not externally managed"
  msAssert (s.isActive env) "should be active"
  if layerNumber s.provisionalTargetSpatialLayer = s.preferredSpatialLayer ∧
      s.provisionalTargetTemporalLayer = s.preferredTemporalLayer then
    return (s, 0)
  else
    match ← s.searchLayers env (List.finRange n) with
    | none => return (s, 0)
    | some (required, layer, temporalLayer) =>
      if virtualBitrate env bitrate considerLoss < required then return (s, 0)
      else
        return (s.setProvisionalLayers (some layer) temporalLayer,
          if required ≤ bitrate then required else bitrate)

def increaseLayerWithin (virtualBitrate bitrate : ℕ) : Except Fault (SimulcastConsumer h n × ℕ) := do
  msAssert s.externallyManagedBitrate "bitrate is not externally managed"
  msAssert (s.isActive env) "should be active"
  if layerNumber s.provisionalTargetSpatialLayer = s.preferredSpatialLayer ∧
      s.provisionalTargetTemporalLayer = s.preferredTemporalLayer then
    return (s, 0)
  else
    match ← s.searchLayers env (List.finRange n) with
    | none => return (s, 0)
    | some (required, layer, temporalLayer) =>
      if virtualBitrate < required then return (s, 0)
      else
        return (s.setProvisionalLayers (some layer) temporalLayer,
          if required ≤ bitrate then required else bitrate)

def applyLayers : Except Fault (SimulcastConsumer h n) := do
  msAssert s.externallyManagedBitrate "bitrate is not externally managed"
  msAssert (s.isActive env) "should be active"
  let layers := (s.provisionalTargetSpatialLayer, s.provisionalTargetTemporalLayer)
  let s := s.setProvisionalLayers none (-1)
  if layers = (s.targetSpatialLayer, s.targetTemporalLayer) then return s
  else
    let s := s.updateTargetLayers params layers.1 layers.2
    if bweDowngradeMinActiveMs < env.activeMs ∧
        layerNumber s.targetSpatialLayer < layerNumber s.currentSpatialLayer ∧
        layerNumber s.currentSpatialLayer ≤ s.preferredSpatialLayer then
      return { s with lastBweDowngradeAtMs := env.nowMs }
    else return s

def increaseLayers : List (ℕ × Bool) → SimulcastConsumer h n → Except Fault (SimulcastConsumer h n)
  | [], s => .ok s
  | (bitrate, considerLoss) :: calls, s => do
    let (s, _) ← s.increaseLayer env bitrate considerLoss
    increaseLayers calls s

def distribute : Except Fault (SimulcastConsumer h n) := do
  msAssert s.externallyManagedBitrate "bitrate is not externally managed"
  if s.isActive env then
    let s ← s.increaseLayers env env.increases
    s.applyLayers params env
  else return s

def mayChangeLayers (force : Bool) : Except Fault (SimulcastConsumer h n) := do
  let layers ← s.recalculateTargetLayers params env
  if layers = (s.targetSpatialLayer, s.targetTemporalLayer) then return s
  else if s.externallyManagedBitrate then
    if layers.1 ≠ s.targetSpatialLayer ∨ force then s.distribute params env else return s
  else return s.updateTargetLayers params layers.1 layers.2

end Bitrate

/-! ## The forwarding of packets -/

section Forwarding

variable (params : SimulcastParameters n) (env : Env n) (s : SimulcastConsumer h n)

def senderReportTsOffset (reference target : LastSenderReport) : BitVec 32 :=
  let diffMs : ℤ := (target.ntpMs : ℤ) - reference.ntpMs
  let diffTs : ℤ := ((diffMs * params.clockRate).bmod (2 ^ 64)).tdiv 1000
  let newTs2 := BitVec.ofInt 32 ((target.ts.toNat : ℤ) - diffTs)
  newTs2 - reference.ts

def syncTsOffset (layer : Fin n) : Except Fault (BitVec 32) :=
  if some layer = s.tsReferenceSpatialLayer then .ok 0
  else
    match s.getProducerTsReferenceRtpStream with
    | none => .error .nullPointer
    | some reference => do
      msAssert (reference.ntpMs != 0) "no Sender Report for TS reference RTP stream"
      match s.getProducerTargetRtpStream with
      | none => .error .nullPointer
      | some target => do
        msAssert (target.ntpMs != 0) "no Sender Report for current RTP stream"
        return senderReportTsOffset params reference target

def tsExtraOffset (tsOffset timestamp : BitVec 32) : Option (BitVec 32) :=
  let maxTsExtraOffset := 75 * params.clockRate % 2 ^ 32 / 1000
  let extra := s.rtpStream.maxPacketTs - timestamp + tsOffset
  if s.keyFrameForTsOffsetRequested then
    some (if maxTsExtraOffset < extra.toNat then 1 else extra)
  else if maxTsExtraOffset < extra.toNat then none
  else if extra = 0 then some (BitVec.ofNat 32 (33 * params.clockRate % 2 ^ 32 / 1000))
  else some extra

def finalTsOffset (switching : Bool) (tsOffset timestamp : BitVec 32) : Option (BitVec 32) :=
  if switching ∧ timestamp - tsOffset ≤ s.rtpStream.maxPacketTs then
    (s.tsExtraOffset params tsOffset timestamp).map fun extra => tsOffset - extra
  else some tsOffset

def synchronize (packet : SimulcastPacket h) (layer : Fin n) (switching : Bool) :
    Except Fault (SimulcastConsumer h n × Bool) := do
  let tsOffset ← s.syncTsOffset params layer
  match s.finalTsOffset params switching tsOffset packet.timestamp with
  | none =>
    let s := s.requestKeyFrameForTargetSpatialLayer params
    return ({ s with keyFrameForTsOffsetRequested := true }, false)
  | some tsOffset =>
    return ({ s with
      tsOffset
      rtpSeqManager := s.rtpSeqManager.sync (packet.sequenceNumber - 1)
      encodingContext := h.syncRequired s.encodingContext
      syncRequired := false
      keyFrameForTsOffsetRequested := false }, true)

def transmit (packet : SimulcastPacket h) : SimulcastConsumer h n :=
  let (rtpSeqManager, seq) := s.rtpSeqManager.input packet.sequenceNumber
  let timestamp := packet.timestamp - s.tsOffset
  let (rtpStream, accepted) :=
    s.rtpStream.receivePacket env.nowMs (seq.getD env.uninitialized) timestamp
  let s := { s with rtpSeqManager, rtpStream }
  if accepted then
    s.emit (.rtp {
      ssrc := params.ssrc
      payloadType := packet.payloadType
      sequenceNumber := seq
      timestamp
      marker := packet.marker
      payload := packet.payload })
  else s

def switchAndTransmit (packet : SimulcastPacket h) : Except Fault (SimulcastConsumer h n) := do
  let encodingContext := h.setCurrentTemporalLayer packet.temporalLayer
    (h.setTargetTemporalLayer s.targetTemporalLayer s.encodingContext)
  let s := { s with currentSpatialLayer := s.targetSpatialLayer, encodingContext }
  let s := s.emitLayersChange.emit .score
  let (encodingContext, packet, _) ← packet.processPayload s.encodingContext
  return transmit params env { s with encodingContext } packet

def filterAndTransmit (packet : SimulcastPacket h) : Except Fault (SimulcastConsumer h n) := do
  let previousTemporalLayer := h.currentTemporalLayer s.encodingContext
  let (encodingContext, packet, processed) ← packet.processPayload s.encodingContext
  let s := { s with encodingContext }
  if !processed then
    return { s with rtpSeqManager := s.rtpSeqManager.drop packet.sequenceNumber }
  else if previousTemporalLayer ≠ h.currentTemporalLayer s.encodingContext then
    return transmit params env s.emitLayersChange packet
  else return transmit params env s packet

def forward (packet : SimulcastPacket h) (switching : Bool) :
    Except Fault (SimulcastConsumer h n) :=
  if switching then s.switchAndTransmit params env packet
  else s.filterAndTransmit params env packet

def requireSync (switching : Bool) : SimulcastConsumer h n :=
  { s with syncRequired := s.syncRequired || switching }

def syncAndForward (packet : SimulcastPacket h) (layer : Fin n) (switching : Bool) :
    Except Fault (SimulcastConsumer h n) :=
  if !s.syncRequired then s.forward params env packet switching
  else if !packet.isKeyFrame then .ok s
  else do
    let (s, synchronized) ← s.synchronize params packet layer switching
    if synchronized then s.forward params env packet switching else return s

def sendLayerPacket (packet : SimulcastPacket h) (layer : Fin n) :
    Except Fault (SimulcastConsumer h n) :=
  let switching :=
    decide (s.currentSpatialLayer ≠ s.targetSpatialLayer ∧ some layer = s.targetSpatialLayer)
  if switching && !packet.isKeyFrame then .ok s
  else if !switching && decide (some layer ≠ s.currentSpatialLayer) then .ok s
  else (s.requireSync switching).syncAndForward params env packet layer switching

def sendRtpPacket (packet : SimulcastPacket h) : Except Fault (SimulcastConsumer h n) :=
  if !s.isActive env then .ok s
  else if s.targetTemporalLayer = -1 then .ok s
  else if packet.payloadType ∉ params.supportedCodecPayloadTypes then .ok s
  else
    match params.spatialLayerOf packet.ssrc with
    | none => .error (.exception "std::out_of_range")
    | some layer => s.sendLayerPacket params env packet layer

def considers (packet : SimulcastPacket h) : Bool :=
  s.isActive env && s.targetTemporalLayer != -1 &&
    decide (packet.payloadType ∈ params.supportedCodecPayloadTypes)

variable {p : SimulcastPacket h}

theorem sendRtpPacket_of_not_considers (hno : s.considers params env p = false) :
    s.sendRtpPacket params env p = .ok s := by
  rw [sendRtpPacket]
  split_ifs with hact htgt hsupported
  · rfl
  · rfl
  · simp_all [considers]
  · rfl

theorem sendRtpPacket_of_considers (hyes : s.considers params env p = true) {layer : Fin n}
    (hl : params.spatialLayerOf p.ssrc = some layer) :
    s.sendRtpPacket params env p = s.sendLayerPacket params env p layer := by
  rw [considers, Bool.and_eq_true, Bool.and_eq_true, decide_eq_true_iff, bne_iff_ne] at hyes
  obtain ⟨⟨hact, htgt⟩, hsupported⟩ := hyes
  rw [sendRtpPacket, hact, if_neg (by simp), if_neg htgt, if_neg (not_not.mpr hsupported), hl]

end Forwarding

/-! ## Events -/

section Events

variable (params : SimulcastParameters n) (env : Env n) (s : SimulcastConsumer h n)

def restart : Except Fault (SimulcastConsumer h n) :=
  let s := { s with syncRequired := true, keyFrameForTsOffsetRequested := false }
  if s.isActive env then s.mayChangeLayers params env false else .ok s

def stop : SimulcastConsumer h n := { s with lastBweDowngradeAtMs := 0 }.unsetLayers

def userOnPaused : SimulcastConsumer h n :=
  if s.externallyManagedBitrate then s.stop.emit .needZeroBitrate else s.stop

def setStream (layer : Fin n) (report : LastSenderReport) : SimulcastConsumer h n :=
  { s with producerRtpStreams := Function.update s.producerRtpStreams layer (some report) }

def producerNewRtpStream (mappedSsrc : BitVec 32) : Except Fault (SimulcastConsumer h n) :=
  match params.spatialLayerOf mappedSsrc with
  | none => .error (.assertion "unknown mappedSsrc")
  | some layer =>
    let s := (s.setStream layer {}).emit .score
    if s.isActive env then s.mayChangeLayers params env false else .ok s

def producerRtpStreamScore (score previousScore : ℕ) : Except Fault (SimulcastConsumer h n) :=
  let s := s.emit .score
  if s.isConsumerActive && (!s.externallyManagedBitrate || score == 0 || previousScore == 0) then
    s.mayChangeLayers params env false
  else .ok s

def producerRtcpSenderReport (first : Bool) : Except Fault (SimulcastConsumer h n) :=
  if !first then .ok s
  else
    match s.getProducerCurrentRtpStream with
    | none => .ok s
    | some stream =>
      if stream.ntpMs == 0 then .ok s
      else if s.isActive env then s.mayChangeLayers params env false
      else .ok s

def receiveRtcpSenderReport (layer : Fin n) (report : SenderReport)
    (scoreChange : Option (ℕ × ℕ × Env n)) : Except Fault (SimulcastConsumer h n) :=
  match s.producerRtpStreams layer with
  | none => .ok s
  | some stream => do
    let s ← match scoreChange with
      | none => .ok (s.setStream layer report.last)
      | some (score, previousScore, scoreEnv) =>
        (s.setStream layer report.last).producerRtpStreamScore params scoreEnv score previousScore
    s.producerRtcpSenderReport params env (stream.ntpMs == 0)

def setPreferredLayers (data : Json) : Except Fault (SimulcastConsumer h n) :=
  match (data.find "spatialLayer").bind (Json.unsigned 16) with
  | none => throwTypeError "missing spatialLayer"
  | some spatialLayer =>
    let spatialLayer := min ((spatialLayer : ℤ).bmod (2 ^ 16)) ((n : ℤ) - 1)
    let maxTemporalLayer := (params.temporalLayers : ℤ) - 1
    let temporalLayer :=
      match (data.find "temporalLayer").bind (Json.unsigned 16) with
      | none => maxTemporalLayer
      | some temporalLayer => min ((temporalLayer : ℤ).bmod (2 ^ 16)) maxTemporalLayer
    let changed := decide
      ((spatialLayer, temporalLayer) ≠ (s.preferredSpatialLayer, s.preferredTemporalLayer))
    let s := { s with
      preferredSpatialLayer := spatialLayer
      preferredTemporalLayer := temporalLayer }
    if s.isActive env && changed then s.mayChangeLayers params env true else .ok s

inductive Event (h : Codecs.Handler) (n : ℕ) where
  | rtpPacket (packet : SimulcastPacket h) (env : Env n)
  | senderReport (layer : Fin n) (report : SenderReport)
      (scoreChange : Option (ℕ × ℕ × Env n)) (env : Env n)
  | newRtpStream (mappedSsrc : BitVec 32) (env : Env n)
  | score (score previousScore : ℕ) (env : Env n)
  | ownScore (env : Env n)
  | pause (env : Env n)
  | resume (env : Env n)
  | producerPaused (env : Env n)
  | producerResumed (env : Env n)
  | producerClosed
  | transportConnected (env : Env n)
  | transportDisconnected
  | setPreferredLayers (data : Json) (env : Env n)
  | setExternallyManagedBitrate
  | distribute (env : Env n)
  | requestKeyFrame (env : Env n)
  | keyFrameRequest (env : Env n)

def new (producerRtpStreams : Fin n → Option LastSenderReport)
    (preferredSpatialLayer preferredTemporalLayer : ℤ) (encodingContext : h.Context)
    (paused producerPaused : Bool) : SimulcastConsumer h n where
  producerRtpStreams := producerRtpStreams
  preferredSpatialLayer := preferredSpatialLayer
  preferredTemporalLayer := preferredTemporalLayer
  encodingContext := encodingContext
  paused := paused
  producerPaused := producerPaused

def step (s : SimulcastConsumer h n) : Event h n → Except Fault (SimulcastConsumer h n)
  | .rtpPacket packet env => s.sendRtpPacket params env packet
  | .senderReport layer report scoreChange env =>
    s.receiveRtcpSenderReport params env layer report scoreChange
  | .newRtpStream mappedSsrc env => s.producerNewRtpStream params env mappedSsrc
  | .score score previousScore env => s.producerRtpStreamScore params env score previousScore
  | .ownScore env =>
    let s := s.emit .score
    if s.isActive env && !s.externallyManagedBitrate then s.mayChangeLayers params env false
    else .ok s
  | .pause env =>
    if s.paused then .ok s
    else
      let wasActive := s.isActive env
      let s := { s with paused := true }
      .ok (if wasActive then s.userOnPaused else s)
  | .resume env =>
    if !s.paused then .ok s
    else
      let s := { s with paused := false }
      if s.isActive env then s.restart params env else .ok s
  | .producerPaused env =>
    if s.producerPaused then .ok s
    else
      let wasActive := s.isActive env
      let s := { s with producerPaused := true }
      .ok (if wasActive then s.userOnPaused else s)
  | .producerResumed env =>
    if !s.producerPaused then .ok s
    else
      let s := { s with producerPaused := false }
      if s.isActive env then s.restart params env else .ok s
  | .producerClosed => .ok { s with producerClosed := true }
  | .transportConnected env => { s with transportConnected := true }.restart params env
  | .transportDisconnected => .ok { s with transportConnected := false }.stop
  | .setPreferredLayers data env =>
    match s.setPreferredLayers params env data with
    | .error (.typeError _) => .ok s
    | result => result
  | .setExternallyManagedBitrate => .ok { s with externallyManagedBitrate := true }
  | .distribute env => if s.externallyManagedBitrate then s.distribute params env else .ok s
  | .requestKeyFrame env => .ok (if s.isActive env then s.requestKeyFrames params else s)
  | .keyFrameRequest env =>
    .ok (if s.isActive env then s.requestKeyFrameForCurrentSpatialLayer params else s)

end Events

/-! ## What the events are made of -/

structure View {τ : Type} (f : SimulcastConsumer h n → τ) : Prop where
  flags : ∀ (s : SimulcastConsumer h n) transportConnected paused producerPaused producerClosed
    externallyManagedBitrate syncRequired preferredSpatialLayer preferredTemporalLayer
    keyFrameForTsOffsetRequested lastBweDowngradeAtMs, f { s with
      transportConnected, paused, producerPaused, producerClosed, externallyManagedBitrate
      syncRequired, preferredSpatialLayer, preferredTemporalLayer, keyFrameForTsOffsetRequested
      lastBweDowngradeAtMs } = f s
  emit : ∀ (s : SimulcastConsumer h n) output, (∀ packet, output ≠ .rtp packet) → f (s.emit output) = f s

structure Keeps {τ : Type} (params : SimulcastParameters n) (f : SimulcastConsumer h n → τ)
    (P : τ → Prop) (Q : Fault → Prop) : Prop extends View f where
  mayChangeLayers : ∀ (s : SimulcastConsumer h n) env force, P (f s) →
    Meets (fun s' => P (f s')) Q (s.mayChangeLayers params env force)
  distribute : ∀ (s : SimulcastConsumer h n) env, P (f s) → s.externallyManagedBitrate = true →
    Meets (fun s' => P (f s')) Q (s.distribute params env)
  unsetLayers : ∀ s : SimulcastConsumer h n, P (f s) → P (f s.unsetLayers)
  unknownSsrc : Q (.assertion "unknown mappedSsrc")

section Keeps

variable {τ : Type} {f : SimulcastConsumer h n → τ} {P : τ → Prop} {Q : Fault → Prop}
  {params : SimulcastParameters n} {env : Env n} {s : SimulcastConsumer h n}

theorem Keeps.set (k : Keeps params f P Q) (hs : P (f s)) {transportConnected paused producerPaused
      producerClosed externallyManagedBitrate syncRequired keyFrameForTsOffsetRequested : Bool}
    {preferredSpatialLayer preferredTemporalLayer : ℤ} {lastBweDowngradeAtMs : ℕ} : P (f { s with
      transportConnected, paused, producerPaused, producerClosed, externallyManagedBitrate
      syncRequired, preferredSpatialLayer, preferredTemporalLayer, keyFrameForTsOffsetRequested
      lastBweDowngradeAtMs }) := by
  rw [k.flags]
  exact hs

theorem Keeps.emit_score (k : Keeps params f P Q) (hs : P (f s)) : P (f (s.emit .score)) := by
  rw [k.emit s .score fun packet heq => by cases heq]
  exact hs

theorem View.requestKeyFrameFor (view : View f) (l : Option (Fin n)) :
    f (s.requestKeyFrameFor params l) = f s := by
  unfold SimulcastConsumer.requestKeyFrameFor
  split
  · rfl
  · split_ifs
    · exact view.emit s _ fun packet heq => by cases heq
    · rfl

section

variable (k : Keeps params f P Q)

include k

section

variable (hs : P (f s))

include hs

theorem Keeps.ite_mayChangeLayers (active force : Bool) : Meets (fun s' => P (f s')) Q
      (if active then s.mayChangeLayers params env force else .ok s) := by
  cases active with
  | true => exact k.mayChangeLayers s env force hs
  | false => exact hs

theorem Keeps.restart : Meets (fun s' => P (f s')) Q (s.restart params env) :=
  k.ite_mayChangeLayers (k.set hs) _ false

theorem Keeps.ite_restart (active : Bool) :
    Meets (fun s' => P (f s')) Q (if active then s.restart params env else .ok s) := by
  cases active with
  | true => exact k.restart hs
  | false => exact hs

theorem Keeps.ite_userOnPaused (active : Bool) : P (f (if active then s.userOnPaused else s)) := by
  have hstop : P (f s.stop) := k.unsetLayers _ (k.set hs)
  cases active with
  | true =>
    show P (f s.userOnPaused)
    unfold userOnPaused
    split_ifs
    · rw [k.emit s.stop .needZeroBitrate fun packet heq => by cases heq]
      exact hstop
    · exact hstop
  | false => exact hs

theorem Keeps.producerRtpStreamScore (score prev : ℕ) :
    Meets (fun s' => P (f s')) Q (s.producerRtpStreamScore params env score prev) :=
  k.ite_mayChangeLayers (k.emit_score hs) _ false

theorem Keeps.producerRtcpSenderReport (first : Bool) :
    Meets (fun s' => P (f s')) Q (s.producerRtcpSenderReport params env first) := by
  unfold SimulcastConsumer.producerRtcpSenderReport
  split
  · exact hs
  split
  · exact hs
  split
  · exact hs
  · exact k.ite_mayChangeLayers hs _ false

theorem Keeps.receiveRtcpSenderReport {l : Fin n} {r : SenderReport} (hstr : P (f (s.setStream l r.last)))
    (scoreChange : Option (ℕ × ℕ × Env n)) : Meets (fun s' => P (f s')) Q
      (s.receiveRtcpSenderReport params env l r scoreChange) := by
  unfold SimulcastConsumer.receiveRtcpSenderReport
  split
  · exact hs
  · cases scoreChange with
    | none => exact k.producerRtcpSenderReport hstr _
    | some change =>
      exact (k.producerRtpStreamScore hstr change.1 change.2.1).bind fun s' hs' =>
        k.producerRtcpSenderReport hs' _

end

theorem Keeps.producerNewRtpStream {mapped : BitVec 32}
    (hs : ∀ l, params.spatialLayerOf mapped = some l → P (f (s.setStream l {}))) :
    Meets (fun s' => P (f s')) Q (s.producerNewRtpStream params env mapped) := by
  unfold SimulcastConsumer.producerNewRtpStream
  cases hl : params.spatialLayerOf mapped with
  | none => exact k.unknownSsrc
  | some l => exact k.ite_mayChangeLayers (k.emit_score (hs l hl)) _ false

theorem Keeps.setPreferredLayers (hs : P (f s)) (data : Json) :
    Meets (fun s' => P (f s')) Q (SimulcastConsumer.step params s (.setPreferredLayers data env)) := by
  cases hdata : (data.find "spatialLayer").bind (Json.unsigned 16) with
  | none =>
    rw [SimulcastConsumer.step, SimulcastConsumer.setPreferredLayers, hdata]
    exact hs
  | some spatialLayer =>
    have hset : Meets (fun s' => P (f s')) Q (s.setPreferredLayers params env data) := by
      rw [SimulcastConsumer.setPreferredLayers, hdata]
      exact k.ite_mayChangeLayers (k.set hs) _ true
    rw [SimulcastConsumer.step]
    split
    · exact hs
    · exact hset

/-- **Every event** keeps the property, if the packets and the new sender reports do. -/
theorem Keeps.step (hs : P (f s)) (e : Event h n) (hp : ∀ packet env, e = .rtpPacket packet env →
      Meets (fun s' => P (f s')) Q (s.sendRtpPacket params env packet))
    (hreport : ∀ layer report scoreChange env, e = .senderReport layer report scoreChange env →
      P (f (s.setStream layer report.last)))
    (hnew : ∀ mappedSsrc env layer, e = .newRtpStream mappedSsrc env →
      params.spatialLayerOf mappedSsrc = some layer → P (f (s.setStream layer {}))) :
    Meets (fun s' => P (f s')) Q (s.step params e) := by
  cases e with
  | rtpPacket packet env => exact hp packet env rfl
  | senderReport layer report scoreChange env =>
    exact k.receiveRtcpSenderReport hs (hreport layer report scoreChange env rfl) scoreChange
  | newRtpStream mappedSsrc env =>
    exact k.producerNewRtpStream fun layer => hnew mappedSsrc env layer rfl
  | score score prev env => exact k.producerRtpStreamScore hs score prev
  | ownScore env => exact k.ite_mayChangeLayers (k.emit_score hs) _ false
  | pause env =>
    rw [SimulcastConsumer.step]
    split
    · exact hs
    · exact k.ite_userOnPaused (k.set hs) _
  | resume env =>
    rw [SimulcastConsumer.step]
    split
    · exact hs
    · exact k.ite_restart (k.set hs) _
  | producerPaused env =>
    rw [SimulcastConsumer.step]
    split
    · exact hs
    · exact k.ite_userOnPaused (k.set hs) _
  | producerResumed env =>
    rw [SimulcastConsumer.step]
    split
    · exact hs
    · exact k.ite_restart (k.set hs) _
  | producerClosed => exact k.set hs
  | transportConnected env => exact k.restart (k.set hs)
  | transportDisconnected => exact k.unsetLayers _ (k.set hs)
  | setPreferredLayers data env => exact k.setPreferredLayers hs data
  | setExternallyManagedBitrate => exact k.set hs
  | distribute env =>
    rw [SimulcastConsumer.step]
    split
    · next hman => exact k.distribute s env hs hman
    · exact hs
  | requestKeyFrame env =>
    show P (f (if s.isActive env then s.requestKeyFrames params else s))
    have hkey : f (s.requestKeyFrames params) = f s := by
      unfold requestKeyFrames
      dsimp only
      split_ifs <;> simp only [k.toView.requestKeyFrameFor]
    split_ifs
    · rw [hkey]
      exact hs
    · exact hs
  | keyFrameRequest env =>
    show P (f (if s.isActive env then s.requestKeyFrameFor params s.currentSpatialLayer else s))
    split_ifs
    · rw [k.toView.requestKeyFrameFor]
      exact hs
    · exact hs

end

end Keeps

end SimulcastConsumer

end MediasoupWorker.RTC
