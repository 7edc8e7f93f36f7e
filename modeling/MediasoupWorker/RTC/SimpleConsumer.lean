import MediasoupWorker.RTC.ProducerPacket

/-!
# The simple consumer

`src/src/RTC/SimpleConsumer.cpp`. A simple consumer has one stream, and it forwards all packets of
it with sequence numbers of its own.
-/

namespace MediasoupWorker.RTC

structure SimpleEnv where
  nowMs : ℕ := 0
  score : ℕ := 0
  hasDtx : Bool := false
  bitrate : ℕ := 0
  increases : List ℕ := []
  uninitialized : BitVec 16 := 0

structure SimpleParameters where
  kind : Media.Kind := .video
  keyFrameSupported : Bool
  consumableSsrc : BitVec 32
  ssrc : BitVec 32
  supportedCodecPayloadTypes : List ℕ

structure SimpleConsumer extends Consumer, ForwardedStream where
  producerRtpStream : Bool := false
  managingBitrate : Bool := false
  outputs : List ConsumerOutput := []
  deriving DecidableEq, Repr

namespace SimpleConsumer

variable (params : SimpleParameters) (env : SimpleEnv) (s : SimpleConsumer)

def emit (output : ConsumerOutput) : SimpleConsumer :=
  { s with outputs := s.outputs ++ [output] }

def isActive : Bool :=
  s.toConsumer.isActive && s.producerRtpStream && (decide (0 < env.score) || env.hasDtx)

def requestKeyFrame : SimpleConsumer :=
  if params.kind = .video then s.emit (.keyFrameRequest params.consumableSsrc) else s

/-! ## The forwarding of packets -/

def sendRtpPacket (packet : ProducerPacket) : SimpleConsumer × ProducerPacket :=
  if !s.isActive env then (s, packet)
  else if packet.payloadType ∉ params.supportedCodecPayloadTypes then (s, packet)
  else
    let (stream, sent, packet) :=
      s.toForwardedStream.send params.keyFrameSupported env.nowMs env.uninitialized params.ssrc packet
    ({ s with
      toForwardedStream := stream
      outputs := s.outputs ++ (sent.map .rtp).toList }, packet)

/-! ## Bitrate -/

def increaseLayer (bitrate : ℕ) : Except Fault (SimpleConsumer × ℕ) := do
  msAssert s.externallyManagedBitrate "bitrate is not externally managed"
  msAssert (decide (params.kind = .video)) "should be video"
  msAssert (s.isActive env) "should be active"
  if s.managingBitrate then return (s, 0)
  else return ({ s with managingBitrate := true }, min env.bitrate bitrate)

def applyLayers : Except Fault SimpleConsumer := do
  msAssert s.externallyManagedBitrate "bitrate is not externally managed"
  msAssert (decide (params.kind = .video)) "should be video"
  msAssert (s.isActive env) "should be active"
  return { s with managingBitrate := false }

def increaseLayers : List ℕ → SimpleConsumer → Except Fault SimpleConsumer
  | [], s => .ok s
  | bitrate :: bitrates, s => do
    let (s, _) ← s.increaseLayer params env bitrate
    increaseLayers bitrates s

def distribute : Except Fault SimpleConsumer := do
  msAssert s.externallyManagedBitrate "bitrate is not externally managed"
  if params.kind = .video ∧ s.isActive env = true then
    let s ← increaseLayers params env env.increases s
    s.applyLayers params env
  else return s

/-! ## Events -/

def restart : SimpleConsumer :=
  let s := { s with syncRequired := true }
  if s.isActive env then s.requestKeyFrame params else s

def userOnPaused : SimpleConsumer :=
  if s.externallyManagedBitrate && decide (params.kind = .video) then s.emit .needZeroBitrate else s

def derived : Consumer.Derived SimpleConsumer where
  base s := s.toConsumer
  setBase base s := { s with toConsumer := base }
  isActive := isActive env
  userOnTransportConnected s := .ok (s.restart params env)
  userOnTransportDisconnected := id
  userOnPaused := userOnPaused params
  userOnResumed s := .ok (s.restart params env)

inductive Event where
  | newRtpStream
  | score
  | base (event : Consumer.Event)
  | distribute
  | requestKeyFrame
  deriving DecidableEq, Repr

def new (producerRtpStream paused producerPaused : Bool) : SimpleConsumer where
  producerRtpStream := producerRtpStream
  paused := paused
  producerPaused := producerPaused

def step (s : SimpleConsumer) (event : Event × SimpleEnv) : Except Fault SimpleConsumer :=
  let env := event.2
  match event.1 with
  | .newRtpStream => .ok ({ s with producerRtpStream := true }.emit .score)
  | .score => .ok (s.emit .score)
  | .base event => (derived params env).handle s event
  | .distribute => if s.externallyManagedBitrate then s.distribute params env else .ok s
  | .requestKeyFrame => .ok (if s.isActive env then s.requestKeyFrame params else s)

end SimpleConsumer

end MediasoupWorker.RTC
