import MediasoupWorker.RTC.ProducerPacket

/-!
# The pipe consumer

`src/src/RTC/PipeConsumer.cpp`. A pipe consumer carries all streams of a producer to another router.
It has a stream of its own for each of them, and forwards all packets.
-/

namespace MediasoupWorker.RTC

structure PipeEnv where
  nowMs : ℕ := 0
  uninitialized : BitVec 16 := 0

structure PipeParameters (n : ℕ) where
  kind : Media.Kind := .video
  keyFrameSupported : Bool
  consumableSsrcs : Fin n → BitVec 32
  ssrcs : Fin n → BitVec 32
  supportedCodecPayloadTypes : List ℕ

namespace PipeParameters

variable {n : ℕ} (params : PipeParameters n)

def ssrcOf (mappedSsrc : BitVec 32) : Option (BitVec 32) :=
  ((List.finRange n).reverse.find? fun idx => params.consumableSsrcs idx == mappedSsrc).map
    params.ssrcs

def rtpStreamOf (ssrc : BitVec 32) : Option (Fin n) :=
  (List.finRange n).reverse.find? fun idx => params.ssrcs idx == ssrc

end PipeParameters

structure PipeConsumer (n : ℕ) extends Consumer where
  rtpStreams : Fin n → ForwardedStream := fun _ => {}
  outputs : List ConsumerOutput := []

namespace PipeConsumer

variable {n : ℕ} (params : PipeParameters n) (env : PipeEnv) (s : PipeConsumer n)

def requestKeyFrame : PipeConsumer n :=
  if params.kind = .video then
    { s with
      outputs := s.outputs ++ (List.finRange n).map fun idx => .keyFrameRequest (params.consumableSsrcs idx) }
  else s

def sendRtpPacket (packet : ProducerPacket) : Except Fault (PipeConsumer n × ProducerPacket) :=
  if !s.toConsumer.isActive then .ok (s, packet)
  else if packet.payloadType ∉ params.supportedCodecPayloadTypes then .ok (s, packet)
  else
    match params.ssrcOf packet.ssrc with
    | none => .error (.exception "std::out_of_range")
    | some ssrc =>
      match params.rtpStreamOf ssrc with
      | none => .error (.exception "std::out_of_range")
      | some idx =>
        let (stream, sent, packet) :=
          (s.rtpStreams idx).send params.keyFrameSupported env.nowMs env.uninitialized ssrc packet
        .ok ({ s with
          rtpStreams := Function.update s.rtpStreams idx stream
          outputs := s.outputs ++ (sent.map .rtp).toList }, packet)

def restart : PipeConsumer n :=
  let s := { s with rtpStreams := fun idx => { s.rtpStreams idx with syncRequired := true } }
  if s.toConsumer.isActive then s.requestKeyFrame params else s

def derived : Consumer.Derived (PipeConsumer n) where
  base s := s.toConsumer
  setBase base s := { s with toConsumer := base }
  isActive s := s.toConsumer.isActive
  userOnTransportConnected s := .ok (s.restart params)
  userOnTransportDisconnected := id
  userOnPaused := id
  userOnResumed s := .ok (s.restart params)

inductive Event where
  | base (event : Consumer.Event)
  | requestKeyFrame
  deriving DecidableEq, Repr

def new (paused producerPaused : Bool) : PipeConsumer n where
  paused := paused
  producerPaused := producerPaused

def step (s : PipeConsumer n) : Event → Except Fault (PipeConsumer n)
  | .base event => (derived params).handle s event
  | .requestKeyFrame =>
    .ok (if s.toConsumer.isActive then s.requestKeyFrame params else s)

end PipeConsumer

end MediasoupWorker.RTC
