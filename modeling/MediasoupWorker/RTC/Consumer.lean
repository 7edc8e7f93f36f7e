import MediasoupWorker.RTC.SimulcastConsumer

/-!
# `Consumer`: what all consumers share

`src/src/RTC/Consumer.cpp`. All consumers of a producer get the same packet object. They rewrite it in
place, hand it to their transport, and restore what they have changed; so the functions that forward a
packet return it together with the consumer.
-/

namespace MediasoupWorker.RTC

structure Consumer where
  transportConnected : Bool := false
  paused : Bool := false
  producerPaused : Bool := false
  producerClosed : Bool := false
  externallyManagedBitrate : Bool := false
  deriving DecidableEq, Repr

abbrev ConsumerOutput := SimulcastOutput

def sentPackets (outputs : List ConsumerOutput) : List SentPacket :=
  outputs.filterMap fun output =>
    match output with
    | .rtp packet => some packet
    | _ => none

namespace Consumer

def isActive (s : Consumer) : Bool :=
  s.transportConnected && !s.paused && !s.producerPaused && !s.producerClosed

inductive Event where
  | pause
  | resume
  | producerPaused
  | producerResumed
  | producerClosed
  | transportConnected
  | transportDisconnected
  | setExternallyManagedBitrate
  deriving DecidableEq, Repr

structure Derived (σ : Type) where
  base : σ → Consumer
  setBase : Consumer → σ → σ
  isActive : σ → Bool
  userOnTransportConnected : σ → Except Fault σ
  userOnTransportDisconnected : σ → σ
  userOnPaused : σ → σ
  userOnResumed : σ → Except Fault σ

namespace Derived

variable {σ : Type} (derived : Derived σ)

def pause (base : Consumer) (s : σ) : σ :=
  let wasActive := derived.isActive s
  let s := derived.setBase base s
  if wasActive then derived.userOnPaused s else s

def resume (base : Consumer) (s : σ) : Except Fault σ :=
  let s := derived.setBase base s
  if derived.isActive s then derived.userOnResumed s else .ok s

def handle (s : σ) : Event → Except Fault σ
  | .pause =>
    if (derived.base s).paused then .ok s
    else .ok (derived.pause { derived.base s with paused := true } s)
  | .resume =>
    if !(derived.base s).paused then .ok s
    else derived.resume { derived.base s with paused := false } s
  | .producerPaused =>
    if (derived.base s).producerPaused then .ok s
    else .ok (derived.pause { derived.base s with producerPaused := true } s)
  | .producerResumed =>
    if !(derived.base s).producerPaused then .ok s
    else derived.resume { derived.base s with producerPaused := false } s
  | .producerClosed => .ok (derived.setBase { derived.base s with producerClosed := true } s)
  | .transportConnected =>
    derived.userOnTransportConnected
      (derived.setBase { derived.base s with transportConnected := true } s)
  | .transportDisconnected =>
    .ok (derived.userOnTransportDisconnected
      (derived.setBase { derived.base s with transportConnected := false } s))
  | .setExternallyManagedBitrate =>
    .ok (derived.setBase { derived.base s with externallyManagedBitrate := true } s)

end Derived

end Consumer

structure ConsumedPacket (Descriptor : Type) where
  ssrc : BitVec 32
  payloadType : ℕ
  sequenceNumber : BitVec 16
  timestamp : BitVec 32
  marker : Bool := false
  descriptor : Option Descriptor := none
  payload : List Byte := []
  deriving DecidableEq, Repr

def ConsumedPacket.sent {Descriptor : Type} (packet : ConsumedPacket Descriptor)
    (sequenceNumber : Option (BitVec 16)) : SentPacket where
  ssrc := packet.ssrc
  payloadType := packet.payloadType
  sequenceNumber := sequenceNumber
  timestamp := packet.timestamp
  marker := packet.marker
  payload := packet.payload

end MediasoupWorker.RTC
