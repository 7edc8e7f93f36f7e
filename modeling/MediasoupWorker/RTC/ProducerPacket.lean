import MediasoupWorker.RTC.Codecs.Tools
import MediasoupWorker.RTC.Consumer

/-!
# The packet object of a producer

When a producer has received a packet, the router gives it to all consumers of the producer, one
after the other: the same object. Before each consumer it writes the MID of that consumer into the
packet.
-/

namespace MediasoupWorker.RTC

def midMaxLength : ℕ := 8

structure ProducerPacket extends ConsumedPacket Codecs.PayloadDescriptor where
  mid : Option (List Byte) := none
  deriving DecidableEq, Repr

def usableMid (mid : List Byte) : Bool := !mid.isEmpty && decide (mid.length ≤ midMaxLength)

namespace ProducerPacket

def isKeyFrame (packet : ProducerPacket) : Bool :=
  (packet.descriptor.map Codecs.PayloadDescriptor.isKeyFrame).getD false

def temporalLayer (packet : ProducerPacket) : ℕ :=
  (packet.descriptor.map Codecs.PayloadDescriptor.temporalLayer).getD 0

def updateMid (mid : List Byte) (packet : ProducerPacket) : ProducerPacket :=
  { packet with mid := packet.mid.map fun value => if usableMid mid then mid else value }

def restorePayload (packet : ProducerPacket) : ProducerPacket :=
  match packet.descriptor with
  | none => packet
  | some d => { packet with payload := d.restore packet.payload }

def withDescriptor {Descriptor : Type} (packet : ProducerPacket) (descriptor : Option Descriptor) :
    ConsumedPacket Descriptor :=
  { packet with descriptor }

def Parsed (packet : ProducerPacket) : Prop :=
  ∃ mimeType frameMarking data,
    Codecs.processRtpPacket mimeType frameMarking data = .ok (packet.descriptor, packet.payload)

variable {packet packet' : ProducerPacket}

theorem Parsed.restorePayload_eq (h : packet.Parsed) : packet.restorePayload = packet := by
  obtain ⟨mime, fm, data, hparse⟩ := h
  rw [restorePayload]
  split
  · rfl
  · rename_i d hd
    rw [hd] at hparse
    rw [Codecs.restore_of_processRtpPacket hparse]

def bare (packet : ProducerPacket) : ProducerPacket := { packet with marker := false, mid := none }

section

variable (h : packet.bare = packet'.bare)

include h

theorem eq_of_bare_eq : packet' = { packet with marker := packet'.marker, mid := packet'.mid } := by
  cases packet with
  | mk packet mid =>
    cases packet' with
    | mk packet' mid' =>
      cases packet
      cases packet'
      cases h
      rfl

theorem ext_of_bare_eq (hm : packet'.marker = packet.marker) (hmid : packet'.mid = packet.mid) :
    packet' = packet := by
  rw [eq_of_bare_eq h, hm, hmid]

theorem restorePayload_of_bare_eq (hrst : packet.restorePayload = packet) :
    packet'.restorePayload = packet' := by
  rw [eq_of_bare_eq h]
  obtain ⟨⟨ssrc, pt, seq, timestamp, marker, desc, payload⟩, mid⟩ := packet
  cases desc with
  | none => rfl
  | some d =>
    have hpl : d.restore payload = payload :=
      congrArg (fun packet : ProducerPacket => packet.payload) hrst
    dsimp only [restorePayload]
    rw [hpl]

end

end ProducerPacket

/-! ## Streams that forward everything -/

structure ForwardedStream where
  syncRequired : Bool := false
  rtpSeqManager : SeqManager 16 := {}
  rtpStream : RtpStream := {}
  deriving DecidableEq, Repr

namespace ForwardedStream

def synchronize (stream : ForwardedStream) (packet : ProducerPacket) : ForwardedStream :=
  if stream.syncRequired then
    { stream with
      syncRequired := false
      rtpSeqManager := stream.rtpSeqManager.sync (packet.sequenceNumber - 1) }
  else stream

def transmit (stream : ForwardedStream) (nowMs : ℕ) (uninitialized : BitVec 16) (ssrc : BitVec 32)
    (packet : ProducerPacket) : ForwardedStream × Option SentPacket × ProducerPacket :=
  let (rtpSeqManager, seq) := stream.rtpSeqManager.input packet.sequenceNumber
  let rewritten := { packet with ssrc, sequenceNumber := seq.getD uninitialized }
  let (rtpStream, accepted) :=
    stream.rtpStream.receivePacket nowMs rewritten.sequenceNumber rewritten.timestamp
  ({ stream with rtpSeqManager, rtpStream },
    if accepted then some (rewritten.sent seq) else none,
    { rewritten with ssrc := packet.ssrc, sequenceNumber := packet.sequenceNumber })

def send (stream : ForwardedStream) (keyFrameSupported : Bool) (nowMs : ℕ)
    (uninitialized : BitVec 16) (ssrc : BitVec 32) (packet : ProducerPacket) :
    ForwardedStream × Option SentPacket × ProducerPacket :=
  if stream.syncRequired && keyFrameSupported && !packet.isKeyFrame then (stream, none, packet)
  else (stream.synchronize packet).transmit nowMs uninitialized ssrc packet

end ForwardedStream

end MediasoupWorker.RTC
