import MediasoupWorker.RTC.PipeConsumer
import MediasoupWorker.RTC.SimpleConsumer
import MediasoupWorker.RTC.SvcConsumer

/-!
# What consumers do to the packet object

A consumer rewrites the packet object that it gets, hands it to its transport, and writes back what was
there before. The marker and the MID of the packet do not matter to it; it only sends them.
-/

namespace MediasoupWorker.RTC

open Library List

/-! ## Markers and MIDs -/

def ProducerPacket.marked (marker : Bool) (mid : Option (List Byte)) (packet : ProducerPacket) :
    ProducerPacket :=
  { packet with marker, mid }

theorem ProducerPacket.marked_of_bare_eq {packet packet' : ProducerPacket} (h : packet.bare = packet'.bare)
    (m : Bool) (mid : Option (List Byte)) : packet'.marked m mid = packet.marked m mid := by
  rw [eq_of_bare_eq h]
  rfl

def SentPacket.unmarked (packet : SentPacket) : SentPacket := { packet with marker := false }

def ConsumerOutput.unmarked : ConsumerOutput → ConsumerOutput
  | .rtp packet => .rtp packet.unmarked
  | output => output

theorem sentPackets_unmarked (outputs : List ConsumerOutput) :
    sentPackets (outputs.map ConsumerOutput.unmarked) = (sentPackets outputs).map SentPacket.unmarked := by
  rw [sentPackets, sentPackets, filterMap_map, map_filterMap]
  refine filterMap_congr fun out _ => ?_
  cases out <;> rfl

theorem toList_unmarked {sent sent' : Option SentPacket}
    (h : sent.map SentPacket.unmarked = sent'.map SentPacket.unmarked) :
    (sent.map SimulcastOutput.rtp).toList.map ConsumerOutput.unmarked =
      (sent'.map SimulcastOutput.rtp).toList.map ConsumerOutput.unmarked := by
  have hlist : ∀ sent : Option SentPacket, (sent.map SimulcastOutput.rtp).toList.map ConsumerOutput.unmarked =
        (sent.map SentPacket.unmarked).toList.map SimulcastOutput.rtp := by
    intro sent
    cases sent <;> rfl
  rw [hlist, hlist, h]

/-! ## Simple and pipe consumers -/

namespace ForwardedStream

variable (st : ForwardedStream) (keyFrameSupported : Bool) (now : ℕ)
  (uninitialized : BitVec 16) (ssrc : BitVec 32) (packet : ProducerPacket)

theorem send_packet : (st.send keyFrameSupported now uninitialized ssrc packet).2.2 = packet := by
  rw [send]
  split_ifs <;> rfl

theorem send_marked_fst (m : Bool) (mid : Option (List Byte)) :
    (st.send keyFrameSupported now uninitialized ssrc (packet.marked m mid)).1 =
      (st.send keyFrameSupported now uninitialized ssrc packet).1 := by
  have hkey : (packet.marked m mid).isKeyFrame = packet.isKeyFrame := rfl
  rw [send, send, hkey]
  split_ifs <;> rfl

theorem send_marked_sent (m : Bool) (mid : Option (List Byte)) :
    (st.send keyFrameSupported now uninitialized ssrc (packet.marked m mid)).2.1.map
        SentPacket.unmarked = (st.send keyFrameSupported now uninitialized ssrc packet).2.1.map
        SentPacket.unmarked := by
  have hkey : (packet.marked m mid).isKeyFrame = packet.isKeyFrame := rfl
  rw [send, send, hkey]
  split_ifs
  · rfl
  · dsimp only [transmit, synchronize, ProducerPacket.marked]
    split_ifs <;> rfl

end ForwardedStream

namespace SimpleConsumer

variable (params : SimpleParameters) (env : SimpleEnv) (s : SimpleConsumer) (packet : ProducerPacket)

def unmarked : SimpleConsumer := { s with outputs := s.outputs.map ConsumerOutput.unmarked }

theorem sendRtpPacket_packet : (s.sendRtpPacket params env packet).2 = packet := by
  rw [sendRtpPacket]
  split_ifs
  · rfl
  · exact s.toForwardedStream.send_packet ..
  · rfl

theorem sendRtpPacket_marked (m : Bool) (mid : Option (List Byte)) :
    (s.sendRtpPacket params env (packet.marked m mid)).1.unmarked =
      (s.sendRtpPacket params env packet).1.unmarked := by
  have htype : (packet.marked m mid).payloadType = packet.payloadType := rfl
  rw [sendRtpPacket, sendRtpPacket, htype]
  split_ifs
  · rfl
  · dsimp only [unmarked]
    rw [ForwardedStream.send_marked_fst, map_append, map_append,
      toList_unmarked (ForwardedStream.send_marked_sent ..)]
  · rfl

end SimpleConsumer

namespace PipeConsumer

variable {n : ℕ} (params : PipeParameters n) (env : PipeEnv) (s : PipeConsumer n)
  (packet : ProducerPacket)

def unmarked : PipeConsumer n := { s with outputs := s.outputs.map ConsumerOutput.unmarked }

theorem sendRtpPacket_packet :
    Meets (fun r => r.2 = packet) (fun _ => True) (s.sendRtpPacket params env packet) := by
  rw [sendRtpPacket]
  split_ifs
  · rfl
  · cases params.ssrcOf packet.ssrc with
    | none => trivial
    | some ssrc =>
      dsimp only
      cases params.rtpStreamOf ssrc with
      | none => trivial
      | some idx => exact (s.rtpStreams idx).send_packet ..
  · rfl

theorem sendRtpPacket_marked (m : Bool) (mid : Option (List Byte)) :
    (fun r => r.1.unmarked) <$> s.sendRtpPacket params env (packet.marked m mid) =
      (fun r => r.1.unmarked) <$> s.sendRtpPacket params env packet := by
  have htype : (packet.marked m mid).payloadType = packet.payloadType := rfl
  have hssrc : (packet.marked m mid).ssrc = packet.ssrc := rfl
  rw [sendRtpPacket, sendRtpPacket, htype, hssrc]
  split_ifs
  · rfl
  · cases params.ssrcOf packet.ssrc with
    | none => rfl
    | some ssrc =>
      dsimp only
      cases params.rtpStreamOf ssrc with
      | none => rfl
      | some idx =>
        refine congrArg Except.ok ?_
        dsimp only [unmarked]
        rw [ForwardedStream.send_marked_fst, map_append, map_append,
          toList_unmarked (ForwardedStream.send_marked_sent ..)]
  · rfl

end PipeConsumer

/-! ## SVC consumers -/

def ProducerPacket.vp9? (packet : ProducerPacket) : Option SvcPacket :=
  match packet.descriptor with
  | none => some (packet.withDescriptor none)
  | some (.vp9 d) => some (packet.withDescriptor (some d))
  | some _ => none

theorem ProducerPacket.vp9?_marked (packet : ProducerPacket) (m : Bool) (mid : Option (List Byte)) :
    (packet.marked m mid).vp9? = packet.vp9?.map fun own => { own with marker := m } := by
  rw [vp9?, vp9?]
  dsimp only [marked]
  split <;> rfl

def ProducerPacket.write {Descriptor : Type} (packet : ProducerPacket)
    (written : ConsumedPacket Descriptor) : ProducerPacket :=
  { packet with
    ssrc := written.ssrc
    payloadType := written.payloadType
    sequenceNumber := written.sequenceNumber
    timestamp := written.timestamp
    marker := written.marker
    payload := written.payload }

namespace SvcPacket

variable {p : SvcPacket} {context : Codecs.VP9.EncodingContext}

theorem processPayload_marked (marker : Bool) : processPayload { p with marker } context = (fun r => (r.1,
        { r.2.1 with marker := marker || p.asksMarker context }, r.2.2)) <$>
          p.processPayload context := by
  rw [processPayload, processPayload, asksMarker]
  cases p with
  | mk ssrc pt seq ts m desc pl =>
    cases desc with
    | none =>
      dsimp only
      rw [map_ok, Bool.or_false]
    | some d =>
      dsimp only
      cases Codecs.VP9.process context d with
      | error f => rfl
      | ok r =>
        obtain ⟨c', marker?⟩ := r
        cases marker? with
        | none =>
          dsimp only
          rw [Bool.or_false]
          rfl
        | some asked => rfl

end SvcPacket

namespace SvcConsumer

section

variable (params : SvcParameters) (env : SvcEnv) (s : SvcConsumer)

def sendRtpPacketInPlace (packet : ProducerPacket) : Except Fault (SvcConsumer × ProducerPacket) :=
  match packet.vp9? with
  | some own => do
    let (s, own) ← s.sendRtpPacket params env own
    return (s, packet.write own)
  | none =>
    if !s.considers params env (packet.withDescriptor none) then .ok (s, packet)
    else if s.syncRequired && !packet.isKeyFrame then .ok (s, packet)
    else .error .outOfBounds

def marks (packet : SvcPacket) : Bool :=
  s.considers params env packet && !(s.syncRequired && !packet.isKeyFrame) &&
    packet.asksMarker s.encodingContext

def setsMarker (packet : ProducerPacket) : Bool := (packet.vp9?.map (s.marks params env)).getD false

def unmarked : SvcConsumer := { s with outputs := s.outputs.map ConsumerOutput.unmarked }

end

variable {params : SvcParameters} {env : SvcEnv} {s : SvcConsumer}

section

variable (packet : SvcPacket)

include packet

theorem filterAndTransmit_packet :
    Meets (fun r => r.2 = { packet with marker := packet.marker || packet.asksMarker s.encodingContext })
      (fun _ => True) (s.filterAndTransmit params env packet) := by
  rw [filterAndTransmit]
  cases hproc : packet.processPayload s.encodingContext with
  | error f => trivial
  | ok r =>
    have hp := SvcPacket.processPayload_packet hproc
    rw [ok_bind]
    dsimp only
    split_ifs
    · exact hp
    · exact hp
    · exact hp

theorem sendRtpPacket_packet :
    Meets (fun r => r.2 = { packet with marker := packet.marker || s.marks params env packet })
      (fun _ => True) (s.sendRtpPacket params env packet) := by
  rw [sendRtpPacket, marks]
  cases s.considers params env packet with
  | false => exact congrArg (fun marker => { packet with marker }) (Bool.or_false _).symm
  | true =>
    rw [if_neg (by simp)]
    cases hignored : (s.syncRequired && !packet.isKeyFrame) with
    | true => exact congrArg (fun marker => { packet with marker }) (Bool.or_false _).symm
    | false =>
      have hctx : (s.synchronize packet).encodingContext = s.encodingContext := by
        rw [synchronize]
        split_ifs <;> rfl
      rw [if_neg (by simp), ← hctx]
      exact filterAndTransmit_packet packet

theorem transmit_marked (marker : Bool) : (s.transmit params env { packet with marker }).1.unmarked =
      (s.transmit params env packet).1.unmarked := by
  dsimp only [transmit, emit, unmarked]
  split_ifs
  · simp [ConsumerOutput.unmarked, SentPacket.unmarked, ConsumedPacket.sent]
  · rfl

theorem filterAndTransmit_marked (marker : Bool) :
    (fun r => r.1.unmarked) <$> s.filterAndTransmit params env { packet with marker } =
      (fun r => r.1.unmarked) <$> s.filterAndTransmit params env packet := by
  rw [filterAndTransmit, filterAndTransmit, SvcPacket.processPayload_marked]
  cases packet.processPayload s.encodingContext with
  | error f => rfl
  | ok r =>
    rw [map_ok, ok_bind, ok_bind]
    dsimp only
    split_ifs
    · rfl
    · exact congrArg Except.ok (transmit_marked r.2.1 _)
    · exact congrArg Except.ok (transmit_marked r.2.1 _)

theorem sendRtpPacket_marked (marker : Bool) :
    (fun r => r.1.unmarked) <$> s.sendRtpPacket params env { packet with marker } =
      (fun r => r.1.unmarked) <$> s.sendRtpPacket params env packet := by
  have hcon : s.considers params env { packet with marker } = s.considers params env packet := rfl
  have hkey : SvcPacket.isKeyFrame { packet with marker } = packet.isKeyFrame := rfl
  have hsync : s.synchronize { packet with marker } = s.synchronize packet := rfl
  rw [sendRtpPacket, sendRtpPacket, hcon, hkey, hsync]
  split_ifs
  · rfl
  · rfl
  · exact filterAndTransmit_marked packet marker

end

/-- **What an SVC consumer leaves behind**: it may have set the marker. -/
theorem sendRtpPacketInPlace_packet (packet : ProducerPacket) :
    Meets (fun r => r.2 = packet.marked (packet.marker || s.setsMarker params env packet) packet.mid)
      (fun _ => True) (s.sendRtpPacketInPlace params env packet) := by
  have hsame : packet = packet.marked (packet.marker || false) packet.mid := by
    rw [Bool.or_false]
    rfl
  rw [sendRtpPacketInPlace, setsMarker]
  cases hvp9 : packet.vp9? with
  | none =>
    dsimp only
    split_ifs
    · exact hsame
    · exact hsame
    · trivial
  | some own =>
    refine (sendRtpPacket_packet own).bind fun r hres => ?_
    show packet.write r.2 = _
    rw [hres]
    rw [ProducerPacket.vp9?] at hvp9
    split at hvp9
    · cases hvp9
      rfl
    · cases hvp9
      rfl
    · cases hvp9

section

variable (packet : ProducerPacket) (m : Bool) (mid : Option (List Byte))

theorem setsMarker_marked :
    s.setsMarker params env (packet.marked m mid) = s.setsMarker params env packet := by
  rw [setsMarker, setsMarker, packet.vp9?_marked m mid, Option.map_map]
  rfl

theorem sendRtpPacketInPlace_marked : (fun r => r.1.unmarked) <$>
        s.sendRtpPacketInPlace params env (packet.marked m mid) =
      (fun r => r.1.unmarked) <$> s.sendRtpPacketInPlace params env packet := by
  have hfst : ∀ (out : ProducerPacket) (x : Except Fault (SvcConsumer × SvcPacket)),
      (fun r => r.1.unmarked) <$>
          (x >>= fun r => pure (r.1, out.write r.2)) = (fun r => r.1.unmarked) <$> x := by
    intro out x
    cases x <;> rfl
  rw [sendRtpPacketInPlace, sendRtpPacketInPlace, packet.vp9?_marked m mid]
  cases packet.vp9? with
  | none =>
    have hcon : s.considers params env ((packet.marked m mid).withDescriptor none) =
        s.considers params env (packet.withDescriptor none) := rfl
    have hkey : (packet.marked m mid).isKeyFrame = packet.isKeyFrame := rfl
    dsimp only [Option.map]
    rw [hcon, hkey]
    split_ifs <;> rfl
  | some own => exact (hfst _ _).trans ((sendRtpPacket_marked own m).trans (hfst _ _).symm)

end

end SvcConsumer

/-! ## Simulcast consumers -/

namespace SimulcastConsumer

section

variable {codec : Codecs.SimulcastCodec} {n : ℕ} (params : SimulcastParameters n) (env : Env n)
  (s : SimulcastConsumer codec.handler n)

def view (codec : Codecs.SimulcastCodec) (packet : ProducerPacket) :
    SimulcastPacket codec.handler where
  ssrc := packet.ssrc
  payloadType := packet.payloadType
  sequenceNumber := packet.sequenceNumber
  timestamp := packet.timestamp
  marker := packet.marker
  descriptor := packet.descriptor.bind codec.descriptor?
  payload := packet.payload

def processPayloadInPlace (packet : ProducerPacket) (context : codec.handler.Context) :
    Except Fault (codec.handler.Context × ProducerPacket × Bool) :=
  match packet.descriptor with
  | none => .ok (context, packet, true)
  | some d =>
    match codec.descriptor? d with
    | none => .error .outOfBounds
    | some own => do
      let (context, result) ← codec.handler.process context own packet.payload
      match result with
      | none => return (context, packet, false)
      | some (payload, marker) =>
        return (context, { packet with payload, marker := packet.marker || marker }, true)

def transmitInPlace (packet : ProducerPacket) :
    SimulcastConsumer codec.handler n × ProducerPacket :=
  let timestamp := packet.timestamp - s.tsOffset
  let (rtpSeqManager, seq) := s.rtpSeqManager.input packet.sequenceNumber
  let rewritten := { packet with
    ssrc := params.ssrc
    sequenceNumber := seq.getD env.uninitialized
    timestamp }
  let (rtpStream, accepted) :=
    s.rtpStream.receivePacket env.nowMs rewritten.sequenceNumber rewritten.timestamp
  let s := { s with rtpSeqManager, rtpStream }
  let s := if accepted then s.emit (.rtp (rewritten.sent seq)) else s
  (s, { rewritten with
    ssrc := packet.ssrc
    sequenceNumber := packet.sequenceNumber
    timestamp := packet.timestamp }.restorePayload)

def switchAndTransmitInPlace (packet : ProducerPacket) :
    Except Fault (SimulcastConsumer codec.handler n × ProducerPacket) := do
  let encodingContext := codec.handler.setCurrentTemporalLayer packet.temporalLayer
    (codec.handler.setTargetTemporalLayer s.targetTemporalLayer s.encodingContext)
  let s := { s with currentSpatialLayer := s.targetSpatialLayer, encodingContext }
  let s := s.emitLayersChange.emit .score
  let (encodingContext, packet, _) ← processPayloadInPlace packet s.encodingContext
  return { s with encodingContext }.transmitInPlace params env packet

def filterAndTransmitInPlace (packet : ProducerPacket) :
    Except Fault (SimulcastConsumer codec.handler n × ProducerPacket) := do
  let previousTemporalLayer := codec.handler.currentTemporalLayer s.encodingContext
  let (encodingContext, packet, processed) ← processPayloadInPlace packet s.encodingContext
  let s := { s with encodingContext }
  if !processed then
    return ({ s with rtpSeqManager := s.rtpSeqManager.drop packet.sequenceNumber }, packet)
  else if previousTemporalLayer ≠ codec.handler.currentTemporalLayer s.encodingContext then
    return s.emitLayersChange.transmitInPlace params env packet
  else return s.transmitInPlace params env packet

def forwardInPlace (packet : ProducerPacket) (switching : Bool) :
    Except Fault (SimulcastConsumer codec.handler n × ProducerPacket) :=
  if switching then s.switchAndTransmitInPlace params env packet
  else s.filterAndTransmitInPlace params env packet

def syncAndForwardInPlace (packet : ProducerPacket) (layer : Fin n) (switching : Bool) :
    Except Fault (SimulcastConsumer codec.handler n × ProducerPacket) :=
  if !s.syncRequired then s.forwardInPlace params env packet switching
  else if !packet.isKeyFrame then .ok (s, packet)
  else do
    let (s, synchronized) ← s.synchronize params (view codec packet) layer switching
    if synchronized then s.forwardInPlace params env packet switching else return (s, packet)

def sendLayerPacketInPlace (packet : ProducerPacket) (layer : Fin n) :
    Except Fault (SimulcastConsumer codec.handler n × ProducerPacket) :=
  let switching :=
    decide (s.currentSpatialLayer ≠ s.targetSpatialLayer ∧ some layer = s.targetSpatialLayer)
  if switching && !packet.isKeyFrame then .ok (s, packet)
  else if !switching && decide (some layer ≠ s.currentSpatialLayer) then .ok (s, packet)
  else (s.requireSync switching).syncAndForwardInPlace params env packet layer switching

def sendRtpPacketInPlace (packet : ProducerPacket) :
    Except Fault (SimulcastConsumer codec.handler n × ProducerPacket) :=
  if !s.isActive env then .ok (s, packet)
  else if s.targetTemporalLayer = -1 then .ok (s, packet)
  else if packet.payloadType ∉ params.supportedCodecPayloadTypes then .ok (s, packet)
  else
    match params.spatialLayerOf packet.ssrc with
    | none => .error (.exception "std::out_of_range")
    | some layer => s.sendLayerPacketInPlace params env packet layer

def unmarked : SimulcastConsumer codec.handler n :=
  { s with outputs := s.outputs.map ConsumerOutput.unmarked }

end

variable {codec : Codecs.SimulcastCodec} {n : ℕ} {params : SimulcastParameters n} {env : Env n}
  {s : SimulcastConsumer codec.handler n} {packet : ProducerPacket}

/-! ### The packet -/

theorem processPayloadInPlace_packet {context : codec.handler.Context}
    {r : codec.handler.Context × ProducerPacket × Bool} (h : processPayloadInPlace packet context = .ok r) :
    r.2.1.restorePayload = packet.restorePayload ∧ (r.2.2 = false → r.2.1 = packet) := by
  obtain ⟨⟨ssrc, pt, seq, ts, m, desc, data⟩, mid⟩ := packet
  rw [processPayloadInPlace] at h
  cases desc with
  | none =>
    cases h
    exact ⟨rfl, fun hfalse => by cases hfalse⟩
  | some d =>
    dsimp only at h
    cases hown : codec.descriptor? d with
    | none =>
      rw [hown] at h
      cases h
    | some own =>
      rw [hown] at h
      obtain ⟨⟨c', out⟩, hproc, h⟩ := bind_eq_ok.mp h
      cases out with
      | none =>
        cases h
        exact ⟨rfl, fun _ => rfl⟩
      | some out =>
        obtain ⟨pl, mk⟩ := out
        obtain ⟨rfl, hrst⟩ := Codecs.SimulcastCodec.process_restored hown hproc
        cases h
        refine ⟨?_, fun hfalse => by cases hfalse⟩
        dsimp only [ProducerPacket.restorePayload]
        rw [hrst, Bool.or_false]

theorem forwardInPlace_packet (hrst : packet.restorePayload = packet) (sw : Bool) :
    Meets (fun r => r.2 = packet) (fun _ => True)
      (s.forwardInPlace params env packet sw) := by
  rw [forwardInPlace]
  split_ifs
  · rw [switchAndTransmitInPlace]
    refine (Meets.of_ok fun r hres => processPayloadInPlace_packet hres).bind
      fun r hres => ?_
    exact hres.1.trans hrst
  · rw [filterAndTransmitInPlace]
    refine (Meets.of_ok fun r hres => processPayloadInPlace_packet hres).bind
      fun r hres => ?_
    dsimp only
    split_ifs with href
    · exact hres.2 (by simpa using href)
    · exact hres.1.trans hrst
    · exact hres.1.trans hrst

/-- **A simulcast consumer leaves the packet as it was.** -/
theorem sendRtpPacketInPlace_packet (hrst : packet.restorePayload = packet) :
    Meets (fun r => r.2 = packet) (fun _ => True)
      (s.sendRtpPacketInPlace params env packet) := by
  have hsync : ∀ (s : SimulcastConsumer codec.handler n) (l : Fin n) (sw : Bool),
      Meets (fun r => r.2 = packet) (fun _ => True)
        (s.syncAndForwardInPlace params env packet l sw) := by
    intro s l sw
    rw [syncAndForwardInPlace]
    split_ifs
    · exact forwardInPlace_packet hrst sw
    · rfl
    · refine Meets.any.bind fun r _ => ?_
      dsimp only
      split_ifs
      · exact forwardInPlace_packet hrst sw
      · rfl
  rw [sendRtpPacketInPlace]
  split_ifs
  · rfl
  · rfl
  · cases params.spatialLayerOf packet.ssrc with
    | none => trivial
    | some l =>
      dsimp only [sendLayerPacketInPlace]
      split_ifs
      · rfl
      · rfl
      · exact hsync _ l _
  · rfl

/-! ### The markers -/

theorem processPayloadInPlace_marked (packet : ProducerPacket) (context : codec.handler.Context) (m : Bool)
    (mid : Option (List Byte)) :
    processPayloadInPlace (packet.marked m mid) context = (fun r => (r.1, r.2.1.marked m mid, r.2.2)) <$>
        processPayloadInPlace packet context := by
  obtain ⟨⟨ssrc, pt, seq, ts, packetMarker, desc, data⟩, packetMid⟩ :=
    packet
  rw [processPayloadInPlace, processPayloadInPlace]
  cases desc with
  | none => rfl
  | some d =>
    dsimp only [ProducerPacket.marked]
    cases hown : codec.descriptor? d with
    | none => rfl
    | some own =>
      dsimp only
      cases hproc : codec.handler.process context own data with
      | error f => rfl
      | ok r =>
        obtain ⟨c', out⟩ := r
        cases out with
        | none => rfl
        | some out =>
          obtain ⟨pl, asked⟩ := out
          obtain ⟨rfl, -⟩ := Codecs.SimulcastCodec.process_restored hown hproc
          rw [ok_bind, ok_bind]
          dsimp only
          rw [Bool.or_false]
          rfl

section

variable (packet : ProducerPacket) (m : Bool) (mid : Option (List Byte))

theorem transmitInPlace_marked : (s.transmitInPlace params env (packet.marked m mid)).1.unmarked =
      (s.transmitInPlace params env packet).1.unmarked := by
  dsimp only [transmitInPlace, emit, unmarked, ProducerPacket.marked]
  split_ifs
  · simp [ConsumerOutput.unmarked, SentPacket.unmarked, ConsumedPacket.sent]
  · rfl

theorem forwardInPlace_marked (switching : Bool) : (fun r => r.1.unmarked) <$>
        s.forwardInPlace params env (packet.marked m mid) switching =
      (fun r => r.1.unmarked) <$> s.forwardInPlace params env packet switching := by
  have hl : (packet.marked m mid).temporalLayer = packet.temporalLayer := rfl
  rw [forwardInPlace, forwardInPlace]
  split_ifs
  · rw [switchAndTransmitInPlace, switchAndTransmitInPlace, hl, processPayloadInPlace_marked]
    dsimp only
    cases processPayloadInPlace packet _ with
    | error f => rfl
    | ok r =>
      rw [map_ok, ok_bind, ok_bind]
      exact congrArg Except.ok (transmitInPlace_marked r.2.1 m mid)
  · rw [filterAndTransmitInPlace, filterAndTransmitInPlace, processPayloadInPlace_marked]
    cases processPayloadInPlace packet s.encodingContext with
    | error f => rfl
    | ok r =>
      rw [map_ok, ok_bind, ok_bind]
      dsimp only
      split_ifs
      · rfl
      · exact congrArg Except.ok (transmitInPlace_marked r.2.1 m mid)
      · exact congrArg Except.ok (transmitInPlace_marked r.2.1 m mid)

theorem syncAndForwardInPlace_marked (l : Fin n) (switching : Bool) : (fun r => r.1.unmarked) <$>
        s.syncAndForwardInPlace params env (packet.marked m mid) l switching = (fun r => r.1.unmarked) <$>
        s.syncAndForwardInPlace params env packet l switching := by
  have hkey : (packet.marked m mid).isKeyFrame = packet.isKeyFrame := rfl
  have hsync : s.synchronize params (view codec (packet.marked m mid)) l switching =
      s.synchronize params (view codec packet) l switching := rfl
  rw [syncAndForwardInPlace, syncAndForwardInPlace, hkey, hsync]
  split_ifs
  · exact forwardInPlace_marked packet m mid switching
  · rfl
  · cases s.synchronize params (view codec packet) l switching with
    | error f => rfl
    | ok r =>
      rw [ok_bind, ok_bind]
      dsimp only
      split_ifs
      · exact forwardInPlace_marked packet m mid switching
      · rfl

theorem sendRtpPacketInPlace_marked : (fun r => r.1.unmarked) <$>
        s.sendRtpPacketInPlace params env (packet.marked m mid) =
      (fun r => r.1.unmarked) <$> s.sendRtpPacketInPlace params env packet := by
  have htype : (packet.marked m mid).payloadType = packet.payloadType := rfl
  have hssrc : (packet.marked m mid).ssrc = packet.ssrc := rfl
  have hkey : (packet.marked m mid).isKeyFrame = packet.isKeyFrame := rfl
  rw [sendRtpPacketInPlace, sendRtpPacketInPlace, htype, hssrc]
  split_ifs
  · rfl
  · rfl
  · cases params.spatialLayerOf packet.ssrc with
    | none => rfl
    | some l =>
      dsimp only [sendLayerPacketInPlace]
      rw [hkey]
      split_ifs
      · rfl
      · rfl
      · exact syncAndForwardInPlace_marked packet m mid l _
  · rfl

end

/-! ### Without the packet object -/

def Speaks (codec : Codecs.SimulcastCodec) (packet : ProducerPacket) : Prop :=
  ∀ d, packet.descriptor = some d → ∃ own, codec.descriptor? d = some own

section

variable (h : Speaks codec packet)

include h

theorem Speaks.isKeyFrame : (view codec packet).isKeyFrame = packet.isKeyFrame := by
  rw [SimulcastPacket.isKeyFrame, ProducerPacket.isKeyFrame, view]
  cases hdesc : packet.descriptor with
  | none => rfl
  | some d =>
    obtain ⟨own, hown⟩ := h d hdesc
    rw [Option.bind_some, hown]
    exact Codecs.SimulcastCodec.isKeyFrame_eq hown

theorem Speaks.temporalLayer : (view codec packet).temporalLayer = packet.temporalLayer := by
  rw [SimulcastPacket.temporalLayer, ProducerPacket.temporalLayer, view]
  cases hdesc : packet.descriptor with
  | none => rfl
  | some d =>
    obtain ⟨own, hown⟩ := h d hdesc
    rw [Option.bind_some, hown]
    exact Codecs.SimulcastCodec.temporalLayer_eq hown

theorem Speaks.processPayload (context : codec.handler.Context) :
    (view codec packet).processPayload context = (fun r => (r.1, view codec r.2.1, r.2.2)) <$>
        processPayloadInPlace packet context := by
  obtain ⟨⟨ssrc, pt, seq, ts, m, desc, data⟩, mid⟩ := packet
  cases desc with
  | none => rfl
  | some d =>
    obtain ⟨own, hown⟩ := h d rfl
    simp only [SimulcastPacket.processPayload, processPayloadInPlace, view, Option.bind_some, hown]
    cases codec.handler.process context own data with
    | error f => rfl
    | ok r =>
      obtain ⟨c', out⟩ := r
      cases out with
      | none => simp only [ok_bind, pure, Except.pure, map_ok, Option.bind_some, hown]
      | some out => simp only [ok_bind, pure, Except.pure, map_ok, Option.bind_some, hown]

theorem forwardInPlace_fst (switching : Bool) : Prod.fst <$> s.forwardInPlace params env packet switching =
      s.forward params env (view codec packet) switching := by
  rw [forwardInPlace, forward]
  split_ifs
  · rw [switchAndTransmitInPlace, switchAndTransmit, h.temporalLayer, h.processPayload]
    dsimp only
    cases processPayloadInPlace packet _ with
    | error f => rfl
    | ok r => rfl
  · rw [filterAndTransmitInPlace, filterAndTransmit, h.processPayload]
    cases processPayloadInPlace packet s.encodingContext with
    | error f => rfl
    | ok r =>
      rw [map_ok, ok_bind, ok_bind]
      dsimp only
      split_ifs <;> rfl

/-- **Without the packet object**, `SendRtpPacket` is the function of the simulcast consumer. -/
theorem sendRtpPacketInPlace_fst : Prod.fst <$> s.sendRtpPacketInPlace params env packet =
      s.sendRtpPacket params env (view codec packet) := by
  have hsync : ∀ (s : SimulcastConsumer codec.handler n) (l : Fin n) (switching : Bool),
      Prod.fst <$> s.syncAndForwardInPlace params env packet l switching =
        s.syncAndForward params env (view codec packet) l switching := by
    intro s l switching
    rw [syncAndForwardInPlace, syncAndForward, h.isKeyFrame]
    split_ifs
    · exact forwardInPlace_fst h switching
    · rfl
    · cases s.synchronize params (view codec packet) l switching with
      | error f => rfl
      | ok r =>
        rw [ok_bind, ok_bind]
        dsimp only
        split_ifs
        · exact forwardInPlace_fst h switching
        · rfl
  have htype : (view codec packet).payloadType = packet.payloadType := rfl
  have hssrc : (view codec packet).ssrc = packet.ssrc := rfl
  rw [sendRtpPacketInPlace, sendRtpPacket, htype, hssrc]
  split_ifs
  · rfl
  · rfl
  · cases params.spatialLayerOf packet.ssrc with
    | none => rfl
    | some l =>
      dsimp only [sendLayerPacketInPlace, sendLayerPacket]
      rw [h.isKeyFrame]
      split_ifs
      · rfl
      · rfl
      · exact hsync _ l _
  · rfl

end

end SimulcastConsumer

/-! ## All kinds of consumers -/

inductive ConsumerKind where
  | simple (params : SimpleParameters)
  | simulcast (codec : Codecs.SimulcastCodec) (n : ℕ) (params : SimulcastParameters n)
  | svc (params : SvcParameters)
  | pipe (n : ℕ) (params : PipeParameters n)

namespace ConsumerKind

def State : ConsumerKind → Type
  | .simple _ => SimpleConsumer
  | .simulcast codec n _ => SimulcastConsumer codec.handler n
  | .svc _ => SvcConsumer
  | .pipe n _ => PipeConsumer n

def Env : ConsumerKind → Type
  | .simple _ => SimpleEnv
  | .simulcast _ n _ => RTC.Env n
  | .svc _ => SvcEnv
  | .pipe _ _ => PipeEnv

def Event : ConsumerKind → Type
  | .simple _ => SimpleConsumer.Event × SimpleEnv
  | .simulcast codec n _ => SimulcastConsumer.Event codec.handler n
  | .svc _ => SvcConsumer.Event × SvcEnv
  | .pipe _ _ => PipeConsumer.Event

def sendRtpPacket : (kind : ConsumerKind) → kind.Env → kind.State → ProducerPacket →
    Except Fault (kind.State × ProducerPacket)
  | .simple params, env, s, packet => .ok (SimpleConsumer.sendRtpPacket params env s packet)
  | .simulcast _ _ params, env, s, packet =>
    SimulcastConsumer.sendRtpPacketInPlace params env s packet
  | .svc params, env, s, packet => SvcConsumer.sendRtpPacketInPlace params env s packet
  | .pipe _ params, env, s, packet => PipeConsumer.sendRtpPacket params env s packet

def step : (kind : ConsumerKind) → kind.State → kind.Event → Except Fault kind.State
  | .simple params, s, event => SimpleConsumer.step params s event
  | .simulcast _ _ _, s, .rtpPacket _ _ => .ok s
  | .simulcast _ _ params, s, event => SimulcastConsumer.step params s event
  | .svc _, s, (.rtpPacket _, _) => .ok s
  | .svc params, s, event => SvcConsumer.step params s event
  | .pipe _ params, s, event => PipeConsumer.step params s event

def outputs : (kind : ConsumerKind) → kind.State → List ConsumerOutput
  | .simple _, s => SimpleConsumer.outputs s
  | .simulcast _ _ _, s => SimulcastConsumer.outputs s
  | .svc _, s => SvcConsumer.outputs s
  | .pipe _ _, s => PipeConsumer.outputs s

def clear : (kind : ConsumerKind) → kind.State → kind.State
  | .simple _, (s : SimpleConsumer) => ({ s with outputs := [] } : SimpleConsumer)
  | .simulcast codec n _, (s : SimulcastConsumer codec.handler n) =>
    ({ s with outputs := [] } : SimulcastConsumer codec.handler n)
  | .svc _, (s : SvcConsumer) => ({ s with outputs := [] } : SvcConsumer)
  | .pipe n _, (s : PipeConsumer n) => ({ s with outputs := [] } : PipeConsumer n)

def setsMarker : (kind : ConsumerKind) → kind.Env → kind.State → ProducerPacket → Bool
  | .svc params, env, s, packet => SvcConsumer.setsMarker params env s packet
  | _, _, _, _ => false

variable {kind : ConsumerKind} {env : kind.Env} {s : kind.State} {packet packet' : ProducerPacket}

/-- **What a consumer leaves behind**: the packet as it was, but an SVC consumer may have set the
marker. -/
theorem sendRtpPacket_packet (env : kind.Env) (s : kind.State) (hrst : packet.restorePayload = packet) :
    Meets (fun r => r.2 =
        packet.marked (packet.marker || kind.setsMarker env s packet) packet.mid) (fun _ => True)
      (kind.sendRtpPacket env s packet) := by
  have hsame : packet = packet.marked (packet.marker || false) packet.mid := by
    rw [Bool.or_false]
    rfl
  cases kind with
  | simple params =>
    exact (SimpleConsumer.sendRtpPacket_packet params env s packet).trans hsame
  | simulcast codec n params =>
    exact (SimulcastConsumer.sendRtpPacketInPlace_packet hrst).mono
      (fun r hres => hres.trans hsame) fun _ => id
  | svc params => exact SvcConsumer.sendRtpPacketInPlace_packet packet
  | pipe n params =>
    exact (PipeConsumer.sendRtpPacket_packet params env s packet).mono
      (fun r hres => hres.trans hsame) fun _ => id

theorem setsMarker_of_bare_eq (h : packet.bare = packet'.bare) :
    kind.setsMarker env s packet' = kind.setsMarker env s packet := by
  rw [ProducerPacket.eq_of_bare_eq h]
  cases kind with
  | simple params => rfl
  | simulcast codec n params => rfl
  | svc params => exact SvcConsumer.setsMarker_marked packet packet'.marker packet'.mid
  | pipe n params => rfl

theorem eq_of_map_unmarked {σ : Type} {unmarked : σ → σ} {x x' : Except Fault (σ × ProducerPacket)}
    (h : (fun r => unmarked r.1) <$> x' = (fun r => unmarked r.1) <$> x) {r r' : σ × ProducerPacket}
    (hres : x = .ok r) (hres' : x' = .ok r') : unmarked r.1 = unmarked r'.1 := by
  rw [hres, hres'] at h
  exact (Except.ok.inj h).symm

/-- **The marker and the MID do not matter**: with others, the consumer goes to the same state, and
it sends the same but for them. -/
theorem sendRtpPacket_alike (h : packet.bare = packet'.bare) {r r' : kind.State × ProducerPacket}
    (hres : kind.sendRtpPacket env s packet = .ok r) (hres' : kind.sendRtpPacket env s packet' = .ok r') :
    kind.clear r.1 = kind.clear r'.1 ∧ (kind.outputs r.1).map ConsumerOutput.unmarked =
        (kind.outputs r'.1).map ConsumerOutput.unmarked := by
  rw [ProducerPacket.eq_of_bare_eq h] at hres'
  cases kind with
  | simple params =>
    have hmark : SimpleConsumer.unmarked r.1 = SimpleConsumer.unmarked r'.1 :=
      eq_of_map_unmarked (congrArg Except.ok
        (SimpleConsumer.sendRtpPacket_marked params env s packet packet'.marker packet'.mid))
        hres hres'
    exact ⟨congrArg (fun s : SimpleConsumer => { s with outputs := [] }) hmark,
      congrArg SimpleConsumer.outputs hmark⟩
  | simulcast codec n params =>
    have hmark : SimulcastConsumer.unmarked r.1 = SimulcastConsumer.unmarked r'.1 :=
      eq_of_map_unmarked
        (SimulcastConsumer.sendRtpPacketInPlace_marked packet packet'.marker packet'.mid)
        hres hres'
    exact ⟨congrArg (fun s : SimulcastConsumer codec.handler n => { s with outputs := [] }) hmark,
      congrArg SimulcastConsumer.outputs hmark⟩
  | svc params =>
    have hmark : SvcConsumer.unmarked r.1 = SvcConsumer.unmarked r'.1 :=
      eq_of_map_unmarked
        (SvcConsumer.sendRtpPacketInPlace_marked packet packet'.marker packet'.mid)
        hres hres'
    exact ⟨congrArg (fun s : SvcConsumer => { s with outputs := [] }) hmark,
      congrArg SvcConsumer.outputs hmark⟩
  | pipe n params =>
    have hmark : PipeConsumer.unmarked r.1 = PipeConsumer.unmarked r'.1 :=
      eq_of_map_unmarked
        (PipeConsumer.sendRtpPacket_marked params env s packet packet'.marker packet'.mid)
        hres hres'
    exact ⟨congrArg (fun s : PipeConsumer n => { s with outputs := [] }) hmark,
      congrArg PipeConsumer.outputs hmark⟩

end ConsumerKind

end MediasoupWorker.RTC
