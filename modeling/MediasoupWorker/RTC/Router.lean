import MediasoupWorker.Library.Runs
import MediasoupWorker.Library.SharedPass
import MediasoupWorker.RTC.ConsumersInPlace

/-!
# The router and the consumers of a producer

`OnTransportProducerRtpPacketReceived` of `src/src/RTC/Router.cpp`. All consumers of a producer get its
packet object, one after the other, with the MID of each written into it, if it has one. What a consumer
sends should not depend on the others, but the marker of an SVC consumer and the MID of a consumer stay
behind (`marker_and_mid_leak`).
-/

namespace MediasoupWorker.RTC

open Library Option

structure ReceivedPacket extends ProducerPacket where
  parsed : toProducerPacket.Parsed

structure HandedPacket where
  packet : SentPacket
  mid : Option (List Byte)
  deriving DecidableEq, Repr

def HandedPacket.bare (handed : HandedPacket) : HandedPacket where
  packet := handed.packet.unmarked
  mid := none

structure Attached (kind : ConsumerKind) where
  mid : List Byte
  consumer : kind.State
  handed : List HandedPacket := []

namespace Attached

section

variable {kind : ConsumerKind} (env : kind.Env) (c : Attached kind)

def writeMid (packet : ProducerPacket) : ProducerPacket :=
  if c.mid.isEmpty then packet else packet.updateMid c.mid

def hand (mid : Option (List Byte)) (consumer : kind.State) : Attached kind where
  mid := c.mid
  consumer := kind.clear consumer
  handed := c.handed ++ (sentPackets (kind.outputs consumer)).map fun packet => ⟨packet, mid⟩

def deliver (packet : ProducerPacket) : Except Fault (Attached kind × ProducerPacket) := do
  let packet := c.writeMid packet
  let (consumer, left) ← kind.sendRtpPacket env c.consumer packet
  return (c.hand packet.mid consumer, left)

def handle (event : kind.Event) : Except Fault (Attached kind) := do
  let consumer ← kind.step c.consumer event
  return { c with consumer := kind.clear consumer }

def effect (packet : ProducerPacket) : ProducerPacket :=
  packet.marked (packet.marker || kind.setsMarker env c.consumer packet) (c.writeMid packet).mid

end

variable {kind : ConsumerKind} {env : kind.Env} {c c' : Attached kind}
  {packet packet' : ProducerPacket}

@[simp] theorem bare_writeMid (c : Attached kind) (packet : ProducerPacket) :
    (c.writeMid packet).bare = packet.bare := by
  rw [writeMid]
  split_ifs <;> rfl

@[simp] theorem writeMid_marker (c : Attached kind) (packet : ProducerPacket) :
    (c.writeMid packet).marker = packet.marker := by
  rw [writeMid]
  split_ifs <;> rfl

theorem bare_effect (env : kind.Env) (c : Attached kind) (packet : ProducerPacket) :
    (c.effect env packet).bare = packet.bare := rfl

theorem writeMid_mid (c : Attached kind) (packet : ProducerPacket) : (c.writeMid packet).mid =
      if usableMid c.mid then packet.mid.map fun _ => c.mid else packet.mid := by
  rw [writeMid]
  cases hnil : c.mid.isEmpty with
  | true =>
    have hunus : usableMid c.mid = false := by rw [usableMid, hnil, Bool.not_true, Bool.false_and]
    rw [if_pos rfl, hunus, if_neg Bool.false_ne_true]
  | false =>
    rw [if_neg Bool.false_ne_true, ProducerPacket.updateMid]
    dsimp only
    split_ifs
    · rfl
    · exact map_id'

/-- **One consumer** leaves the packet behind with its effect. -/
theorem deliver_packet (hrst : packet.restorePayload = packet)
    (h : c.deliver env packet = .ok (c', packet')) :
    packet' = c.effect env packet ∧ packet'.restorePayload = packet' := by
  have hbare : packet.bare = (c.writeMid packet).bare := (c.bare_writeMid packet).symm
  obtain ⟨⟨cons, left⟩, hsend, h⟩ := bind_eq_ok.mp h
  cases h
  have hwr : (c.writeMid packet).restorePayload = c.writeMid packet :=
    ProducerPacket.restorePayload_of_bare_eq hbare hrst
  have hleft := ConsumerKind.sendRtpPacket_packet env c.consumer hwr
  rw [hsend] at hleft
  have heffect : packet' = c.effect env packet := by
    refine hleft.trans ?_
    rw [ConsumerKind.setsMarker_of_bare_eq hbare, writeMid_marker, effect]
    exact ProducerPacket.marked_of_bare_eq hbare _ _
  refine ⟨heffect, ?_⟩
  rw [heffect]
  exact ProducerPacket.restorePayload_of_bare_eq (c.bare_effect env packet).symm hrst

structure Alike (c c' : Attached kind) : Prop where
  mid : c.mid = c'.mid
  consumer : c.consumer = c'.consumer
  handed : c.handed.map HandedPacket.bare = c'.handed.map HandedPacket.bare

theorem bare_hand (c : Attached kind) (mid : Option (List Byte)) (cons : kind.State) :
    (c.hand mid cons).handed.map HandedPacket.bare = c.handed.map HandedPacket.bare ++
        (sentPackets ((kind.outputs cons).map ConsumerOutput.unmarked)).map
          fun packet => ⟨packet, none⟩ := by
  rw [hand, sentPackets_unmarked, List.map_append, List.map_map, List.map_map]
  rfl

theorem deliver_alike (halike : c.Alike c') (hbare : packet.bare = packet'.bare)
    {r r' : Attached kind × ProducerPacket} (h : c.deliver env packet = .ok r)
    (h' : c'.deliver env packet' = .ok r') : r.1.Alike r'.1 := by
  obtain ⟨⟨cons, left⟩, hsend, h⟩ := bind_eq_ok.mp h
  obtain ⟨⟨cons', left'⟩, hsend', h'⟩ := bind_eq_ok.mp h'
  cases h
  cases h'
  rw [← halike.consumer] at hsend'
  have hwr : (c.writeMid packet).bare = (c'.writeMid packet').bare := by
    rw [bare_writeMid, bare_writeMid, hbare]
  obtain ⟨hclear, houtputs⟩ := ConsumerKind.sendRtpPacket_alike hwr hsend hsend'
  refine ⟨halike.mid, hclear, ?_⟩
  rw [bare_hand, bare_hand, halike.handed, houtputs]

theorem handle_alike (halike : c.Alike c') {e : kind.Event} {d d' : Attached kind} (h : c.handle e = .ok d)
    (h' : c'.handle e = .ok d') : d.Alike d' := by
  obtain ⟨cons, hstep, h⟩ := bind_eq_ok.mp h
  obtain ⟨cons', hstep', h'⟩ := bind_eq_ok.mp h'
  rw [← halike.consumer, hstep] at hstep'
  cases hstep'
  cases h
  cases h'
  exact ⟨halike.mid, rfl, halike.handed⟩

theorem deliver_congr (h : c.writeMid packet = c.writeMid packet') :
    c.deliver env packet = c.deliver env packet' := by
  rw [deliver, deliver, h]

end Attached

/-! ## The router -/

structure ConsumerSet (ι : Type) where
  order : List ι
  nodup : order.Nodup

namespace Router

variable {ι : Type} {kind : ι → ConsumerKind}

inductive Event (kind : ι → ConsumerKind) where
  | rtpPacket (packet : ReceivedPacket) (env : ∀ i, (kind i).Env)
  | consumer (i : ι) (event : (kind i).Event)

variable [DecidableEq ι]

def step (consumers : ConsumerSet ι) (s : ∀ i, Attached (kind i)) :
    Event kind → Except Fault (∀ i, Attached (kind i))
  | .rtpPacket packet env =>
    Prod.fst <$> passAll (fun i c packet => c.deliver (env i) packet) consumers.order s
      packet.toProducerPacket
  | .consumer i event =>
    if i ∈ consumers.order then do
      let c ← (s i).handle event
      return Function.update s i c
    else .ok s

def Undisturbed (consumers : ConsumerSet ι) (i : ι) (s : ∀ i, Attached (kind i)) :
    Event kind → Prop
  | .rtpPacket packet env =>
    (packet.marker = true ∨ ∀ j ∈ before i consumers.order,
      (kind j).setsMarker (env j) (s j).consumer packet.toProducerPacket = false) ∧
    (packet.mid = none ∨ usableMid (s i).mid = true ∨ ∀ j ∈ before i consumers.order,
      usableMid (s j).mid = false)
  | .consumer _ _ => True

variable {cs : ConsumerSet ι} {s s' : ∀ i, Attached (kind i)} {i : ι}

def arriving (consumers : ConsumerSet ι) (i : ι) (s : ∀ i, Attached (kind i))
    (env : ∀ i, (kind i).Env) (packet : ReceivedPacket) : ProducerPacket :=
  afterEffects (fun j c packet => c.effect (env j) packet) s (before i consumers.order)
    packet.toProducerPacket

variable {p : ReceivedPacket} {env : ∀ i, (kind i).Env}

theorem deliver_of_step (hi : i ∈ cs.order) (h : step cs s (.rtpPacket p env) = .ok s') :
    ∃ left, (s i).deliver (env i) (arriving cs i s env p) = .ok (s' i, left) := by
  obtain ⟨⟨t, left⟩, hpass, heq⟩ := map_eq_ok.mp h
  cases heq
  refine (pass_of_passAll (J := fun p : ProducerPacket => p.restorePayload = p) ?_
    cs.nodup hi p.parsed.restorePayload_eq hpass).2
  exact fun j c p c' left hrst hdel => Attached.deliver_packet hrst hdel

theorem bare_arriving (env : ∀ i, (kind i).Env) (p : ReceivedPacket) :
    (arriving cs i s env p).bare = p.toProducerPacket.bare := by
  refine afterEffects_inv (K := fun x : ProducerPacket => x.bare = p.toProducerPacket.bare) ?_ rfl
  intro j _ x hx
  exact ((s j).bare_effect (env j) x).trans hx

theorem arriving_marker (h : p.marker = true ∨ ∀ j ∈ before i cs.order,
      (kind j).setsMarker (env j) (s j).consumer p.toProducerPacket = false) :
    (arriving cs i s env p).marker = p.marker := by
  refine (afterEffects_inv (K := fun x : ProducerPacket => p.toProducerPacket.bare = x.bare ∧
    x.marker = p.marker) ?_ ⟨rfl, rfl⟩).2
  rintro j hj x ⟨hbare, hm⟩
  refine ⟨hbare.trans ((s j).bare_effect (env j) x).symm, ?_⟩
  show (x.marker || _) = p.marker
  rw [hm]
  rcases h with htrue | hnone
  · rw [htrue, Bool.true_or]
  · rw [ConsumerKind.setsMarker_of_bare_eq hbare, hnone j hj, Bool.or_false]

theorem arriving_mid_isSome (env : ∀ i, (kind i).Env) (p : ReceivedPacket) :
    (arriving cs i s env p).mid.isSome = p.mid.isSome := by
  refine afterEffects_inv (K := fun x : ProducerPacket => x.mid.isSome = p.mid.isSome) ?_ rfl
  intro j _ x hx
  show ((s j).writeMid x).mid.isSome = p.mid.isSome
  rw [Attached.writeMid_mid, ← hx]
  split_ifs
  · exact isSome_map
  · rfl

theorem arriving_mid (env : ∀ i, (kind i).Env) (p : ReceivedPacket)
    (h : ∀ j ∈ before i cs.order, usableMid (s j).mid = false) : (arriving cs i s env p).mid = p.mid := by
  refine afterEffects_inv (K := fun x : ProducerPacket => x.mid = p.mid) ?_ rfl
  intro j hj x hx
  show ((s j).writeMid x).mid = p.mid
  rw [Attached.writeMid_mid, h j hj, if_neg Bool.false_ne_true, hx]

/-- **An undisturbed consumer** gets the packet as if it were alone. -/
theorem writeMid_arriving (h : Undisturbed cs i s (.rtpPacket p env)) :
    (s i).writeMid (arriving cs i s env p) = (s i).writeMid p.toProducerPacket := by
  obtain ⟨hm, hmid⟩ := h
  have hsome : (arriving cs i s env p).mid.isSome = p.mid.isSome :=
    arriving_mid_isSome env p
  refine ProducerPacket.ext_of_bare_eq ?_ ?_ ?_
  · rw [Attached.bare_writeMid, Attached.bare_writeMid, bare_arriving]
  · rw [Attached.writeMid_marker, Attached.writeMid_marker, arriving_marker hm]
  · rw [Attached.writeMid_mid, Attached.writeMid_mid]
    rcases hmid with hnone | husable | hunus
    · rw [hnone, isSome_none, isSome_eq_false_iff, isNone_iff_eq_none] at hsome
      rw [hsome, hnone]
    · -- the MID of the consumer is written over any other
      rw [if_pos husable, if_pos husable]
      cases harriving : (arriving cs i s env p).mid with
      | none =>
        rw [harriving, isSome_none] at hsome
        rw [isSome_eq_false_iff.mp hsome.symm |> isNone_iff_eq_none.mp]
      | some v =>
        rw [harriving, isSome_some] at hsome
        obtain ⟨got, hrec⟩ := isSome_iff_exists.mp hsome.symm
        rw [hrec]
        rfl
    · rw [arriving_mid env p hunus]

/-! ## Two sets of consumers -/

theorem handle_of_step {j : ι} (hi : i ∈ cs.order) {e : (kind j).Event}
    (h : step cs s (.consumer j e) = .ok s') :
    (j ≠ i → s' i = s i) ∧ ∀ heq : j = i, (s i).handle (heq ▸ e) = .ok (s' i) := by
  rw [step] at h
  constructor
  · intro hji
    split_ifs at h
    · obtain ⟨c, -, h⟩ := bind_eq_ok.mp h
      cases h
      exact Function.update_of_ne (Ne.symm hji) c s
    · cases h
      rfl
  · rintro rfl
    rw [if_pos hi] at h
    obtain ⟨c, hc, h⟩ := bind_eq_ok.mp h
    cases h
    rw [Function.update_self]
    exact hc

variable {cs' : ConsumerSet ι} {t t' : ∀ i, Attached (kind i)}

theorem step_alike (hi : i ∈ cs.order) (hi' : i ∈ cs'.order) {e : Event kind} (halike : (s i).Alike (s' i))
    (h : step cs s e = .ok t) (h' : step cs' s' e = .ok t') : (t i).Alike (t' i) := by
  cases e with
  | rtpPacket p env =>
    obtain ⟨left, hdel⟩ := deliver_of_step hi h
    obtain ⟨left', hdel'⟩ := deliver_of_step hi' h'
    refine Attached.deliver_alike halike ?_ hdel hdel'
    rw [bare_arriving, bare_arriving]
  | consumer j e =>
    obtain ⟨hsame, hhdl⟩ := handle_of_step hi h
    obtain ⟨hsame', hhdl'⟩ := handle_of_step hi' h'
    by_cases hji : j = i
    · exact Attached.handle_alike halike (hhdl hji) (hhdl' hji)
    · rw [hsame hji, hsame' hji]
      exact halike

theorem step_undisturbed (hi : i ∈ cs.order) (hi' : i ∈ cs'.order) {e : Event kind} (hsame : s i = s' i)
    (hundist : Undisturbed cs i s e) (hundist' : Undisturbed cs' i s' e) (h : step cs s e = .ok t)
    (h' : step cs' s' e = .ok t') : t i = t' i := by
  cases e with
  | rtpPacket p env =>
    obtain ⟨left, hdel⟩ := deliver_of_step hi h
    obtain ⟨left', hdel'⟩ := deliver_of_step hi' h'
    rw [Attached.deliver_congr (writeMid_arriving hundist), hsame] at hdel
    rw [Attached.deliver_congr (writeMid_arriving hundist'), hdel] at hdel'
    exact congrArg Prod.fst (Except.ok.inj hdel')
  | consumer j e =>
    obtain ⟨hs, hhdl⟩ := handle_of_step hi h
    obtain ⟨hs', hhdl'⟩ := handle_of_step hi' h'
    by_cases hji : j = i
    · have hok := hhdl hji
      rw [hsame, hhdl' hji] at hok
      exact (Except.ok.inj hok).symm
    · rw [hs hji, hs' hji, hsame]

/-- **Consumers interfere through the marker and the MID only**, and not at all if no consumer
before leaves one behind that would be sent. -/
theorem consumers_do_not_interfere (consumers consumers' : ConsumerSet ι) (i : ι)
    (hi : i ∈ consumers.order) (hi' : i ∈ consumers'.order) (s s' : ∀ i, Attached (kind i))
    (hsame : s i = s' i) (events : List (Event kind)) (hrun : run (step consumers) s events = .ok t)
    (hrun' : run (step consumers') s' events = .ok t') :
    (t i).handed.map HandedPacket.bare = (t' i).handed.map HandedPacket.bare ∧
      (RunMeets (step consumers) (Undisturbed consumers i) s events →
        RunMeets (step consumers') (Undisturbed consumers' i) s' events → (t i).handed = (t' i).handed) := by
  constructor
  · have halike : (t i).Alike (t' i) := by
      refine run_related (R := fun s s' : ∀ i, Attached (kind i) => (s i).Alike (s' i)) ?_ ?_
        (runMeets_true s events) (runMeets_true s' events) hrun hrun'
      · exact fun s s' event t t' halike _ _ h h' => step_alike hi hi' halike h h'
      · rw [hsame]
        exact ⟨rfl, rfl, rfl⟩
    exact halike.handed
  · intro hmeets hmeets'
    have hend : t i = t' i := by
      refine run_related (R := fun s s' : ∀ i, Attached (kind i) => s i = s' i) ?_ hsame hmeets
        hmeets' hrun hrun'
      exact fun s s' event t t' hsame hundisturbed hundisturbed' h h' =>
        step_undisturbed hi hi' hsame hundisturbed hundisturbed' h h'
    rw [hend]

def svcAndPipe : Bool → ConsumerKind
  | false => .svc
    { consumableSsrc := 1
      ssrc := 7
      spatialLayers := 2
      temporalLayers := 1
      supportedCodecPayloadTypes := [96] }
  | true => .pipe 1
    { keyFrameSupported := true
      consumableSsrcs := fun _ => 1
      ssrcs := fun _ => 8
      supportedCodecPayloadTypes := [96] }

def svcAndPipeConsumers (mid : List Byte) : ∀ b, Attached (svcAndPipe b)
  | false =>
    { mid := [0x30]
      consumer := SvcConsumer.new
        { consumableSsrc := 1
          ssrc := 7
          spatialLayers := 2
          temporalLayers := 1
          supportedCodecPayloadTypes := [96] } true 0 0 false false false }
  | true =>
    { mid
      consumer := (PipeConsumer.new false false : PipeConsumer 1) }

def svcAndPipeEnv : ∀ b, (svcAndPipe b).Env
  | false =>
    ({ score := 10, spatialLayers := 2, spatialLayerBitrate := fun _ => 1000 } : SvcEnv)
  | true => ({} : PipeEnv)

def vp9KeyFrame (byte : Byte) : ReceivedPacket where
  ssrc := 1
  payloadType := 96
  sequenceNumber := 100
  timestamp := 1000
  descriptor := (Codecs.VP9.parse [byte, 0, 0]).map .vp9
  payload := [byte, 0, 0]
  mid := some [0, 0, 0, 0, 0, 0, 0, 0]
  parsed := ⟨{ type := .video, subtype := .vp9 }, none, [byte, 0, 0], rfl⟩

def svcAndPipeEvents (byte : Byte) : List (Event svcAndPipe) :=
  [.consumer false (SvcConsumer.Event.base .transportConnected, svcAndPipeEnv false),
    .consumer true (PipeConsumer.Event.base .transportConnected), .rtpPacket (vp9KeyFrame byte) svcAndPipeEnv]

def svcThenPipe : ConsumerSet Bool := ⟨[false, true], by decide⟩
def pipeAlone : ConsumerSet Bool := ⟨[true], by decide⟩

theorem consumers_do_not_interfere_within_frame :
    ∃ t t', run (step svcThenPipe) (svcAndPipeConsumers [0x31]) (svcAndPipeEvents 0x28) = .ok t ∧
      run (step pipeAlone) (svcAndPipeConsumers [0x31]) (svcAndPipeEvents 0x28) = .ok t' ∧
      (t true).handed.length = 1 ∧ (t true).handed = (t' true).handed := by
  refine ⟨_, _, rfl, rfl, rfl, ?_⟩
  refine (consumers_do_not_interfere svcThenPipe pipeAlone true (by decide) (by decide)
    (svcAndPipeConsumers [0x31]) (svcAndPipeConsumers [0x31]) rfl (svcAndPipeEvents 0x28) rfl rfl).2
    ?_ ?_
  · refine runMeets_cons_of_run rfl trivial (runMeets_cons_of_run rfl trivial ?_)
    refine runMeets_cons_of_run rfl ⟨Or.inr ?_, Or.inr (Or.inl rfl)⟩ trivial
    intro j hj
    cases List.mem_singleton.mp hj
    rfl
  · refine runMeets_cons_of_run rfl trivial (runMeets_cons_of_run rfl trivial ?_)
    refine runMeets_cons_of_run rfl ⟨Or.inr ?_, Or.inr (Or.inl rfl)⟩ trivial
    exact fun j hj => absurd hj List.not_mem_nil

/-- **The marker and the MID of another consumer.** Behind the SVC consumer, the pipe consumer sends
a key frame with the marker and the MID of that one. -/
theorem marker_and_mid_leak :
    ∃ t t', run (step svcThenPipe) (svcAndPipeConsumers []) (svcAndPipeEvents 0x2C) = .ok t ∧
      run (step pipeAlone) (svcAndPipeConsumers []) (svcAndPipeEvents 0x2C) = .ok t' ∧
      (t true).handed.map (fun handed => (handed.packet.marker, handed.mid)) = [(true, some [0x30])] ∧
      (t' true).handed.map (fun handed => (handed.packet.marker, handed.mid)) =
        [(false, some [0, 0, 0, 0, 0, 0, 0, 0])] := by
  refine ⟨_, _, rfl, rfl, ?_, ?_⟩
  · decide +kernel
  · decide +kernel

end Router

end MediasoupWorker.RTC
