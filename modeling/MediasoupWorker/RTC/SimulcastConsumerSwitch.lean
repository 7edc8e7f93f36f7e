import MediasoupWorker.RTC.Consumer
import MediasoupWorker.RTC.SimulcastConsumerSync

/-!
# While a switch of the simulcast consumer is pending

Packets of the target layer that are not key frames are ignored; a key frame completes the switch, or it is
refused because its timestamp would need a too large extra offset. A refused key frame has already set
`syncRequired`, and so the packets of the current layer are ignored from then on
(`refused_key_frame_interrupts`).
-/

namespace MediasoupWorker.RTC
namespace SimulcastConsumer

open Library

variable {h : Codecs.Handler} {n : ℕ} {params : SimulcastParameters n} {env : Env n}
  {s s' : SimulcastConsumer h n} {c t : Fin n}

structure Pending (c t : Fin n) (s : SimulcastConsumer h n) : Prop where
  current : s.currentSpatialLayer = some c
  target : s.targetSpatialLayer = some t

def isPacketOf (params : SimulcastParameters n) (layer : Fin n) : Event h n → Bool
  | .rtpPacket packet _ => params.spatialLayerOf packet.ssrc == some layer
  | _ => false

def RefusesKeyFrame (params : SimulcastParameters n) (t : Fin n) (s : SimulcastConsumer h n) :
    Event h n → Prop
  | .rtpPacket packet env =>
    s.considers params env packet = true ∧ params.spatialLayerOf packet.ssrc = some t ∧
      packet.isKeyFrame = true ∧ ∃ tsOffset, s.syncTsOffset params t = .ok tsOffset ∧
        s.finalTsOffset params true tsOffset packet.timestamp = none
  | _ => False

def KeepsWaiting (params : SimulcastParameters n) (c t : Fin n) (s : SimulcastConsumer h n)
    (event : Event h n) : Prop :=
  (∀ s', s.step params event = .ok s' → s'.Pending c t) ∧ ¬ s.RefusesKeyFrame params t event

variable {packet : SimulcastPacket h}

theorem switchAndTransmit_current (hsent : s.switchAndTransmit params env packet = .ok s') :
    s'.currentSpatialLayer = s.targetSpatialLayer := by
  have hcomp : Meets (fun s' => s'.selection = s.selection.complete) Tolerated
      (s.switchAndTransmit params env packet) := switchAndTransmit_meets packet
  rw [hsent] at hcomp
  exact congrArg Selection.current hcomp

theorem syncAndForward_completes {l : Fin n} (hkey : packet.isKeyFrame = true)
    (hoff : ∀ off, s.syncTsOffset params l = .ok off →
      s.finalTsOffset params true off packet.timestamp ≠ none)
    (hsent : (s.requireSync true).syncAndForward params env packet l true = .ok s') :
    s'.currentSpatialLayer = s.targetSpatialLayer := by
  have hsync : (s.requireSync true).syncRequired = true := Bool.or_true _
  rw [syncAndForward, hsync, hkey, if_neg (by simp), if_neg (by simp)] at hsent
  obtain ⟨⟨s₁, synced⟩, hsynchronize, hfwd⟩ := bind_eq_ok.mp hsent
  rw [synchronize] at hsynchronize
  obtain ⟨off, htsOffset, hsynchronize⟩ := bind_eq_ok.mp hsynchronize
  cases hfinal : (s.requireSync true).finalTsOffset params true off packet.timestamp with
  | none => exact absurd hfinal (hoff off htsOffset)
  | some finalOffset =>
    rw [hfinal] at hsynchronize
    cases hsynchronize
    dsimp only at hfwd
    rw [if_pos rfl, forward, if_pos rfl] at hfwd
    have hcur := switchAndTransmit_current hfwd
    exact hcur

/-- **A packet of the target layer** after which the switch is still pending has changed nothing,
if it is not a refused key frame. -/
theorem eq_of_target_packet (hne : c ≠ t) (hpend : s.Pending c t) {e : Event h n}
    (hp : isPacketOf params t e = true) (hwait : s.KeepsWaiting params c t e)
    (hstep : s.step params e = .ok s') : s' = s := by
  cases e with
  | rtpPacket packet env =>
    have hl : params.spatialLayerOf packet.ssrc = some t := eq_of_beq hp
    have hstep : s.sendRtpPacket params env packet = .ok s' := hstep
    cases hcon : s.considers params env packet with
    | false =>
      rw [sendRtpPacket_of_not_considers _ _ _ hcon] at hstep
      exact (Except.ok.inj hstep).symm
    | true =>
      have hsw : decide (s.currentSpatialLayer ≠ s.targetSpatialLayer ∧
          some t = s.targetSpatialLayer) = true := by
        rw [hpend.current, hpend.target]
        exact decide_eq_true ⟨fun heq => hne (Option.some.inj heq), rfl⟩
      have hsent := hstep
      rw [sendRtpPacket_of_considers _ _ _ hcon hl, sendLayerPacket, hsw] at hsent
      cases hkey : packet.isKeyFrame with
      | false =>
        rw [hkey] at hsent
        exact (Except.ok.inj hsent).symm
      | true =>
        rw [hkey, if_neg (by simp), if_neg (by simp)] at hsent
        have hoff : ∀ off, s.syncTsOffset params t = .ok off →
            s.finalTsOffset params true off packet.timestamp ≠ none :=
          fun off htsOffset hnone =>
            hwait.2 ⟨hcon, hl, hkey, off, htsOffset, hnone⟩
        have hcur := syncAndForward_completes hkey hoff hsent
        rw [(hwait.1 s' hstep).current, hpend.target] at hcur
        exact absurd (Option.some.inj hcur) hne
  | _ => cases hp

/-- **A pending switch does not disturb the current layer, without refused key frames**: the run
ends as without the packets of `t`. -/
theorem pending_switch_undisturbed (params : SimulcastParameters n) (hne : c ≠ t)
    (events : List (Event h n)) (hpending : s.Pending c t)
    (hwaiting : RunMeets (step params) (KeepsWaiting params c t) s events)
    (hrun : run (step params) s events = .ok s') :
    run (step params) s (events.filter fun event => !isPacketOf params t event) = .ok s' := by
  refine run_filter (hwaiting.imp_of_inv (J := Pending c t) ?_ ?_ hpending) hrun
  · intro s event hpending hwaits hpacket s' hstep
    have hpacket : isPacketOf params t event = true := by
      rw [Bool.not_eq_false'] at hpacket
      exact hpacket
    exact eq_of_target_packet hne hpending hpacket hwaits hstep
  · exact fun s event s' _ hwaits hstep => hwaits.1 s' hstep

def layerPacket (layer : Fin 2) (sequenceNumber : BitVec 16) (timestamp : BitVec 32)
    (isKeyFrame : Bool) : Event Codecs.VP8.handler 2 :=
  .rtpPacket
    { ssrc := twoLayersParameters.consumableSsrcs layer, payloadType := 96, sequenceNumber, timestamp,
      descriptor := some { isKeyFrame } }
    { nowMs := 20000, reading := fun _ => { score := 10 } }

def selectHigherLayer : List (Event Codecs.VP8.handler 2) :=
  [.transportConnected { reading := fun layer => { score := if (layer : ℕ) = 0 then 10 else 0 } },
    layerPacket ⟨0, Nat.two_pos⟩ 10 100000 true,
    .score 10 0 { nowMs := 20000, reading := fun _ => { score := 10 } }]

theorem pending_switch_undisturbed_by_delta_frame :
    ∃ s s', run (step twoLayersParameters) twoLayers selectHigherLayer = .ok s ∧
      run (step twoLayersParameters) s [layerPacket 1 50 101000 false, layerPacket 0 11 103000 false] =
        .ok s' ∧ run (step twoLayersParameters) s [layerPacket 0 11 103000 false] = .ok s' := by
  refine ⟨_, _, rfl, rfl, ?_⟩
  exact pending_switch_undisturbed twoLayersParameters (c := 0) (t := 1) (by decide)
    [layerPacket 1 50 101000 false, layerPacket 0 11 103000 false] ⟨rfl, rfl⟩
    ⟨⟨fun s' hs' => by cases hs'; exact ⟨rfl, rfl⟩, fun hrefused => by cases hrefused.2.2.1⟩, fun s' hs' => by
        cases hs'
        exact ⟨⟨fun s' hs' => by cases hs'; exact ⟨rfl, rfl⟩, fun hrefused => by cases hrefused.2.1⟩,
          fun _ _ => trivial⟩⟩ rfl

/-- **A refused key frame interrupts the current layer.** Its timestamp is 10000 below the last one
of layer 0, whose next packet is not sent. -/
theorem refused_key_frame_interrupts :
    ∃ s s₁ s₂, run (step twoLayersParameters) twoLayers selectHigherLayer = .ok s ∧ s.Pending 0 1 ∧
      run (step twoLayersParameters) s [layerPacket 1 50 90000 true, layerPacket 0 11 103000 false] =
        .ok s₁ ∧ s₁.Pending 0 1 ∧ run (step twoLayersParameters) s [layerPacket 0 11 103000 false] = .ok s₂ ∧
      (sentPackets s₁.outputs).map (fun packet => packet.sequenceNumber) = [some 1] ∧
      (sentPackets s₂.outputs).map (fun packet => packet.sequenceNumber) = [some 1, some 2] := by
  refine ⟨_, _, _, rfl, ⟨rfl, rfl⟩, rfl, ⟨rfl, rfl⟩, rfl, ?_⟩
  decide +kernel

end SimulcastConsumer

end MediasoupWorker.RTC
