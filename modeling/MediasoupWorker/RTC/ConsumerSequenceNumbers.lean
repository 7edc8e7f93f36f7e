import MediasoupWorker.Library.Runs
import MediasoupWorker.RTC.Codecs.H264
import MediasoupWorker.RTC.SvcConsumer

/-!
# The sequence numbers of the packets that consumers send

Simulcast and SVC consumers do not look at whether their `rtpSeqManager` has returned a sequence number. For
a number that was given to `Drop` before it returns none, and the packet leaves with an uninitialised one.
The dropped numbers are those of packets that the codec has refused, so this does not happen as long as the
codec stands by its verdict, which changes with the target layers (`resent_packet_unassigned`).
-/

namespace MediasoupWorker.RTC

open Library List

def AllAssigned (packets : List SentPacket) : Prop :=
  ∀ packet ∈ packets, packet.sequenceNumber.isSome = true

theorem AllAssigned.append_singleton {ps : List SentPacket} (hps : AllAssigned ps) {pkt : SentPacket}
    (hp : pkt.sequenceNumber.isSome = true) : AllAssigned (ps ++ [pkt]) := by
  exact forall_mem_append.mpr ⟨hps, forall_mem_singleton.mpr hp⟩

theorem sentPackets_append (outputs outputs' : List ConsumerOutput) :
    sentPackets (outputs ++ outputs') = sentPackets outputs ++ sentPackets outputs' :=
  filterMap_append

/-! ## Simulcast consumers -/

namespace SimulcastConsumer

variable {h : Codecs.Handler} {n : ℕ} {params : SimulcastParameters n} {env : Env n}
  {s : SimulcastConsumer h n}

def sent (s : SimulcastConsumer h n) : List SentPacket := sentPackets s.outputs

def forwards (params : SimulcastParameters n) (env : Env n) (s : SimulcastConsumer h n)
    (packet : SimulcastPacket h) : Prop :=
  s.considers params env packet = true ∧ s.syncRequired = false ∧
    params.spatialLayerOf packet.ssrc = s.currentSpatialLayer

def VerdictStands (params : SimulcastParameters n) (s : SimulcastConsumer h n) : Event h n → Prop
  | .rtpPacket packet env =>
    s.forwards params env packet → packet.sequenceNumber ∈ s.rtpSeqManager.dropped →
      ∀ result, packet.processPayload s.encodingContext = .ok result → result.2.2 = false
  | _ => True

/-! ### What sends nothing -/

section Quiet

variable (params env s)

theorem sent_emit (out : ConsumerOutput) : (s.emit out).sent = s.sent ++ sentPackets [out] := by
  rw [sent, emit, sentPackets_append, sent]

@[simp] theorem sent_emitLayersChange : s.emitLayersChange.sent = s.sent :=
  (sent_emit s _).trans (append_nil _)

@[simp] theorem sent_emit_score : (s.emit .score).sent = s.sent :=
  (sent_emit s .score).trans (append_nil _)

@[simp] theorem sent_requestKeyFrameFor (l : Option (Fin n)) :
    (s.requestKeyFrameFor params l).sent = s.sent := by
  cases l with
  | none => rfl
  | some l =>
    rw [requestKeyFrameFor]
    split_ifs
    · exact (sent_emit s _).trans (append_nil _)
    · rfl

@[simp] theorem sent_updateTargetLayers (l : Option (Fin n)) (tl : ℤ) :
    (s.updateTargetLayers params l tl).sent = s.sent := by
  cases l with
  | none => exact sent_emitLayersChange _
  | some l =>
    rw [updateTargetLayers, setTargetLayers]
    dsimp only
    split_ifs
    · rfl
    · exact sent_requestKeyFrameFor params _ _

end Quiet

def Quiet (s : SimulcastConsumer h n) (result : Except Fault (SimulcastConsumer h n)) : Prop :=
  Meets (fun s' => s'.sent = s.sent) (fun _ => True) result

variable {result : Except Fault (SimulcastConsumer h n)}

theorem Quiet.of_eq {s' : SimulcastConsumer h n} (hres : Quiet s' result) (hsent : s'.sent = s.sent) :
    Quiet s result :=
  hres.mono (fun _ hs' => hs'.trans hsent) fun _ => id

theorem increaseLayer_quiet (rate : ℕ) (loss : Bool) :
    Meets (fun result => result.1.sent = s.sent) (fun _ => True)
      (s.increaseLayer env rate loss) := by
  unfold increaseLayer
  refine Meets.any.bind fun _ _ => Meets.any.bind fun _ _ => ?_
  split_ifs
  · rfl
  · refine Meets.any.bind fun found _ => ?_
    cases found with
    | none => rfl
    | some found =>
      dsimp only
      split_ifs <;> rfl

theorem increaseLayers_quiet (calls : List (ℕ × Bool)) : Quiet s (increaseLayers env calls s) := by
  induction calls generalizing s with
  | nil => rfl
  | cons call calls ih =>
    rw [increaseLayers]
    exact (increaseLayer_quiet call.1 call.2).bind fun result hres => ih.of_eq hres

theorem applyLayers_quiet : Quiet s (s.applyLayers params env) := by
  unfold applyLayers
  refine Meets.any.bind fun _ _ => Meets.any.bind fun _ _ => ?_
  dsimp only
  split_ifs
  · rfl
  · exact sent_updateTargetLayers params (s.setProvisionalLayers none (-1)) _ _
  · exact sent_updateTargetLayers params (s.setProvisionalLayers none (-1)) _ _

theorem distribute_quiet : Quiet s (s.distribute params env) := by
  unfold distribute
  refine Meets.any.bind fun _ _ => ?_
  split_ifs
  · exact (increaseLayers_quiet env.increases).bind fun s' hs' => applyLayers_quiet.of_eq hs'
  · rfl

theorem mayChangeLayers_quiet (force : Bool) : Quiet s (s.mayChangeLayers params env force) := by
  unfold mayChangeLayers
  refine Meets.any.bind fun ls _ => ?_
  split_ifs
  · rfl
  · exact distribute_quiet
  · rfl
  · exact sent_updateTargetLayers params s _ _

/-! ### What packets do -/

variable {p : SimulcastPacket h}

section

variable (hs : AllAssigned s.sent)

include hs

theorem transmit_assigned (hp : p.sequenceNumber ∉ s.rtpSeqManager.dropped) :
    AllAssigned (s.transmit params env p).sent := by
  have hseq := SeqManager.input_isSome hp
  rw [transmit]
  dsimp only
  split_ifs
  · rw [sent_emit]
    exact hs.append_singleton hseq
  · exact hs

theorem switchAndTransmit_assigned (hp : p.sequenceNumber ∉ s.rtpSeqManager.dropped) :
    Meets (fun s' => AllAssigned s'.sent) (fun _ => True)
      (s.switchAndTransmit params env p) := by
  unfold switchAndTransmit
  refine (Meets.of_ok fun result => SimulcastPacket.processPayload_header).bind fun result hr => ?_
  refine transmit_assigned ?_ ?_
  · show AllAssigned (emit _ .score).sent
    rw [sent_emit_score, sent_emitLayersChange]
    exact hs
  · rw [hr.1]
    exact hp

theorem filterAndTransmit_assigned (hver : p.sequenceNumber ∈ s.rtpSeqManager.dropped →
      ∀ result, p.processPayload s.encodingContext = .ok result → result.2.2 = false) :
    Meets (fun s' => AllAssigned s'.sent) (fun _ => True)
      (s.filterAndTransmit params env p) := by
  unfold filterAndTransmit
  cases hproc : p.processPayload s.encodingContext with
  | error f => trivial
  | ok result =>
    obtain ⟨c, p', done⟩ := result
    have hnum : p'.sequenceNumber = p.sequenceNumber :=
      (SimulcastPacket.processPayload_header hproc).1
    rw [ok_bind]
    dsimp only
    cases done with
    | false => exact hs
    | true =>
      have hp : p'.sequenceNumber ∉ s.rtpSeqManager.dropped := by
        rw [hnum]
        intro hdrop
        cases hver hdrop _ hproc
      rw [if_neg (by simp)]
      split_ifs
      · refine transmit_assigned ?_ hp
        rw [sent_emitLayersChange]
        exact hs
      · refine transmit_assigned ?_ hp
        exact hs

theorem synchronize_assigned (p : SimulcastPacket h) (l : Fin n) (sw : Bool) :
    Meets (fun result => AllAssigned result.1.sent ∧
        (result.2 = true → result.1.rtpSeqManager.dropped = [])) (fun _ => True)
      (s.synchronize params p l sw) := by
  unfold synchronize
  refine Meets.any.bind fun off _ => ?_
  cases s.finalTsOffset params sw off p.timestamp with
  | none =>
    refine ⟨?_, fun hfalse => by cases hfalse⟩
    show AllAssigned (s.requestKeyFrameFor params s.targetSpatialLayer).sent
    rw [sent_requestKeyFrameFor]
    exact hs
  | some off => exact ⟨hs, fun _ => rfl⟩

theorem syncAndForward_assigned_of_sync (hsync : s.syncRequired = true) (p : SimulcastPacket h) (l : Fin n)
    (sw : Bool) : Meets (fun s' => AllAssigned s'.sent) (fun _ => True)
      (s.syncAndForward params env p l sw) := by
  rw [syncAndForward, hsync, if_neg (by simp)]
  split_ifs
  · exact hs
  · refine (synchronize_assigned hs p l sw).bind fun result hres => ?_
    obtain ⟨s', synced⟩ := result
    obtain ⟨hs', hdrop⟩ := hres
    cases synced with
    | false => exact hs'
    | true =>
      have hp : p.sequenceNumber ∉ s'.rtpSeqManager.dropped := by
        rw [hdrop rfl]
        exact not_mem_nil
      cases sw with
      | true => exact switchAndTransmit_assigned hs' hp
      | false => exact filterAndTransmit_assigned hs' fun hmem => absurd hmem hp

theorem sendRtpPacket_assigned (hver : s.VerdictStands params (.rtpPacket p env)) :
    Meets (fun s' => AllAssigned s'.sent) (fun _ => True) (s.sendRtpPacket params env p) := by
  cases hcon : s.considers params env p with
  | false =>
    rw [sendRtpPacket_of_not_considers _ _ _ hcon]
    exact hs
  | true =>
    cases hl : params.spatialLayerOf p.ssrc with
    | none =>
      rw [sendRtpPacket, hl]
      split_ifs
      · exact hs
      · exact hs
      · trivial
      · exact hs
    | some l =>
      rw [sendRtpPacket_of_considers _ _ _ hcon hl, sendLayerPacket]
      generalize decide (s.currentSpatialLayer ≠ s.targetSpatialLayer ∧
        some l = s.targetSpatialLayer) = switching
      split_ifs with hignored hother
      · exact hs
      · exact hs
      · cases switching with
        | true =>
          refine syncAndForward_assigned_of_sync ?_ (Bool.or_true _) p l true
          exact hs
        | false =>
          have hcur : some l = s.currentSpatialLayer := by
            by_contra hne
            exact hother (decide_eq_true hne)
          cases hsync : s.syncRequired with
          | true =>
            refine syncAndForward_assigned_of_sync ?_ ?_ p l false
            · exact hs
            · exact (Bool.or_false _).trans hsync
          | false =>
            have hrequire : (s.requireSync false).syncRequired = false :=
              (Bool.or_false _).trans hsync
            rw [syncAndForward, hrequire]
            refine filterAndTransmit_assigned ?_ ?_
            · exact hs
            · exact hver ⟨hcon, hsync, hl.trans hcur⟩

end

theorem Quiet.assigned (hres : Quiet s result) (hs : AllAssigned s.sent) :
    Meets (fun s' => AllAssigned s'.sent) (fun _ => True) result := by
  refine hres.mono (fun s' hsent => ?_) fun _ => id
  rw [hsent]
  exact hs

theorem keeps_assigned : Keeps params (sent (h := h)) AllAssigned (fun _ => True) where
  flags _ _ _ _ _ _ _ _ _ _ _ := rfl
  emit s output houtput := by
    rw [sent_emit]
    cases output with
    | rtp p => exact absurd rfl (houtput p)
    | _ => exact append_nil _
  mayChangeLayers _ _ force hs := (mayChangeLayers_quiet force).assigned hs
  distribute _ _ hs _ := distribute_quiet.assigned hs
  unsetLayers s hs := by
    unfold unsetLayers
    rw [sent_emitLayersChange]
    exact hs
  unknownSsrc := trivial

theorem step_assigned (hs : AllAssigned s.sent) (e : Event h n) (hver : s.VerdictStands params e) :
    Meets (fun s' => AllAssigned s'.sent) (fun _ => True) (s.step params e) := by
  refine keeps_assigned.step hs e ?_ (fun _ _ _ _ _ => hs) (fun _ _ _ _ _ => hs)
  rintro p env rfl
  exact sendRtpPacket_assigned hs hver

end SimulcastConsumer

/-! ## SVC consumers -/

theorem Consumer.Derived.handle_meets {σ τ : Type} (derived : Consumer.Derived σ) {f : σ → τ}
    (hbase : ∀ base s, f (derived.setBase base s) = f s)
    (hconnected : ∀ s, Meets (fun s' => f s' = f s) (fun _ => True)
      (derived.userOnTransportConnected s))
    (hdisconnected : ∀ s, f (derived.userOnTransportDisconnected s) = f s)
    (hpau : ∀ s, f (derived.userOnPaused s) = f s)
    (hresumed : ∀ s, Meets (fun s' => f s' = f s) (fun _ => True) (derived.userOnResumed s))
    (e : Consumer.Event) (s : σ) : Meets (fun s' => f s' = f s) (fun _ => True) (derived.handle s e) := by
  have hpause : ∀ base, f (derived.pause base s) = f s := by
    intro base
    rw [Consumer.Derived.pause]
    split_ifs
    · rw [hpau, hbase]
    · rw [hbase]
  have hresume : ∀ base, Meets (fun s' => f s' = f s) (fun _ => True) (derived.resume base s) := by
    intro base
    rw [Consumer.Derived.resume]
    split_ifs
    · exact (hresumed _).mono (fun s' hs' => hs'.trans (hbase base s)) fun _ => id
    · exact hbase base s
  cases e with
  | pause =>
    rw [handle]
    split_ifs
    · rfl
    · exact hpause _
  | resume =>
    rw [handle]
    split_ifs
    · rfl
    · exact hresume _
  | producerPaused =>
    rw [handle]
    split_ifs
    · rfl
    · exact hpause _
  | producerResumed =>
    rw [handle]
    split_ifs
    · rfl
    · exact hresume _
  | producerClosed => exact hbase _ s
  | transportConnected =>
    exact (hconnected _).mono (fun s' hs' => hs'.trans (hbase _ s)) fun _ => id
  | transportDisconnected => exact (hdisconnected _).trans (hbase _ s)
  | setExternallyManagedBitrate => exact hbase _ s

namespace SvcConsumer

variable {params : SvcParameters} {env : SvcEnv} {s : SvcConsumer}

def sent (s : SvcConsumer) : List SentPacket := sentPackets s.outputs

def VerdictStands (params : SvcParameters) (s : SvcConsumer) (event : Event × SvcEnv) : Prop :=
  match event.1 with
  | .rtpPacket packet =>
    s.considers params event.2 packet = true → s.syncRequired = false →
      packet.sequenceNumber ∈ s.rtpSeqManager.dropped →
      ∀ result, packet.processPayload s.encodingContext = .ok result → result.2.2 = false
  | _ => True

/-! ### What sends nothing -/

section Quiet

variable (params env s)

theorem sent_emit (out : ConsumerOutput) : (s.emit out).sent = s.sent ++ sentPackets [out] := by
  rw [sent, emit, sentPackets_append, sent]

@[simp] theorem sent_emitLayersChange : s.emitLayersChange.sent = s.sent :=
  (sent_emit s _).trans (append_nil _)

@[simp] theorem sent_emit_score : (s.emit .score).sent = s.sent :=
  (sent_emit s .score).trans (append_nil _)

@[simp] theorem sent_requestKeyFrame : (s.requestKeyFrame params).sent = s.sent := by
  rw [requestKeyFrame]
  split_ifs
  · exact (sent_emit s _).trans (append_nil _)
  · rfl

@[simp] theorem sent_updateTargetLayers (sl tl : ℤ) : (s.updateTargetLayers params sl tl).sent = s.sent := by
  rw [updateTargetLayers]
  dsimp only
  split_ifs
  · exact sent_emitLayersChange _
  · exact sent_requestKeyFrame params _
  · rfl

@[simp] theorem sent_stop : (s.stop params).sent = s.sent := sent_updateTargetLayers params _ _ _

@[simp] theorem sent_userOnPaused : (s.userOnPaused params).sent = s.sent := by
  rw [userOnPaused]
  split_ifs
  · rw [sent_emit, sent_stop]
    exact append_nil _
  · exact sent_stop params s

end Quiet

def Quiet (s : SvcConsumer) (result : Except Fault SvcConsumer) : Prop :=
  Meets (fun s' => s'.sent = s.sent) (fun _ => True) result

theorem Quiet.of_eq {s' : SvcConsumer} {result : Except Fault SvcConsumer} (hres : Quiet s' result)
    (hsent : s'.sent = s.sent) : Quiet s result :=
  hres.mono (fun _ hs' => hs'.trans hsent) fun _ => id

theorem increaseLayer_quiet (rate : ℕ) (loss : Bool) :
    Meets (fun result => result.1.sent = s.sent) (fun _ => True)
      (s.increaseLayer env rate loss) := by
  unfold increaseLayer
  refine Meets.any.bind fun _ _ => Meets.any.bind fun _ _ => ?_
  split_ifs
  · rfl
  · rfl
  · cases s.searchLayers env (range env.spatialLayers) with
    | none => rfl
    | some found =>
      dsimp only
      split_ifs <;> rfl

theorem increaseLayers_quiet (calls : List (ℕ × Bool)) : Quiet s (increaseLayers env calls s) := by
  induction calls generalizing s with
  | nil => rfl
  | cons call calls ih =>
    rw [increaseLayers]
    exact (increaseLayer_quiet call.1 call.2).bind fun result hres => ih.of_eq hres

theorem applyLayers_quiet : Quiet s (s.applyLayers params env) := by
  unfold applyLayers
  refine Meets.any.bind fun _ _ => Meets.any.bind fun _ _ => ?_
  dsimp only
  split_ifs
  · rfl
  · exact sent_updateTargetLayers params (s.setProvisionalLayers (-1) (-1)) _ _
  · exact sent_updateTargetLayers params (s.setProvisionalLayers (-1) (-1)) _ _

theorem distribute_quiet : Quiet s (s.distribute params env) := by
  unfold distribute
  refine Meets.any.bind fun _ _ => ?_
  split_ifs
  · exact (increaseLayers_quiet env.increases).bind fun s' hs' => applyLayers_quiet.of_eq hs'
  · rfl

theorem mayChangeLayers_quiet (force : Bool) : Quiet s (s.mayChangeLayers params env force) := by
  rw [mayChangeLayers]
  split_ifs
  · rfl
  · exact distribute_quiet
  · rfl
  · exact sent_updateTargetLayers params s _ _

theorem ite_mayChangeLayers_quiet (active force : Bool) :
    Quiet s (if active then s.mayChangeLayers params env force else .ok s) := by
  cases active with
  | true => exact mayChangeLayers_quiet force
  | false => rfl

theorem restart_quiet : Quiet s (s.restart params env) := by
  rw [restart]
  exact (ite_mayChangeLayers_quiet _ false).of_eq rfl

theorem step_quiet {e : Event} (he : ∀ pkt, e ≠ .rtpPacket pkt) : Quiet s (s.step params (e, env)) := by
  cases e with
  | rtpPacket pkt => exact absurd rfl (he pkt)
  | newRtpStream =>
    exact (ite_mayChangeLayers_quiet _ false).of_eq (sent_emit_score { s with producerRtpStream := true })
  | score score prev => exact (ite_mayChangeLayers_quiet _ false).of_eq (sent_emit_score s)
  | ownScore => exact (ite_mayChangeLayers_quiet _ false).of_eq (sent_emit_score s)
  | base e =>
    exact Consumer.Derived.handle_meets (derived params env) (f := sent)
      (fun _ _ => rfl) (fun _ => restart_quiet) (sent_stop params) (sent_userOnPaused params)
      (fun _ => restart_quiet) e s
  | setPreferredLayers data =>
    rw [step]
    dsimp only
    split
    · rfl
    · rw [setPreferredLayers]
      cases (data.find "spatialLayer").bind (Json.unsigned 16) with
      | none => trivial
      | some spatialLayer => exact (ite_mayChangeLayers_quiet _ true).of_eq rfl
  | distribute =>
    rw [step]
    dsimp only
    split_ifs
    · exact distribute_quiet
    · rfl
  | requestKeyFrame =>
    rw [step]
    dsimp only
    split_ifs
    · exact sent_requestKeyFrame params s
    · rfl
  | keyFrameRequest =>
    rw [step]
    dsimp only
    split_ifs
    · exact sent_requestKeyFrame params s
    · rfl

/-! ### What packets do -/

variable {p : SvcPacket}

section

variable (hs : AllAssigned s.sent)

include hs

theorem transmit_assigned (hp : p.sequenceNumber ∉ s.rtpSeqManager.dropped) :
    AllAssigned (s.transmit params env p).1.sent := by
  have hseq := SeqManager.input_isSome hp
  rw [transmit]
  dsimp only
  split_ifs
  · rw [sent_emit]
    exact hs.append_singleton hseq
  · exact hs

theorem filterAndTransmit_assigned (hver : p.sequenceNumber ∈ s.rtpSeqManager.dropped →
      ∀ result, p.processPayload s.encodingContext = .ok result → result.2.2 = false) :
    Meets (fun result => AllAssigned result.1.sent) (fun _ => True)
      (s.filterAndTransmit params env p) := by
  unfold filterAndTransmit
  cases hproc : p.processPayload s.encodingContext with
  | error f => trivial
  | ok result =>
    obtain ⟨c, p', done⟩ := result
    have hnum : p'.sequenceNumber = p.sequenceNumber :=
      congrArg (·.sequenceNumber) (SvcPacket.processPayload_packet hproc)
    rw [ok_bind]
    dsimp only
    cases done with
    | false => exact hs
    | true =>
      have hp : p'.sequenceNumber ∉ s.rtpSeqManager.dropped := by
        rw [hnum]
        intro hdrop
        cases hver hdrop _ hproc
      rw [if_neg (by simp)]
      split_ifs
      · refine transmit_assigned ?_ hp
        rw [sent_emitLayersChange]
        exact hs
      · refine transmit_assigned ?_ hp
        exact hs

theorem sendRtpPacket_assigned (hver : s.VerdictStands params (.rtpPacket p, env)) :
    Meets (fun result => AllAssigned result.1.sent) (fun _ => True)
      (s.sendRtpPacket params env p) := by
  rw [sendRtpPacket]
  cases hcon : s.considers params env p with
  | false => exact hs
  | true =>
    rw [if_neg (by simp)]
    cases hsync : s.syncRequired with
    | false =>
      rw [if_neg (by simp), synchronize, hsync, if_neg Bool.false_ne_true]
      exact filterAndTransmit_assigned hs (hver hcon hsync)
    | true =>
      split_ifs
      · exact hs
      · -- after the sync nothing is recorded as dropped
        rw [synchronize, hsync, if_pos rfl]
        refine filterAndTransmit_assigned ?_ fun hmem => absurd hmem not_mem_nil
        exact hs

theorem step_assigned (e : Event × SvcEnv) (hver : s.VerdictStands params e) :
    Meets (fun s' => AllAssigned s'.sent) (fun _ => True) (s.step params e) := by
  obtain ⟨e, env⟩ := e
  by_cases hp : ∃ p, e = .rtpPacket p
  · obtain ⟨p, rfl⟩ := hp
    exact (sendRtpPacket_assigned hs hver).bind fun result hres => hres
  · have hquiet : Quiet s (s.step params (e, env)) :=
      step_quiet fun p heq => hp ⟨p, heq⟩
    refine hquiet.mono (fun s' hsent => ?_) fun _ => id
    rw [hsent]
    exact hs

end

end SvcConsumer

/-! ## Runs -/

/-- **Every packet that is sent has an assigned sequence number**, in all runs of simulcast and SVC
consumers in which the codec stands by its verdicts on dropped packets. -/
theorem sequence_numbers_assigned (preferredSpatialLayer preferredTemporalLayer : ℤ)
    (paused producerPaused : Bool) :
    (∀ (h : Codecs.Handler) (n : ℕ) (params : SimulcastParameters n)
      (producerRtpStreams : Fin n → Option LastSenderReport) (encodingContext : h.Context)
      (events : List (SimulcastConsumer.Event h n)) s,
      run (SimulcastConsumer.step params) (.new producerRtpStreams preferredSpatialLayer
        preferredTemporalLayer encodingContext paused producerPaused) events = .ok s →
      RunMeets (SimulcastConsumer.step params) (SimulcastConsumer.VerdictStands params)
        (.new producerRtpStreams preferredSpatialLayer preferredTemporalLayer encodingContext paused
          producerPaused) events → AllAssigned s.sent) ∧
    (∀ (params : SvcParameters) (producerRtpStream ksvc : Bool)
      (events : List (SvcConsumer.Event × SvcEnv)) s,
      run (SvcConsumer.step params) (.new params producerRtpStream preferredSpatialLayer
        preferredTemporalLayer ksvc paused producerPaused) events = .ok s →
      RunMeets (SvcConsumer.step params) (SvcConsumer.VerdictStands params)
        (.new params producerRtpStream preferredSpatialLayer preferredTemporalLayer ksvc paused
          producerPaused) events → AllAssigned s.sent) := by
  constructor
  · intro h n params producerRtpStreams encodingContext events s hrun hverdicts
    have hmeets := run_meets_of_inv (I := fun s => AllAssigned s.sent) (Q := fun _ => True)
      (fun s event hs hverdict => SimulcastConsumer.step_assigned hs event hverdict)
      (fun packet hmem => absurd hmem List.not_mem_nil) hverdicts
    rw [hrun] at hmeets
    exact hmeets
  · intro params producerRtpStream ksvc events s hrun hverdicts
    have hmeets := run_meets_of_inv (I := fun s => AllAssigned s.sent) (Q := fun _ => True)
      (fun s event hs hverdict => SvcConsumer.step_assigned hs event hverdict)
      (fun packet hmem => absurd hmem List.not_mem_nil) hverdicts
    rw [hrun] at hmeets
    exact hmeets

def preferTemporalLayer (temporalLayer : ℤ) : Json :=
  .object [("spatialLayer", .integer 0), ("temporalLayer", .integer temporalLayer)]

def h264Parameters : SimulcastParameters 2 where
  consumableSsrcs layer := BitVec.ofNat 32 (layer + 1)
  ssrc := 7
  clockRate := 90000
  temporalLayers := 2
  supportedCodecPayloadTypes := [96]

def h264Consumer : SimulcastConsumer Codecs.H264.handler 2 :=
  let encodingContext : Codecs.H264.EncodingContext := { temporalLayers := 2 }
  .new (fun _ => some {}) 0 0 encodingContext false false

def h264Env : Env 2 := { reading := fun _ => { score := 10, temporalLayers := 2 } }

def h264Packet (sequenceNumber : BitVec 16) (descriptor : Codecs.H264.PayloadDescriptor) :
    SimulcastConsumer.Event Codecs.H264.handler 2 :=
  .rtpPacket
    { ssrc := 1, payloadType := 96, sequenceNumber, timestamp := 1000, descriptor := some descriptor }
    h264Env

def h264LayerPacket : SimulcastConsumer.Event Codecs.H264.handler 2 :=
  h264Packet 11 { hasTid := true, tid := 1, b := true }

def h264Events : List (SimulcastConsumer.Event Codecs.H264.handler 2) :=
  [.transportConnected h264Env, h264Packet 10 { hasTid := true, isKeyFrame := true }, h264LayerPacket]

def vp9Parameters : SvcParameters where
  consumableSsrc := 1
  ssrc := 7
  spatialLayers := 2
  temporalLayers := 2
  supportedCodecPayloadTypes := [96]

def vp9Consumer : SvcConsumer := .new vp9Parameters true 0 0 false false false

def vp9Env : SvcEnv :=
  { score := 10, spatialLayers := 2, temporalLayers := 2, spatialLayerBitrate := fun _ => 1000 }

def vp9Packet (sequenceNumber : BitVec 16) (descriptor : Codecs.VP9.PayloadDescriptor) :
    SvcConsumer.Event × SvcEnv :=
  (.rtpPacket
    { ssrc := 1, payloadType := 96, sequenceNumber, timestamp := 1000, descriptor := some descriptor },
    vp9Env)

def vp9LayerPacket : SvcConsumer.Event × SvcEnv :=
  vp9Packet 11
    { hasPictureId := true
      pictureId := 2
      hasTlIndex := true
      tlIndex := 1
      b := true
      switchingUpPoint := true }

def vp9Events : List (SvcConsumer.Event × SvcEnv) :=
  [(.base .transportConnected, vp9Env),
    vp9Packet 10 { hasPictureId := true, pictureId := 1, b := true, isKeyFrame := true }, vp9LayerPacket]

theorem sequence_numbers_assigned_after_drop :
    (∃ s, run (SimulcastConsumer.step h264Parameters) h264Consumer
        (h264Events ++ [h264LayerPacket]) = .ok s ∧ s.rtpSeqManager.dropped = [11] ∧ AllAssigned s.sent) ∧
    (∃ s, run (SvcConsumer.step vp9Parameters) vp9Consumer (vp9Events ++ [vp9LayerPacket]) = .ok s ∧
      s.rtpSeqManager.dropped = [11] ∧ AllAssigned s.sent) := by
  refine ⟨⟨_, rfl, rfl, ?_⟩, ⟨_, rfl, rfl, ?_⟩⟩
  · refine (sequence_numbers_assigned 0 0 false false).1 Codecs.H264.handler 2 h264Parameters
      (fun _ => some {}) h264Consumer.encodingContext (h264Events ++ [h264LayerPacket]) _ rfl ?_
    refine runMeets_cons_of_run rfl trivial ?_
    refine runMeets_cons_of_run rfl (fun hforwards => absurd hforwards.2.1 (by decide)) ?_
    refine runMeets_cons_of_run rfl (fun _ hdropped => absurd hdropped (by decide)) ?_
    refine runMeets_cons_of_run rfl (fun _ _ result hresult => ?_) trivial
    cases hresult
    rfl
  · refine (sequence_numbers_assigned 0 0 false false).2 vp9Parameters true false
      (vp9Events ++ [vp9LayerPacket]) _ rfl ?_
    refine runMeets_cons_of_run rfl trivial ?_
    refine runMeets_cons_of_run rfl (fun _ hsync => absurd hsync (by decide)) ?_
    refine runMeets_cons_of_run rfl (fun _ _ hdropped => absurd hdropped (by decide)) ?_
    refine runMeets_cons_of_run rfl (fun _ _ _ result hresult => ?_) trivial
    cases hresult
    rfl

/-- **A packet that comes again after the target layer has been raised** is accepted by the codec and
refused by `rtpSeqManager`, and it is sent without a sequence number. -/
theorem resent_packet_unassigned :
    (∃ s, run (SimulcastConsumer.step h264Parameters) h264Consumer
        (h264Events ++ [.setPreferredLayers (preferTemporalLayer 1) h264Env, h264LayerPacket]) = .ok s ∧
      s.rtpSeqManager.dropped = [11] ∧ s.sent.map (·.sequenceNumber) = [some 1, none]) ∧
    (∃ s, run (SvcConsumer.step vp9Parameters) vp9Consumer
        (vp9Events ++ [(.setPreferredLayers (preferTemporalLayer 1), vp9Env), vp9LayerPacket]) = .ok s ∧
      s.rtpSeqManager.dropped = [11] ∧ s.sent.map (·.sequenceNumber) = [some 1, none]) := by
  refine ⟨⟨_, rfl, rfl, ?_⟩, ⟨_, rfl, rfl, ?_⟩⟩
  · decide +kernel
  · decide +kernel

end MediasoupWorker.RTC
