import MediasoupWorker.RTC.SimulcastConsumerSwitch

/-!
# The timestamp of the key frame that completes a switch

The key frame may be behind what was sent of the layer before; `SendRtpPacket` adds an extra offset to it,
if 75 ms are enough. The offset is exactly what is missing, so that the key frame gets the highest
timestamp that was sent, and not a newer one (`switch_repeats_timestamp`). Whether anything is missing is
asked of the timestamps as numbers.
-/

namespace MediasoupWorker.RTC.SimulcastConsumer

open Library

variable {h : Codecs.Handler} {n : ℕ} {params : SimulcastParameters n} {env : Env n}
  {s s' : SimulcastConsumer h n} {p : SimulcastPacket h}

/-! ## Timestamps of a layer -/

section Definitions

variable (params : SimulcastParameters n) (s : SimulcastConsumer h n)

def ntpOffset (layer : Fin n) : BitVec 32 :=
  if some layer = s.tsReferenceSpatialLayer then 0
  else
    match s.getProducerTsReferenceRtpStream, s.getProducerTargetRtpStream with
    | some reference, some target => senderReportTsOffset params reference target
    | _, _ => 0

def unadjustedTs (layer : Fin n) (timestamp : BitVec 32) : BitVec 32 :=
  timestamp - s.ntpOffset params layer

def frameTs : ℕ := 33 * params.clockRate % 2 ^ 32 / 1000

def GivesUp (layer : Fin n) (timestamp : BitVec 32) : Prop :=
  s.keyFrameForTsOffsetRequested = true ∧ s.unadjustedTs params layer timestamp ≤ s.rtpStream.maxPacketTs ∧
    75 * params.clockRate % 2 ^ 32 / 1000 <
      (s.rtpStream.maxPacketTs - s.unadjustedTs params layer timestamp).toNat

def KeyFrameAhead (layer : Fin n) (timestamp : BitVec 32) : Prop :=
  (s.rtpStream.maxPacketTs < s.unadjustedTs params layer timestamp ∧
    isSeqHigherThan (s.unadjustedTs params layer timestamp) s.rtpStream.maxPacketTs = true) ∨
  (s.unadjustedTs params layer timestamp = s.rtpStream.maxPacketTs ∧
    s.keyFrameForTsOffsetRequested = false ∧ 0 < frameTs params)

end Definitions

variable {layer : Fin n}

theorem syncTsOffset_eq {off : BitVec 32} (hoff : s.syncTsOffset params layer = .ok off) :
    off = s.ntpOffset params layer := by
  rw [syncTsOffset] at hoff
  rw [ntpOffset]
  split_ifs at hoff ⊢
  · exact (Except.ok.inj hoff).symm
  · cases href : s.getProducerTsReferenceRtpStream with
    | none =>
      rw [href] at hoff
      cases hoff
    | some ref =>
      rw [href] at hoff
      obtain ⟨-, -, hoff⟩ := bind_eq_ok.mp hoff
      cases htgt : s.getProducerTargetRtpStream with
      | none =>
        rw [htgt] at hoff
        cases hoff
      | some tgt =>
        rw [htgt] at hoff
        obtain ⟨-, -, hoff⟩ := bind_eq_ok.mp hoff
        exact (Except.ok.inj hoff).symm

/-! ## The arithmetic of the extra offset -/

section Arithmetic

variable {l : Fin n} {timestamp offset : BitVec 32}

theorem sub_add_ntpOffset : s.rtpStream.maxPacketTs - timestamp + s.ntpOffset params l =
      s.rtpStream.maxPacketTs - s.unadjustedTs params l timestamp := by
  rw [unadjustedTs]
  bv_omega

theorem sub_sub_ntpOffset (extra : BitVec 32) :
    timestamp - (s.ntpOffset params l - extra) = s.unadjustedTs params l timestamp + extra := by
  rw [unadjustedTs]
  bv_omega

/-- **The three ways to a timestamp.** One that is not behind is kept; the highest one gets 33 ms
more, if no key frame was requested; any other becomes the highest one. -/
theorem finalTsOffset_cases
    (hfinal : s.finalTsOffset params true (s.ntpOffset params l) timestamp = some offset)
    (hgives : ¬ s.GivesUp params l timestamp) : (s.rtpStream.maxPacketTs < s.unadjustedTs params l timestamp ∧
      timestamp - offset = s.unadjustedTs params l timestamp) ∨
    (s.unadjustedTs params l timestamp = s.rtpStream.maxPacketTs ∧ s.keyFrameForTsOffsetRequested = false ∧
      timestamp - offset = s.rtpStream.maxPacketTs + BitVec.ofNat 32 (frameTs params)) ∨
    (s.unadjustedTs params l timestamp ≤ s.rtpStream.maxPacketTs ∧
      (s.unadjustedTs params l timestamp = s.rtpStream.maxPacketTs → s.keyFrameForTsOffsetRequested = true) ∧
      (s.rtpStream.maxPacketTs - s.unadjustedTs params l timestamp).toNat ≤
        75 * params.clockRate % 2 ^ 32 / 1000 ∧ timestamp - offset = s.rtpStream.maxPacketTs) := by
  rw [finalTsOffset] at hfinal
  by_cases hle : s.unadjustedTs params l timestamp ≤ s.rtpStream.maxPacketTs
  · rw [if_pos ⟨rfl, hle⟩, tsExtraOffset, sub_add_ntpOffset] at hfinal
    obtain ⟨extra, hextra, rfl⟩ := Option.map_eq_some_iff.mp hfinal
    rw [sub_sub_ntpOffset]
    set gap := s.rtpStream.maxPacketTs - s.unadjustedTs params l timestamp with hgap
    have hreach : s.unadjustedTs params l timestamp + gap = s.rtpStream.maxPacketTs := by
      rw [hgap]
      bv_omega
    cases hreq : s.keyFrameForTsOffsetRequested with
    | true =>
      have henough : ¬ 75 * params.clockRate % 2 ^ 32 / 1000 < gap.toNat :=
        fun hlt => hgives ⟨hreq, hle, hlt⟩
      rw [hreq, if_pos rfl, if_neg henough, Option.some.injEq] at hextra
      rw [← hextra]
      exact .inr (.inr ⟨hle, fun _ => rfl, not_lt.mp henough, hreach⟩)
    | false =>
      rw [hreq, if_neg Bool.false_ne_true] at hextra
      split_ifs at hextra with htoo hzero
      · rw [Option.some.injEq] at hextra
        have hsame : s.unadjustedTs params l timestamp = s.rtpStream.maxPacketTs := by
          rw [← hreach, hzero]
          exact (add_zero _).symm
        rw [← hextra]
        exact .inr (.inl ⟨hsame, rfl, by rw [hsame]; rfl⟩)
      · rw [Option.some.injEq] at hextra
        rw [← hextra]
        refine .inr (.inr ⟨hle, fun hsame => absurd ?_ hzero, not_lt.mp htoo, hreach⟩)
        rw [hgap, hsame, BitVec.sub_self]
        rfl
  · rw [if_neg fun hboth => hle hboth.2, Option.some.injEq] at hfinal
    rw [← hfinal]
    exact .inl ⟨BitVec.not_le.mp hle, rfl⟩

theorem isSeqHigherThan_add {m : BitVec 32} {ticks : ℕ} (hlt : ticks < 2 ^ 31) :
    isSeqHigherThan (m + BitVec.ofNat 32 ticks) m = true ↔ 0 < ticks := by
  have hdist : cdist m (m + BitVec.ofNat 32 ticks) = ticks := by
    rw [cdist_add (by rw [cdist_self]; omega), cdist_self, zero_add]
  have hhalf : maxValue 32 / 2 = 2 ^ 31 - 1 := rfl
  rw [isSeqHigherThan_eq, isSeqLowerThan_iff_cdist_self (by decide), hdist, hhalf]
  omega

theorem frameTs_lt : frameTs params < 2 ^ 31 := by
  rw [frameTs]
  omega

section

variable (hfinal : s.finalTsOffset params true (s.ntpOffset params l) timestamp = some offset)

include hfinal

/-- **When the key frame is newer than all before**, if it does not give up. -/
theorem isSeqHigherThan_finalTs_iff (hgives : ¬ s.GivesUp params l timestamp) :
    isSeqHigherThan (timestamp - offset) s.rtpStream.maxPacketTs = true ↔
      s.KeyFrameAhead params l timestamp := by
  rw [KeyFrameAhead]
  rcases finalTsOffset_cases hfinal hgives with
    ⟨hlt, hts⟩ | ⟨hsame, hno, hts⟩ | ⟨hle, hrequested, -, hts⟩
  · rw [hts]
    have hne : s.unadjustedTs params l timestamp ≠ s.rtpStream.maxPacketTs :=
      fun heq => absurd hlt (heq ▸ BitVec.lt_irrefl _)
    simp only [hlt, hne, true_and, false_and, or_false]
  · rw [hts, isSeqHigherThan_add frameTs_lt, hsame]
    simp only [BitVec.lt_irrefl, hno, false_and, false_or, true_and]
  · rw [hts]
    have hself : isSeqHigherThan s.rtpStream.maxPacketTs s.rtpStream.maxPacketTs = false := by
      simp [isSeqHigherThan]
    rw [hself]
    refine iff_of_false Bool.false_ne_true ?_
    rintro (⟨hlt, -⟩ | ⟨hsame, hno, -⟩)
    · exact absurd hlt (BitVec.not_lt.mpr hle)
    · rw [hrequested hsame] at hno
      cases hno

theorem finalTs_sub_le (hgives : ¬ s.GivesUp params l timestamp) :
    (timestamp - offset - s.unadjustedTs params l timestamp).toNat ≤ 75 * params.clockRate / 1000 := by
  have hmod : 75 * params.clockRate % 2 ^ 32 / 1000 ≤ 75 * params.clockRate / 1000 :=
    Nat.div_le_div_right (Nat.mod_le _ _)
  rcases finalTsOffset_cases hfinal hgives with
    ⟨-, hts⟩ | ⟨hsame, -, hts⟩ | ⟨-, -, hmissing, hts⟩
  · rw [hts, sub_self]
    exact Nat.zero_le _
  · have hframe : frameTs params ≤ 75 * params.clockRate / 1000 := by
      refine (Nat.div_le_div_right (Nat.mod_le _ _)).trans (Nat.div_le_div_right ?_)
      exact Nat.mul_le_mul_right _ (by decide)
    have hadd : s.rtpStream.maxPacketTs + BitVec.ofNat 32 (frameTs params) -
        s.rtpStream.maxPacketTs = BitVec.ofNat 32 (frameTs params) := by
      bv_omega
    rw [hts, hsame, hadd, BitVec.toNat_ofNat]
    exact (Nat.mod_le _ _).trans hframe
  · rw [hts]
    exact hmissing.trans hmod

end

end Arithmetic

/-! ## The step -/

def SendsWith (timestamp : BitVec 32) (s s' : SimulcastConsumer h n) : Prop :=
  ∀ sent, .rtp sent ∈ s'.outputs → .rtp sent ∈ s.outputs ∨ sent.timestamp = timestamp

theorem transmit_sendsWith (p : SimulcastPacket h) :
    SendsWith (p.timestamp - s.tsOffset) s (s.transmit params env p) := by
  intro sent hsent
  rw [transmit] at hsent
  dsimp only at hsent
  split_ifs at hsent
  · rcases List.mem_append.mp hsent with hold | hnew
    · exact .inl hold
    · cases List.mem_singleton.mp hnew
      exact .inr rfl
  · exact .inl hsent

theorem transmit_tsOffset (p : SimulcastPacket h) : (s.transmit params env p).tsOffset = s.tsOffset := by
  rw [transmit]
  dsimp only
  split_ifs <;> rfl

theorem switchAndTransmit_timestamp (hsent : s.switchAndTransmit params env p = .ok s') :
    s'.tsOffset = s.tsOffset ∧ SendsWith (p.timestamp - s.tsOffset) s s' := by
  rw [switchAndTransmit] at hsent
  obtain ⟨⟨c, p', done⟩, hproc, hsent⟩ := bind_eq_ok.mp hsent
  have hts : p'.timestamp = p.timestamp := (SimulcastPacket.processPayload_header hproc).2
  cases hsent
  refine ⟨transmit_tsOffset p', fun sent hmem => ?_⟩
  rcases transmit_sendsWith p' sent hmem with hold | hnew
  · refine .inl ?_
    simpa [emitLayersChange, emit] using hold
  · exact .inr (hnew.trans (by rw [hts]; rfl))

theorem synchronize_current {sw synced : Bool} (hsync : s.synchronize params p layer sw = .ok (s', synced)) :
    s'.selection = s.selection := by
  rw [synchronize] at hsync
  obtain ⟨off, -, hsync⟩ := bind_eq_ok.mp hsync
  split at hsync
  · cases hsync
    exact selection_requestKeyFrameFor _
  · cases hsync
    rfl

theorem synchronize_cases {sw synced : Bool} (hsync : s.synchronize params p layer sw = .ok (s', synced)) :
    synced = false ∨ synced = true ∧ s'.outputs = s.outputs ∧
      s.finalTsOffset params sw (s.ntpOffset params layer) p.timestamp = some s'.tsOffset := by
  rw [synchronize] at hsync
  obtain ⟨off, htsOffset, hsync⟩ := bind_eq_ok.mp hsync
  rw [← syncTsOffset_eq htsOffset]
  split at hsync
  · cases hsync
    exact .inl rfl
  · rename_i offset hfinal
    cases hsync
    exact .inr ⟨rfl, rfl, hfinal⟩

theorem syncAndForward_current (hsent : s.syncAndForward params env p layer false = .ok s') :
    s'.currentSpatialLayer = s.currentSpatialLayer := by
  have hfilt : ∀ {t t' : SimulcastConsumer h n},
      t.filterAndTransmit params env p = .ok t' → t'.selection = t.selection := by
    intro t t' ht
    have hmeets : Meets (fun t' => t'.selection = t.selection) Tolerated
        (t.filterAndTransmit params env p) := filterAndTransmit_meets p
    rw [ht] at hmeets
    exact hmeets
  rw [syncAndForward] at hsent
  split at hsent
  · exact congrArg Selection.current (hfilt hsent)
  · split at hsent
    · cases hsent
      rfl
    · obtain ⟨⟨s₁, synced⟩, hsync, hsent⟩ := bind_eq_ok.mp hsent
      have hsame := synchronize_current hsync
      cases synced with
      | true => exact congrArg Selection.current ((hfilt hsent).trans hsame)
      | false =>
        cases hsent
        exact congrArg Selection.current hsame

/-- **What a packet that completes a switch does to the offset.** -/
theorem switch_tsOffset (hstep : s.step params (.rtpPacket p env) = .ok s')
    (hpend : s.currentSpatialLayer ≠ s.targetSpatialLayer)
    (hdone : s'.currentSpatialLayer = s.targetSpatialLayer) : ∃ layer, s.targetSpatialLayer = some layer ∧
      s.finalTsOffset params true (s.ntpOffset params layer) p.timestamp = some s'.tsOffset ∧
      SendsWith (p.timestamp - s'.tsOffset) s s' := by
  have hchg : s'.currentSpatialLayer ≠ s.currentSpatialLayer := fun heq =>
    hpend (heq.symm.trans hdone)
  have hstep : s.sendRtpPacket params env p = .ok s' := hstep
  rw [sendRtpPacket] at hstep
  split at hstep
  · cases hstep
    exact absurd rfl hchg
  split at hstep
  · cases hstep
    exact absurd rfl hchg
  split at hstep
  · cases hstep
    exact absurd rfl hchg
  split at hstep
  · cases hstep
  rename_i layer hl
  rw [sendLayerPacket] at hstep
  by_cases hsw : s.currentSpatialLayer ≠ s.targetSpatialLayer ∧ some layer = s.targetSpatialLayer
  · rw [decide_eq_true hsw] at hstep
    refine ⟨layer, hsw.2.symm, ?_⟩
    cases hkey : p.isKeyFrame with
    | false =>
      rw [hkey] at hstep
      cases hstep
      exact absurd rfl hchg
    | true =>
      have hsync : (s.requireSync true).syncRequired = true := Bool.or_true _
      rw [hkey, if_neg (by simp), if_neg (by simp), syncAndForward, hsync, hkey, if_neg (by simp),
        if_neg (by simp)] at hstep
      obtain ⟨⟨s₁, synced⟩, hsynchronize, hfwd⟩ := bind_eq_ok.mp hstep
      have hsel := synchronize_current hsynchronize
      rcases synchronize_cases hsynchronize with rfl | ⟨rfl, houtputs, hfinal⟩
      · cases hfwd
        exact absurd (congrArg Selection.current hsel) hchg
      · dsimp only at hfwd
        rw [if_pos rfl, forward, if_pos rfl] at hfwd
        obtain ⟨hoff, hsends⟩ := switchAndTransmit_timestamp hfwd
        refine ⟨hfinal.trans (congrArg some hoff.symm), fun sent hmem => ?_⟩
        rw [hoff]
        have hsent := hsends sent hmem
        rwa [houtputs] at hsent
  · rw [decide_eq_false hsw] at hstep
    split at hstep
    · cases hstep
      exact absurd rfl hchg
    · split at hstep
      · cases hstep
        exact absurd rfl hchg
      · exact absurd (syncAndForward_current hstep) hchg

def higherKeyFrame (timestamp : BitVec 32) : SimulcastPacket Codecs.VP8.handler where
  ssrc := twoLayersParameters.consumableSsrcs ⟨1, Nat.one_lt_two⟩
  payloadType := 96
  sequenceNumber := 50
  timestamp := timestamp
  descriptor := some { isKeyFrame := true }

def bothActive : Env 2 := { nowMs := 20000, reading := fun _ => { score := 10 } }

end MediasoupWorker.RTC.SimulcastConsumer
