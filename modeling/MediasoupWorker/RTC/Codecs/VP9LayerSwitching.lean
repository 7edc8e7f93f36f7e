import MediasoupWorker.RTC.Codecs.VP9LayerFilter
import MediasoupWorker.RTC.SvcConsumer

/-!
# The layer switches of a VP9 stream

`Process` raises the current spatial layer at a key frame, and the current temporal layer at a switching
point that begins a frame. Two tests are missing: a switching point above the target takes the current
temporal layer above it (`opens_above_target`), and a late key frame enables a spatial layer after newer
pictures have gone by (`raised_by_late_key_frame`).
-/

namespace MediasoupWorker.RTC.Codecs.VP9

open Library Bool

/-! ## Key frames -/

section KeyFrame

variable {data : List Byte} {d d' : PayloadDescriptor} {offset offset' : ℕ}

theorem parsePictureId_isKeyFrame (h : parsePictureId data d offset = some (d', offset')) :
    d'.isKeyFrame = d.isKeyFrame := by
  rw [parsePictureId] at h
  split_ifs at h
  · obtain ⟨b, -, h⟩ := Option.bind_eq_some_iff.mp h
    split_ifs at h
    · obtain ⟨low, -, h⟩ := Option.bind_eq_some_iff.mp h
      cases h
      rfl
    · cases h
      rfl
  · cases h
    rfl

theorem parseLayers_isKeyFrame (h : parseLayers data d offset = some d') : d'.isKeyFrame = d.isKeyFrame := by
  rw [parseLayers] at h
  split_ifs at h
  · obtain ⟨b, -, h⟩ := Option.bind_eq_some_iff.mp h
    obtain ⟨next, -, h⟩ := Option.bind_eq_some_iff.mp h
    split_ifs at h
    · cases h
      rfl
    · cases h
      rfl
  · cases h
    rfl

theorem parse_isKeyFrame (h : parse data = some d) (hkey : d.isKeyFrame = true) :
    d.spatialLayer = 0 ∧ d.b = true := by
  rw [parse] at h
  obtain ⟨b, -, h⟩ := Option.bind_eq_some_iff.mp h
  obtain ⟨⟨d₁, o₁⟩, h₁, h⟩ := Option.bind_eq_some_iff.mp h
  obtain ⟨d₂, h₂, h⟩ := Option.bind_eq_some_iff.mp h
  split_ifs at h with htest
  · cases h
    simp only [and_eq_true, beq_iff_eq] at htest
    refine ⟨?_, htest.1.2⟩
    rw [PayloadDescriptor.spatialLayer]
    split_ifs
    · exact congrArg BitVec.toNat htest.2
    · rfl
  · cases h
    rw [parseLayers_isKeyFrame h₂, parsePictureId_isKeyFrame h₁] at hkey
    cases hkey

end KeyFrame

/-! ## One call of `Process` -/

namespace EncodingContext

variable (context : EncodingContext) (d : PayloadDescriptor)

def nextTemporalLayer : ℤ :=
  if context.isOldPacket d then (context.switchSpatialLayer d).2
  else context.switchTemporalLayer d (context.switchSpatialLayer d).2

end EncodingContext

section Process

variable {c : EncodingContext} {d : PayloadDescriptor}

/-- **The two ways out of `Process` after the sync.** A new packet above the switched layers is
refused and changes nothing; any other is accepted with the switches. -/
theorem processLayers_cases (c : EncodingContext) (d : PayloadDescriptor) :
    (processLayers c d = (c, none) ∧ c.isOldPacket d = false ∧
      ((c.switchSpatialLayer d).1 < d.spatialLayer ∨ c.nextTemporalLayer d < d.temporalLayer)) ∨
    (∃ m, processLayers c d = ({ c.inputPictureId d with
          currentSpatialLayer := (c.switchSpatialLayer d).1
          currentTemporalLayer := c.nextTemporalLayer d }, some m)) ∧
      (c.isOldPacket d = false → d.spatialLayer ≤ (c.switchSpatialLayer d).1 ∧
        d.temporalLayer ≤ c.nextTemporalLayer d) := by
  rw [processLayers]
  dsimp only
  rw [← EncodingContext.nextTemporalLayer]
  split_ifs with hsl htl
  · exact .inl ⟨rfl, hsl.2, .inl hsl.1⟩
  · exact .inl ⟨rfl, htl.2, .inr htl.1⟩
  · refine .inr ⟨⟨_, rfl⟩, fun hnew => ⟨?_, ?_⟩⟩
    · exact Int.not_lt.mp fun hlt => hsl ⟨hlt, hnew⟩
    · exact Int.not_lt.mp fun hlt => htl ⟨hlt, hnew⟩

namespace EncodingContext

theorem switchSpatialLayer_snd (c : EncodingContext) (d : PayloadDescriptor) :
    (c.switchSpatialLayer d).2 = 0 ∨ (c.switchSpatialLayer d).2 = c.currentTemporalLayer := by
  rw [switchSpatialLayer]
  split_ifs <;> simp

theorem switchSpatialLayer_of_raise (hkey : d.isKeyFrame = true)
    (hpend : c.currentSpatialLayer < c.targetSpatialLayer) :
    c.switchSpatialLayer d = (c.targetSpatialLayer, 0) := by
  rw [switchSpatialLayer, if_pos hpend, if_pos hkey]

theorem raise_of_lt_switchSpatialLayer (h : c.currentSpatialLayer < (c.switchSpatialLayer d).1) :
    d.isKeyFrame = true ∧ c.currentSpatialLayer < c.targetSpatialLayer := by
  rw [switchSpatialLayer] at h
  split_ifs at h with hup hkey hdown
  · exact ⟨hkey, hup⟩
  all_goals
    dsimp only at h
    omega

theorem le_switchSpatialLayer_iff (hkey : d.isKeyFrame = true → d.spatialLayer = 0)
    (htgt : 0 ≤ c.targetSpatialLayer) :
    (d.spatialLayer : ℤ) ≤ (c.switchSpatialLayer d).1 ↔ d.spatialLayer ≤ c.currentSpatialLayer ∨
        d.isKeyFrame = true ∧ c.currentSpatialLayer < c.targetSpatialLayer := by
  have hzero : d.isKeyFrame = true → (d.spatialLayer : ℤ) = 0 := fun h => by rw [hkey h]; rfl
  rw [switchSpatialLayer]
  split_ifs <;> grind

end EncodingContext

/-! ## The temporal layer -/

structure OpensAbove (context : EncodingContext) (d : PayloadDescriptor) : Prop where
  announced : context.announces d = true
  new : (context.sync d).isOldPacket d = false
  spatial : d.spatialLayer ≤ context.currentSpatialLayer ∨
    d.isKeyFrame = true ∧ context.currentSpatialLayer < context.targetSpatialLayer
  pending : context.currentTemporalLayer < context.targetTemporalLayer
  above : context.targetTemporalLayer < d.temporalLayer
  switching : context.currentTemporalLayer = -1 ∨ d.switchingUpPoint = true
  begins : d.b = true

def Within (T : ℕ) (context : EncodingContext) (d : PayloadDescriptor) : Prop :=
  ∃ context' marker, process context d = .ok (context', marker) ∧ context'.currentTemporalLayer ≤ T ∧
    (marker ≠ none → (context.sync d).isOldPacket d = false → d.temporalLayer ≤ T)

namespace EncodingContext

theorem nextTemporalLayer_of_switching (hnew : c.isOldPacket d = false)
    (hpend : c.currentTemporalLayer < c.targetTemporalLayer)
    (habove : c.currentTemporalLayer < d.temporalLayer)
    (hsw : c.currentTemporalLayer = -1 ∨ d.switchingUpPoint = true) (hb : d.b = true) :
    c.nextTemporalLayer d = d.temporalLayer := by
  rw [nextTemporalLayer, hnew, if_neg Bool.false_ne_true, switchTemporalLayer, if_pos hpend,
    if_pos ⟨habove, hsw, hb⟩]

variable (c d) in
theorem nextTemporalLayer_le (htgt : 0 ≤ c.targetTemporalLayer)
    (hcur : c.currentTemporalLayer ≤ c.targetTemporalLayer)
    (h : c.isOldPacket d = false → c.currentTemporalLayer < c.targetTemporalLayer →
      (c.currentTemporalLayer = -1 ∨ d.switchingUpPoint = true) → d.b = true →
      d.temporalLayer ≤ c.targetTemporalLayer) : c.nextTemporalLayer d ≤ c.targetTemporalLayer := by
  have hreset := c.switchSpatialLayer_snd d
  rw [nextTemporalLayer]
  split_ifs with hold
  · omega
  · rw [switchTemporalLayer]
    split_ifs with hpend hswitch hdown hend
    · exact h (eq_false_iff.mpr hold) hpend hswitch.2.1 hswitch.2.2
    all_goals omega

end EncodingContext

/-- **What takes the temporal layer above the target.** -/
theorem within_iff_not_opensAbove {T : ℕ} (hsl : 0 ≤ c.targetSpatialLayer) (htgt : c.targetTemporalLayer = T)
    (hcur : c.currentTemporalLayer ≤ T) (hkey : d.isKeyFrame = true → d.spatialLayer = 0) :
    Within T c d ↔ ¬ OpensAbove c d := by
  have hproc := process_eq d hsl (by omega)
  cases hann : c.announces d with
  | false =>
    rw [hann, if_neg Bool.false_ne_true] at hproc
    refine iff_of_true ⟨_, _, hproc, hcur, fun h => absurd rfl h⟩ fun h => ?_
    rw [h.announced] at hann
    cases hann
  | true =>
    rw [hann, if_pos rfl] at hproc
    have hsame := c.sync_toEncodingContext d
    have hsl' : 0 ≤ (c.sync d).targetSpatialLayer := by
      rw [hsame]
      exact hsl
    have hle := EncodingContext.le_switchSpatialLayer_iff hkey hsl'
    rcases processLayers_cases (c.sync d) d with
      ⟨hresult, hnew, hrefused⟩ | ⟨⟨marker, hresult⟩, hbelow⟩
    · -- a refused packet opens nothing: what would open a layer is not above the switched ones
      rw [hresult] at hproc
      refine iff_of_true ⟨_, _, hproc, ?_, fun h => absurd rfl h⟩ fun h => ?_
      · rw [hsame]
        exact hcur
      · have hpend := h.pending
        have habove := h.above
        have hnext := EncodingContext.nextTemporalLayer_of_switching hnew (by rw [hsame]; omega)
          (by rw [hsame]; omega) (by rw [hsame]; exact h.switching) h.begins
        have hin := hle.mpr (by rw [hsame]; exact h.spatial)
        omega
    · rw [hresult] at hproc
      constructor
      · rintro ⟨c', m', hproc', hl, -⟩ h
        rw [hproc] at hproc'
        cases hproc'
        have hpend := h.pending
        have habove := h.above
        have hnext := EncodingContext.nextTemporalLayer_of_switching h.new (by rw [hsame]; omega)
          (by rw [hsame]; omega) (by rw [hsame]; exact h.switching) h.begins
        dsimp only at hl
        omega
      · intro h
        have hnext : (c.sync d).nextTemporalLayer d ≤ T := by
          have hle' := EncodingContext.nextTemporalLayer_le (c.sync d) d
          rw [hsame, htgt] at hle'
          refine hle' (by omega) hcur fun hnew hpend hsw hb => ?_
          by_contra habove
          refine h ⟨hann, hnew, ?_, htgt ▸ hpend, htgt ▸ Int.not_le.mp habove, hsw, hb⟩
          have hin := hle.mp (hbelow hnew).1
          rwa [hsame] at hin
        refine ⟨_, _, hproc, hnext, fun _ hnew => ?_⟩
        have htl := (hbelow hnew).2
        omega

/-! ## The spatial layer -/

structure Raises (context : EncodingContext) (d : PayloadDescriptor) : Prop where
  announced : context.announces d = true
  key : d.isKeyFrame = true
  pending : context.currentSpatialLayer < context.targetSpatialLayer
  passes : (context.sync d).isOldPacket d = true ∨ d.temporalLayer = 0 ∨
    (context.currentTemporalLayer < context.targetTemporalLayer ∧
      context.currentTemporalLayer < d.temporalLayer ∧
      (context.currentTemporalLayer = -1 ∨ d.switchingUpPoint = true)) ∨
    (context.targetTemporalLayer < context.currentTemporalLayer ∧
      d.temporalLayer = context.targetTemporalLayer ∧ d.e = true)

theorem EncodingContext.le_nextTemporalLayer_iff (hnew : c.isOldPacket d = false) (hkey : d.isKeyFrame = true)
    (hb : d.b = true) (hpend : c.currentSpatialLayer < c.targetSpatialLayer) :
    (d.temporalLayer : ℤ) ≤ c.nextTemporalLayer d ↔ d.temporalLayer = 0 ∨
      (c.currentTemporalLayer < c.targetTemporalLayer ∧ c.currentTemporalLayer < d.temporalLayer ∧
        (c.currentTemporalLayer = -1 ∨ d.switchingUpPoint = true)) ∨
      (c.targetTemporalLayer < c.currentTemporalLayer ∧
        d.temporalLayer = c.targetTemporalLayer ∧ d.e = true) := by
  rw [nextTemporalLayer, hnew, if_neg Bool.false_ne_true, switchSpatialLayer_of_raise hkey hpend,
    switchTemporalLayer]
  split_ifs <;> grind

variable (c) in
/-- **What raises the spatial layer.** The age of the key frame is not asked. -/
theorem process_raises_iff (hsl : 0 ≤ c.targetSpatialLayer) (htl : 0 ≤ c.targetTemporalLayer)
    (hkeyFrame : d.isKeyFrame = true → d.spatialLayer = 0 ∧ d.b = true) :
    ∃ c' m, process c d = .ok (c', m) ∧ (c.currentSpatialLayer < c'.currentSpatialLayer ↔ Raises c d) := by
  have hproc := process_eq d hsl htl
  cases hann : c.announces d with
  | false =>
    rw [hann, if_neg Bool.false_ne_true] at hproc
    refine ⟨_, _, hproc, iff_of_false (lt_irrefl _) fun h => ?_⟩
    rw [h.announced] at hann
    cases hann
  | true =>
    rw [hann, if_pos rfl] at hproc
    have hsame := c.sync_toEncodingContext d
    rcases processLayers_cases (c.sync d) d with
      ⟨hresult, hnew, hrefused⟩ | ⟨⟨m, hresult⟩, hbelow⟩
    · rw [hresult] at hproc
      refine ⟨_, _, hproc, iff_of_false (by rw [hsame]; exact lt_irrefl _) fun h => ?_⟩
      obtain ⟨hzero, hb⟩ := hkeyFrame h.key
      have hpend : (c.sync d).currentSpatialLayer < (c.sync d).targetSpatialLayer := by
        rw [hsame]
        exact h.pending
      have hle := EncodingContext.le_nextTemporalLayer_iff hnew h.key hb hpend
      rw [hsame] at hle
      have hin := hle.mpr (h.passes.resolve_left (by rw [hnew]; exact Bool.false_ne_true))
      rw [EncodingContext.switchSpatialLayer_of_raise h.key hpend, hzero, hsame] at hrefused
      dsimp only at hrefused
      omega
    · rw [hresult] at hproc
      refine ⟨_, _, hproc, fun hraise => ?_, fun h => ?_⟩
      · rw [← hsame] at hraise
        obtain ⟨hkey, hpend⟩ := EncodingContext.raise_of_lt_switchSpatialLayer hraise
        refine ⟨hann, hkey, by rwa [hsame] at hpend, ?_⟩
        rw [or_iff_not_imp_left, Bool.not_eq_true]
        intro hnew
        have hle := EncodingContext.le_nextTemporalLayer_iff hnew hkey (hkeyFrame hkey).2 hpend
        rw [hsame] at hle
        exact hle.mp (hbelow hnew).2
      · have hpend : (c.sync d).currentSpatialLayer < (c.sync d).targetSpatialLayer := by
          rw [hsame]
          exact h.pending
        show c.currentSpatialLayer < ((c.sync d).switchSpatialLayer d).1
        rw [EncodingContext.switchSpatialLayer_of_raise h.key hpend, hsame]
        exact h.pending

theorem process_targets {c' : EncodingContext} {m : Option Bool} (h : process c d = .ok (c', m)) :
    c'.targetSpatialLayer = c.targetSpatialLayer ∧ c'.targetTemporalLayer = c.targetTemporalLayer := by
  rw [process] at h
  obtain ⟨-, -, h⟩ := bind_eq_ok.mp h
  obtain ⟨-, -, h⟩ := bind_eq_ok.mp h
  split at h
  · cases h
    exact ⟨rfl, rfl⟩
  · have hls : processLayers (c.sync d) d = (c', m) := Except.ok.inj h
    rcases processLayers_cases (c.sync d) d with ⟨hres, -⟩ | ⟨⟨m', hres⟩, -⟩
    · rw [hres] at hls
      cases hls
      rw [c.sync_toEncodingContext]
      exact ⟨rfl, rfl⟩
    · rw [hres] at hls
      cases hls
      dsimp only
      rw [EncodingContext.inputPictureId_toEncodingContext, c.sync_toEncodingContext]
      exact ⟨rfl, rfl⟩

end Process

/-! ## Runs with target changes -/

namespace EncodingContext

def updateTargetLayers (context : EncodingContext) (spatialLayer temporalLayer : ℤ) :
    EncodingContext :=
  if spatialLayer = -1 then
    { context with
      targetSpatialLayer := -1
      currentSpatialLayer := -1
      targetTemporalLayer := -1
      currentTemporalLayer := -1 }
  else { context with targetSpatialLayer := spatialLayer, targetTemporalLayer := temporalLayer }

theorem updateTargetLayers_natCast (context : EncodingContext) (sl tl : ℕ) :
    context.updateTargetLayers sl tl = { context with targetSpatialLayer := sl, targetTemporalLayer := tl } :=
  if_neg (by omega)

def HasTargets (context : EncodingContext) : Prop :=
  context.targetSpatialLayer ≠ -1 ∧ context.targetTemporalLayer ≠ -1

instance (context : EncodingContext) : Decidable context.HasTargets :=
  inferInstanceAs (Decidable (_ ∧ _))

end EncodingContext

section Consumer

variable {params : SvcParameters} {env : SvcEnv} {s s' : SvcConsumer} {p p' : SvcPacket}

theorem svcConsumer_transmit (params : SvcParameters) (env : SvcEnv) (s : SvcConsumer) (p : SvcPacket) :
    (s.transmit params env p).1.encodingContext = s.encodingContext := by
  rw [SvcConsumer.transmit]
  dsimp only
  split_ifs <;> rfl

theorem svcConsumer_sendRtpPacket (h : s.sendRtpPacket params env p = .ok (s', p')) :
    s'.encodingContext = s.encodingContext ∨ s.encodingContext.HasTargets ∧
      ∃ d m, p.descriptor = some d ∧ process s.encodingContext d = .ok (s'.encodingContext, m) := by
  rw [SvcConsumer.sendRtpPacket] at h
  split at h
  · cases h
    exact .inl rfl
  · rename_i hcon
    split at h
    · cases h
      exact .inl rfl
    · have htargets : s.encodingContext.HasTargets := by
        simp only [SvcConsumer.considers, not_eq_true', not_eq_false,
          and_eq_true, or_eq_false_iff, beq_eq_false_iff_ne] at hcon
        exact hcon.1.2
      have hsync : (s.synchronize p).encodingContext = s.encodingContext := by
        rw [SvcConsumer.synchronize]
        split_ifs <;> rfl
      rw [SvcConsumer.filterAndTransmit, hsync] at h
      obtain ⟨⟨context, sent, done⟩, hproc, h⟩ := bind_eq_ok.mp h
      have hctx : s'.encodingContext = context := by
        dsimp only at h
        split_ifs at h
        all_goals obtain rfl : _ = s' := congrArg Prod.fst (Except.ok.inj h)
        · rfl
        · exact svcConsumer_transmit ..
        · exact svcConsumer_transmit ..
      rw [SvcPacket.processPayload] at hproc
      cases hd : p.descriptor with
      | none =>
        rw [hd] at hproc
        cases hproc
        exact .inl hctx
      | some d =>
        rw [hd] at hproc
        obtain ⟨⟨c', m⟩, hcall, hproc⟩ := bind_eq_ok.mp hproc
        refine .inr ⟨htargets, d, m, rfl, ?_⟩
        rw [hcall, hctx]
        cases m <;> cases hproc <;> rfl

theorem svcConsumer_updateTargetLayers (params : SvcParameters) (s : SvcConsumer) (sl temporalLayer : ℤ) :
    (s.updateTargetLayers params sl temporalLayer).encodingContext =
      s.encodingContext.updateTargetLayers sl temporalLayer := by
  rw [SvcConsumer.updateTargetLayers, EncodingContext.updateTargetLayers]
  split_ifs
  · rfl
  · rw [SvcConsumer.requestKeyFrame]
    split_ifs <;> rfl
  · rfl

end Consumer

structure Switcher where
  context : EncodingContext
  processed : List ℕ := []

inductive SwitchEvent where
  | packet (picture : ℕ) (p : ParsedPayload)
  | targets (layers : Option (ℕ × ℕ))

def Switcher.step (s : Switcher) : SwitchEvent → Except Fault Switcher
  | .packet picture p =>
    if s.context.HasTargets then do
      let (context, _) ← process s.context p.descriptor
      return { context, processed := s.processed ++ [picture] }
    else return s
  | .targets none => return { s with context := s.context.updateTargetLayers (-1) (-1) }
  | .targets (some (spatialLayer, temporalLayer)) =>
    return { s with context := s.context.updateTargetLayers spatialLayer temporalLayer }

namespace Switcher

variable {s s' : Switcher} {T : ℕ}

/-! ### The temporal layer -/

def KeepsTarget (T : ℕ) : SwitchEvent → Prop
  | .packet _ _ => True
  | .targets layers => ∃ spatialLayer, layers = some (spatialLayer, T)

def StaysWithin (T : ℕ) (s : Switcher) : SwitchEvent → Prop
  | .packet _ p => Within T s.context p.descriptor
  | .targets _ => True

def OpensNothingAbove (s : Switcher) : SwitchEvent → Prop
  | .packet _ p => ¬ OpensAbove s.context p.descriptor
  | .targets _ => True

structure TemporalInv (T : ℕ) (s : Switcher) : Prop where
  targetSpatial : 0 ≤ s.context.targetSpatialLayer
  targetTemporal : s.context.targetTemporalLayer = T
  current : s.context.currentTemporalLayer ≤ T

theorem TemporalInv.hasTargets (h : TemporalInv T s) : s.context.HasTargets := by
  have hsl := h.targetSpatial
  have htl := h.targetTemporal
  exact ⟨by omega, by omega⟩

theorem TemporalInv.step (h : TemporalInv T s) {e : SwitchEvent} (he : KeepsTarget T e)
    (hin : StaysWithin T s e) (hs' : s.step e = .ok s') : TemporalInv T s' := by
  cases e with
  | packet picture p =>
    obtain ⟨c', m, hproc, hcur, -⟩ := hin
    obtain ⟨hsl, htl⟩ := process_targets hproc
    rw [Switcher.step, if_pos h.hasTargets, hproc] at hs'
    cases hs'
    exact ⟨hsl.symm ▸ h.targetSpatial, htl.trans h.targetTemporal, hcur⟩
  | targets ls =>
    obtain ⟨sl, rfl⟩ := he
    rw [Switcher.step, EncodingContext.updateTargetLayers_natCast] at hs'
    cases hs'
    exact ⟨Int.natCast_nonneg sl, rfl, h.current⟩

end Switcher

/-- **The temporal layer and its target.** The current layer stays at most `T`, and nothing above
`T` is forwarded as new, exactly if no packet opens a layer above the target. -/
theorem stays_within_target (T : ℕ) (context : EncodingContext) (events : List SwitchEvent)
    (hspatial : 0 ≤ context.targetSpatialLayer) (htemporal : context.targetTemporalLayer = T)
    (hcurrent : context.currentTemporalLayer ≤ T)
    (hfixed : ∀ e ∈ events, Switcher.KeepsTarget T e) :
    RunMeets Switcher.step (Switcher.StaysWithin T) { context } events ↔
      RunMeets Switcher.step Switcher.OpensNothingAbove { context } events := by
  refine runMeets_congr_of_inv (J := Switcher.TemporalInv T) ?_
    (fun s e s' hJ hP hC hs' => hJ.step hP hC hs') ⟨hspatial, htemporal, hcurrent⟩ hfixed
  intro s e hJ he
  cases e with
  | packet picture p =>
    exact within_iff_not_opensAbove hJ.targetSpatial hJ.targetTemporal hJ.current
      fun hkey => (parse_isKeyFrame p.parsed hkey).1
  | targets layers => exact Iff.rfl

def switchingContext (S T : ℕ) : EncodingContext :=
  { spatialLayers := 3, temporalLayers := 3, targetSpatialLayer := S, targetTemporalLayer := T,
    currentSpatialLayer := 0, currentTemporalLayer := 0 }

theorem stays_within_target_reached : RunMeets Switcher.step (Switcher.StaysWithin 1) { context := switchingContext 0 1 }
      [.packet 0 (.ofData (layerPacket 0x80 0x05 0x30) rfl)] :=
  (stays_within_target 1 (switchingContext 0 1) _ (by decide) rfl (by decide)
    (fun e he => by
      rw [List.mem_singleton.mp he]
      trivial)).mpr
    ⟨fun h => absurd h.above (by decide), fun _ _ => trivial⟩

def switchingPoint : ParsedPayload := .ofData (layerPacket 0x80 0x05 0x50) rfl

/-- **A switching point above the target takes the current layer above it**, from 0 to 2 with the
target 1. -/
theorem opens_above_target :
    (switchingContext 0 1).currentTemporalLayer ≤ 1 ∧ (switchingContext 0 1).targetTemporalLayer = 1 ∧
    ((switchingContext 0 1).sync switchingPoint.descriptor).isOldPacket
      switchingPoint.descriptor = false ∧ switchingPoint.descriptor.temporalLayer = 2 ∧
    ∃ context' marker, process (switchingContext 0 1) switchingPoint.descriptor =
      .ok (context', some marker) ∧ context'.currentTemporalLayer = 2 :=
  ⟨by decide, rfl, by decide, rfl, _, _, rfl, rfl⟩

/-! ## Late key frames -/

namespace Switcher

variable {s s' : Switcher}

def LateKeyFrame (s : Switcher) (picture : ℕ) (d : PayloadDescriptor) : Prop :=
  Raises s.context d ∧ ∃ k ∈ s.processed, picture < k

def RaisesFresh (s : Switcher) : SwitchEvent → Prop
  | .packet picture p => s.context.HasTargets →
    ∃ context' marker, process s.context p.descriptor = .ok (context', marker) ∧
      (s.context.currentSpatialLayer < context'.currentSpatialLayer →
        p.descriptor.isKeyFrame = true ∧ ∀ k ∈ s.processed, k ≤ picture)
  | .targets _ => True

def NoLateKeyFrame (s : Switcher) : SwitchEvent → Prop
  | .packet picture p => s.context.HasTargets → ¬ LateKeyFrame s picture p.descriptor
  | .targets _ => True

structure TargetsInv (s : Switcher) : Prop where
  spatial : -1 ≤ s.context.targetSpatialLayer
  temporal : -1 ≤ s.context.targetTemporalLayer

theorem TargetsInv.step (h : TargetsInv s) {e : SwitchEvent} (hs' : s.step e = .ok s') : TargetsInv s' := by
  cases e with
  | packet picture p =>
    rw [Switcher.step] at hs'
    split at hs'
    · obtain ⟨⟨c', m⟩, hproc, hs'⟩ := bind_eq_ok.mp hs'
      obtain ⟨hsl, htl⟩ := process_targets hproc
      cases hs'
      exact ⟨hsl.symm ▸ h.spatial, htl.symm ▸ h.temporal⟩
    · cases hs'
      exact h
  | targets ls =>
    cases ls with
    | none =>
      cases hs'
      exact ⟨le_refl _, le_refl _⟩
    | some ls =>
      rw [Switcher.step, EncodingContext.updateTargetLayers_natCast] at hs'
      cases hs'
      exact ⟨(by omega : (-1 : ℤ) ≤ ls.1), (by omega : (-1 : ℤ) ≤ ls.2)⟩

theorem raisesFresh_iff (h : TargetsInv s) (picture : ℕ) (p : ParsedPayload) :
    s.RaisesFresh (.packet picture p) ↔ s.NoLateKeyFrame (.packet picture p) := by
  refine forall_congr' fun htargets => ?_
  have hsl := h.spatial
  have htl := h.temporal
  obtain ⟨hsl', htl'⟩ := htargets
  obtain ⟨c', m, hproc, hraise⟩ := process_raises_iff s.context
    (d := p.descriptor) (by omega) (by omega) (parse_isKeyFrame p.parsed)
  constructor
  · rintro ⟨c'', m', hproc', hfresh⟩ ⟨hraises, k, hk, hlt⟩
    rw [hproc] at hproc'
    cases hproc'
    exact absurd ((hfresh (hraise.mpr hraises)).2 k hk) (not_le.mpr hlt)
  · intro hnot
    refine ⟨c', m, hproc, fun hlt => ?_⟩
    have hraises := hraise.mp hlt
    refine ⟨hraises.key, fun k hk => ?_⟩
    by_contra hle
    exact hnot ⟨hraises, k, hk, not_le.mp hle⟩

end Switcher

/-- **Spatial upgrades and the age of their key frames.** They happen at fresh key frames only,
exactly if no late key frame meets a pending upgrade. -/
theorem raised_at_fresh_key_frames (context : EncodingContext) (events : List SwitchEvent)
    (hspatial : -1 ≤ context.targetSpatialLayer) (htemporal : -1 ≤ context.targetTemporalLayer) :
    RunMeets Switcher.step Switcher.RaisesFresh { context } events ↔
      RunMeets Switcher.step Switcher.NoLateKeyFrame { context } events := by
  refine runMeets_congr_of_inv (J := Switcher.TargetsInv) (P := fun _ => True) ?_
    (fun s e s' hJ _ _ hs' => hJ.step hs') ⟨hspatial, htemporal⟩ fun _ _ => trivial
  intro s e hJ _
  cases e with
  | packet picture p => exact Switcher.raisesFresh_iff hJ picture p
  | targets layers => exact Iff.rfl

def keyPicture : ParsedPayload := .ofData [0xAC, 0x80, 0x05, 0x00, 0x01] rfl

def nextPicture : ParsedPayload := .ofData (layerPacket 0x80 0x06 0x00) rfl

theorem raised_at_first_key_frame : RunMeets Switcher.step Switcher.RaisesFresh { context := switchingContext 1 0 }
      [.packet 0 keyPicture] :=
  (raised_at_fresh_key_frames (switchingContext 1 0) _ (by decide) (by decide)).mpr
    ⟨fun _ h => absurd h.2 (by simp), fun _ _ => trivial⟩

def retransmission : List SwitchEvent :=
  [.packet 0 keyPicture, .packet 1 nextPicture, .targets (some (1, 0))]

/-- **A retransmitted key frame enables a layer**: picture `5` comes again after `6`, when the
target has become 1. -/
theorem raised_by_late_key_frame : ∃ s, run Switcher.step { context := switchingContext 0 0 } retransmission = .ok s ∧
      1 ∈ s.processed ∧ keyPicture.pictureId = 5 ∧ nextPicture.pictureId = 6 ∧
      s.context.currentSpatialLayer = 0 ∧
      ∃ context' marker, process s.context keyPicture.descriptor = .ok (context', marker) ∧
        context'.currentSpatialLayer = 1 :=
  ⟨_, rfl, by decide, rfl, rfl, rfl, _, _, rfl, rfl⟩

end MediasoupWorker.RTC.Codecs.VP9
