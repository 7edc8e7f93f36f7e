import MediasoupWorker.Library.Runs
import MediasoupWorker.RTC.Codecs.VP9

/-!
# Layer filtering of a VP9 stream

As for VP8, `Process` lets old packets pass without its layer checks, and after the wrap from `32767` to `0`
every packet looks old (`filter_accepts_above_layers_after_wrap`).
-/

namespace MediasoupWorker.RTC.Codecs.VP9

open Library List

structure ParsedPayload where
  data : List Byte
  descriptor : PayloadDescriptor
  parsed : parse data = some descriptor

namespace ParsedPayload

def pictureId (p : ParsedPayload) : ℕ := p.descriptor.pictureId.toNat

def Above (S T : ℕ) (p : ParsedPayload) : Prop :=
  S < p.descriptor.spatialLayer ∨ T < p.descriptor.temporalLayer

instance (S T : ℕ) (p : ParsedPayload) : Decidable (p.Above S T) :=
  inferInstanceAs (Decidable (_ ∨ _))

def ofData (data : List Byte) (h : (parse data).isSome) : ParsedPayload :=
  ⟨data, (parse data).get h, (Option.some_get h).symm⟩

theorem pictureId_lt (p : ParsedPayload) : p.pictureId < 2 ^ 15 := parse_pictureId_lt p.parsed

end ParsedPayload

structure LayeredStream (packets : List ParsedPayload) : Prop where
  hasPictureId : ∀ p ∈ packets, p.descriptor.hasPictureId = true
  hasTwoBytesPictureId : ∀ p ∈ packets, p.descriptor.hasTwoBytesPictureId = true
  hasSlIndex : ∀ p ∈ packets, p.descriptor.hasSlIndex = true
  hasTlIndex : ∀ p ∈ packets, p.descriptor.hasTlIndex = true
  inOrder : packets.IsChain fun p q =>
    (q.pictureId = p.pictureId ∧ q.descriptor.temporalLayer = p.descriptor.temporalLayer ∧
      p.descriptor.spatialLayer ≤ q.descriptor.spatialLayer) ∨ q.pictureId = (p.pictureId + 1) % 2 ^ 15

structure NoReturnBelow (S T : ℕ) (packets : List ParsedPayload) : Prop where
  first : ∀ p ∈ packets, p.Above S T → ∀ first ∈ packets.head?, first.pictureId ≤ p.pictureId + 1
  earlier : packets.Pairwise fun q p => ¬ q.Above S T → p.Above S T → q.pictureId ≤ p.pictureId

structure Filter where
  context : EncodingContext
  accepted : List ParsedPayload := []

def Filter.step (f : Filter) (p : ParsedPayload) : Except Fault Filter := do
  let (context, marker) ← process f.context p.descriptor
  return { context, accepted := if marker.isSome then f.accepted ++ [p] else f.accepted }

/-! ## The announced layers -/

structure Reached (S T : ℕ) (context : EncodingContext) : Prop where
  targetSpatial : context.targetSpatialLayer = S
  targetTemporal : context.targetTemporalLayer = T
  currentSpatial : context.currentSpatialLayer = S
  currentTemporal : context.currentTemporalLayer = T

variable {S T : ℕ} {c c' : EncodingContext}

theorem Reached.congr (h : Reached S T c) (hsame : c'.toEncodingContext = c.toEncodingContext) :
    Reached S T c' := by
  refine ⟨?_, ?_, ?_, ?_⟩
  · rw [hsame]
    exact h.targetSpatial
  · rw [hsame]
    exact h.targetTemporal
  · rw [hsame]
    exact h.currentSpatial
  · rw [hsame]
    exact h.currentTemporal

theorem Reached.process_eq (h : Reached S T c) (d : PayloadDescriptor) :
    process c d = .ok (if c.announces d then processLayers (c.sync d) d else (c, none)) := by
  refine VP9.process_eq d ?_ ?_
  · rw [h.targetSpatial]
    exact Int.natCast_nonneg S
  · rw [h.targetTemporal]
    exact Int.natCast_nonneg T

theorem announces_congr (hsame : c'.toEncodingContext = c.toEncodingContext) :
    c'.announces = c.announces := by
  funext d
  rw [EncodingContext.announces, EncodingContext.announces, hsame]

theorem Filter.step_unannounced {f : Filter} {p : ParsedPayload} (h : Reached S T f.context)
    (hp : f.context.announces p.descriptor = false) : f.step p = .ok f := by
  rw [Filter.step, h.process_eq, hp]
  rfl

/-! ## The invariant -/

structure FilterInv (S T : ℕ) (announced : Codecs.EncodingContext) (start : BitVec 16)
    (before : List ParsedPayload) (f : Filter) : Prop where
  context : f.context.toEncodingContext = announced
  reached : Reached S T f.context
  sync : f.context.syncRequired = true ↔ before = []
  maxInput : before ≠ [] → f.context.pictureIdManager.maxInput = start - 1 ∨
    ∃ q ∈ before, ¬ q.Above S T ∧ f.context.pictureIdManager.maxInput = q.descriptor.pictureId
  accepted : ∀ q ∈ f.accepted, ¬ q.Above S T

namespace FilterInv

variable {S T : ℕ} {announced : Codecs.EncodingContext} {start : BitVec 16}
  {pre : List ParsedPayload} {f : Filter} {p : ParsedPayload}

variable (h : FilterInv S T announced start pre f)

include h

theorem sync_context (hp : p.descriptor.hasPictureId = true)
    (hstart : pre = [] → p.descriptor.pictureId = start) :
    (f.context.sync p.descriptor).syncRequired = false ∧
    ((f.context.sync p.descriptor).pictureIdManager.maxInput = start - 1 ∨ ∃ q ∈ pre, ¬ q.Above S T ∧
        (f.context.sync p.descriptor).pictureIdManager.maxInput = q.descriptor.pictureId) := by
  by_cases hpre : pre = []
  · rw [EncodingContext.sync_of_required (h.sync.mpr hpre) hp, hstart hpre]
    exact ⟨rfl, .inl rfl⟩
  · have hno : f.context.syncRequired = false := by
      rw [Bool.eq_false_iff]
      exact fun hsync => hpre (h.sync.mp hsync)
    rw [EncodingContext.sync_of_not_required hno]
    exact ⟨hno, h.maxInput hpre⟩

theorem step (hann : f.context.announces p.descriptor = true) (hp : p.descriptor.hasPictureId = true)
    (hstart : pre = [] → p.descriptor.pictureId = start)
    (hfirst : p.Above S T → start.toNat ≤ p.pictureId + 1)
    (hret : p.Above S T → ∀ q ∈ pre, ¬ q.Above S T → q.pictureId ≤ p.pictureId) :
    ∃ f', f.step p = .ok f' ∧ FilterInv S T announced start (pre ++ [p]) f' := by
  obtain ⟨hsync, hmax⟩ := h.sync_context hp hstart
  have hsame := f.context.sync_toEncodingContext p.descriptor
  set c := f.context.sync p.descriptor with hc
  have hreach : Reached S T c := h.reached.congr hsame
  have hmax' : c.pictureIdManager.maxInput = start - 1 ∨
      ∃ q ∈ pre ++ [p], ¬ q.Above S T ∧ c.pictureIdManager.maxInput = q.descriptor.pictureId :=
    hmax.imp_right fun ⟨q, hq, hqbelow, hm⟩ => ⟨q, mem_append_left _ hq, hqbelow, hm⟩
  have hls := processLayers_of_reached (d := p.descriptor)
    (hreach.currentSpatial.trans hreach.targetSpatial.symm)
    (hreach.currentTemporal.trans hreach.targetTemporal.symm)
  have habove_iff : ((p.descriptor.spatialLayer : ℤ) > c.currentSpatialLayer ∨
      (p.descriptor.temporalLayer : ℤ) > c.currentTemporalLayer) ↔ p.Above S T := by
    rw [hreach.currentSpatial, hreach.currentTemporal]
    exact or_congr Int.ofNat_lt Int.ofNat_lt
  have hproc := h.reached.process_eq p.descriptor
  rw [hann, if_pos rfl, ← hc, hls] at hproc
  by_cases habove : p.Above S T
  · -- nothing makes the packet look old, so it is refused
    have hold : c.isOldPacket p.descriptor = false := by
      rw [EncodingContext.isOldPacket, hp, Bool.true_and]
      rcases hmax with hm | ⟨q, hq, hqbelow, hm⟩
      · rw [hm]
        exact not_lower_sub_one p.pictureId_lt (hfirst habove)
      · rw [hm]
        exact not_lower_of_le p.pictureId_lt (hret habove q hq hqbelow)
    rw [if_pos ⟨habove_iff.mpr habove, hold⟩] at hproc
    refine ⟨{ context := c, accepted := f.accepted }, ?_, ?_⟩
    · rw [Filter.step, hproc]
      rfl
    · exact ⟨hsame.trans h.context, hreach, by simp [hsync], fun _ => hmax', h.accepted⟩
  · -- the packet is accepted, and its picture ID may become the highest one
    rw [if_neg fun href => habove (habove_iff.mp href.1)] at hproc
    have hin := c.inputPictureId_toEncodingContext p.descriptor
    refine ⟨{ context := c.inputPictureId p.descriptor, accepted := f.accepted ++ [p] }, ?_, ?_⟩
    · rw [Filter.step, hproc]
      rfl
    · refine ⟨hin.trans (hsame.trans h.context), hreach.congr hin, by simp [hsync],
        fun _ => ?_, fun q hq => ?_⟩
      · rcases c.inputPictureId_maxInput p.descriptor with hm | hm
        · rw [hm]
          exact hmax'
        · exact .inr ⟨p, by simp, habove, hm⟩
      · rcases mem_append.mp hq with hold | hnew
        · exact h.accepted q hold
        · rw [mem_singleton.mp hnew]
          exact habove

end FilterInv

theorem filterInv_init (start : BitVec 16) {ctx : EncodingContext} (hreach : Reached S T ctx)
    (hsync : ctx.syncRequired = true) : FilterInv S T ctx.toEncodingContext start [] { context := ctx } :=
  ⟨rfl, hreach, by simp [hsync], fun h => absurd rfl h, by simp⟩

def startOf (packets : List ParsedPayload) : BitVec 16 :=
  (packets.head?.map fun p => p.descriptor.pictureId).getD 0

theorem startOf_of_first {packets : List ParsedPayload} {p : ParsedPayload} (h : [p] <+: packets) :
    p.descriptor.pictureId = startOf packets := by
  obtain ⟨rest, rfl⟩ := h
  rfl

namespace NoReturnBelow

variable {S T : ℕ} {ps pre : List ParsedPayload} {p : ParsedPayload}

theorem startOf_le (h : NoReturnBelow S T ps) (hp : p ∈ ps) (habove : p.Above S T) :
    (startOf ps).toNat ≤ p.pictureId + 1 := by
  cases ps with
  | nil => exact absurd hp not_mem_nil
  | cons first rest => exact h.first p hp habove first rfl

theorem le_of_earlier (h : NoReturnBelow S T ps) (hpre : pre ++ [p] <+: ps) (habove : p.Above S T) :
    ∀ q ∈ pre, ¬ q.Above S T → q.pictureId ≤ p.pictureId := by
  intro q hq hqbelow
  have hpair := pairwise_append.mp (h.earlier.sublist hpre.sublist)
  exact hpair.2.2 q hq p (mem_singleton_self p) hqbelow habove

end NoReturnBelow

/-- **The layers above the targets stay out** of an in-order stream whose packets above them do not
return below the others, and the current layers stay what they are. -/
theorem filter_refuses_above_layers (S T : ℕ) (context : EncodingContext)
    (packets : List ParsedPayload) (hreached : Reached S T context)
    (hsync : context.syncRequired = true) (hstream : LayeredStream packets)
    (hreturn : NoReturnBelow S T (packets.filter fun p => context.announces p.descriptor)) :
    ∃ f, run Filter.step { context } packets = .ok f ∧ Reached S T f.context ∧
      ∀ p ∈ f.accepted, p.descriptor.spatialLayer ≤ S ∧ p.descriptor.temporalLayer ≤ T := by
  set announced := fun p : ParsedPayload => context.announces p.descriptor with ha
  set start := startOf (packets.filter announced) with hs
  obtain ⟨f, hf, hinv⟩ := run_ok_of_history_inv
    (I := fun before => FilterInv S T context.toEncodingContext start (before.filter announced))
    (filterInv_init start hreached hsync)
    (fun before p f hpre hI => by
      have hmem : p ∈ packets := hpre.subset (by simp)
      have hsame : f.context.announces p.descriptor = announced p := by
        rw [announces_congr hI.context]
      have hfilter := List.IsPrefix.filter announced hpre
      rw [List.filter_append] at hfilter ⊢
      cases hp : announced p with
      | false =>
        rw [List.filter_singleton, hp, cond_false, List.append_nil]
        exact ⟨f, Filter.step_unannounced hI.reached (hsame.trans hp), hI⟩
      | true =>
        rw [List.filter_singleton, hp, cond_true] at hfilter ⊢
        refine hI.step (hsame.trans hp) (hstream.hasPictureId p hmem) ?_ ?_ ?_
        · intro hbefore
          rw [hbefore] at hfilter
          exact startOf_of_first hfilter
        · exact hreturn.startOf_le (hfilter.subset (by simp))
        · exact hreturn.le_of_earlier hfilter)
  refine ⟨f, hf, hinv.reached, fun p hp => ?_⟩
  have hbelow := hinv.accepted p hp
  rw [ParsedPayload.Above, not_or, Nat.not_lt, Nat.not_lt] at hbelow
  exact hbelow

def layerContext (S T : ℕ) : EncodingContext :=
  { spatialLayers := 3, temporalLayers := 3, targetSpatialLayer := S, targetTemporalLayer := T,
    currentSpatialLayer := S, currentTemporalLayer := T, syncRequired := true }

def layerPacket (high low layers : Byte) : List Byte := [0xEC, high, low, layers, 0x01]

def steadyStream : List ParsedPayload :=
  [.ofData (layerPacket 0x80 0x05 0x00) rfl, .ofData (layerPacket 0x80 0x05 0x02) rfl,
    .ofData (layerPacket 0x80 0x06 0x20) rfl]

theorem filter_refuses_steadyLayers : ∃ f, run Filter.step { context := layerContext 0 0 } steadyStream = .ok f ∧
      Reached 0 0 f.context ∧
      ∀ p ∈ f.accepted, p.descriptor.spatialLayer ≤ 0 ∧ p.descriptor.temporalLayer ≤ 0 :=
  filter_refuses_above_layers 0 0 (layerContext 0 0) steadyStream ⟨rfl, rfl, rfl, rfl⟩ rfl
    ⟨by decide, by decide, by decide, by decide, by decide⟩ ⟨by decide, by decide⟩

def wrapStream : List ParsedPayload :=
  [.ofData (layerPacket 0xFF 0xFF 0x00) rfl, .ofData (layerPacket 0x80 0x00 0x20) rfl,
    .ofData (layerPacket 0x80 0x00 0x22) rfl]

/-- **After the wrap of the picture ID, packets above the target layers are accepted**, in both
dimensions. -/
theorem filter_accepts_above_layers_after_wrap :
    LayeredStream wrapStream ∧ Reached 0 0 (layerContext 0 0) ∧
    (run Filter.step { context := layerContext 0 0 } wrapStream).map
        (fun f => f.accepted.map fun p =>
          (p.pictureId, p.descriptor.spatialLayer, p.descriptor.temporalLayer)) =
      .ok [(32767, 0, 0), (0, 0, 1), (0, 1, 1)] := by
  refine ⟨⟨by decide, by decide, by decide, by decide, by decide⟩, ⟨rfl, rfl, rfl, rfl⟩, ?_⟩
  rfl

end MediasoupWorker.RTC.Codecs.VP9
