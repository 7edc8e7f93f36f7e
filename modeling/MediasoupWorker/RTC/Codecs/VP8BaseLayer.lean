import MediasoupWorker.RTC.Codecs.VP8TemporalFilter
import MediasoupWorker.RTC.SeqManagerSegments

/-!
# The base layer of a filtered VP8 stream

When `Process` refuses a frame it announces both of its numbers as dropped, TL0PICIDX with them, although
the base frame of that number may still be on its way. If it is, it is refused as well
(`rejects_base_frame`). The base layer is safe where a refused packet always comes after the sync and after
a packet with its TL0PICIDX or a later one.
-/

namespace MediasoupWorker.RTC.Codecs.VP8

open Library List

/-! ## Streams of frames and their arrival -/

def ParsedPayload.layer (p : ParsedPayload) : ℕ := if p.descriptor.hasTlIndex then p.tlIndex else 0

structure Frames where
  layer : ℕ → ℕ
  pictureIdBefore : ℕ
  tl0PictureIndexBefore : ℕ

namespace Frames

variable (s : Frames)

def pictureId (n : ℕ) : ℕ := (s.pictureIdBefore + n + 1) % 2 ^ 15

def tl0PictureIndex (n : ℕ) : ℕ :=
  (s.tl0PictureIndexBefore + (List.range (n + 1)).countP fun k => s.layer k == 0) % 2 ^ 8

structure Carries (n : ℕ) (p : ParsedPayload) : Prop where
  hasPictureId : p.descriptor.hasPictureId = true
  hasTl0PictureIndex : p.descriptor.hasTl0PictureIndex = true
  hasTlIndex : p.descriptor.hasTlIndex = true
  pictureId : p.pictureId = s.pictureId n
  tl0PictureIndex : p.descriptor.tl0PictureIndex.toNat = s.tl0PictureIndex n
  layer : p.tlIndex = s.layer n

structure Arrival (arrivals : List (ℕ × ParsedPayload)) : Prop where
  carries : ∀ a ∈ arrivals, s.Carries a.1 a.2
  window : arrivals.Pairwise fun a b => a.1 < b.1 + 64

end Frames

/-! ## The condition and the property -/

def KeepsBaseLayer (f : Filter) (p : ParsedPayload) : Prop :=
  ∃ context out, process f.context p.descriptor p.data = .ok (context, out) ∧ (p.layer = 0 → out ≠ none) ∧
    (out = none → context.pictureIdManager.maxInput = f.context.pictureIdManager.maxInput ∧
      context.tl0PictureIndexManager.maxInput = f.context.tl0PictureIndexManager.maxInput)

def Refused (context : EncodingContext) (d : PayloadDescriptor) : Prop :=
  (context.sync d).checksLayer d = true ∧ (context.sync d).refusesLayer d = true

structure Orderly (f : Filter) (p : ParsedPayload) : Prop where
  synced : Refused f.context p.descriptor → f.context.syncRequired = false
  baseArrived : Refused f.context p.descriptor →
    isSeqHigherThan p.descriptor.tl0PictureIndex f.context.tl0PictureIndexManager.maxInput = false
  hasLayer : p.descriptor.hasTlIndex = true → p.layer = 0 →
    0 ≤ f.context.currentTemporalLayer ∨ p.descriptor.y = true

instance (context : EncodingContext) (d : PayloadDescriptor) : Decidable (Refused context d) :=
  inferInstanceAs (Decidable (_ ∧ _))

instance (f : Filter) (p : ParsedPayload) : Decidable (Orderly f p) :=
  decidable_of_iff
    ((Refused f.context p.descriptor → f.context.syncRequired = false) ∧
      (Refused f.context p.descriptor → isSeqHigherThan p.descriptor.tl0PictureIndex
        f.context.tl0PictureIndexManager.maxInput = false) ∧ (p.descriptor.hasTlIndex = true → p.layer = 0 →
        0 ≤ f.context.currentTemporalLayer ∨ p.descriptor.y = true))
    ⟨fun h => ⟨h.1, h.2.1, h.2.2⟩, fun h => ⟨h.synced, h.baseArrived, h.hasLayer⟩⟩

def ReusesPictureId (q p : ParsedPayload) : Prop :=
  q.layer ≠ 0 ∧ p.layer = 0 ∧ q.descriptor.pictureId = p.descriptor.pictureId

instance (q p : ParsedPayload) : Decidable (ReusesPictureId q p) :=
  inferInstanceAs (Decidable (_ ∧ _ ∧ _))

/-! ## The invariant -/

structure BaseLayerInv (before : List ParsedPayload) (f : Filter) : Prop where
  target : 0 ≤ f.context.targetTemporalLayer
  tl0 : f.context.tl0PictureIndexManager.dropped = []
  pictureId : ∀ v ∈ f.context.pictureIdManager.dropped, ∃ q ∈ before, q.layer ≠ 0 ∧ q.descriptor.pictureId = v

namespace EncodingContext

variable {context : EncodingContext} {d : PayloadDescriptor}

@[simp] theorem sync_toEncodingContext : (context.sync d).toEncodingContext = context.toEncodingContext := by
  rw [sync]
  split_ifs <;> rfl

variable {v : BitVec 16}

theorem mem_dropped_of_mem_sync (h : v ∈ (context.sync d).pictureIdManager.dropped) :
    v ∈ context.pictureIdManager.dropped := by
  rw [sync] at h
  split_ifs at h
  · cases h
  · exact h

theorem sync_tl0_dropped (h : context.tl0PictureIndexManager.dropped = []) :
    (context.sync d).tl0PictureIndexManager.dropped = [] := by
  rw [sync]
  split_ifs
  · rfl
  · exact h

theorem sync_eq_of_dropped (h : v ∈ (context.sync d).pictureIdManager.dropped) :
    context.sync d = context := by
  rw [sync] at h ⊢
  split_ifs at h ⊢
  · cases h
  · rfl

theorem inputPictureId_eq_none (h : (context.inputPictureId d).2 = none) :
    d.pictureId ∈ context.pictureIdManager.dropped ∧
      (context.inputPictureId d).1.pictureIdManager.maxInput = context.pictureIdManager.maxInput := by
  rw [inputPictureId] at h ⊢
  split_ifs at h ⊢
  refine ⟨?_, SeqManager.input_maxInput_of_refused h⟩
  by_contra hnot
  have hsome := SeqManager.input_isSome hnot
  rw [h] at hsome
  cases hsome

theorem mem_dropped_of_mem_inputPictureId (h : v ∈ (context.inputPictureId d).1.pictureIdManager.dropped) :
    v ∈ context.pictureIdManager.dropped := by
  rw [inputPictureId] at h
  split_ifs at h
  · exact SeqManager.mem_dropped_of_mem_input h
  · exact h

@[simp] theorem inputPictureId_tl0PictureIndexManager :
    (context.inputPictureId d).1.tl0PictureIndexManager = context.tl0PictureIndexManager := by
  rw [inputPictureId]
  split_ifs <;> rfl

theorem inputTl0PictureIndex_of_nil (h : context.tl0PictureIndexManager.dropped = []) :
    (context.inputTl0PictureIndex d).2 ≠ none ∧
      (context.inputTl0PictureIndex d).1.tl0PictureIndexManager.dropped = [] := by
  rw [inputTl0PictureIndex]
  split_ifs
  · rw [SeqManager.input, h]
    exact ⟨by simp, h⟩
  · exact ⟨by simp, h⟩

end EncodingContext

section ProcessInput

variable {c : EncodingContext} {d : PayloadDescriptor} {data : List Byte}

theorem processInput_rejected (hnil : c.tl0PictureIndexManager.dropped = [])
    (h : (processInput c d data).2 = none) : d.pictureId ∈ c.pictureIdManager.dropped ∧
      (processInput c d data).1.pictureIdManager.maxInput = c.pictureIdManager.maxInput ∧
      (processInput c d data).1.tl0PictureIndexManager = c.tl0PictureIndexManager := by
  rcases processInput_cases c d data with ⟨hnone, hres⟩ | ⟨hnone, -⟩ | ⟨-, out, hres⟩
  · obtain ⟨hmem, hmax⟩ := EncodingContext.inputPictureId_eq_none hnone
    rw [hres]
    exact ⟨hmem, hmax, EncodingContext.inputPictureId_tl0PictureIndexManager⟩
  · exact absurd hnone (EncodingContext.inputTl0PictureIndex_of_nil (by simpa using hnil)).1
  · rw [hres] at h
    cases h

variable (d data) in
theorem processInput_dropped (hnil : c.tl0PictureIndexManager.dropped = []) :
    (processInput c d data).1.tl0PictureIndexManager.dropped = [] ∧
      ∀ v ∈ (processInput c d data).1.pictureIdManager.dropped, v ∈ c.pictureIdManager.dropped := by
  have hnil' : (c.inputPictureId d).1.tl0PictureIndexManager.dropped = [] := by simpa using hnil
  have htaken := EncodingContext.inputTl0PictureIndex_of_nil (d := d) hnil'
  rcases processInput_fst_cases c d data with h | h | h
  · rw [h]
    exact ⟨by simpa using hnil, fun v => EncodingContext.mem_dropped_of_mem_inputPictureId⟩
  · rw [h, EncodingContext.inputTl0PictureIndex_pictureIdManager]
    exact ⟨htaken.2, fun v => EncodingContext.mem_dropped_of_mem_inputPictureId⟩
  · rw [h, EncodingContext.updateCurrentTemporalLayer_pictureIdManager,
      EncodingContext.inputTl0PictureIndex_pictureIdManager]
    exact ⟨htaken.2, fun v => EncodingContext.mem_dropped_of_mem_inputPictureId⟩

end ProcessInput

namespace BaseLayerInv

variable {pre : List ParsedPayload} {f : Filter} {p : ParsedPayload}

theorem step_refused (h : BaseLayerInv pre f) (hord : Orderly f p) (href : Refused f.context p.descriptor) :
    KeepsBaseLayer f p ∧ ∀ f', f.step p = .ok f' → BaseLayerInv (pre ++ [p]) f' := by
  have hsync : f.context.sync p.descriptor = f.context :=
    EncodingContext.sync_of_not_required (hord.synced href)
  have hproc := process_eq f.context p.descriptor p.data h.target
  rw [href.1, href.2, Bool.and_self, if_pos rfl, hsync] at hproc
  have hl : p.layer ≠ 0 := by
    intro hzero
    obtain ⟨hchecks, hrefuses⟩ := href
    simp only [EncodingContext.checksLayer, Bool.and_eq_true] at hchecks
    have htl : p.descriptor.hasTlIndex = true := hchecks.1.1.2
    have hcur := hord.hasLayer htl hzero
    have htlIndex : p.descriptor.tlIndex.toNat = 0 := by
      rwa [ParsedPayload.layer, if_pos htl] at hzero
    have htgt := h.target
    rw [hsync, EncodingContext.refusesLayer, htlIndex] at hrefuses
    simp only [Bool.or_eq_true, Bool.and_eq_true, decide_eq_true_eq, Bool.not_eq_true'] at hrefuses
    rcases hcur with hcur | hy
    · omega
    · rw [hy] at hrefuses
      simp only [Bool.true_eq_false, and_false, or_false] at hrefuses
      omega
  have htl0 : f.context.tl0PictureIndexManager.drop p.descriptor.tl0PictureIndex =
      f.context.tl0PictureIndexManager :=
    SeqManager.drop_of_not_higher (Bool.eq_false_iff.mp (hord.baseArrived href))
  constructor
  · refine ⟨_, _, hproc, fun hzero => absurd hzero hl, fun _ => ⟨?_, ?_⟩⟩
    · exact SeqManager.drop_maxInput _ _
    · exact SeqManager.drop_maxInput _ _
  · intro f' hf'
    rw [Filter.step, hproc] at hf'
    cases hf'
    refine ⟨h.target, (congrArg SeqManager.dropped htl0).trans h.tl0, fun v hv => ?_⟩
    rcases SeqManager.mem_drop_dropped hv with rfl | hold
    · exact ⟨p, by simp, hl, rfl⟩
    · obtain ⟨q, hq, hv⟩ := h.pictureId v hold
      exact ⟨q, mem_append_left _ hq, hv⟩

section

variable (h : BaseLayerInv pre f) (hreuse : ∀ q ∈ pre, ¬ ReusesPictureId q p)

include h hreuse

theorem step_passed (hpassed : ¬ Refused f.context p.descriptor) :
    KeepsBaseLayer f p ∧ ∀ f', f.step p = .ok f' → BaseLayerInv (pre ++ [p]) f' := by
  have hproc := process_eq f.context p.descriptor p.data h.target
  rw [if_neg (by simpa [Refused] using hpassed)] at hproc
  have htl0 := EncodingContext.sync_tl0_dropped (d := p.descriptor) h.tl0
  obtain ⟨htgt', -⟩ := processInput_target_sync (f.context.sync p.descriptor) p.descriptor p.data
  obtain ⟨htl0', hdrop⟩ := processInput_dropped p.descriptor p.data htl0
  constructor
  · refine ⟨_, _, hproc, fun hzero hnone => ?_, fun hnone => ?_⟩
    · obtain ⟨hmem, -⟩ := processInput_rejected htl0 hnone
      obtain ⟨q, hq, hl, hv⟩ := h.pictureId _ (EncodingContext.mem_dropped_of_mem_sync hmem)
      exact hreuse q hq ⟨hl, hzero, hv⟩
    · obtain ⟨hmem, hmax, htl0Manager⟩ := processInput_rejected htl0 hnone
      -- something is dropped, so this packet was not the one to sync to
      have hsync := EncodingContext.sync_eq_of_dropped hmem
      rw [hsync] at hmax htl0Manager ⊢
      exact ⟨hmax, congrArg SeqManager.maxInput htl0Manager⟩
  · intro f' hf'
    rw [Filter.step, hproc] at hf'
    cases hf'
    refine ⟨?_, htl0', fun v hv => ?_⟩
    · show 0 ≤ (processInput _ _ _).1.targetTemporalLayer
      rw [htgt', EncodingContext.sync_toEncodingContext]
      exact h.target
    · obtain ⟨q, hq, hv⟩ := h.pictureId v (EncodingContext.mem_dropped_of_mem_sync (hdrop v hv))
      exact ⟨q, mem_append_left _ hq, hv⟩

theorem step (hord : Orderly f p) :
    KeepsBaseLayer f p ∧ ∀ f', f.step p = .ok f' → BaseLayerInv (pre ++ [p]) f' := by
  by_cases href : Refused f.context p.descriptor
  · exact h.step_refused hord href
  · exact h.step_passed hreuse href

end

end BaseLayerInv

theorem baseLayerInv_init {context : EncodingContext} (htgt : 0 ≤ context.targetTemporalLayer)
    (hpid : context.pictureIdManager.dropped = []) (htl0 : context.tl0PictureIndexManager.dropped = []) :
    BaseLayerInv [] { context } :=
  ⟨htgt, htl0, by simp [hpid]⟩

/-- **The base layer is kept** in runs from a context without dropped numbers whose packets are
orderly, if no base packet has the picture ID of an earlier packet above the base layer. -/
theorem keeps_base_layer (context : EncodingContext) (packets : List ParsedPayload)
    (htarget : 0 ≤ context.targetTemporalLayer) (hpictureId : context.pictureIdManager.dropped = [])
    (htl0 : context.tl0PictureIndexManager.dropped = [])
    (hreuse : packets.Pairwise fun q p => ¬ ReusesPictureId q p)
    (horderly : RunMeets Filter.step Orderly { context } packets) :
    RunMeets Filter.step KeepsBaseLayer { context } packets := by
  refine horderly.imp_of_history_inv (I := BaseLayerInv)
    (baseLayerInv_init htarget hpictureId htl0) fun before p f hpre hI hp => ?_
  refine hI.step (fun q hq => ?_) hp
  have hpair := List.pairwise_append.mp (hreuse.sublist hpre.sublist)
  exact hpair.2.2 q hq p (by simp)

def framePacket (low tl0 tid : Byte) : List Byte := [0x90, 0xE0, 0x80, low, tl0, tid, 0x01]

def twoBaseFrames : Frames where
  layer n := if n = 2 then 1 else 0
  pictureIdBefore := 9
  tl0PictureIndexBefore := 4

def baseFrame₀ : ParsedPayload := .ofData (framePacket 10 5 0x00) rfl

def baseFrame₁ : ParsedPayload := .ofData (framePacket 11 6 0x00) rfl

def upperFrame₂ : ParsedPayload := .ofData (framePacket 12 6 0x40) rfl

theorem keeps_base_layer_in_order : RunMeets Filter.step KeepsBaseLayer { context := layerContext 0 }
      [baseFrame₀, baseFrame₁, upperFrame₂] :=
  keeps_base_layer (layerContext 0) _ (by decide) rfl rfl (by decide) (by decide +kernel)

def overtaken : List (ℕ × ParsedPayload) := [(0, baseFrame₀), (2, upperFrame₂), (1, baseFrame₁)]

/-- **A base frame that its upper frame overtakes is rejected.** The refused frame of layer 1 makes
TL0PICIDX `6` a dropped one. -/
theorem rejects_base_frame :
    twoBaseFrames.Arrival overtaken ∧ (overtaken.map Prod.fst).Nodup ∧
    ∃ f context, run Filter.step { context := layerContext 0 } [baseFrame₀, upperFrame₂] = .ok f ∧
      baseFrame₁.layer = 0 ∧ process f.context baseFrame₁.descriptor baseFrame₁.data = .ok (context, none) ∧
      f.context.pictureIdManager.maxInput = 10 ∧ context.pictureIdManager.maxInput = 11 := by
  refine ⟨⟨?_, by decide⟩, by decide, ?_⟩
  · intro a ha
    simp only [overtaken, List.mem_cons, List.not_mem_nil, or_false] at ha
    rcases ha with rfl | rfl | rfl
    · exact ⟨rfl, rfl, rfl, rfl, rfl, rfl⟩
    · exact ⟨rfl, rfl, rfl, rfl, rfl, rfl⟩
    · exact ⟨rfl, rfl, rfl, rfl, rfl, rfl⟩
  · exact ⟨_, _, rfl, rfl, rfl, rfl, rfl⟩

end MediasoupWorker.RTC.Codecs.VP8
