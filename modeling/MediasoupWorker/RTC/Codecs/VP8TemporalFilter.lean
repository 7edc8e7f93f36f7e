import MediasoupWorker.Library.Runs
import MediasoupWorker.RTC.Codecs.VP8

/-!
# Temporal filtering of a VP8 stream

`Process` makes its layer check only for a picture ID that is not lower than the highest one so far, in the
circle of 16 bits. Picture IDs have 15 bits: after `32767` the next one is `0`, and the check is skipped
from then on (`filter_accepts_above_target_after_wrap`). Layers above the target stay out as long as their
packets do not return below the picture IDs of the others.
-/

namespace MediasoupWorker.RTC.Codecs.VP8

open Library List

structure ParsedPayload where
  data : List Byte
  descriptor : PayloadDescriptor
  parsed : parse data = some descriptor

namespace ParsedPayload

def pictureId (p : ParsedPayload) : ℕ := p.descriptor.pictureId.toNat

def tlIndex (p : ParsedPayload) : ℕ := p.descriptor.tlIndex.toNat

def ofData (data : List Byte) (h : (parse data).isSome) : ParsedPayload :=
  ⟨data, (parse data).get h, (Option.some_get h).symm⟩

theorem pictureId_lt (p : ParsedPayload) : p.pictureId < 2 ^ 15 := parse_pictureId_lt p.parsed

end ParsedPayload

structure TemporalStream (packets : List ParsedPayload) : Prop where
  hasPictureId : ∀ p ∈ packets, p.descriptor.hasPictureId = true
  hasTwoBytesPictureId : ∀ p ∈ packets, p.descriptor.hasTwoBytesPictureId = true
  hasTl0PictureIndex : ∀ p ∈ packets, p.descriptor.hasTl0PictureIndex = true
  hasTlIndex : ∀ p ∈ packets, p.descriptor.hasTlIndex = true
  inOrder : packets.IsChain fun p q =>
    (q.pictureId = p.pictureId ∧ q.tlIndex = p.tlIndex) ∨ q.pictureId = (p.pictureId + 1) % 2 ^ 15

structure NoReturnBelow (T : ℕ) (packets : List ParsedPayload) : Prop where
  first : ∀ p ∈ packets, T < p.tlIndex → ∀ first ∈ packets.head?, first.pictureId ≤ p.pictureId + 1
  earlier : packets.Pairwise fun q p =>
    q.tlIndex ≤ T → T < p.tlIndex → q.pictureId ≤ p.pictureId

structure Filter where
  context : EncodingContext
  accepted : List ParsedPayload := []

def Filter.step (f : Filter) (p : ParsedPayload) : Except Fault Filter := do
  let (context, data) ← process f.context p.descriptor p.data
  return { context, accepted := if data.isSome then f.accepted ++ [p] else f.accepted }

/-! ## The invariant -/

structure FilterInv (T : ℕ) (start : BitVec 16) (before : List ParsedPayload) (f : Filter) :
    Prop where
  target : f.context.targetTemporalLayer = T
  current : f.context.currentTemporalLayer = T
  sync : f.context.syncRequired = true ↔ before = []
  maxInput : before ≠ [] → f.context.pictureIdManager.maxInput = start - 1 ∨
    ∃ q ∈ before, q.tlIndex ≤ T ∧ f.context.pictureIdManager.maxInput = q.descriptor.pictureId
  accepted : ∀ q ∈ f.accepted, q.tlIndex ≤ T

namespace FilterInv

variable {T : ℕ} {start : BitVec 16} {pre : List ParsedPayload} {f : Filter} {p : ParsedPayload}

variable (h : FilterInv T start pre f)

include h

section

variable (hp : p.descriptor.hasPictureId = true)

include hp

section

variable (ht : p.descriptor.hasTl0PictureIndex = true)

include ht

theorem sync_context (hstart : pre = [] → p.descriptor.pictureId = start) :
    (f.context.sync p.descriptor).toEncodingContext = f.context.toEncodingContext ∧
    (f.context.sync p.descriptor).syncRequired = false ∧
    ((f.context.sync p.descriptor).pictureIdManager.maxInput = start - 1 ∨ ∃ q ∈ pre, q.tlIndex ≤ T ∧
        (f.context.sync p.descriptor).pictureIdManager.maxInput = q.descriptor.pictureId) := by
  by_cases hpre : pre = []
  · rw [EncodingContext.sync_of_required (h.sync.mpr hpre) hp ht, hstart hpre]
    exact ⟨rfl, rfl, .inl rfl⟩
  · have hno : f.context.syncRequired = false := by
      rw [Bool.eq_false_iff]
      exact fun hsync => hpre (h.sync.mp hsync)
    rw [EncodingContext.sync_of_not_required hno]
    exact ⟨rfl, hno, h.maxInput hpre⟩

section

variable (hl : p.descriptor.hasTlIndex = true)

include hl

section

variable (hstart : pre = [] → p.descriptor.pictureId = start)

include hstart

theorem step_above (habove : T < p.tlIndex) (hfirst : start.toNat ≤ p.pictureId + 1)
    (hret : ∀ q ∈ pre, q.tlIndex ≤ T → q.pictureId ≤ p.pictureId) :
    ∃ f', f.step p = .ok f' ∧ FilterInv T start (pre ++ [p]) f' := by
  obtain ⟨hctx, hsync, hmax⟩ := h.sync_context hp ht hstart
  set c := f.context.sync p.descriptor with hc
  have htgt : c.targetTemporalLayer = T :=
    (congrArg Codecs.EncodingContext.targetTemporalLayer hctx).trans h.target
  have hcur : c.currentTemporalLayer = T :=
    (congrArg Codecs.EncodingContext.currentTemporalLayer hctx).trans h.current
  have htl : (p.descriptor.tlIndex.toNat : ℤ) = p.tlIndex := rfl
  have hnotlower : isSeqLowerThan p.descriptor.pictureId c.pictureIdManager.maxInput = false := by
    rcases hmax with hm | ⟨q, hq, hqT, hm⟩
    · rw [hm]
      exact not_lower_sub_one p.pictureId_lt hfirst
    · rw [hm]
      exact not_lower_of_le p.pictureId_lt (hret q hq hqT)
  have hchecks : c.checksLayer p.descriptor = true := by
    rw [EncodingContext.checksLayer, hp, hl, ht, hnotlower]
    rfl
  have href : c.refusesLayer p.descriptor = true := by
    rw [EncodingContext.refusesLayer, htgt, htl, decide_eq_true (by omega), Bool.true_or]
  have hproc := process_eq f.context p.descriptor p.data (by rw [h.target]; omega)
  rw [← hc, hchecks, href] at hproc
  refine ⟨{ context := c.drop p.descriptor, accepted := f.accepted }, ?_, ?_⟩
  · rw [Filter.step, hproc]
    rfl
  · refine ⟨htgt, hcur, by simp [EncodingContext.drop, hsync], fun _ => ?_, h.accepted⟩
    show (c.pictureIdManager.drop p.descriptor.pictureId).maxInput = start - 1 ∨ _
    rw [EncodingContext.drop, SeqManager.drop_maxInput]
    exact hmax.imp_right fun ⟨q, hq, hqT, hm⟩ => ⟨q, mem_append_left _ hq, hqT, hm⟩

theorem step_below (hbelow : p.tlIndex ≤ T) :
    ∃ f', f.step p = .ok f' ∧ FilterInv T start (pre ++ [p]) f' := by
  obtain ⟨hctx, hsync, hmax⟩ := h.sync_context hp ht hstart
  set c := f.context.sync p.descriptor with hc
  have htgt : c.targetTemporalLayer = T :=
    (congrArg Codecs.EncodingContext.targetTemporalLayer hctx).trans h.target
  have hcur : c.currentTemporalLayer = T :=
    (congrArg Codecs.EncodingContext.currentTemporalLayer hctx).trans h.current
  have htl : (p.descriptor.tlIndex.toNat : ℤ) = p.tlIndex := rfl
  have href : c.refusesLayer p.descriptor = false := by
    rw [EncodingContext.refusesLayer, htgt, hcur, htl, decide_eq_false (by omega)]
    rfl
  have hproc := process_eq f.context p.descriptor p.data (by rw [h.target]; omega)
  rw [← hc, href, Bool.and_false] at hproc
  obtain ⟨htgt', hsync'⟩ := processInput_target_sync c p.descriptor p.data
  have hcur' := processInput_current c p.descriptor p.data hl (by omega) (by omega)
  have hmax' := processInput_maxInput c p.descriptor p.data
  set r := processInput c p.descriptor p.data with hr
  refine ⟨{ context := r.1
            accepted := if r.2.isSome then f.accepted ++ [p] else f.accepted }, ?_, ?_⟩
  · rw [Filter.step, hproc]
    rfl
  · refine ⟨htgt'.trans htgt, hcur'.trans hcur, by simp [hsync', hsync], fun _ => ?_, fun q hq => ?_⟩
    · rcases hmax' with hm | hm
      · rw [hm]
        exact hmax.imp_right fun ⟨q, hq, hqT, hm⟩ => ⟨q, mem_append_left _ hq, hqT, hm⟩
      · exact .inr ⟨p, by simp, hbelow, hm⟩
    · dsimp only at hq
      split_ifs at hq
      · rcases mem_append.mp hq with hold | hnew
        · exact h.accepted q hold
        · rw [mem_singleton.mp hnew]
          exact hbelow
      · exact h.accepted q hq

theorem step (hfirst : T < p.tlIndex → start.toNat ≤ p.pictureId + 1)
    (hret : T < p.tlIndex → ∀ q ∈ pre, q.tlIndex ≤ T → q.pictureId ≤ p.pictureId) :
    ∃ f', f.step p = .ok f' ∧ FilterInv T start (pre ++ [p]) f' := by
  rcases lt_or_ge T p.tlIndex with habove | hbelow
  · exact h.step_above hp ht hl hstart habove (hfirst habove) (hret habove)
  · exact h.step_below hp ht hl hstart hbelow

end

end

end

end

end FilterInv

theorem filterInv_init {T : ℕ} (start : BitVec 16) {c : EncodingContext} (htgt : c.targetTemporalLayer = T)
    (hcur : c.currentTemporalLayer = T) (hsync : c.syncRequired = true) :
    FilterInv T start [] { context := c } :=
  ⟨htgt, hcur, by simp [hsync], fun h => absurd rfl h, by simp⟩

/-- **The layers above the target stay out** of an in-order stream whose packets above `T` do not
return below the others. -/
theorem filter_refuses_above_target (T : ℕ) (context : EncodingContext)
    (packets : List ParsedPayload) (htarget : context.targetTemporalLayer = T)
    (hcurrent : context.currentTemporalLayer = T) (hsync : context.syncRequired = true)
    (hstream : TemporalStream packets) (hreturn : NoReturnBelow T packets) :
    ∃ f, run Filter.step { context } packets = .ok f ∧ ∀ p ∈ f.accepted, p.tlIndex ≤ T := by
  set start : BitVec 16 := (packets.head?.map fun p => p.descriptor.pictureId).getD 0 with hs
  obtain ⟨f, hf, hinv⟩ := run_ok_of_history_inv (I := FilterInv T start)
    (filterInv_init start htarget hcurrent hsync)
    (fun before p f hpre hI => by
      have hmem : p ∈ packets := hpre.subset (by simp)
      refine hI.step (hstream.hasPictureId p hmem) (hstream.hasTl0PictureIndex p hmem)
        (hstream.hasTlIndex p hmem) ?_ ?_ ?_
      · rintro rfl
        obtain ⟨rest, rfl⟩ := hpre
        rfl
      · intro habove
        have hfirst := hreturn.first p hmem habove
        cases packets with
        | nil => exact absurd hmem List.not_mem_nil
        | cons first rest => exact hfirst first rfl
      · intro habove q hq hqT
        have hpair := List.pairwise_append.mp (hreturn.earlier.sublist hpre.sublist)
        exact hpair.2.2 q hq p (by simp) hqT habove)
  exact ⟨f, hf, hinv.accepted⟩

def layerContext (T : ℕ) : EncodingContext :=
  { targetTemporalLayer := T, currentTemporalLayer := T, syncRequired := true }

def temporalPacket (high low tid : Byte) : List Byte := [0x90, 0xE0, high, low, 0x01, tid, 0x01]

def steadyStream : List ParsedPayload :=
  [.ofData (temporalPacket 0x80 0x05 0x00) rfl, .ofData (temporalPacket 0x80 0x06 0x40) rfl]

theorem filter_refuses_steadyStream : ∃ f, run Filter.step { context := layerContext 0 } steadyStream = .ok f ∧
      ∀ p ∈ f.accepted, p.tlIndex ≤ 0 :=
  filter_refuses_above_target 0 (layerContext 0) steadyStream rfl rfl rfl
    ⟨by decide, by decide, by decide, by decide, by decide⟩ ⟨by decide, by decide⟩

def wrapStream : List ParsedPayload :=
  [.ofData (temporalPacket 0xFF 0xFF 0x00) rfl, .ofData (temporalPacket 0x80 0x00 0x40) rfl]

/-- **After the wrap of the picture ID, a packet above the target layer is accepted**: `0` of layer
1 after `32767`. -/
theorem filter_accepts_above_target_after_wrap :
    TemporalStream wrapStream ∧ (run Filter.step { context := layerContext 0 } wrapStream).map
        (fun f => f.accepted.map fun p => (p.pictureId, p.tlIndex)) = .ok [(32767, 0), (0, 1)] := by
  refine ⟨⟨by decide, by decide, by decide, by decide, by decide⟩, ?_⟩
  rfl

end MediasoupWorker.RTC.Codecs.VP8
