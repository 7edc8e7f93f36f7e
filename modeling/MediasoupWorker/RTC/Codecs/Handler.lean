import MediasoupWorker.RTC.Codecs.VP8

/-!
# Codecs behind their interfaces

`src/include/RTC/Codecs/PayloadDescriptorHandler.hpp`. Consumers know the codec of their stream
only through an `EncodingContext` and a `PayloadDescriptorHandler`. A `Handler` is such a pair of
interfaces, and `VP8.handler` the one of VP8.
-/

namespace MediasoupWorker.RTC.Codecs

def noTargetTemporalLayer : Fault := .assertion "target temporal layer cannot be -1"

structure Handler where
  Context : Type
  Descriptor : Type
  currentTemporalLayer : Context → ℤ
  setTargetTemporalLayer : ℤ → Context → Context
  setCurrentTemporalLayer : ℤ → Context → Context
  syncRequired : Context → Context
  isKeyFrame : Descriptor → Bool
  temporalLayer : Descriptor → ℕ
  process : Context → Descriptor → List Byte → Except Fault (Context × Option (List Byte × Bool))
  process_fault : ∀ context descriptor payload fault,
    process context descriptor payload = .error fault → fault = noTargetTemporalLayer

theorem VP8.process_fault {c : VP8.EncodingContext} {d : VP8.PayloadDescriptor} {data : List Byte} {f : Fault}
    (h : VP8.process c d data = .error f) : f = noTargetTemporalLayer := by
  unfold VP8.process at h
  by_cases htgt : c.targetTemporalLayer ≥ 0
  · rw [decide_eq_true htgt] at h
    simp only [msAssert_true, Library.ok_bind] at h
    split_ifs at h <;> cases h
  · rw [decide_eq_false htgt] at h
    cases h
    rfl

def VP8.handler : Handler where
  Context := VP8.EncodingContext
  Descriptor := VP8.PayloadDescriptor
  currentTemporalLayer context := context.currentTemporalLayer
  setTargetTemporalLayer layer context := { context with targetTemporalLayer := layer }
  setCurrentTemporalLayer layer context := { context with currentTemporalLayer := layer }
  syncRequired context := { context with syncRequired := true }
  isKeyFrame d := d.isKeyFrame
  temporalLayer d := if d.hasTlIndex then d.tlIndex.toNat else 0
  process context d data :=
    (VP8.process context d data).map fun r => (r.1, r.2.map fun data => (data, false))
  process_fault context d data fault h := by
    cases hprocess : VP8.process context d data with
    | error fault' =>
      rw [hprocess] at h
      cases h
      exact VP8.process_fault hprocess
    | ok r =>
      rw [hprocess] at h
      cases h

end MediasoupWorker.RTC.Codecs
