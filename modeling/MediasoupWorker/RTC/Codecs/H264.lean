import MediasoupWorker.RTC.Codecs.Handler

/-!
# H264 payloads and their temporal layers

`src/src/RTC/Codecs/H264.cpp`. `Parse` reads the temporal layer from the frame-marking extension of the
packet, if there is one, and looks into the payload for the parameter sets of a key frame. `Process`
filters the temporal layers and rewrites nothing.
-/

namespace MediasoupWorker.RTC

structure FrameMarking where
  start : Bool := false
  end_ : Bool := false
  independent : Bool := false
  discardable : Bool := false
  base : Bool := false
  tid : BitVec 3 := 0
  lid : Byte := 0
  tl0picidx : Byte := 0
  deriving DecidableEq, Repr, Inhabited

namespace Codecs
namespace H264

abbrev EncodingContext := Codecs.EncodingContext

structure PayloadDescriptor where
  s : Bool := false
  e : Bool := false
  i : Bool := false
  d : Bool := false
  b : Bool := false
  tid : Byte := 0
  lid : Byte := 0
  tl0picidx : Byte := 0
  hasLid : Bool := false
  hasTid : Bool := false
  hasTl0picidx : Bool := false
  isKeyFrame : Bool := false
  deriving DecidableEq, Repr, Inhabited

/-! ## Parse -/

def parseFrameMarking (frameMarking : FrameMarking) (frameMarkingLen : ℕ) : PayloadDescriptor where
  s := frameMarking.start
  e := frameMarking.end_
  i := frameMarking.independent
  d := frameMarking.discardable
  b := frameMarking.base
  tid := frameMarking.tid.setWidth 8
  hasTid := true
  hasLid := decide (2 ≤ frameMarkingLen)
  lid := if 2 ≤ frameMarkingLen then frameMarking.lid else 0
  hasTl0picidx := decide (frameMarkingLen = 3)
  tl0picidx := if frameMarkingLen = 3 then frameMarking.tl0picidx else 0
  isKeyFrame := frameMarking.start && frameMarking.independent

def stapA (data : List Byte) (offset len : ℕ) : Except Fault Bool :=
  if h : len < 3 then .ok false
  else do
    let naluSize ← get2Bytes data offset
    let byte ← get1Byte data (offset + 2)
    if byte &&& 0x1F = 7 then return true
    else if len < naluSize.toNat + 2 then return false
    else stapA data (offset + (naluSize.toNat + 2)) (len - (naluSize.toNat + 2))
termination_by len

def payloadKeyFrame (data : List Byte) : Except Fault Bool := do
  let nal := (← get1Byte data 0) &&& 0x1F
  if nal = 7 then return true
  else if nal = 24 then stapA data 1 (data.length - 1)
  else if nal = 28 ∨ nal = 29 then
    let byte ← get1Byte data 1
    return byte &&& 0x1F == 7 && byte &&& 0x80 == 128
  else return false

def parse (data : List Byte) (frameMarking : Option (FrameMarking × ℕ)) :
    Except Fault (Option PayloadDescriptor) :=
  if data.length < 2 then .ok none
  else
    let d : PayloadDescriptor :=
      match frameMarking with
      | some (frameMarking, len) => parseFrameMarking frameMarking len
      | none => {}
    -- some encoders do not mark their key frames
    if d.isKeyFrame then .ok (some d)
    else do
      let isKeyFrame ← payloadKeyFrame data
      return some { d with isKeyFrame }

/-! ## Process -/

def updateCurrentTemporalLayer (context : EncodingContext) (d : PayloadDescriptor) :
    EncodingContext :=
  let current :=
    if d.hasTid && decide ((d.tid.toNat : ℤ) > context.currentTemporalLayer) then (d.tid.toNat : ℤ)
    else if !d.hasTid then 0
    else context.currentTemporalLayer
  { context with
    currentTemporalLayer :=
      if current > context.targetTemporalLayer then context.targetTemporalLayer else current }

def refusesLayer (context : EncodingContext) (d : PayloadDescriptor) : Bool :=
  d.hasTid && (decide ((d.tid.toNat : ℤ) > context.targetTemporalLayer) ||
    (decide ((d.tid.toNat : ℤ) > context.currentTemporalLayer) && !d.b))

def process (context : EncodingContext) (d : PayloadDescriptor) :
    Except Fault (EncodingContext × Bool) := do
  msAssert (decide (context.targetTemporalLayer ≥ 0)) "target temporal layer cannot be -1"
  if refusesLayer context d then return (context, false)
  else return (updateCurrentTemporalLayer context d, true)

theorem process_fault {c : EncodingContext} {d : PayloadDescriptor} {f : Fault} (h : process c d = .error f) :
    f = noTargetTemporalLayer := by
  rw [process] at h
  by_cases htgt : c.targetTemporalLayer ≥ 0
  · rw [decide_eq_true htgt, msAssert_true, Library.ok_bind] at h
    split_ifs at h <;> cases h
  · rw [decide_eq_false htgt] at h
    cases h
    rfl

def handler : Handler where
  Context := EncodingContext
  Descriptor := PayloadDescriptor
  currentTemporalLayer context := context.currentTemporalLayer
  setTargetTemporalLayer layer context := { context with targetTemporalLayer := layer }
  setCurrentTemporalLayer layer context := { context with currentTemporalLayer := layer }
  syncRequired context := context
  isKeyFrame d := d.isKeyFrame
  temporalLayer d := d.tid.toNat
  process context d data :=
    (process context d).map fun r => (r.1, if r.2 then some (data, false) else none)
  process_fault context d data fault h := by
    cases hprocess : process context d with
    | error fault' =>
      rw [hprocess] at h
      cases h
      exact process_fault hprocess
    | ok r =>
      rw [hprocess] at h
      cases h

end H264
end Codecs
end MediasoupWorker.RTC
