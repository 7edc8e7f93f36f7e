import MediasoupWorker.RTC.Codecs.VP8

/-!
# The VP9 payload descriptor and its layers

`src/src/RTC/Codecs/VP9.cpp`. `Process` decides which packets are forwarded, follows the switches of the
spatial and temporal layers, and asks for the marker bit at the end of the frame of the highest spatial
layer that is forwarded.
-/

namespace MediasoupWorker.RTC.Codecs.VP9

structure EncodingContext extends Codecs.EncodingContext where
  pictureIdManager : SeqManager 16 := {}
  syncRequired : Bool := false
  deriving DecidableEq, Repr, Inhabited

structure PayloadDescriptor where
  -- header
  i : Bool := false
  p : Bool := false
  l : Bool := false
  f : Bool := false
  b : Bool := false
  e : Bool := false
  v : Bool := false
  -- extension fields
  pictureId : BitVec 16 := 0
  slIndex : Byte := 0
  tlIndex : Byte := 0
  tl0PictureIndex : Byte := 0
  switchingUpPoint : Bool := false
  interLayerDependency : Bool := false
  -- parsed values
  isKeyFrame : Bool := false
  hasPictureId : Bool := false
  hasOneBytePictureId : Bool := false
  hasTwoBytesPictureId : Bool := false
  hasSlIndex : Bool := false
  hasTl0PictureIndex : Bool := false
  hasTlIndex : Bool := false
  deriving DecidableEq, Repr, Inhabited

/-! ## Parse -/

section Parse

def parsePictureId (data : List Byte) (d : PayloadDescriptor) (offset : ℕ) :
    Option (PayloadDescriptor × ℕ) :=
  if d.i then do
    let offset := offset + 1
    let byte ← data[offset]?
    if byte.bit 7 then
      let offset := offset + 1
      let low ← data[offset]?
      return ({ d with
        pictureId := ((byte &&& 0x7F).setWidth 16 <<< 8) + low.setWidth 16
        hasTwoBytesPictureId := true
        hasPictureId := true }, offset)
    else
      return ({ d with
        pictureId := (byte &&& 0x7F).setWidth 16
        hasOneBytePictureId := true
        hasPictureId := true }, offset)
  else some (d, offset)

def parseLayers (data : List Byte) (d : PayloadDescriptor) (offset : ℕ) : Option PayloadDescriptor :=
  if d.l then do
    let offset := offset + 1
    let byte ← data[offset]?
    let d := { d with
      interLayerDependency := byte.bit 0
      switchingUpPoint := byte.bit 4
      slIndex := (byte >>> 1) &&& 0x07
      tlIndex := (byte >>> 5) &&& 0x07
      hasSlIndex := true
      hasTlIndex := true }
    let offset := offset + 1
    let byte ← data[offset]?
    if !d.f then return { d with tl0PictureIndex := byte, hasTl0PictureIndex := true }
    else return d
  else some d

def parse (data : List Byte) : Option PayloadDescriptor := do
  let byte ← data[0]?
  let d : PayloadDescriptor :=
    { i := byte.bit 7
      p := byte.bit 6
      l := byte.bit 5
      f := byte.bit 4
      b := byte.bit 3
      e := byte.bit 2
      v := byte.bit 1 }
  let (d, offset) ← parsePictureId data d 0
  let d ← parseLayers data d offset
  if !d.p && d.b && d.slIndex == 0 then return { d with isKeyFrame := true } else return d

end Parse

def PayloadDescriptor.spatialLayer (d : PayloadDescriptor) : ℕ :=
  if d.hasSlIndex then d.slIndex.toNat else 0

def PayloadDescriptor.temporalLayer (d : PayloadDescriptor) : ℕ :=
  if d.hasTlIndex then d.tlIndex.toNat else 0

/-! ## Process -/

namespace EncodingContext

def announces (context : EncodingContext) (d : PayloadDescriptor) : Bool :=
  decide (d.spatialLayer < context.spatialLayers) && decide (d.temporalLayer < context.temporalLayers)

def sync (context : EncodingContext) (d : PayloadDescriptor) : EncodingContext :=
  if context.syncRequired && d.hasPictureId then
    { context with
      pictureIdManager := context.pictureIdManager.sync (d.pictureId - 1)
      syncRequired := false }
  else context

def isOldPacket (context : EncodingContext) (d : PayloadDescriptor) : Bool :=
  d.hasPictureId && isSeqLowerThan d.pictureId context.pictureIdManager.maxInput

def switchSpatialLayer (context : EncodingContext) (d : PayloadDescriptor) : ℤ × ℤ :=
  if context.targetSpatialLayer > context.currentSpatialLayer then
    if d.isKeyFrame then (context.targetSpatialLayer, 0)
    else (context.currentSpatialLayer, context.currentTemporalLayer)
  else if context.targetSpatialLayer < context.currentSpatialLayer then
    -- K-SVC waits for a key frame, and full SVC only for the end of a frame of the target layer
    if context.ksvc then
      if d.isKeyFrame then (context.targetSpatialLayer, 0)
      else (context.currentSpatialLayer, context.currentTemporalLayer)
    else if (d.spatialLayer : ℤ) = context.targetSpatialLayer ∧ d.e = true then
      (context.targetSpatialLayer, 0)
    else (context.currentSpatialLayer, context.currentTemporalLayer)
  else (context.currentSpatialLayer, context.currentTemporalLayer)

def switchTemporalLayer (context : EncodingContext) (d : PayloadDescriptor) (tmpTemporalLayer : ℤ) :
    ℤ :=
  if context.targetTemporalLayer > context.currentTemporalLayer then
    if (d.temporalLayer : ℤ) ≥ context.currentTemporalLayer + 1 ∧
        (context.currentTemporalLayer = -1 ∨ d.switchingUpPoint = true) ∧ d.b = true then
      d.temporalLayer
    else tmpTemporalLayer
  else if context.targetTemporalLayer < context.currentTemporalLayer then
    if (d.temporalLayer : ℤ) = context.targetTemporalLayer ∧ d.e = true then
      context.targetTemporalLayer
    else tmpTemporalLayer
  else tmpTemporalLayer

def inputPictureId (context : EncodingContext) (d : PayloadDescriptor) : EncodingContext :=
  if d.hasPictureId then
    { context with pictureIdManager := (context.pictureIdManager.input d.pictureId).1 }
  else context

end EncodingContext

def processLayers (context : EncodingContext) (d : PayloadDescriptor) :
    EncodingContext × Option Bool :=
  let isOldPacket := context.isOldPacket d
  let (tmpSpatialLayer, tmpTemporalLayer) := context.switchSpatialLayer d
  if (d.spatialLayer : ℤ) > tmpSpatialLayer ∧ isOldPacket = false then (context, none)
  else
    let tmpTemporalLayer :=
      if isOldPacket then tmpTemporalLayer else context.switchTemporalLayer d tmpTemporalLayer
    if (d.temporalLayer : ℤ) > tmpTemporalLayer ∧ isOldPacket = false then (context, none)
    else
      let marker := decide ((d.spatialLayer : ℤ) = tmpSpatialLayer) && d.e
      ({ context.inputPictureId d with
        currentSpatialLayer := tmpSpatialLayer
        currentTemporalLayer := tmpTemporalLayer }, some marker)

def process (context : EncodingContext) (d : PayloadDescriptor) :
    Except Fault (EncodingContext × Option Bool) := do
  msAssert (decide (context.targetSpatialLayer ≥ 0)) "target spatial layer cannot be -1"
  msAssert (decide (context.targetTemporalLayer ≥ 0)) "target temporal layer cannot be -1"
  if !context.announces d then return (context, none)
  else return processLayers (context.sync d) d

/-! ## What `Parse` reads -/

section Parse

variable {data : List Byte} {d d' : PayloadDescriptor} {offset offset' : ℕ}

theorem parseLayers_pictureId (h : parseLayers data d offset = some d') : d'.pictureId = d.pictureId := by
  rw [parseLayers] at h
  split_ifs at h
  · obtain ⟨b, -, h⟩ := Option.bind_eq_some_iff.mp h
    obtain ⟨next, -, h⟩ := Option.bind_eq_some_iff.mp h
    split_ifs at h
    · cases h
      rfl
    · cases h
      rfl
  · cases h
    rfl

/-- **A parsed picture ID has 15 bits.** -/
theorem parse_pictureId_lt (h : parse data = some d) : d.pictureId.toNat < 2 ^ 15 := by
  rw [parse] at h
  obtain ⟨b, -, h⟩ := Option.bind_eq_some_iff.mp h
  obtain ⟨⟨d₁, o₁⟩, h₁, h⟩ := Option.bind_eq_some_iff.mp h
  obtain ⟨d₂, h₂, h⟩ := Option.bind_eq_some_iff.mp h
  have hlt : d₂.pictureId.toNat < 2 ^ 15 := by
    rw [parseLayers_pictureId h₂]
    rw [parsePictureId] at h₁
    split_ifs at h₁
    · obtain ⟨b, -, h₁⟩ := Option.bind_eq_some_iff.mp h₁
      split_ifs at h₁
      · obtain ⟨low, -, h₁⟩ := Option.bind_eq_some_iff.mp h₁
        cases h₁
        exact VP8.twoBytesPictureId_lt b low
      · cases h₁
        exact VP8.oneBytePictureId_lt b
    · cases h₁
      exact (show (0 : BitVec 16).toNat < 2 ^ 15 by decide)
  split_ifs at h
  · cases h
    exact hlt
  · cases h
    exact hlt

end Parse

/-! ## What `Process` does -/

section Process

variable {context : EncodingContext} {d : PayloadDescriptor}

theorem process_eq (d : PayloadDescriptor) (hsl : 0 ≤ context.targetSpatialLayer)
    (htl : 0 ≤ context.targetTemporalLayer) : process context d =
      .ok (if context.announces d then processLayers (context.sync d) d else (context, none)) := by
  rw [process, decide_eq_true hsl, decide_eq_true htl, msAssert_true]
  cases context.announces d with
  | false => rfl
  | true => rfl

namespace EncodingContext

theorem sync_of_required (h : context.syncRequired = true) (hp : d.hasPictureId = true) :
    context.sync d = { context with
      pictureIdManager := context.pictureIdManager.sync (d.pictureId - 1)
      syncRequired := false } := by
  rw [sync, h, hp]
  rfl

theorem sync_of_not_required (h : context.syncRequired = false) : context.sync d = context := by
  rw [sync, h]
  rfl

variable (context d)

@[simp] theorem sync_toEncodingContext : (context.sync d).toEncodingContext = context.toEncodingContext := by
  rw [sync]
  split_ifs <;> rfl

@[simp] theorem inputPictureId_toEncodingContext :
    (context.inputPictureId d).toEncodingContext = context.toEncodingContext := by
  rw [inputPictureId]
  split_ifs <;> rfl

@[simp] theorem inputPictureId_syncRequired :
    (context.inputPictureId d).syncRequired = context.syncRequired := by
  rw [inputPictureId]
  split_ifs <;> rfl

theorem inputPictureId_maxInput :
    (context.inputPictureId d).pictureIdManager.maxInput = context.pictureIdManager.maxInput ∨
      (context.inputPictureId d).pictureIdManager.maxInput = d.pictureId := by
  rw [inputPictureId]
  split_ifs
  · exact context.pictureIdManager.input_maxInput d.pictureId
  · exact .inl rfl

end EncodingContext

theorem processLayers_of_reached (hsl : context.currentSpatialLayer = context.targetSpatialLayer)
    (htl : context.currentTemporalLayer = context.targetTemporalLayer) : processLayers context d =
      if ((d.spatialLayer : ℤ) > context.currentSpatialLayer ∨
          (d.temporalLayer : ℤ) > context.currentTemporalLayer) ∧ context.isOldPacket d = false then
        (context, none)
      else (context.inputPictureId d,
        some (decide ((d.spatialLayer : ℤ) = context.currentSpatialLayer) && d.e)) := by
  have hswitch : context.switchSpatialLayer d =
      (context.currentSpatialLayer, context.currentTemporalLayer) := by
    rw [EncodingContext.switchSpatialLayer, hsl, if_neg (lt_irrefl _), if_neg (lt_irrefl _)]
  have htmp : context.switchTemporalLayer d context.currentTemporalLayer = context.currentTemporalLayer := by
    rw [EncodingContext.switchTemporalLayer, htl, if_neg (lt_irrefl _), if_neg (lt_irrefl _)]
  have hsame : { context.inputPictureId d with
      currentSpatialLayer := context.currentSpatialLayer
      currentTemporalLayer := context.currentTemporalLayer } = context.inputPictureId d := by
    rw [EncodingContext.inputPictureId]
    split_ifs <;> rfl
  rw [processLayers, hswitch]
  dsimp only
  rw [htmp, ite_self, hsame]
  split_ifs with h₁ h₂ h₃ <;> first | rfl | tauto

end Process

end MediasoupWorker.RTC.Codecs.VP9
