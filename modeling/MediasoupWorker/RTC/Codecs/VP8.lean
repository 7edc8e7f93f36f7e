import MediasoupWorker.Common
import MediasoupWorker.RTC.SeqManager

/-!
# The VP8 payload descriptor and its rewriting

`src/src/RTC/Codecs/VP8.cpp` and `src/include/RTC/Codecs/PayloadDescriptorHandler.hpp`. `Process` drops the
packets above the target temporal layer, and renumbers the picture ID and TL0PICIDX of the others by two
`SeqManager`s.
-/

namespace MediasoupWorker.RTC.Codecs

open Option

open BitVec

structure EncodingContext where
  spatialLayers : ℕ := 1
  temporalLayers : ℕ := 1
  ksvc : Bool := false
  targetSpatialLayer : ℤ := -1
  targetTemporalLayer : ℤ := -1
  currentSpatialLayer : ℤ := -1
  currentTemporalLayer : ℤ := -1
  deriving DecidableEq, Repr, Inhabited

namespace VP8

structure EncodingContext extends Codecs.EncodingContext where
  pictureIdManager : SeqManager 16 := {}
  tl0PictureIndexManager : SeqManager 8 := {}
  syncRequired : Bool := false
  deriving DecidableEq, Repr, Inhabited

structure PayloadDescriptor where
  -- mandatory fields
  extended : Bool := false
  nonReference : Bool := false
  start : Bool := false
  partitionIndex : Byte := 0
  -- optional field flags
  i : Bool := false
  l : Bool := false
  t : Bool := false
  k : Bool := false
  -- optional fields
  pictureId : BitVec 16 := 0
  tl0PictureIndex : Byte := 0
  tlIndex : Byte := 0
  y : Bool := false
  keyIndex : Byte := 0
  -- parsed values
  isKeyFrame : Bool := false
  hasPictureId : Bool := false
  hasOneBytePictureId : Bool := false
  hasTwoBytesPictureId : Bool := false
  hasTl0PictureIndex : Bool := false
  hasTlIndex : Bool := false
  deriving DecidableEq, Repr, Inhabited

/-! ## Parse -/

section Parse

def parsePictureId (data : List Byte) (d : PayloadDescriptor) (offset : ℕ) :
    Option (PayloadDescriptor × ℕ) :=
  if d.i then do
    let offset := offset + 1
    let byte ← data[offset]?
    if byte.bit 7 then
      let offset := offset + 1
      let low ← data[offset]?
      return ({ d with
        hasTwoBytesPictureId := true
        pictureId := ((byte &&& 0x7F).setWidth 16 <<< 8) + low.setWidth 16
        hasPictureId := true }, offset)
    else
      return ({ d with
        hasOneBytePictureId := true
        pictureId := (byte &&& 0x7F).setWidth 16
        hasPictureId := true }, offset)
  else some (d, offset)

def parseTl0PictureIndex (data : List Byte) (d : PayloadDescriptor) (offset : ℕ) :
    Option (PayloadDescriptor × ℕ) :=
  if d.l then do
    let offset := offset + 1
    let byte ← data[offset]?
    return ({ d with hasTl0PictureIndex := true, tl0PictureIndex := byte }, offset)
  else some (d, offset)

def parseTlIndex (data : List Byte) (d : PayloadDescriptor) (offset : ℕ) :
    Option (PayloadDescriptor × ℕ) :=
  if d.t || d.k then do
    let offset := offset + 1
    let byte ← data[offset]?
    return ({ d with
      hasTlIndex := true
      tlIndex := (byte >>> 6) &&& 0x03
      y := byte.bit 5
      keyIndex := byte &&& 0x1F }, offset)
  else some (d, offset)

def parseKeyFrame (data : List Byte) (d : PayloadDescriptor) (offset : ℕ) : PayloadDescriptor :=
  match data[offset + 1]? with
  | some byte =>
    if d.start && d.partitionIndex == 0 && !byte.bit 0 then { d with isKeyFrame := true } else d
  | none => d

def parse (data : List Byte) : Option PayloadDescriptor := do
  let byte ← data[0]?
  let d : PayloadDescriptor :=
    { extended := byte.bit 7
      nonReference := byte.bit 5
      start := byte.bit 4
      partitionIndex := byte &&& 0x07 }
  if !d.extended then none
  else
    let byte ← data[1]?
    let d := { d with i := byte.bit 7, l := byte.bit 6, t := byte.bit 5, k := byte.bit 4 }
    let (d, offset) ← parsePictureId data d 1
    let (d, offset) ← parseTl0PictureIndex data d offset
    let (d, offset) ← parseTlIndex data d offset
    return parseKeyFrame data d offset

end Parse

/-! ## Process -/

def PayloadDescriptor.encode (d : PayloadDescriptor) (data : List Byte) (pictureId : BitVec 16)
    (tl0PictureIndex : Byte) : List Byte :=
  if !d.extended then data
  else
    let (data, offset) :=
      if d.i && d.hasTwoBytesPictureId then
        ((data.set 2 ((pictureId >>> 8).setWidth 8 ||| 0x80)).set 3 (pictureId.setWidth 8), 4)
      else if d.i && d.hasOneBytePictureId then (data.set 2 (pictureId.setWidth 8), 3)
      else (data, 2)
    if d.l then data.set offset tl0PictureIndex else data

def restore (d : PayloadDescriptor) (data : List Byte) : List Byte :=
  if d.hasPictureId && d.hasTl0PictureIndex then d.encode data d.pictureId d.tl0PictureIndex
  else data

namespace EncodingContext

def sync (context : EncodingContext) (d : PayloadDescriptor) : EncodingContext :=
  if context.syncRequired && d.hasPictureId && d.hasTl0PictureIndex then
    { context with
      pictureIdManager := context.pictureIdManager.sync (d.pictureId - 1)
      tl0PictureIndexManager := context.tl0PictureIndexManager.sync (d.tl0PictureIndex - 1)
      syncRequired := false }
  else context

def checksLayer (context : EncodingContext) (d : PayloadDescriptor) : Bool :=
  d.hasPictureId && d.hasTlIndex && d.hasTl0PictureIndex &&
    !isSeqLowerThan d.pictureId context.pictureIdManager.maxInput

def refusesLayer (context : EncodingContext) (d : PayloadDescriptor) : Bool :=
  decide ((d.tlIndex.toNat : ℤ) > context.targetTemporalLayer) ||
    (decide ((d.tlIndex.toNat : ℤ) > context.currentTemporalLayer) && !d.y)

def drop (context : EncodingContext) (d : PayloadDescriptor) : EncodingContext :=
  { context with
    pictureIdManager := context.pictureIdManager.drop d.pictureId
    tl0PictureIndexManager := context.tl0PictureIndexManager.drop d.tl0PictureIndex }

def updateCurrentTemporalLayer (context : EncodingContext) (d : PayloadDescriptor) :
    EncodingContext :=
  let current :=
    if d.hasTlIndex && decide ((d.tlIndex.toNat : ℤ) > context.currentTemporalLayer) then
      (d.tlIndex.toNat : ℤ)
    else if !d.hasTlIndex then 0
    else context.currentTemporalLayer
  { context with
    currentTemporalLayer :=
      if current > context.targetTemporalLayer then context.targetTemporalLayer else current }

def inputPictureId (context : EncodingContext) (d : PayloadDescriptor) :
    EncodingContext × Option (BitVec 16) :=
  if d.hasPictureId then
    let r := context.pictureIdManager.input d.pictureId
    ({ context with pictureIdManager := r.1 }, r.2)
  else (context, some d.pictureId)

def inputTl0PictureIndex (context : EncodingContext) (d : PayloadDescriptor) :
    EncodingContext × Option Byte :=
  if d.hasTl0PictureIndex then
    let r := context.tl0PictureIndexManager.input d.tl0PictureIndex
    ({ context with tl0PictureIndexManager := r.1 }, r.2)
  else (context, some d.tl0PictureIndex)

end EncodingContext

def processInput (context : EncodingContext) (d : PayloadDescriptor) (data : List Byte) :
    EncodingContext × Option (List Byte) :=
  match context.inputPictureId d with
  | (context, none) => (context, none)
  | (context, some pictureId) =>
    match context.inputTl0PictureIndex d with
    | (context, none) => (context, none)
    | (context, some tl0PictureIndex) =>
      (context.updateCurrentTemporalLayer d, some (if d.hasPictureId && d.hasTl0PictureIndex then
          d.encode data pictureId tl0PictureIndex else data))

def process (context : EncodingContext) (d : PayloadDescriptor) (data : List Byte) :
    Except Fault (EncodingContext × Option (List Byte)) := do
  msAssert (decide (context.targetTemporalLayer ≥ 0)) "target temporal layer cannot be -1"
  let context := context.sync d
  if context.checksLayer d && context.refusesLayer d then
    return (context.drop d, none)
  else
    return processInput context d data

/-! ## What `Parse` reads -/

section Parse

variable {data : List Byte} {d d' : PayloadDescriptor} {offset offset' : ℕ}

theorem toNat_and_7F (b : Byte) : (b &&& 0x7F).toNat < 128 := by
  have h : (b &&& 0x7F).toNat ≤ 0x7F := by
    rw [toNat_and]
    exact Nat.and_le_right
  omega

theorem oneBytePictureId_lt (b : Byte) : ((b &&& 0x7F).setWidth 16).toNat < 2 ^ 15 := by
  have hbyte := toNat_and_7F b
  rw [toNat_setWidth]
  omega

theorem twoBytesPictureId_lt (b low : Byte) :
    (((b &&& 0x7F).setWidth 16 <<< 8) + low.setWidth 16).toNat < 2 ^ 15 := by
  have hbyte := toNat_and_7F b
  have hlow := low.isLt
  rw [toNat_add, toNat_shiftLeft, toNat_setWidth, toNat_setWidth, Nat.shiftLeft_eq]
  omega

theorem parseTl0PictureIndex_pictureId (h : parseTl0PictureIndex data d offset = some (d', offset')) :
    d'.pictureId = d.pictureId := by
  rw [parseTl0PictureIndex] at h
  split_ifs at h
  · obtain ⟨b, -, h⟩ := bind_eq_some_iff.mp h
    cases h
    rfl
  · cases h
    rfl

theorem parseTlIndex_pictureId (h : parseTlIndex data d offset = some (d', offset')) :
    d'.pictureId = d.pictureId := by
  rw [parseTlIndex] at h
  split_ifs at h
  · obtain ⟨b, -, h⟩ := bind_eq_some_iff.mp h
    cases h
    rfl
  · cases h
    rfl

@[simp] theorem parseKeyFrame_pictureId (data : List Byte) (d : PayloadDescriptor) (offset : ℕ) :
    (parseKeyFrame data d offset).pictureId = d.pictureId := by
  rw [parseKeyFrame]
  split
  · split_ifs <;> rfl
  · rfl

/-- **A parsed picture ID has 15 bits.** -/
theorem parse_pictureId_lt (h : parse data = some d) : d.pictureId.toNat < 2 ^ 15 := by
  rw [parse] at h
  obtain ⟨b, -, h⟩ := bind_eq_some_iff.mp h
  dsimp only at h
  split_ifs at h
  obtain ⟨flags, -, h⟩ := bind_eq_some_iff.mp h
  obtain ⟨⟨d₁, o₁⟩, h₁, h⟩ := bind_eq_some_iff.mp h
  obtain ⟨⟨d₂, o₂⟩, h₂, h⟩ := bind_eq_some_iff.mp h
  obtain ⟨⟨d₃, o₃⟩, h₃, h⟩ := bind_eq_some_iff.mp h
  cases h
  rw [parseKeyFrame_pictureId, parseTlIndex_pictureId h₃, parseTl0PictureIndex_pictureId h₂]
  rw [parsePictureId] at h₁
  split_ifs at h₁
  · obtain ⟨b, -, h₁⟩ := bind_eq_some_iff.mp h₁
    split_ifs at h₁
    · obtain ⟨low, -, h₁⟩ := bind_eq_some_iff.mp h₁
      cases h₁
      exact twoBytesPictureId_lt b low
    · cases h₁
      exact oneBytePictureId_lt b
  · cases h₁
    exact (show (0 : BitVec 16).toNat < 2 ^ 15 by decide)

end Parse

/-! ## What `Process` does -/

section Process

variable {context : EncodingContext} {d : PayloadDescriptor} {data : List Byte}

theorem process_eq (context : EncodingContext) (d : PayloadDescriptor) (data : List Byte)
    (htgt : 0 ≤ context.targetTemporalLayer) : process context d data = .ok
      (if (context.sync d).checksLayer d && (context.sync d).refusesLayer d then
        ((context.sync d).drop d, none)
      else processInput (context.sync d) d data) := by
  rw [process, decide_eq_true htgt, msAssert_true]
  show (if _ then _ else _ : Except Fault _) = _
  split_ifs <;> rfl

namespace EncodingContext

theorem sync_of_required (h : context.syncRequired = true) (hp : d.hasPictureId = true)
    (ht : d.hasTl0PictureIndex = true) : context.sync d = { context with
      pictureIdManager := context.pictureIdManager.sync (d.pictureId - 1)
      tl0PictureIndexManager := context.tl0PictureIndexManager.sync (d.tl0PictureIndex - 1)
      syncRequired := false } := by
  rw [sync, h, hp, ht]
  rfl

theorem sync_of_not_required (h : context.syncRequired = false) : context.sync d = context := by
  rw [sync, h]
  rfl

variable (context d)

@[simp] theorem inputPictureId_toEncodingContext :
    (context.inputPictureId d).1.toEncodingContext = context.toEncodingContext := by
  rw [inputPictureId]
  split_ifs <;> rfl

@[simp] theorem inputPictureId_syncRequired :
    (context.inputPictureId d).1.syncRequired = context.syncRequired := by
  rw [inputPictureId]
  split_ifs <;> rfl

theorem inputPictureId_maxInput :
    (context.inputPictureId d).1.pictureIdManager.maxInput = context.pictureIdManager.maxInput ∨
      (context.inputPictureId d).1.pictureIdManager.maxInput = d.pictureId := by
  rw [inputPictureId]
  split_ifs
  · exact context.pictureIdManager.input_maxInput d.pictureId
  · exact .inl rfl

@[simp] theorem inputTl0PictureIndex_toEncodingContext :
    (context.inputTl0PictureIndex d).1.toEncodingContext = context.toEncodingContext := by
  rw [inputTl0PictureIndex]
  split_ifs <;> rfl

@[simp] theorem inputTl0PictureIndex_syncRequired :
    (context.inputTl0PictureIndex d).1.syncRequired = context.syncRequired := by
  rw [inputTl0PictureIndex]
  split_ifs <;> rfl

@[simp] theorem inputTl0PictureIndex_pictureIdManager :
    (context.inputTl0PictureIndex d).1.pictureIdManager = context.pictureIdManager := by
  rw [inputTl0PictureIndex]
  split_ifs <;> rfl

@[simp] theorem updateCurrentTemporalLayer_targetTemporalLayer :
    (context.updateCurrentTemporalLayer d).targetTemporalLayer = context.targetTemporalLayer :=
  rfl

@[simp] theorem updateCurrentTemporalLayer_syncRequired :
    (context.updateCurrentTemporalLayer d).syncRequired = context.syncRequired := rfl

@[simp] theorem updateCurrentTemporalLayer_pictureIdManager :
    (context.updateCurrentTemporalLayer d).pictureIdManager = context.pictureIdManager := rfl

variable {context d}

theorem updateCurrentTemporalLayer_of_le (ht : d.hasTlIndex = true)
    (hle : (d.tlIndex.toNat : ℤ) ≤ context.currentTemporalLayer)
    (htgt : context.currentTemporalLayer ≤ context.targetTemporalLayer) :
    (context.updateCurrentTemporalLayer d).currentTemporalLayer = context.currentTemporalLayer := by
  have hnot : ¬ (d.tlIndex.toNat : ℤ) > context.currentTemporalLayer := by omega
  simp only [updateCurrentTemporalLayer, ht, Bool.true_and, decide_eq_true_eq, if_neg hnot,
    Bool.not_true, Bool.false_eq_true, if_false]
  exact if_neg (by omega)

end EncodingContext

section

variable (context d data)

/-- **The three ways out of the second half of `Process`**: the picture ID is refused, or it is
taken and TL0PICIDX is refused, or both are taken. -/
theorem processInput_cases : let c₁ := (context.inputPictureId d).1
    let c₂ := (c₁.inputTl0PictureIndex d).1
    ((context.inputPictureId d).2 = none ∧ processInput context d data = (c₁, none)) ∨
      ((c₁.inputTl0PictureIndex d).2 = none ∧ processInput context d data = (c₂, none)) ∨
      ((c₁.inputTl0PictureIndex d).2 ≠ none ∧
        ∃ out, processInput context d data = (c₂.updateCurrentTemporalLayer d, some out)) := by
  dsimp only
  rw [processInput]
  split
  · rename_i c hc
    exact .inl (by simp [hc])
  · rename_i c pid hc
    rw [hc]
    split
    · rename_i c' hc'
      exact .inr (.inl (by simp [hc']))
    · rename_i c' tl0 hc'
      exact .inr (.inr ⟨by simp [hc'], _, by rw [hc']⟩)

theorem processInput_fst_cases : let c₁ := (context.inputPictureId d).1
    let c₂ := (c₁.inputTl0PictureIndex d).1
    (processInput context d data).1 = c₁ ∨ (processInput context d data).1 = c₂ ∨
      (processInput context d data).1 = c₂.updateCurrentTemporalLayer d := by
  rcases processInput_cases context d data with ⟨-, h⟩ | ⟨-, h⟩ | ⟨-, out, h⟩
  · exact .inl (by rw [h])
  · exact .inr (.inl (by rw [h]))
  · exact .inr (.inr (by rw [h]))

theorem processInput_target_sync :
    (processInput context d data).1.targetTemporalLayer = context.targetTemporalLayer ∧
      (processInput context d data).1.syncRequired = context.syncRequired := by
  rcases processInput_fst_cases context d data with h | h | h <;>
    rw [h] <;> simp

theorem processInput_maxInput :
    (processInput context d data).1.pictureIdManager.maxInput = context.pictureIdManager.maxInput ∨
      (processInput context d data).1.pictureIdManager.maxInput = d.pictureId := by
  have hmax := context.inputPictureId_maxInput d
  rcases processInput_fst_cases context d data with h | h | h <;>
    rw [h] <;> simpa using hmax

theorem processInput_current (ht : d.hasTlIndex = true)
    (hle : (d.tlIndex.toNat : ℤ) ≤ context.currentTemporalLayer)
    (htgt : context.currentTemporalLayer ≤ context.targetTemporalLayer) :
    (processInput context d data).1.currentTemporalLayer = context.currentTemporalLayer := by
  rcases processInput_fst_cases context d data with h | h | h
  · rw [h]
    simp
  · rw [h]
    simp
  · rw [h, EncodingContext.updateCurrentTemporalLayer_of_le ht (by simpa using hle)
      (by simpa using htgt)]
    simp

end

end Process

end VP8
end MediasoupWorker.RTC.Codecs
