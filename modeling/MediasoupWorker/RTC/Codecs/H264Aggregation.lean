import MediasoupWorker.RTC.Codecs.H264
import MediasoupWorker.Utils.Byte

/-!
# The NAL units of an H264 aggregation packet

`Parse` walks over the units of a STAP-A payload and looks for a sequence parameter set. It reads the type
behind every size, before it asks whether the unit has a byte at all and whether it fits into the payload.
-/

namespace MediasoupWorker.RTC.Codecs.H264

open Library

/-! ## The walk -/

def naluSize (data : List Byte) (offset : ℕ) : ℕ := (read2Bytes data offset).toNat

inductive Reaches (data : List Byte) : ℕ → ℕ → Prop where
  | here (offset : ℕ) : Reaches data offset offset
  | next {offset last : ℕ} (hsize : offset + 2 ≤ data.length)
      (hunit : offset + 2 + naluSize data offset ≤ data.length)
      (hrest : Reaches data (offset + 2 + naluSize data offset) last) : Reaches data offset last

def LooksKey (data : List Byte) (offset : ℕ) : Prop :=
  offset + 3 ≤ data.length ∧ read1Byte data (offset + 2) &&& 0x1F = 7

def KeyUnit (data : List Byte) : Prop :=
  ∃ offset, Reaches data 1 offset ∧ LooksKey data offset ∧
    1 ≤ naluSize data offset ∧ offset + 2 + naluSize data offset ≤ data.length

def ImproperUnit (data : List Byte) : Prop :=
  ∃ offset, Reaches data 1 offset ∧ LooksKey data offset ∧
    (naluSize data offset = 0 ∨ data.length < offset + 2 + naluSize data offset)

variable {data : List Byte} {offset last len : ℕ}

theorem Reaches.le (h : Reaches data offset last) : offset ≤ last := by
  induction h with
  | here offset => exact le_rfl
  | next _ _ _ ih => omega

theorem reaches_iff : Reaches data offset last ↔ last = offset ∨
    offset + 2 ≤ data.length ∧ offset + 2 + naluSize data offset ≤ data.length ∧
      Reaches data (offset + 2 + naluSize data offset) last := by
  constructor
  · intro h
    cases h with
    | here => exact .inl rfl
    | next hsize hunit hrest => exact .inr ⟨hsize, hunit, hrest⟩
  · rintro (rfl | ⟨hsize, hunit, hrest⟩)
    · exact .here last
    · exact .next hsize hunit hrest

theorem exists_looksKey_iff : (∃ last, Reaches data offset last ∧ LooksKey data last) ↔ LooksKey data offset ∨
      offset + 2 ≤ data.length ∧ offset + 2 + naluSize data offset ≤ data.length ∧
        ∃ last, Reaches data (offset + 2 + naluSize data offset) last ∧ LooksKey data last := by
  constructor
  · rintro ⟨last, hlast, hkey⟩
    rcases reaches_iff.mp hlast with rfl | ⟨hsize, hunit, hrest⟩
    · exact .inl hkey
    · exact .inr ⟨hsize, hunit, last, hrest, hkey⟩
  · rintro (hkey | ⟨hsize, hunit, last, hrest, hkey⟩)
    · exact ⟨offset, .here offset, hkey⟩
    · exact ⟨last, .next hsize hunit hrest, hkey⟩

theorem exists_looksKey_iff_units :
    (∃ offset, Reaches data 1 offset ∧ LooksKey data offset) ↔ KeyUnit data ∨ ImproperUnit data := by
  constructor
  · rintro ⟨offset, hreach, hkey⟩
    by_cases hproper : 1 ≤ naluSize data offset ∧ offset + 2 + naluSize data offset ≤ data.length
    · exact .inl ⟨offset, hreach, hkey, hproper⟩
    · exact .inr ⟨offset, hreach, hkey, by omega⟩
  · rintro (⟨offset, hreach, hkey, -⟩ | ⟨offset, hreach, hkey, -⟩)
    · exact ⟨offset, hreach, hkey⟩
    · exact ⟨offset, hreach, hkey⟩

/-! ## The loop -/

/-- **The loop over the units.** It returns, with bytes of the payload only, whether the walk comes
to a unit that looks like a sequence parameter set. -/
theorem stapA_eq (hlen : offset + len = data.length) : ∃ found, stapA data offset len = .ok found ∧
      (found = true ↔ ∃ last, Reaches data offset last ∧ LooksKey data last) := by
  induction len using Nat.strong_induction_on generalizing offset with
  | _ len ih =>
    rw [stapA, exists_looksKey_iff]
    split_ifs with hshort
    · refine ⟨false, rfl, iff_of_false Bool.false_ne_true ?_⟩
      rintro (hkey | ⟨-, hunit, last, hrest, hkey⟩)
      · have := hkey.1
        omega
      · have := hkey.1
        have := hrest.le
        omega
    · rw [get2Bytes_eq (by omega), ok_bind, get1Byte_eq (by omega), ok_bind]
      split_ifs with hkey hroom
      · exact ⟨true, rfl, iff_of_true rfl (.inl ⟨by omega, hkey⟩)⟩
      · refine ⟨false, rfl, iff_of_false Bool.false_ne_true ?_⟩
        rintro (hlooks | ⟨-, hunit, -⟩)
        · exact hkey hlooks.2
        · rw [naluSize] at hunit
          omega
      · have hrest : offset + ((read2Bytes data offset).toNat + 2) +
            (len - ((read2Bytes data offset).toNat + 2)) = data.length := by omega
        obtain ⟨found, hfound, hiff⟩ := ih _ (by omega) hrest
        refine ⟨found, hfound, hiff.trans ?_⟩
        have hnext : offset + 2 + naluSize data offset = offset + ((read2Bytes data offset).toNat + 2) := by
          rw [naluSize]
          omega
        rw [hnext]
        constructor
        · intro hrest
          exact .inr ⟨by omega, by omega, hrest⟩
        · rintro (hlooks | ⟨-, -, hrest⟩)
          · exact absurd hlooks.2 hkey
          · exact hrest

/-! ## `Parse` -/

def NotMarkedKey (frameMarking : Option (FrameMarking × ℕ)) : Prop :=
  ∀ marking ∈ frameMarking, (marking.1.start && marking.1.independent) = false

instance (frameMarking : Option (FrameMarking × ℕ)) : Decidable (NotMarkedKey frameMarking) :=
  inferInstanceAs (Decidable (∀ _ ∈ _, _))

def reportsKeyFrame (descriptor : Option PayloadDescriptor) : Bool :=
  descriptor.any fun d => d.isKeyFrame

theorem payloadKeyFrame_stapA {header : Byte} {units : List Byte} (hhdr : header &&& 0x1F = 24) :
    payloadKeyFrame (header :: units) = stapA (header :: units) 1 units.length := by
  have hseven : ¬ header &&& 0x1F = 7 := by
    rw [hhdr]
    decide
  show (if header &&& 0x1F = 7 then _ else _) = _
  rw [if_neg hseven, if_pos hhdr]
  rfl

theorem parse_stapA {header : Byte} (units : List Byte) {fm : Option (FrameMarking × ℕ)}
    (hhdr : header &&& 0x1F = 24) (hmarking : NotMarkedKey fm) :
    ∃ desc, parse (header :: units) fm = .ok desc ∧ (reportsKeyFrame desc = true ↔
        KeyUnit (header :: units) ∨ ImproperUnit (header :: units)) := by
  rw [← exists_looksKey_iff_units, parse.eq_def]
  dsimp only
  split_ifs with hshort hmark
  · refine ⟨none, rfl, iff_of_false Bool.false_ne_true ?_⟩
    rintro ⟨offset, hreach, hkey⟩
    have := hreach.le
    have := hkey.1
    omega
  · exfalso
    cases fm with
    | none => cases hmark
    | some marking =>
      have hnot := hmarking marking rfl
      exact Bool.false_ne_true (hnot.symm.trans hmark)
  · have hlen : 1 + units.length = (header :: units).length := add_comm _ _
    obtain ⟨found, hfound, hiff⟩ := stapA_eq hlen
    rw [payloadKeyFrame_stapA hhdr, hfound]
    exact ⟨_, rfl, hiff⟩

/-- **The scan of an aggregation packet** stays in the payload, and reports a key frame exactly for
payloads with a sequence parameter set if and only if no empty or truncated unit looks like one, or
there is a proper one as well. -/
theorem aggregation_exact_iff (header : Byte) (units : List Byte)
    (frameMarking : Option (FrameMarking × ℕ)) (hheader : header &&& 0x1F = 24)
    (hmarking : NotMarkedKey frameMarking) :
    ∃ descriptor, parse (header :: units) frameMarking = .ok descriptor ∧
      ((reportsKeyFrame descriptor = true ↔ KeyUnit (header :: units)) ↔
        (ImproperUnit (header :: units) → KeyUnit (header :: units))) := by
  obtain ⟨descriptor, hparse, hreports⟩ := parse_stapA units hheader hmarking
  refine ⟨descriptor, hparse, ?_⟩
  rw [hreports, or_iff_left_iff_imp]

def parameterSet : List Byte := [0x00, 0x01, 0x67]

theorem not_improperUnit_parameterSet : ¬ ImproperUnit (0x18 :: parameterSet) := by
  rintro ⟨offset, hreach, hkey, himproper⟩
  have hle := hreach.le
  have hlast := hkey.1
  obtain rfl : offset = 1 := by
    have : (0x18 :: parameterSet).length = 4 := rfl
    omega
  revert himproper
  decide

theorem aggregation_exact_parameterSet :
    ∃ descriptor, parse (0x18 :: parameterSet) none = .ok descriptor ∧
      (reportsKeyFrame descriptor = true ↔ KeyUnit (0x18 :: parameterSet)) := by
  obtain ⟨descriptor, hparse, hiff⟩ := aggregation_exact_iff 0x18 parameterSet none rfl (by decide)
  exact ⟨descriptor, hparse, hiff.mpr fun h => absurd h not_improperUnit_parameterSet⟩

/-- **Empty and truncated units are reported**: a unit of size 0 before a byte 7, and a unit of type
7 and size 5 with one byte. -/
theorem reports_improper_unit : (parse [0x18, 0x00, 0x00, 0x07] none = .ok (some { isKeyFrame := true }) ∧
      ¬ KeyUnit [0x18, 0x00, 0x00, 0x07]) ∧
    (parse [0x18, 0x00, 0x05, 0x67] none = .ok (some { isKeyFrame := true }) ∧
      ¬ KeyUnit [0x18, 0x00, 0x05, 0x67]) := by
  have hone : ∀ a b c d : Byte, ∀ offset, Reaches [a, b, c, d] 1 offset →
      LooksKey [a, b, c, d] offset → offset = 1 := by
    intro a b c d offset hreach hkey
    have hle := hreach.le
    have hlast : offset + 3 ≤ 4 := hkey.1
    omega
  refine ⟨⟨?_, ?_⟩, ?_, ?_⟩
  · rw [parse, payloadKeyFrame_stapA rfl, stapA]
    rfl
  · rintro ⟨offset, hreach, hkey, hsize, -⟩
    rw [hone _ _ _ _ offset hreach hkey] at hsize
    revert hsize
    decide
  · rw [parse, payloadKeyFrame_stapA rfl, stapA]
    rfl
  · rintro ⟨offset, hreach, hkey, -, hfits⟩
    rw [hone _ _ _ _ offset hreach hkey] at hfits
    revert hfits
    decide

end MediasoupWorker.RTC.Codecs.H264
