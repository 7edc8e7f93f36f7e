import MediasoupWorker.Common
import Mathlib.Data.List.GetD
import Mathlib.Tactic.IntervalCases

/-!
# `Utils::Byte`: words in network byte order

`src/include/Utils.hpp`. The setters write a word byte by byte, the highest one first; they are
modelled by the bytes that they write. The getters of `Common` fail outside of the buffer; those
here are for code that has compared lengths before.
-/

namespace MediasoupWorker

open Library List

def set2Bytes (value : BitVec 16) : List Byte := [value.extractLsb' 8 8, value.extractLsb' 0 8]

def set3Bytes (value : BitVec 24) : List Byte :=
  [value.extractLsb' 16 8, value.extractLsb' 8 8, value.extractLsb' 0 8]

def set4Bytes (value : BitVec 32) : List Byte :=
  [value.extractLsb' 24 8, value.extractLsb' 16 8, value.extractLsb' 8 8, value.extractLsb' 0 8]

def set8Bytes (value : BitVec 64) : List Byte :=
  [value.extractLsb' 56 8, value.extractLsb' 48 8, value.extractLsb' 40 8, value.extractLsb' 32 8,
    value.extractLsb' 24 8, value.extractLsb' 16 8, value.extractLsb' 8 8, value.extractLsb' 0 8]

@[simp] theorem length_set2Bytes (v : BitVec 16) : (set2Bytes v).length = 2 := rfl

@[simp] theorem length_set4Bytes (v : BitVec 32) : (set4Bytes v).length = 4 := rfl

@[simp] theorem length_set8Bytes (v : BitVec 64) : (set8Bytes v).length = 8 := rfl

theorem drop_set4Bytes (v : BitVec 32) (rest : List Byte) : (set4Bytes v ++ rest).drop 4 = rest := rfl

def read1Byte (data : List Byte) (i : ℕ) : Byte := data.getD i 0

def read2Bytes (data : List Byte) (i : ℕ) : BitVec 16 := read1Byte data i ++ read1Byte data (i + 1)

def read3Bytes (data : List Byte) (i : ℕ) : BitVec 24 := read2Bytes data i ++ read1Byte data (i + 2)

def read4Bytes (data : List Byte) (i : ℕ) : BitVec 32 := read2Bytes data i ++ read2Bytes data (i + 2)

def read8Bytes (data : List Byte) (i : ℕ) : BitVec 64 := read4Bytes data i ++ read4Bytes data (i + 4)

def get4Bytes (data : List Byte) (i : ℕ) : Except Fault (BitVec 32) := do
  let high ← get2Bytes data i
  let low ← get2Bytes data (i + 2)
  return high ++ low

def get8Bytes (data : List Byte) (i : ℕ) : Except Fault (BitVec 64) := do
  let high ← get4Bytes data i
  let low ← get4Bytes data (i + 4)
  return high ++ low

def getBytes (data : List Byte) (i n : ℕ) : Except Fault (List Byte) :=
  if i + n ≤ data.length then .ok ((data.drop i).take n) else .error .outOfBounds

section Get

variable {data : List Byte} {i : ℕ}

theorem get1Byte_eq (h : i + 1 ≤ data.length) : get1Byte data i = .ok (read1Byte data i) := by
  rw [get1Byte, getElem?_eq_getElem h, read1Byte, getD_eq_getElem _ _ h]

theorem get2Bytes_eq (h : i + 2 ≤ data.length) : get2Bytes data i = .ok (read2Bytes data i) := by
  rw [get2Bytes, get1Byte_eq (by omega), ok_bind, get1Byte_eq (by omega)]
  rfl

theorem get4Bytes_eq (h : i + 4 ≤ data.length) : get4Bytes data i = .ok (read4Bytes data i) := by
  rw [get4Bytes, get2Bytes_eq (by omega), ok_bind, get2Bytes_eq (by omega)]
  rfl

theorem get8Bytes_eq (h : i + 8 ≤ data.length) : get8Bytes data i = .ok (read8Bytes data i) := by
  rw [get8Bytes, get4Bytes_eq (by omega), ok_bind, get4Bytes_eq (by omega)]
  rfl

theorem getBytes_eq {n : ℕ} (h : i + n ≤ data.length) : getBytes data i n = .ok ((data.drop i).take n) :=
  if_pos h

end Get

/-! ## Reading behind something -/

variable {i : ℕ}

theorem read1Byte_append_left {before : List Byte} (h : i < before.length) (data : List Byte) :
    read1Byte (before ++ data) i = read1Byte before i :=
  getD_append _ _ _ _ h

theorem read1Byte_append_right (before data : List Byte) (i : ℕ) :
    read1Byte (before ++ data) (before.length + i) = read1Byte data i := by
  rw [read1Byte, getD_append_right _ _ _ _ (Nat.le_add_right _ _), Nat.add_sub_cancel_left]
  rfl

theorem read2Bytes_append_right (before data : List Byte) (i : ℕ) :
    read2Bytes (before ++ data) (before.length + i) = read2Bytes data i := by
  rw [read2Bytes, read1Byte_append_right, add_assoc, read1Byte_append_right]
  rfl

theorem read4Bytes_append_right (before data : List Byte) (i : ℕ) :
    read4Bytes (before ++ data) (before.length + i) = read4Bytes data i := by
  rw [read4Bytes, read2Bytes_append_right, add_assoc, read2Bytes_append_right]
  rfl

theorem read8Bytes_append_right (before data : List Byte) (i : ℕ) :
    read8Bytes (before ++ data) (before.length + i) = read8Bytes data i := by
  rw [read8Bytes, read4Bytes_append_right, add_assoc, read4Bytes_append_right]
  rfl

/-! ## Reading in the middle -/

section Middle

variable {data pre middle after : List Byte} {i : ℕ}

theorem read2Bytes_append_left (h : i + 2 ≤ pre.length) (data : List Byte) :
    read2Bytes (pre ++ data) i = read2Bytes pre i := by
  rw [read2Bytes, read1Byte_append_left (by omega), read1Byte_append_left (by omega)]
  rfl

theorem read4Bytes_append_left (h : i + 4 ≤ pre.length) (data : List Byte) :
    read4Bytes (pre ++ data) i = read4Bytes pre i := by
  rw [read4Bytes, read2Bytes_append_left (by omega), read2Bytes_append_left (by omega)]
  rfl

theorem read8Bytes_append_left (h : i + 8 ≤ pre.length) (data : List Byte) :
    read8Bytes (pre ++ data) i = read8Bytes pre i := by
  rw [read8Bytes, read4Bytes_append_left (by omega), read4Bytes_append_left (by omega)]
  rfl

variable (hdata : data = pre ++ (middle ++ after))

include hdata

theorem get1Byte_middle (h : i + 1 ≤ middle.length) :
    get1Byte data (pre.length + i) = .ok (read1Byte middle i) := by
  subst hdata
  rw [get1Byte_eq (by simp only [length_append]; omega), read1Byte_append_right,
    read1Byte_append_left (by omega)]

theorem get2Bytes_middle (h : i + 2 ≤ middle.length) :
    get2Bytes data (pre.length + i) = .ok (read2Bytes middle i) := by
  subst hdata
  rw [get2Bytes_eq (by simp only [length_append]; omega), read2Bytes_append_right, read2Bytes_append_left h]

theorem get4Bytes_middle (h : i + 4 ≤ middle.length) :
    get4Bytes data (pre.length + i) = .ok (read4Bytes middle i) := by
  subst hdata
  rw [get4Bytes_eq (by simp only [length_append]; omega), read4Bytes_append_right, read4Bytes_append_left h]

theorem get8Bytes_middle (h : i + 8 ≤ middle.length) :
    get8Bytes data (pre.length + i) = .ok (read8Bytes middle i) := by
  subst hdata
  rw [get8Bytes_eq (by simp only [length_append]; omega), read8Bytes_append_right, read8Bytes_append_left h]

theorem getBytes_middle : getBytes data pre.length middle.length = .ok middle := by
  subst hdata
  rw [getBytes_eq (by simp only [length_append]; omega), drop_left, take_left]

end Middle

/-! ## Reading what was written -/

theorem read2Bytes_set2Bytes (value : BitVec 16) (rest : List Byte) :
    read2Bytes (set2Bytes value ++ rest) 0 = value :=
  BitVec.extractLsb'_append_extractLsb'

theorem read3Bytes_set3Bytes (value : BitVec 24) (rest : List Byte) :
    read3Bytes (set3Bytes value ++ rest) 0 = value := by
  show (value.extractLsb' 16 8 ++ value.extractLsb' 8 8 ++ value.extractLsb' 0 8 : BitVec 24) = value
  have hhigh : (value.extractLsb' 16 8 ++ value.extractLsb' 8 8 : BitVec 16) = value.extractLsb' 8 16 :=
    BitVec.extractLsb'_append_extractLsb'_eq_extractLsb' rfl
  rw [hhigh]
  exact BitVec.extractLsb'_append_extractLsb'

theorem read4Bytes_set4Bytes (value : BitVec 32) (rest : List Byte) :
    read4Bytes (set4Bytes value ++ rest) 0 = value := by
  show (value.extractLsb' 24 8 ++ value.extractLsb' 16 8 ++
    (value.extractLsb' 8 8 ++ value.extractLsb' 0 8 : BitVec 16) : BitVec 32) = value
  have hhigh : (value.extractLsb' 24 8 ++ value.extractLsb' 16 8 : BitVec 16) = value.extractLsb' 16 16 :=
    BitVec.extractLsb'_append_extractLsb'_eq_extractLsb' rfl
  have hlow : (value.extractLsb' 8 8 ++ value.extractLsb' 0 8 : BitVec 16) = value.extractLsb' 0 16 :=
    BitVec.extractLsb'_append_extractLsb'_eq_extractLsb' rfl
  rw [hhigh, hlow]
  exact BitVec.extractLsb'_append_extractLsb'

theorem read8Bytes_set8Bytes (value : BitVec 64) (rest : List Byte) :
    read8Bytes (set8Bytes value ++ rest) 0 = value := by
  have hhigh : set8Bytes value ++ rest =
      set4Bytes (value.extractLsb' 32 32) ++ (set4Bytes (value.extractLsb' 0 32) ++ rest) := by
    have hbyte (k : ℕ) (hk : k + 8 ≤ 32) :
        (value.extractLsb' 32 32).extractLsb' k 8 = value.extractLsb' (32 + k) 8 := by
      ext i hi
      simp [show k + i < 32 by omega, add_assoc]
    have hbyte' (k : ℕ) (hk : k + 8 ≤ 32) :
        (value.extractLsb' 0 32).extractLsb' k 8 = value.extractLsb' k 8 := by
      ext i hi
      simp [show k + i < 32 by omega]
    simp [set8Bytes, set4Bytes, hbyte, hbyte']
  have hlow := read4Bytes_append_right (set4Bytes (value.extractLsb' 32 32))
    (set4Bytes (value.extractLsb' 0 32) ++ rest) 0
  rw [read8Bytes, hhigh, read4Bytes_set4Bytes]
  rw [length_set4Bytes, add_zero] at hlow
  rw [zero_add, hlow, read4Bytes_set4Bytes]
  exact BitVec.extractLsb'_append_extractLsb'

theorem set4Bytes_injective : Function.Injective set4Bytes := by
  intro value value' h
  rw [← read4Bytes_set4Bytes value [], h, read4Bytes_set4Bytes]

/-! ## Writing what was read -/

theorem set2Bytes_append (a b : Byte) : set2Bytes (a ++ b) = [a, b] := by
  rw [set2Bytes, BitVec.extractLsb'_append_eq_left, BitVec.extractLsb'_append_eq_right]

theorem set4Bytes_append (high low : BitVec 16) :
    set4Bytes (high ++ low) = set2Bytes high ++ set2Bytes low := by
  have h24 : (high ++ low).extractLsb' 24 8 = high.extractLsb' 8 8 :=
    BitVec.extractLsb'_append_eq_of_le (by decide)
  have h16 : (high ++ low).extractLsb' 16 8 = high.extractLsb' 0 8 :=
    BitVec.extractLsb'_append_eq_of_le (by decide)
  have h8 : (high ++ low).extractLsb' 8 8 = low.extractLsb' 8 8 :=
    BitVec.extractLsb'_append_eq_of_add_le (by decide)
  have h0 : (high ++ low).extractLsb' 0 8 = low.extractLsb' 0 8 :=
    BitVec.extractLsb'_append_eq_of_add_le (by decide)
  rw [set4Bytes, h24, h16, h8, h0]
  rfl

theorem set2Bytes_read2Bytes {data : List Byte} (h : i + 2 ≤ data.length) :
    set2Bytes (read2Bytes data i) = (data.drop i).take 2 := by
  have hi : i < data.length := by omega
  have hi' : i + 1 < data.length := by omega
  rw [read2Bytes, set2Bytes_append, drop_eq_getElem_cons hi, drop_eq_getElem_cons hi',
    read1Byte, read1Byte, getD_eq_getElem _ _ hi, getD_eq_getElem _ _ hi']
  rfl

theorem set4Bytes_read4Bytes {data : List Byte} (h : i + 4 ≤ data.length) :
    set4Bytes (read4Bytes data i) = (data.drop i).take 4 := by
  rw [read4Bytes, set4Bytes_append, set2Bytes_read2Bytes (by omega), set2Bytes_read2Bytes (by omega),
    ← drop_drop, ← take_add]

/-! ## Padding -/

def padTo4Bytes (size : BitVec 16) : BitVec 16 :=
  if size &&& 0x03 ≠ 0 then (size &&& 0xFFFC) + 4 else size

theorem toNat_padTo4Bytes {size : ℕ} (h : size ≤ 2 ^ 16 - 4) :
    (padTo4Bytes (BitVec.ofNat 16 size)).toNat = (size + 3) / 4 * 4 := by
  have hlow : (BitVec.ofNat 16 size &&& 0x03).toNat = size % 4 := by
    rw [BitVec.toNat_and, BitVec.toNat_ofNat, Nat.mod_eq_of_lt (by omega)]
    exact Nat.and_two_pow_sub_one_eq_mod size 2
  have hmask : BitVec.ofNat 16 size &&& 0xFFFC#16 = (BitVec.ofNat 16 size >>> 2) <<< 2 := by
    ext i hi
    interval_cases i <;> simp
  have hhigh : (BitVec.ofNat 16 size &&& 0xFFFC).toNat = size / 4 * 4 := by
    refine (congrArg BitVec.toNat hmask).trans ?_
    rw [BitVec.toNat_shiftLeft, BitVec.toNat_ushiftRight, BitVec.toNat_ofNat, Nat.shiftLeft_eq,
      Nat.shiftRight_eq_div_pow]
    omega
  unfold padTo4Bytes
  by_cases hpad : size % 4 = 0
  · have hzero : BitVec.ofNat 16 size &&& 0x03 = 0 := BitVec.eq_of_toNat_eq (hlow.trans hpad)
    rw [if_neg (not_not.mpr hzero), BitVec.toNat_ofNat]
    omega
  · rw [if_pos fun hzero => hpad (hlow.symm.trans (congrArg BitVec.toNat hzero)), BitVec.toNat_add, hhigh]
    show (size / 4 * 4 + 4) % 2 ^ 16 = _
    omega

end MediasoupWorker
