import MediasoupWorker.Library.Binary64
import Mathlib.Data.BitVec
import Mathlib.Tactic.IntervalCases

/-!
# Receiver reports, and the accounting of lost packets

`src/include/RTC/RTCP/ReceiverReport.hpp`, and what the `GetRtcpReceiverReport` of `RtpStreamRecv` and
`RtxStream` have in common. RFC 3550 has the lost packets in two's complement of 24 bits; the code writes
and reads a sign and a magnitude.
-/

namespace MediasoupWorker.RTC.RTCP

open Library BitVec

structure ReceiverReport where
  ssrc : BitVec 32
  fractionLost : BitVec 8
  totalLost : BitVec 24
  lastSeq : BitVec 32
  jitter : BitVec 32
  lsr : BitVec 32
  dlsr : BitVec 32
  deriving DecidableEq, Repr

def totalLostField (totalLost : BitVec 32) : BitVec 24 :=
  let clamp : BitVec 32 :=
    if 0 ≤ totalLost.toInt then
      if totalLost.toInt > 0x07FFFFF then 0x07FFFFF else totalLost
    else if (-totalLost).toInt > 0x0800000 then 0x0800000 else -totalLost
  let value : BitVec 32 :=
    if 0 ≤ totalLost.toInt then clamp &&& 0x07FFFFF else clamp ||| 0x0800000
  value.setWidth 24

def ReceiverReport.getTotalLost (report : ReceiverReport) : BitVec 32 :=
  let value := report.totalLost.setWidth 32
  if (value >>> 23) &&& 1 = 0 then value
  else if value ≠ 0x0800000 then -(value &&& ~~~(1 <<< 23 : BitVec 32))
  else -value

structure ReportState where
  packetsLost : BitVec 32 := 0
  fractionLost : BitVec 8 := 0
  expectedPrior : BitVec 32 := 0
  receivedPrior : BitVec 32 := 0
  reportedPacketLost : BitVec 32 := 0
  lastSrTimestamp : BitVec 32 := 0
  lastSrReceived : BitVec 64 := 0
  deriving DecidableEq, Repr

def fractionLost (expectedInterval receivedInterval : BitVec 32) : BitVec 8 :=
  let lostInterval := expectedInterval - receivedInterval
  if expectedInterval = 0 ∨ lostInterval.toInt ≤ 0 then 0
  else
    let dividend := (lostInterval <<< 8).toInt
    BitVec.ofInt 8 (dividend.sign * roundQuotient dividend.natAbs expectedInterval.toNat)

namespace ReportState

def count (state : ReportState) (expected : BitVec 32) (received : ℕ) : ReportState :=
  { state with
    packetsLost := if received < expected.toNat then expected - BitVec.ofNat 32 received else 0
    fractionLost :=
      RTCP.fractionLost (expected - state.expectedPrior)
        (BitVec.ofNat 32 received - state.receivedPrior)
    expectedPrior := expected
    receivedPrior := BitVec.ofNat 32 received }

def delaySinceLastSenderReport (state : ReportState) (nowMs : BitVec 64) : BitVec 32 :=
  if state.lastSrReceived = 0 then 0
  else
    let delayMs := (nowMs - state.lastSrReceived).setWidth 32
    ((delayMs / 1000) <<< 16) ||| (delayMs % 1000) * 65536 / 1000

def lastSenderReport (state : ReportState) : BitVec 32 :=
  if state.lastSrReceived = 0 then 0 else state.lastSrTimestamp

def receiveSenderReport (state : ReportState) (nowMs : BitVec 64) (ntpSec ntpFrac : BitVec 32) :
    ReportState :=
  { state with lastSrReceived := nowMs, lastSrTimestamp := (ntpSec <<< 16) + (ntpFrac >>> 16) }

end ReportState

/-! ## The signed field -/

theorem totalLostField_toNat (lost : BitVec 32) : ((totalLostField lost).toNat : ℤ) =
      if 0 ≤ lost.toInt then min lost.toInt (2 ^ 23 - 1)
      else if -2 ^ 23 < lost.toInt then 2 ^ 23 - lost.toInt else 2 ^ 23 := by
  have hint := toInt_eq_toNat_cond lost
  have hneg := toInt_eq_toNat_cond (-lost)
  have hlt := lost.isLt
  rw [toNat_neg] at hneg
  rw [totalLostField]
  split_ifs with hsign hlarge hsmall hlarge hmagnitude
  · rw [min_eq_right (by omega)]
    rfl
  · rw [min_eq_left (by omega), toNat_setWidth, toNat_and]
    show (((lost.toNat &&& (2 ^ 23 - 1)) % 2 ^ 24 : ℕ) : ℤ) = _
    rw [Nat.and_two_pow_sub_one_eq_mod]
    omega
  · omega
  · rfl
  · rw [toNat_setWidth, toNat_or, toNat_neg, Nat.or_mod_two_pow]
    show (((2 ^ 32 - lost.toNat) % 2 ^ 32 % 2 ^ 24 ||| 2 ^ 23 * 1 : ℕ) : ℤ) = _
    rw [Nat.or_comm, ← Nat.two_pow_add_eq_or_of_lt (by omega)]
    omega
  · have hlow : (2 ^ 32 - lost.toNat) % 2 ^ 32 % 2 ^ 24 = 2 ^ 23 ∨
        (2 ^ 32 - lost.toNat) % 2 ^ 32 % 2 ^ 24 = 0 := by omega
    rw [toNat_setWidth, toNat_or, toNat_neg, Nat.or_mod_two_pow]
    rcases hlow with hlow | hlow <;> rw [hlow] <;> rfl

theorem and_not_sign (v : BitVec 24) :
    v.setWidth 32 &&& ~~~(1 <<< 23 : BitVec 32) = (v.setWidth 23).setWidth 32 := by
  ext i hi
  interval_cases i <;> simp

theorem ReceiverReport.getTotalLost_toInt (r : ReceiverReport) : r.getTotalLost.toInt =
      if r.totalLost.toNat < 2 ^ 23 then (r.totalLost.toNat : ℤ)
      else if r.totalLost.toNat = 2 ^ 23 then -2 ^ 23 else 2 ^ 23 - r.totalLost.toNat := by
  have hlt := r.totalLost.isLt
  have hsign : (r.totalLost.setWidth 32 >>> 23) &&& 1 = 0 ↔ r.totalLost.toNat < 2 ^ 23 := by
    rw [← BitVec.toNat_inj, BitVec.toNat_and]
    show _ &&& (2 ^ 1 - 1) = 0 ↔ _
    rw [Nat.and_two_pow_sub_one_eq_mod, BitVec.toNat_ushiftRight, Nat.shiftRight_eq_div_pow,
      BitVec.toNat_setWidth]
    omega
  have hmin : r.totalLost.setWidth 32 = 0x0800000 ↔ r.totalLost.toNat = 2 ^ 23 := by
    rw [← BitVec.toNat_inj, BitVec.toNat_setWidth]
    show _ = 2 ^ 23 ↔ _
    omega
  rw [ReceiverReport.getTotalLost, and_not_sign]
  rw [apply_ite BitVec.toInt, apply_ite BitVec.toInt]
  simp only [hsign, ne_eq, hmin, BitVec.toInt_eq_toNat_cond, BitVec.toNat_neg, BitVec.toNat_setWidth]
  split_ifs <;> omega

/-- **The lost packets are in two's complement** only where it agrees with a sign and a magnitude. -/
theorem totalLost_signed_iff (totalLost : BitVec 32) (report : ReceiverReport) :
    (totalLostField totalLost = BitVec.ofInt 24 (max (-2 ^ 23) (min totalLost.toInt (2 ^ 23 - 1))) ↔
      0 ≤ totalLost.toInt ∨ totalLost.toInt = -2 ^ 22 ∨ totalLost.toInt ≤ -2 ^ 23) ∧
    (report.getTotalLost.toInt = report.totalLost.toInt ↔
      0 ≤ report.totalLost.toInt ∨ report.totalLost.toInt = -2 ^ 22 ∨ report.totalLost.toInt = -2 ^ 23) := by
  constructor
  · have hfield := totalLostField_toNat totalLost
    rw [← BitVec.toNat_inj, BitVec.toNat_ofInt, ← Nat.cast_inj (R := ℤ), hfield]
    split_ifs <;> omega
  · have hlt := report.totalLost.isLt
    rw [ReceiverReport.getTotalLost_toInt, BitVec.toInt_eq_toNat_cond]
    split_ifs <;> omega

theorem totalLost_minus_one :
    totalLostField (-1) = 0x800001#24 ∧ BitVec.ofInt 24 (-1) = 0xFFFFFF#24 ∧
      (ReceiverReport.getTotalLost ⟨0, 0, 0xFFFFFF, 0, 0, 0, 0⟩).toInt = -(2 ^ 23 - 1) := by decide

/-! ## The fraction lost -/

def roundedFraction (lost expected : ℕ) : ℕ := (2 * (256 * lost) + expected) / (2 * expected)

theorem fractionLost_toNat {exp got : BitVec 32} {lost : ℕ} (hlost : exp.toNat = got.toNat + lost)
    (hpos : 0 < lost) (hsmall : exp.toNat < 2 ^ 23) :
    (fractionLost exp got).toNat = roundedFraction lost exp.toNat % 256 := by
  have hdiff : (exp - got).toNat = lost := by
    rw [toNat_sub_of_le (by rw [le_def]; omega)]
    omega
  have hint : (exp - got).toInt = lost := by
    rw [toInt_eq_toNat_of_lt (by omega), hdiff]
  have hshift : ((exp - got) <<< 8).toNat = 256 * lost := by
    rw [toNat_shiftLeft, hdiff, Nat.shiftLeft_eq, Nat.mod_eq_of_lt (by omega)]
    omega
  have hdividend : ((exp - got) <<< 8).toInt = (256 * lost : ℕ) := by
    rw [toInt_eq_toNat_of_lt (by omega), hshift]
  have hne : exp ≠ 0 := by
    rintro rfl
    simp at hlost
    omega
  have hloss : ¬ (exp = 0 ∨ (exp - got).toInt ≤ 0) := by
    rintro (h | h)
    · exact hne h
    · omega
  rw [fractionLost]
  dsimp only
  rw [if_neg hloss, hdividend, Int.natAbs_natCast,
    Int.sign_natCast_of_ne_zero (by omega), one_mul, ofInt_natCast, toNat_ofNat,
    roundQuotient_eq (by omega) (by omega) (by omega)]
  rfl

theorem roundedFraction_lt_iff {lost expected : ℕ} (hexp : 0 < expected) :
    roundedFraction lost expected < 256 ↔ 512 * lost < 511 * expected := by
  unfold roundedFraction
  rw [Nat.div_lt_iff_lt_mul (by omega)]
  omega

end MediasoupWorker.RTC.RTCP
