import MediasoupWorker.RTC.RTCP.XR
import MediasoupWorker.RTC.RtpStreamRecv
import MediasoupWorker.RTC.RtpStreamSend

/-!
# Times of 32 bits: ages, transit times and round trip times

The age of a packet to be resent is the distance of two timestamps, times 1000, and this product wraps after
4294967 ticks, so that older packets can look young; so does the transit time of a received packet, which
then jumps. The round trip time is a difference on a circle, and the code looks first whether it is
positive, by a comparison of numbers.
-/

namespace MediasoupWorker.RTC

open Library BitVec
open RTCP (FeedbackRtpNackItem ReceiverReport SsrcInfo)

/-! ## The age of a packet that is asked for -/

namespace RtpStreamSend

variable {n : ℕ}

def ticks (s : RtpStreamSend n) (packet : MediaPacket) : ℕ :=
  (s.stream.maxPacketTs - packet.timestamp).toNat

def ageMs (s : RtpStreamSend n) (packet : MediaPacket) : ℕ :=
  s.ticks packet * 1000 / s.params.clockRate.toNat

def Recent (s : RtpStreamSend n) (slot : Fin n) : Prop :=
  ∃ packet, (s.storage slot).packet = some packet ∧
    (s.ticks packet * 1000 < 2 ^ 32 → s.ageMs packet ≤ maxRetransmissionDelay)

theorem timestamp_retransmitted (s : RtpStreamSend n) (item : StorageItem) (p : MediaPacket) :
    (s.retransmitted item p).1.timestamp = p.timestamp := by
  unfold retransmitted
  split
  · rfl
  · split_ifs <;> rfl

variable {s : RtpStreamSend n} {now : BitVec 64}

theorem Recent.of_resend {slot slot' : Fin n} {p : MediaPacket} (hp : (s.storage slot).packet = some p)
    (h : Recent (s.resend now slot p) slot') : s.Recent slot' := by
  obtain ⟨p', hp', hage⟩ := h
  by_cases hslot : slot' = slot
  · rw [hslot, resend_storage_self] at hp'
    obtain rfl := Option.some.inj hp'
    refine ⟨p, hslot ▸ hp, ?_⟩
    unfold ageMs ticks at hage ⊢
    rw [timestamp_retransmitted] at hage
    exact hage
  · rw [resend_storage_of_ne hslot] at hp'
    exact ⟨p', hp', hage⟩

variable {s' : RtpStreamSend n}

theorem requestPacket_recent {rtt seq : BitVec 16} {slots : List (Fin n)}
    (h : s.requestPacket now rtt seq = .ok (s', slots)) :
    (∀ slot ∈ slots, s.Recent slot) ∧ ∀ slot, s'.Recent slot → s.Recent slot := by
  unfold requestPacket at h
  split at h
  · cases h
    simp
  · next slot hentry =>
    dsimp only at h
    split at h
    · cases h
    · next p hp =>
      split_ifs at h with hclock hold hrs
      · cases h
        simp
      · cases h
        simp
      · cases h
        refine ⟨?_, fun slot' => Recent.of_resend hp⟩
        simp only [List.mem_singleton, forall_eq]
        refine ⟨p, hp, fun hexact => ?_⟩
        rw [toNat_udiv, toNat_mul] at hold
        have hproduct : (s.stream.maxPacketTs - p.timestamp).toNat * (1000 : BitVec 32).toNat %
            2 ^ 32 = s.ticks p * 1000 := Nat.mod_eq_of_lt hexact
        rw [hproduct] at hold
        exact not_lt.mp hold

theorem requestPackets_recent {rtt : BitVec 16} {seqs : List (BitVec 16)} {slots : List (Fin n)}
    (h : s.requestPackets now rtt seqs = .ok (s', slots)) : ∀ slot ∈ slots, s.Recent slot := by
  induction seqs generalizing s slots with
  | nil =>
    cases h
    simp
  | cons seq seqs ih =>
    rw [requestPackets] at h
    obtain ⟨⟨s₁, first⟩, hfirst, h⟩ := bind_eq_ok.mp h
    obtain ⟨⟨s₂, rest⟩, hrest, h⟩ := bind_eq_ok.mp h
    cases h
    obtain ⟨hrecent, hback⟩ := requestPacket_recent hfirst
    intro slot hmem
    obtain hmem | hmem := List.mem_append.mp hmem
    · exact hrecent slot hmem
    · exact hback slot (ih hrest slot hmem)

end RtpStreamSend

/-! ## Transit times -/

namespace RtpStreamRecv.State

def transitOf (s : State) (nowMs : BitVec 64) (rtpTimestamp : BitVec 32) : BitVec 32 :=
  nowMs.setWidth 32 - rtpTimestamp * 1000 / BitVec.ofNat 32 s.params.clockRate

def transitDifference (s : State) (nowMs : BitVec 64) (rtpTimestamp : BitVec 32) : BitVec 32 :=
  let d := s.transitOf nowMs rtpTimestamp - s.transit
  if d.toInt < 0 then -d else d

theorem calculateJitter_eq {s : State} (hclock : s.params.clockRate ≠ 0) (nowMs : BitVec 64)
    (ts : BitVec 32) : s.calculateJitter nowMs ts = { s with
        transit := s.transitOf nowMs ts
        jitter := if s.transit = 0 then s.jitter else
          BitVec.ofInt 32 ((15 * (s.jitter.toNat : ℤ) + (s.transitDifference nowMs ts).toInt).tdiv 16) } := by
  rw [calculateJitter, if_neg hclock]
  dsimp only
  by_cases hfirst : s.transit = 0
  · rw [if_pos hfirst, if_pos hfirst]
    rfl
  · rw [if_neg hfirst, if_neg hfirst]
    rfl

def calculateJitters (arrivals : List (BitVec 64 × BitVec 32)) (s : State) : State :=
  arrivals.foldl (fun s arrival => s.calculateJitter arrival.1 arrival.2) s

def FollowsClock (clockRate : ℕ) (offset : ℤ) (arrival : BitVec 64 × BitVec 32) : Prop :=
  (arrival.1.toNat : ℤ) = offset + (arrival.2.toNat * 1000 / clockRate : ℕ)

def wraps (rtpTimestamp : BitVec 32) : ℕ := rtpTimestamp.toNat * 1000 / 2 ^ 32

theorem calculateJitters_append (pre : List (BitVec 64 × BitVec 32)) (a : BitVec 64 × BitVec 32) (s : State) :
    s.calculateJitters (pre ++ [a]) = (s.calculateJitters pre).calculateJitter a.1 a.2 := by
  simp [calculateJitters]

theorem params_calculateJitters (arrs : List (BitVec 64 × BitVec 32)) (s : State) :
    (s.calculateJitters arrs).params = s.params := by
  induction arrs using List.reverseRecOn with
  | nil => rfl
  | append_singleton pre a ih =>
    rw [calculateJitters_append, ← ih]
    by_cases hclock : (s.calculateJitters pre).params.clockRate = 0
    · rw [calculateJitter, if_pos hclock]
    · rw [calculateJitter_eq hclock]

theorem transitOf_eq {s : State} (hpos : 0 < s.params.clockRate) (hlt : s.params.clockRate < 2 ^ 32)
    {offset : ℤ} {arr : BitVec 64 × BitVec 32} (h : FollowsClock s.params.clockRate offset arr) :
    ∃ e ≤ 1, s.transitOf arr.1 arr.2 =
      BitVec.ofInt 32 (offset + (2 ^ 32 * wraps arr.2 / s.params.clockRate : ℕ)) + BitVec.ofNat 32 e := by
  obtain ⟨nowMs, ts⟩ := arr
  set rate := s.params.clockRate with hrate
  set r := ts.toNat * 1000 % 2 ^ 32 with hr
  have hsplit : ts.toNat * 1000 = 2 ^ 32 * wraps ts + r := (Nat.div_add_mod ..).symm
  have hnow : nowMs.setWidth 32 = BitVec.ofInt 32 (nowMs.toNat : ℤ) := by
    rw [BitVec.ofInt_natCast, BitVec.ofNat_toNat]
  have hquotient : ts * 1000 / BitVec.ofNat 32 rate = BitVec.ofInt 32 ((r / rate : ℕ) : ℤ) := by
    refine BitVec.eq_of_toNat_eq ?_
    have hle : r / rate ≤ r := Nat.div_le_self ..
    rw [BitVec.ofInt_natCast, BitVec.toNat_udiv, BitVec.toNat_mul, BitVec.toNat_ofNat,
      BitVec.toNat_ofNat, Nat.mod_eq_of_lt hlt, Nat.mod_eq_of_lt (by omega : r / rate < 2 ^ 32)]
    rfl
  have hdiv := Nat.add_div hpos (a := 2 ^ 32 * wraps ts) (b := r)
  rw [← hsplit] at hdiv
  set e := if rate ≤ 2 ^ 32 * wraps ts % rate + r % rate then 1 else 0
  refine ⟨e, by unfold e; split_ifs <;> omega, ?_⟩
  rw [transitOf, hnow, hquotient, h, hdiv, Nat.cast_add, Nat.cast_add, ← BitVec.ofInt_natCast,
    BitVec.ofInt_add, BitVec.ofInt_add, BitVec.ofInt_add, BitVec.ofInt_add]
  bv_omega

/-- **The transit times of two packets in a row** differ by at most one millisecond, for arrivals that
follow the RTP clock, if the product does not wrap between them. -/
theorem transit_steady (s : State) (hpos : 0 < s.params.clockRate)
    (hlt : s.params.clockRate < 2 ^ 32) (offset : ℤ) (before : List (BitVec 64 × BitVec 32))
    (previous arrival : BitVec 64 × BitVec 32)
    (hprevious : FollowsClock s.params.clockRate offset previous)
    (harrival : FollowsClock s.params.clockRate offset arrival)
    (hwraps : wraps previous.2 = wraps arrival.2) :
    ((s.calculateJitters (before ++ [previous])).transitDifference arrival.1 arrival.2).toNat ≤ 1 := by
  set s' := s.calculateJitters before with hs'
  have hparams : s'.params = s.params := params_calculateJitters before s
  rw [← hparams] at hpos hlt hprevious harrival
  obtain ⟨e, he, hfirst⟩ := transitOf_eq hpos hlt hprevious
  obtain ⟨e', he', hsecond⟩ := transitOf_eq hpos hlt harrival
  have hdifference : s'.transitOf arrival.1 arrival.2 - s'.transitOf previous.1 previous.2 =
      BitVec.ofNat 32 e' - BitVec.ofNat 32 e := by
    rw [hfirst, hsecond, hwraps]
    bv_omega
  rw [calculateJitters_append, calculateJitter_eq hpos.ne', transitDifference]
  change (let d := s'.transitOf arrival.1 arrival.2 - s'.transitOf previous.1 previous.2
    if d.toInt < 0 then -d else d).toNat ≤ 1
  rw [hdifference]
  interval_cases e <;> interval_cases e' <;> decide

def videoStream : State where
  params := {
    encodingIdx := 0, ssrc := 1111, payloadType := 96, mimeType := { type := .video, subtype := .vp8 }
    clockRate := 90000, rid := "", cname := "" }

theorem transit_steady_video : FollowsClock videoStream.params.clockRate 1 (1, 0) ∧
    ((videoStream.calculateJitters [(1, 0)]).transitDifference 34 3000).toNat ≤ 1 :=
  ⟨rfl, transit_steady videoStream (by decide) (by decide) 1 [] (1, 0) (34, 3000) rfl rfl rfl⟩

/-- **A jump of the transit time.**  Both packets arrive one millisecond after the time of their
timestamps, and the product wraps between them. -/
theorem transit_jumps : FollowsClock 90000 1 (47722, 4294967) ∧ FollowsClock 90000 1 (47722, 4294968) ∧
    (videoStream.calculateJitters [(47722, 4294967)]).transitDifference 47722 4294968 = 47721 :=
  ⟨rfl, rfl, by decide⟩

end RtpStreamRecv.State

/-! ## Round trip times -/

def roundTripTime (compactNtp lastReport delay : BitVec 32) : BitVec 32 :=
  if lastReport ≠ 0 ∧ delay ≠ 0 ∧ compactNtp > delay + lastReport then
    compactNtp - delay - lastReport
  else 0

def RtpStreamSend.reportRtt (compactNtp : BitVec 32) (report : ReceiverReport) : BitVec 32 :=
  roundTripTime compactNtp report.lsr report.dlsr

def RtpStreamRecv.reportRtt (compactNtp : BitVec 32) (ssrcInfo : SsrcInfo) : BitVec 32 :=
  roundTripTime compactNtp ssrcInfo.lrr ssrcInfo.dlrr

def circularRtt (compactNtp lastReport delay : BitVec 32) : BitVec 32 :=
  let rtt := compactNtp - lastReport - delay
  if rtt.toNat < 2 ^ 31 then rtt else 0

def Unwrapped (compactNtp due : BitVec 32) : Prop :=
  compactNtp.toNat < due.toNat + 2 ^ 31 ∧ due.toNat ≤ compactNtp.toNat + 2 ^ 31

theorem roundTripTime_eq_iff {ntp last delay : BitVec 32} (hrep : last ≠ 0) (hdelay : delay ≠ 0) :
    roundTripTime ntp last delay = circularRtt ntp last delay ↔ Unwrapped ntp (last + delay) := by
  have hsince : ntp - last - delay = ntp - (last + delay) := by bv_omega
  have hsince' : ntp - delay - last = ntp - (last + delay) := by bv_omega
  rw [roundTripTime, circularRtt, Unwrapped, hsince, hsince', add_comm delay]
  generalize last + delay = due
  simp only [ne_eq, hrep, hdelay, not_false_eq_true, true_and, gt_iff_lt, lt_def]
  have hnow := ntp.isLt
  have hlt := due.isLt
  have hrtt : (ntp - due).toNat = (2 ^ 32 - due.toNat + ntp.toNat) % 2 ^ 32 :=
    toNat_sub ..
  have hzero : ntp - due = 0 ↔ (ntp - due).toNat = 0 := toNat_eq
  -- the code goes by the order of the numbers, and the circle by the half of the difference
  split_ifs with hgt hhalf hhalf
  · simp only [true_iff]
    omega
  · rw [hzero]
    omega
  · rw [eq_comm, hzero]
    omega
  · simp only [true_iff]
    omega

/-- **Round trip times are circular** exactly if the clock has not wrapped, in both functions. -/
theorem rtt_circular_iff (compactNtp : BitVec 32) :
    (∀ report : ReceiverReport, report.lsr ≠ 0 → report.dlsr ≠ 0 →
      (RtpStreamSend.reportRtt compactNtp report = circularRtt compactNtp report.lsr report.dlsr ↔
        Unwrapped compactNtp (report.lsr + report.dlsr))) ∧
    ∀ ssrcInfo : SsrcInfo, ssrcInfo.lrr ≠ 0 → ssrcInfo.dlrr ≠ 0 →
      (RtpStreamRecv.reportRtt compactNtp ssrcInfo = circularRtt compactNtp ssrcInfo.lrr ssrcInfo.dlrr ↔
        Unwrapped compactNtp (ssrcInfo.lrr + ssrcInfo.dlrr)) :=
  ⟨fun _ hreport hdelay => roundTripTime_eq_iff hreport hdelay,
    fun _ hreport hdelay => roundTripTime_eq_iff hreport hdelay⟩

theorem rtt_circular_second :
    RtpStreamRecv.reportRtt 0x30000 ⟨1, 0x10000, 0x10000⟩ = circularRtt 0x30000 0x10000 0x10000 :=
  ((rtt_circular_iff 0x30000).2 ⟨1, 0x10000, 0x10000⟩ (by decide) (by decide)).mpr
    ⟨by decide, by decide⟩

/-- **Reports around the wrap.**  One comes back two units after it was due, and has no round trip time.
The other one has a delay that is not over yet, and its round trip time is that of 18 hours. -/
theorem rtt_wrong_over_wrap :
    let late : ReceiverReport := ⟨1, 0, 0, 0, 0, 0xFFFF0000, 0xFFFF⟩
    let early : ReceiverReport := ⟨1, 0, 0, 0, 0, 0xFFFF0000, 0x20000⟩
    RtpStreamSend.reportRtt 1 late = 0 ∧ circularRtt 1 late.lsr late.dlsr = 2 ∧
    RtpStreamSend.reportRtt 0xFFFF8000 early = 0xFFFE8000 ∧ circularRtt 0xFFFF8000 early.lsr early.dlsr = 0 ∧
    RtpStreamRecv.reportRtt 1 ⟨1, 0xFFFF0000, 0xFFFF⟩ = 0 := by
  decide

end MediasoupWorker.RTC
