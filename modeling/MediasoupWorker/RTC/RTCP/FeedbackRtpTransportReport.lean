import MediasoupWorker.Library.Runs
import MediasoupWorker.RTC.RTCP.FeedbackRtpTransportLocal

/-!
# What transport-wide congestion control feedback reports

`src/src/RTC/RTCP/FeedbackRtpTransport.cpp`. A list has a time for each packet that arrived in order, and a
gap for each missing one. Times are sent as differences of 250 microseconds after a reference time of 64
milliseconds, of which 23 bits are kept, so they come back modulo `2 ^ 29` milliseconds.
-/

namespace MediasoupWorker.RTC.RTCP

open Library Bool List

namespace FeedbackRtpTransportPacket

/-! ## Reports -/

structure Arrival where
  sequenceNumber : BitVec 16
  timestamp : BitVec 64
  deriving DecidableEq, Repr

def reportOf : (latest : BitVec 16) → List Arrival → List (Option (BitVec 64))
  | _, [] => []
  | latest, arrival :: arrivals =>
    if isSeqHigherThan arrival.sequenceNumber latest then
      List.replicate (arrival.sequenceNumber - (latest + 1)).toNat none ++
        some arrival.timestamp :: reportOf arrival.sequenceNumber arrivals
    else reportOf latest arrivals

def Reports : (previous : BitVec 16) → List (Option (BitVec 64)) → List PacketResult → Prop
  | _, [], [] => True
  | previous, time :: times, result :: results =>
    (result.sequenceNumber = previous + 1 ∧ result.received = time.isSome ∧
      ∀ t ∈ time, result.receivedAtMs ≡ t.toNat [ZMOD 2 ^ 29]) ∧ Reports (previous + 1) times results
  | _, _, _ => False

theorem succ_add_missing (latest sequenceNumber : BitVec 16) :
    latest + BitVec.ofNat 16 ((sequenceNumber - (latest + 1)).toNat + 1) = sequenceNumber := by
  rw [BitVec.ofNat_add, BitVec.ofNat_toNat, BitVec.setWidth_eq]
  bv_omega

theorem reportOf_append (latest : BitVec 16) (arrs more : List Arrival) :
    reportOf latest (arrs ++ more) = reportOf latest arrs ++
      reportOf (latest + BitVec.ofNat 16 (reportOf latest arrs).length) more := by
  induction arrs generalizing latest with
  | nil =>
    rw [nil_append, reportOf, nil_append, length_nil]
    exact congrArg (fun n => reportOf n more) (add_zero latest).symm
  | cons a arrs ih =>
    rw [cons_append, reportOf, reportOf]
    split_ifs with hnewer
    · have hlatest : latest + BitVec.ofNat 16 (replicate
            (a.sequenceNumber - (latest + 1)).toNat (none : Option (BitVec 64)) ++
          some a.timestamp :: reportOf a.sequenceNumber arrs).length =
          a.sequenceNumber + BitVec.ofNat 16 (reportOf a.sequenceNumber arrs).length := by
        rw [length_append, length_replicate, length_cons, add_comm (length _),
          ← add_assoc, BitVec.ofNat_add, ← add_assoc, succ_add_missing]
      rw [ih, hlatest, append_assoc, cons_append]
    · exact ih latest

theorem length_reportOf_singleton (latest : BitVec 16) (a : Arrival) :
    (reportOf latest [a]).length ≤ 32768 := by
  rw [reportOf]
  split_ifs with hnewer
  · have hhalf : maxValue 16 / 2 = 32767 := rfl
    simp only [isSeqHigherThan, hhalf, or_eq_true, and_eq_true, decide_eq_true_eq] at hnewer
    rw [reportOf, length_append, length_replicate, length_singleton]
    bv_omega
  · exact Nat.zero_le _

variable {times : List (Option (BitVec 64))}

theorem Reports.append {prev : BitVec 16} {times' : List (Option (BitVec 64))} {rs rs' : List PacketResult}
    (h : Reports prev times rs) (h' : Reports (prev + BitVec.ofNat 16 times.length) times' rs') :
    Reports prev (times ++ times') (rs ++ rs') := by
  induction times generalizing prev rs with
  | nil =>
    cases rs with
    | nil =>
      rw [length_nil, BitVec.add_zero] at h'
      exact h'
    | cons r rs => exact h.elim
  | cons time times ih =>
    cases rs with
    | nil => exact h.elim
    | cons r rs =>
      refine ⟨h.1, ih h.2 ?_⟩
      rw [add_one_add_ofNat]
      exact h'

/-! ## Times and deltas -/

inductive Spells : (last : BitVec 64) → List (Option (BitVec 64)) → List (Option (BitVec 16)) →
    (latest : BitVec 64) → Prop
  | nil (last : BitVec 64) : Spells last [] [] last
  | missing {last latest : BitVec 64} {times : List (Option (BitVec 64))}
      {deltas : List (Option (BitVec 16))} (h : Spells last times deltas latest) :
      Spells last (none :: times) (none :: deltas) latest
  | received {last time latest : BitVec 64} {delta : BitVec 16} {times : List (Option (BitVec 64))}
      {deltas : List (Option (BitVec 16))} (hdelta : ((time - last) * 4).toInt = delta.toInt)
      (h : Spells time times deltas latest) :
      Spells last (some time :: times) (some delta :: deltas) latest

namespace Spells

variable {last latest latest' : BitVec 64} {times times' : List (Option (BitVec 64))}
  {ds ds' : List (Option (BitVec 16))}

theorem append (h : Spells last times ds latest) (h' : Spells latest times' ds' latest') :
    Spells last (times ++ times') (ds ++ ds') latest' := by
  induction h with
  | nil last => exact h'
  | missing h ih => exact .missing (ih h')
  | received hdelta h ih => exact .received hdelta (ih h')

theorem replicate_missing (last : BitVec 64) (n : ℕ) :
    Spells last (replicate n none) (replicate n none) last := by
  induction n with
  | zero => exact .nil last
  | succ n ih => exact .missing ih

theorem length_eq (h : Spells last times ds latest) : ds.length = times.length := by
  induction h with
  | nil last => rfl
  | missing h ih => rw [length_cons, length_cons, ih]
  | received hdelta h ih => rw [length_cons, length_cons, ih]

end Spells

theorem receivedAtMs_modEq {now : ℤ} {last time : BitVec 64} {d : BitVec 16}
    (hnow : now ≡ last.toNat [ZMOD 2 ^ 29]) (hdelta : ((time - last) * 4).toInt = d.toInt) :
    now + d.toInt.tdiv 4 ≡ time.toNat [ZMOD 2 ^ 29] := by
  have hlast := last.isLt
  have htime := time.isLt
  -- the difference in 64 bits, and what is left of it when it is taken four times
  have hnat : ((time - last) * 4).toNat = ((2 ^ 64 - last.toNat + time.toNat) % 2 ^ 64 * 4) % 2 ^ 64 := by
    rw [BitVec.toNat_mul, BitVec.toNat_sub]
    rfl
  have hint := BitVec.toInt_eq_toNat_cond ((time - last) * 4)
  rw [hnat, hdelta] at hint
  have hdvd : (4 : ℤ) ∣ d.toInt := by
    rw [hint]
    split_ifs <;> omega
  rw [Int.tdiv_eq_ediv_of_dvd hdvd]
  unfold Int.ModEq at hnow ⊢
  split_ifs at hint <;> omega

def resultsOf : (previous : BitVec 16) → (now : ℤ) → List (Option (BitVec 16)) → List PacketResult
  | _, _, [] => []
  | previous, now, none :: deltas =>
    { sequenceNumber := previous + 1, received := false } :: resultsOf (previous + 1) now deltas
  | previous, now, some delta :: deltas =>
    { sequenceNumber := previous + 1, delta, received := true, receivedAtMs := now + delta.toInt.tdiv 4 } ::
      resultsOf (previous + 1) (now + delta.toInt.tdiv 4) deltas

variable {ds : List (Option (BitVec 16))}

theorem Spells.reports {last latest : BitVec 64} (h : Spells last times ds latest) {now : ℤ}
    (hnow : now ≡ last.toNat [ZMOD 2 ^ 29]) (prev : BitVec 16) :
    Reports prev times (resultsOf prev now ds) := by
  induction h generalizing now prev with
  | nil last => trivial
  | missing h ih =>
    refine ⟨⟨rfl, rfl, ?_⟩, ih hnow _⟩
    rintro t ⟨⟩
  | received hdelta h ih =>
    have hnext := receivedAtMs_modEq hnow hdelta
    refine ⟨⟨rfl, rfl, ?_⟩, ih hnext _⟩
    rintro t ⟨⟩
    exact hnext

theorem fillDeltas_eq (ds : List (Option (BitVec 16))) (pre : List (BitVec 16)) (prev : BitVec 16) (now : ℤ) :
    fillDeltas (pre ++ ds.reduceOption) (fillResults (ds.map statusOf) prev).1
      pre.length now = .ok (resultsOf prev now ds) := by
  induction ds generalizing pre prev now with
  | nil => rfl
  | cons delta ds ih =>
    rw [map_cons, fillResults, fillDeltas, received_statusOf]
    cases delta with
    | none =>
      rw [reduceOption_cons_of_none]
      dsimp only [Option.isSome]
      rw [if_pos (by decide), ih pre (prev + 1) now]
      rfl
    | some delta =>
      rw [reduceOption_cons_of_some]
      dsimp only [Option.isSome]
      have hdelta : (pre ++ delta :: ds.reduceOption)[pre.length]? = some delta := by
        rw [getElem?_append_right le_rfl, Nat.sub_self]
        rfl
      have hrest := ih (pre ++ [delta]) (prev + 1) (now + delta.toInt.tdiv 4)
      rw [append_assoc, singleton_append, length_append, length_singleton] at hrest
      rw [if_neg (by decide), hdelta]
      dsimp only
      rw [hrest]
      rfl

theorem getPacketResults_eq {p : FeedbackRtpTransportPacket} (hsts : p.statuses = ds.map statusOf)
    (hds : p.deltas = ds.reduceOption) :
    p.getPacketResults = .ok (resultsOf (p.baseSequenceNumber - 1) (p.referenceTime.toInt * 64) ds) := by
  rw [getPacketResults, hsts, hds]
  exact fillDeltas_eq ds [] _ _

end FeedbackRtpTransportPacket

open FeedbackRtpTransportPacket

namespace LocalPacket

/-! ## What `AddPacket` can do -/

def withArrival (arrival : Arrival) (delta : BitVec 16) (p : LocalPacket) : LocalPacket :=
  { p.fillChunk p.latestSequenceNumber arrival.sequenceNumber delta with
    latestSequenceNumber := arrival.sequenceNumber
    latestTimestamp := arrival.timestamp }

theorem toInt_setWidth_delta {delta64 : BitVec 64}
    (h : ¬ (delta64.toInt > maxPacketDelta ∨ delta64.toInt < -1 * maxPacketDelta)) :
    delta64.toInt = (delta64.setWidth 16).toInt := by
  have hint := BitVec.toInt_eq_toNat_cond delta64
  have hint' := BitVec.toInt_eq_toNat_cond (delta64.setWidth 16)
  have hlt := delta64.isLt
  rw [BitVec.toNat_setWidth] at hint'
  rw [maxPacketDelta] at h
  split_ifs at hint hint' <;> omega

variable {p : LocalPacket}

/-- **What `AddPacket` can do** with a packet that has its base and is not full: ignore a packet that is
not newer, fail without a change, or add the packet. -/
theorem addPacket_cases (hfull : p.isFull = false) (hbase : p.latestTimestamp ≠ 0) (a : Arrival)
    (maxLen : ℕ) : (isSeqHigherThan a.sequenceNumber p.latestSequenceNumber = false ∧
      p.addPacket a.sequenceNumber a.timestamp maxLen = .ok (p, .success)) ∨
    (isSeqHigherThan a.sequenceNumber p.latestSequenceNumber = true ∧
      (p.addPacket a.sequenceNumber a.timestamp maxLen = .ok (p, .fatal) ∨ (maxLen < p.sizeWithAnother ∧
        p.addPacket a.sequenceNumber a.timestamp maxLen = .ok (p, .maxSizeExceeded)) ∨
      (p.sizeWithAnother ≤ maxLen ∧
        (a.sequenceNumber.toNat : ℤ) - (p.latestSequenceNumber.toNat + 1) ≤ maxMissingPackets ∧
        ∃ d : BitVec 16, ((a.timestamp - p.latestTimestamp) * 4).toInt = d.toInt ∧
        p.addPacket a.sequenceNumber a.timestamp maxLen = .ok (p.withArrival a d, .success)))) := by
  rw [addPacket, hfull, Bool.not_false, msAssert_true, ok_bind, if_neg hbase]
  cases hnewer : isSeqHigherThan a.sequenceNumber p.latestSequenceNumber with
  | false =>
    rw [Bool.not_false, if_pos rfl]
    exact .inl ⟨rfl, rfl⟩
  | true =>
    rw [Bool.not_true, if_neg Bool.false_ne_true]
    refine .inr ⟨rfl, ?_⟩
    dsimp only
    split_ifs with hgap hdelta hsize
    · exact .inl rfl
    · exact .inl rfl
    · exact .inr (.inl ⟨hsize, rfl⟩)
    · exact .inr (.inr ⟨not_lt.mp hsize, Int.not_lt.mp hgap, _, toInt_setWidth_delta hdelta, rfl⟩)

theorem addPacket_eq_ok {q : LocalPacket} {a : Arrival} {maxLen : ℕ} {r : AddPacketResult}
    (h : p.addPacket a.sequenceNumber a.timestamp maxLen = .ok (q, r)) :
    (p.latestTimestamp = 0 ∧ q = p.setBase a.sequenceNumber a.timestamp) ∨ q = p ∨
    (p.latestTimestamp ≠ 0 ∧ isSeqHigherThan a.sequenceNumber p.latestSequenceNumber = true ∧
      ∃ d, q = p.withArrival a d) := by
  have hfull : p.isFull = false := by
    by_contra hfull
    rw [addPacket, Bool.not_eq_false _ |>.mp hfull] at h
    cases h
  by_cases hbase : p.latestTimestamp = 0
  · rw [addPacket, hfull, Bool.not_false, msAssert_true, ok_bind, if_pos hbase] at h
    cases h
    exact .inl ⟨hbase, rfl⟩
  · rcases addPacket_cases hfull hbase a maxLen with
      ⟨-, hadd⟩ | ⟨hnewer, hadd | ⟨-, hadd⟩ | ⟨-, -, d, -, hadd⟩⟩
    all_goals
      rw [hadd] at h
      cases h
    · exact .inr (.inl rfl)
    · exact .inr (.inl rfl)
    · exact .inr (.inl rfl)
    · exact .inr (.inr ⟨hbase, hnewer, d, rfl⟩)

/-! ## Packets and the times that they are about -/

structure Covers (bound : ℕ) (first : BitVec 16) (times : List (Option (BitVec 64)))
    (p : LocalPacket) : Prop where
  base : p.baseSequenceNumber = first + 1
  latest : p.latestSequenceNumber = first + BitVec.ofNat 16 times.length
  based : p.latestTimestamp ≠ 0
  unsized : p.size = 0
  reference : p.referenceTime.toNat < 2 ^ 23
  settled : p.context.Settled
  spelled : ∃ deltas seed, Built bound deltas p ∧ Spells seed times deltas p.latestTimestamp ∧
    p.referenceTime.toInt * 64 ≡ seed.toNat [ZMOD 2 ^ 29]

structure Fresh (p : LocalPacket) : Prop where
  chunks : p.chunks = []
  deltas : p.deltas = []
  count : p.packetStatusCount = 0
  counted : p.deltasAndChunksSize = 0
  unsized : p.size = 0
  context : p.context = {}
  unbased : p.latestTimestamp = 0

theorem toNat_referenceTime (ts : BitVec 64) :
    (((ts &&& 0x1FFFFFC0) / 64).setWidth 32).toNat = ts.toNat / 64 % 2 ^ 23 := by
  have hbits : ∀ i < 64, (0x1FFFFFC0 : BitVec 64).getLsbD i =
      (decide (6 ≤ i) && (0x7FFFFF : BitVec 64).getLsbD (i - 6)) := by decide
  have hmask : (ts &&& 0x1FFFFFC0 : BitVec 64) = ((ts >>> 6) &&& 0x7FFFFF) <<< 6 := by
    refine BitVec.eq_of_getLsbD_eq fun i hi => ?_
    rw [BitVec.getLsbD_and, BitVec.getLsbD_shiftLeft, BitVec.getLsbD_and, BitVec.getLsbD_ushiftRight,
      hbits i hi]
    by_cases hlow : i < 6
    · simp [hlow]
    · have hsix : 6 + (i - 6) = i := by omega
      rw [hsix]
      simp [hi, hlow, not_lt.mp hlow]
  have hlow : ((ts >>> 6) &&& 0x7FFFFF).toNat = ts.toNat / 64 % 2 ^ 23 := by
    rw [BitVec.toNat_and, BitVec.toNat_ushiftRight, Nat.shiftRight_eq_div_pow]
    exact Nat.and_two_pow_sub_one_eq_mod _ 23
  rw [hmask, BitVec.toNat_setWidth, BitVec.toNat_udiv, BitVec.toNat_shiftLeft, hlow, Nat.shiftLeft_eq]
  show ts.toNat / 64 % 2 ^ 23 * 2 ^ 6 % 2 ^ 64 / 64 % 2 ^ 32 = _
  omega

theorem toNat_baseTime (ts : BitVec 64) : ((ts >>> 6) * 64).toNat = ts.toNat / 64 * 64 := by
  have hlt := ts.isLt
  rw [BitVec.toNat_mul, BitVec.toNat_ushiftRight, Nat.shiftRight_eq_div_pow]
  exact Nat.mod_eq_of_lt (by show ts.toNat / 2 ^ 6 * 64 < 2 ^ 64; omega)

theorem Fresh.built (h : Fresh p) (bound : ℕ) : Built bound [] p where
  statuses := by
    rw [FeedbackRtpTransportPacket.statuses, h.chunks, h.context]
    rfl
  received := h.deltas
  chunks := by
    rw [h.chunks]
    exact fun c hmem => absurd hmem not_mem_nil
  count := by
    rw [FeedbackRtpTransportPacket.statuses, h.chunks, h.count]
    rfl
  size := by
    rw [h.counted, h.chunks, h.deltas]
    rfl

/-- **The first packet** is the base of a feedback packet that is about nothing yet. -/
theorem covers_setBase (h : Fresh p) (bound : ℕ) (seq : BitVec 16) {ts : BitVec 64} (htime : 64 ≤ ts.toNat) :
    Covers bound seq [] (p.setBase seq ts) := by
  have href := toNat_referenceTime ts
  have hseed := toNat_baseTime ts
  refine ⟨rfl, (add_zero _).symm, fun hzero => ?_, h.unsized, ?_, ?_, [],
    (ts >>> 6) * 64, (h.built bound).congr rfl rfl rfl rfl rfl, .nil _, ?_⟩
  · have hzero : ((ts >>> 6) * 64).toNat = 0 := congrArg BitVec.toNat hzero
    omega
  · show (((ts &&& 0x1FFFFFC0) / 64).setWidth 32).toNat < 2 ^ 23
    omega
  · show p.context.Settled
    rw [h.context]
    exact ⟨Context.Sound.of_empty rfl, fun hne => absurd rfl hne⟩
  · show (((ts &&& 0x1FFFFFC0) / 64).setWidth 32).toInt * 64 ≡ _ [ZMOD 2 ^ 29]
    rw [BitVec.toInt_eq_toNat_of_lt (by omega), href, hseed]
    unfold Int.ModEq
    omega

section Covers

variable {bound : ℕ} {first : BitVec 16} {times : List (Option (BitVec 64))} {p : LocalPacket}

theorem Covers.length_eq (h : Covers bound first times p) :
    p.statuses.length + p.context.statuses.length = times.length := by
  obtain ⟨deltas, seed, hbuilt, hspells, -⟩ := h.spelled
  rw [← length_append, hbuilt.statuses, length_map, hspells.length_eq]

theorem Covers.empty (h : Covers bound first [] p) : p.deltasAndChunksSize = 0 := by
  obtain ⟨deltas, seed, hbuilt, hspells, -⟩ := h.spelled
  have hnil : deltas = [] := eq_nil_of_length_eq_zero hspells.length_eq
  have hsts := hbuilt.statuses
  rw [hnil, map_nil, append_eq_nil_iff] at hsts
  have hcs : p.chunks = [] := by
    refine eq_nil_iff_forall_not_mem.mpr fun c hmem => ?_
    have hnone : c.statuses = [] := flatMap_eq_nil_iff.mp hsts.1 c hmem
    have hfull := hbuilt.chunks c hmem
    cases c with
    | runLength st n =>
      exact ne_of_gt hfull.1 ((replicate_eq_nil_iff _).mp hnone)
    | oneBitVector ss => exact hfull.elim
    | twoBitVector ss =>
      have hseven : ss.length = 7 := hfull
      rw [show ss = [] from hnone] at hseven
      cases hseven
  rw [hbuilt.size, hbuilt.received, hcs, hnil]
  rfl

section

variable (h : Covers bound first times p)

include h

theorem Covers.setSsrcs (senderSsrc mediaSsrc : BitVec 32) :
    Covers bound first times { p with senderSsrc, mediaSsrc } := by
  obtain ⟨deltas, seed, hbuilt, hspells, href⟩ := h.spelled
  exact ⟨h.base, h.latest, h.based, h.unsized, h.reference, h.settled, deltas, seed,
    hbuilt.congr rfl rfl rfl rfl rfl, hspells, href⟩

theorem Covers.not_full (hfew : times.length < 65528) : p.isFull = false := by
  have hlen := h.length_eq
  obtain ⟨deltas, seed, hbuilt, -, -⟩ := h.spelled
  rw [isFull, hbuilt.count, BitVec.toNat_ofNat, decide_eq_false_iff_not, maxPacketStatusCount,
    Nat.mod_eq_of_lt (by omega)]
  omega

section

variable (hbound : bound < 2 ^ 16) (hseven : 7 ≤ bound) (hds : p.deltas.length ≤ bound)

include hbound hseven hds

/-- **A newer packet**, and the missing ones before it, if these are not too many for a run. -/
theorem Covers.withArrival {a : Arrival} (htime : a.timestamp ≠ 0)
    (hgap : (a.sequenceNumber - (p.latestSequenceNumber + 1)).toNat - p.room ≤ bound) {d : BitVec 16}
    (hdelta : ((a.timestamp - p.latestTimestamp) * 4).toInt = d.toInt) : Covers bound first
      (times ++ (replicate (a.sequenceNumber - (p.latestSequenceNumber + 1)).toNat none ++
        [some a.timestamp])) (p.withArrival a d) ∧
      (p.withArrival a d).deltas.length = p.deltas.length + 1 := by
  obtain ⟨deltas, seed, hbuilt, hspells, href⟩ := h.spelled
  have hpend := hbuilt.pending_le h.settled.toSound
  have hbuilt' := fillChunk_built hbuilt hbound hseven h.settled (by omega) hgap d
  have hset' := settled_fillChunk h.settled p.latestSequenceNumber a.sequenceNumber d
  have hfix :=
    fixed_fillChunk p.latestSequenceNumber a.sequenceNumber d p
  rw [LocalPacket.withArrival]
  generalize p.fillChunk p.latestSequenceNumber a.sequenceNumber d = q at *
  simp only [fixed, Prod.mk.injEq] at hfix
  obtain ⟨hbase, hreference, -, hsize, -⟩ := hfix
  refine ⟨⟨hbase.trans h.base, ?_, htime, hsize.trans h.unsized, ?_, hset', ?_⟩, ?_⟩
  · show a.sequenceNumber = _
    rw [length_append, BitVec.ofNat_add, ← add_assoc, ← h.latest, length_append,
      length_replicate, length_singleton, succ_add_missing]
  · show q.referenceTime.toNat < _
    rw [hreference]
    exact h.reference
  · refine ⟨_, seed, hbuilt'.congr rfl rfl rfl rfl rfl, ?_, ?_⟩
    · rw [append_assoc]
      exact hspells.append ((Spells.replicate_missing _ _).append (.received hdelta (.nil _)))
    · show q.referenceTime.toInt * 64 ≡ _ [ZMOD _]
      rw [hreference]
      exact href
  · show q.deltas.length = _
    rw [hbuilt'.received, hbuilt.received, reduceOption_append, reduceOption_append,
      reduceOption_replicate_none, append_nil, length_append]
    rfl

/-- **The end of a packet**: `AddPendingChunks` does not fail, and the results report the times. -/
theorem Covers.finish :
    ∃ p' deltas, p.addPendingChunks = .ok p' ∧ Finished bound deltas p' ∧ p'.fixed = p.fixed ∧
      p'.deltas = p.deltas ∧ deltas.length = times.length ∧ ∃ results, p'.getPacketResults = .ok results ∧
        Reports first times results := by
  obtain ⟨deltas, seed, hbuilt, hspells, href⟩ := h.spelled
  have hpending := hbuilt.pending_le h.settled.toSound
  obtain ⟨p', hp', hfin, hfix⟩ :=
    addPendingChunks_finished hbuilt hbound h.settled (by omega)
  refine ⟨p', deltas, hp', hfin, hfix, hfin.received.trans hbuilt.received.symm,
    hspells.length_eq, _, getPacketResults_eq hfin.statuses hfin.received, ?_⟩
  simp only [fixed, Prod.mk.injEq] at hfix
  obtain ⟨hbase, hreference, -⟩ := hfix
  rw [hbase, hreference, h.base, BitVec.add_sub_cancel]
  exact hspells.reports href first

end

end

end Covers

end LocalPacket

/-! ## Runs of `AddPacket` -/

structure Call extends Arrival where
  maxRtcpPacketLen : ℕ
  deriving DecidableEq, Repr

structure ChunkRun where
  packet : LocalPacket
  accepted : List Arrival := []
  deriving DecidableEq, Repr

namespace ChunkRun

def new (senderSsrc mediaSsrc : BitVec 32) : ChunkRun where
  packet := { senderSsrc, mediaSsrc }

def step (s : ChunkRun) (call : Call) : Except Fault ChunkRun := do
  let (packet, _) ← s.packet.addPacket call.sequenceNumber call.timestamp call.maxRtcpPacketLen
  return { packet, accepted :=
    if packet.deltas.length = s.packet.deltas.length then s.accepted
    else s.accepted ++ [call.toArrival] }

def Regular (s : ChunkRun) (call : Call) : Prop :=
  call.timestamp ≠ 0 ∧ s.packet.context.statuses.length < 2 ^ 16

instance (s : ChunkRun) (call : Call) : Decidable (s.Regular call) :=
  inferInstanceAs (Decidable (_ ∧ _))

structure Spelled (s : ChunkRun) : Prop where
  built : ∃ deltas, s.packet.Built 65535 deltas ∧ deltas.map Option.isSome =
    (reportOf (s.packet.baseSequenceNumber - 1) s.accepted).map Option.isSome
  latest : s.packet.latestTimestamp ≠ 0 → s.packet.latestSequenceNumber + 1 = s.packet.baseSequenceNumber +
      BitVec.ofNat 16 (reportOf (s.packet.baseSequenceNumber - 1) s.accepted).length
  unbased : s.packet.latestTimestamp = 0 → s.accepted = []

variable {s s' : ChunkRun} {call : Call}

theorem step_settled (h : s.packet.context.Settled) (hstep : s.step call = .ok s') :
    s'.packet.context.Settled := by
  obtain ⟨⟨q, r⟩, hadd, hs'⟩ := bind_eq_ok.mp hstep
  cases hs'
  rcases LocalPacket.addPacket_eq_ok hadd with ⟨-, rfl⟩ | rfl | ⟨-, -, d, rfl⟩
  · exact h
  · exact h
  · exact LocalPacket.settled_fillChunk h _ _ d

theorem Spelled.step (h : s.Spelled) (hset : s.packet.context.Settled) (hreg : s.Regular call)
    (hstep : s.step call = .ok s') : s'.Spelled := by
  obtain ⟨⟨q, result⟩, hadd, hs'⟩ := bind_eq_ok.mp hstep
  cases hs'
  obtain ⟨deltas, hbuilt, hreceived⟩ := h.built
  rcases LocalPacket.addPacket_eq_ok hadd with ⟨hbase, rfl⟩ | rfl | ⟨hbase, hnewer, d, rfl⟩
  · rw [show (s.packet.setBase _ _).deltas = s.packet.deltas from rfl, if_pos rfl]
    have hnone := h.unbased hbase
    rw [hnone] at hreceived ⊢
    exact ⟨⟨deltas, hbuilt.congr rfl rfl rfl rfl rfl, hreceived⟩, fun _ => (add_zero _).symm,
      fun _ => rfl⟩
  · rw [if_pos rfl]
    exact h
  · have hgap : (call.sequenceNumber - (s.packet.latestSequenceNumber + 1)).toNat - s.packet.room ≤
        65535 := by
      have := (call.sequenceNumber - (s.packet.latestSequenceNumber + 1)).isLt
      omega
    have hbuilt' := LocalPacket.fillChunk_built hbuilt (by decide) (by decide) hset
      (Nat.le_of_lt_succ hreg.2) hgap d
    have hfix :=
      LocalPacket.fixed_fillChunk s.packet.latestSequenceNumber call.sequenceNumber d s.packet
    have hlatest := h.latest hbase
    rw [LocalPacket.withArrival]
    generalize s.packet.fillChunk s.packet.latestSequenceNumber call.sequenceNumber d = q at *
    simp only [LocalPacket.fixed, Prod.mk.injEq] at hfix
    have hmore : q.deltas.length ≠ s.packet.deltas.length := by
      rw [hbuilt'.received, hbuilt.received, reduceOption_append, reduceOption_append,
        reduceOption_replicate_none, append_nil, length_append]
      exact Nat.succ_ne_self _
    have hnext : s.packet.baseSequenceNumber - 1 + BitVec.ofNat 16
        (reportOf (s.packet.baseSequenceNumber - 1) s.accepted).length = s.packet.latestSequenceNumber := by
      bv_omega
    have hrep : reportOf (s.packet.baseSequenceNumber - 1) (s.accepted ++ [call.toArrival]) =
        reportOf (s.packet.baseSequenceNumber - 1) s.accepted ++
          (replicate (call.sequenceNumber - (s.packet.latestSequenceNumber + 1)).toNat none ++
            [some call.timestamp]) := by
      rw [reportOf_append, hnext, reportOf, if_pos hnewer]
      rfl
    rw [if_neg hmore]
    refine ⟨⟨_, hbuilt'.congr rfl rfl rfl rfl rfl, ?_⟩, fun _ => ?_, fun hzero => absurd hzero hreg.1⟩
    · show _ = (reportOf (q.baseSequenceNumber - 1) _).map _
      rw [hfix.1, hrep]
      simp [hreceived]
    · show call.sequenceNumber + 1 = q.baseSequenceNumber +
        BitVec.ofNat 16 (reportOf (q.baseSequenceNumber - 1) _).length
      have hsucc := succ_add_missing s.packet.latestSequenceNumber call.sequenceNumber
      rw [hfix.1, hrep, length_append, BitVec.ofNat_add, ← add_assoc, ← hlatest,
        length_append, length_replicate, length_singleton]
      bv_omega

theorem spelled_new (sender media : BitVec 32) : (new sender media).Spelled where
  built := ⟨[], LocalPacket.Fresh.built ⟨rfl, rfl, rfl, rfl, rfl, rfl, rfl⟩ 65535, rfl⟩
  latest := fun hbase => absurd rfl hbase
  unbased := fun _ => rfl

/-- **The context is coherent** after every sequence of calls. The statuses in the chunks and in the
context spell out the numbers from the base to the latest one, if no packet arrives at the time 0, which
stands for no base, and the pending statuses can be counted. -/
theorem context_coherent (senderSsrc mediaSsrc : BitVec 32) (calls : List Call)
    (hrun : run step (new senderSsrc mediaSsrc) calls = .ok s) :
    (s.packet.context.allSameStatus = true →
      ∀ status ∈ s.packet.context.statuses, status = s.packet.context.currentStatus) ∧
    (s.packet.context.allSameStatus = false → s.packet.context.statuses.length < 7) ∧
    (∃ p, s.packet.addPendingChunks = .ok p) ∧ (RunMeets step Regular (new senderSsrc mediaSsrc) calls →
      (s.packet.statuses ++ s.packet.context.statuses).map Status.received =
        (reportOf (s.packet.baseSequenceNumber - 1) s.accepted).map Option.isSome ∧
      (s.packet.latestTimestamp ≠ 0 → s.packet.latestSequenceNumber + 1 = s.packet.baseSequenceNumber +
        BitVec.ofNat 16 (s.packet.statuses ++ s.packet.context.statuses).length)) := by
  have hnew : (new senderSsrc mediaSsrc).packet.context.Settled :=
    ⟨Context.Sound.of_empty rfl, fun hne => absurd rfl hne⟩
  have hsettled := inv_of_run_ok (fun _ _ _ h hstep => step_settled h hstep) hnew hrun
  refine ⟨fun hsame status hmem => ?_, hsettled.length_lt, ?_, fun hregular => ?_⟩
  · exact hsettled.same hsame (hsettled.last (List.ne_nil_of_mem hmem)) status hmem
  · rw [LocalPacket.addPendingChunks]
    split_ifs with hempty hsame
    · exact ⟨_, rfl⟩
    · exact ⟨_, rfl⟩
    · rw [decide_eq_true (hsettled.length_lt (Bool.not_eq_true _ ▸ hsame))]
      exact ⟨_, rfl⟩
  · have hmeets := run_meets_of_inv (I := fun s => s.Spelled ∧ s.packet.context.Settled)
      (Q := fun _ => True) (fun s call hs hcall => Meets.of_ok fun s' hstep =>
        ⟨hs.1.step hs.2 hcall hstep, step_settled hs.2 hstep⟩) ⟨spelled_new _ _, hnew⟩ hregular
    rw [hrun] at hmeets
    have hspelled : s.Spelled := hmeets.1
    obtain ⟨deltas, hbuilt, hreceived⟩ := hspelled.built
    have hstatuses : (s.packet.statuses ++ s.packet.context.statuses).map Status.received =
        (reportOf (s.packet.baseSequenceNumber - 1) s.accepted).map Option.isSome := by
      rw [hbuilt.statuses, List.map_map, ← hreceived]
      exact List.map_congr_left fun delta _ => received_statusOf delta
    refine ⟨hstatuses, fun hbase => ?_⟩
    have hlength := congrArg List.length hstatuses
    rw [List.length_map, List.length_map] at hlength
    rw [hlength]
    exact hspelled.latest hbase

def fewCalls : List Call :=
  [⟨⟨65533, 100⟩, 1500⟩, ⟨⟨65535, 110⟩, 1500⟩, ⟨⟨2, 900⟩, 1500⟩, ⟨⟨1, 910⟩, 1500⟩]

theorem context_coherent_fewCalls :
    RunMeets step Regular (new 1 2) fewCalls ∧ ∃ s, run step (new 1 2) fewCalls = .ok s ∧
      (s.packet.statuses ++ s.packet.context.statuses).map Status.received =
        (reportOf (s.packet.baseSequenceNumber - 1) s.accepted).map Option.isSome := by
  have hregular : RunMeets step Regular (new 1 2) fewCalls := by decide +kernel
  have hrun : ∃ s, run step (new 1 2) fewCalls = .ok s := ⟨_, rfl⟩
  obtain ⟨s, hrun⟩ := hrun
  exact ⟨hregular, s, hrun, ((context_coherent 1 2 fewCalls hrun).2.2.2 hregular).1⟩

def timeZero : List Call := [⟨⟨10, 64⟩, 1500⟩, ⟨⟨11, 0⟩, 1500⟩, ⟨⟨100, 64⟩, 1500⟩]

/-- **The time 0** lets the next packet become the base, although a status is pending. -/
theorem context_not_coherent :
    (run step (new 0 0) timeZero).toOption.map (fun s => (s.packet.baseSequenceNumber,
      s.packet.latestSequenceNumber, s.packet.statuses ++ s.packet.context.statuses)) =
      some (101, 100, [.largeDelta]) := by
  decide +kernel

end ChunkRun

end MediasoupWorker.RTC.RTCP
