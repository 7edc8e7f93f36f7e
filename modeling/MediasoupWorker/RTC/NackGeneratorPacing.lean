import MediasoupWorker.RTC.NackGenerator

/-!
# `NackGenerator`: how often, when and how long a packet is asked for

`GetNackBatch` asks with the filter `SEQ` for a packet that leaves a gap, and with the filter `TIME` by the
timer. With a clock that is never 0 the two do not meet: an entry is asked for under `SEQ` in the call that
adds it, and under `TIME` ever after.
-/

namespace MediasoupWorker.RTC.NackGenerator

open Library List

/-! ## What is asked for -/

section Batch

variable {due : NackInfo → Bool} {now : BitVec 64} {nackList : List NackInfo}

def NackInfo.asked (nowMs : BitVec 64) (info : NackInfo) : NackInfo :=
  { info with retries := info.retries + 1, sentAtMs := nowMs }

theorem nackBatch_cases {info : NackInfo} (h : info ∈ (nackBatch due now nackList).1) :
    (info ∈ nackList ∧ due info = false) ∨
      ∃ old ∈ nackList, due old = true ∧ old.retries + 1 < maxNackRetries ∧
        info = NackInfo.asked now old := by
  induction nackList with
  | nil => exact absurd h not_mem_nil
  | cons first nackList ih =>
    -- an entry of the rest
    have hrest : info ∈ (nackBatch due now nackList).1 → (info ∈ first :: nackList ∧ due info = false) ∨
          ∃ old ∈ first :: nackList, due old = true ∧ old.retries + 1 < maxNackRetries ∧
            info = NackInfo.asked now old := by
      intro hmem
      rcases ih hmem with ⟨hold, hdue⟩ | ⟨old, hold, hasked⟩
      · exact .inl ⟨mem_cons_of_mem _ hold, hdue⟩
      · exact .inr ⟨old, mem_cons_of_mem _ hold, hasked⟩
    rw [nackBatch] at h
    dsimp only at h
    split_ifs at h with hdue hmax
    · exact hrest h
    · rcases mem_cons.mp h with rfl | h
      · exact .inr ⟨first, mem_cons_self, hdue, not_le.mp hmax, rfl⟩
      · exact hrest h
    · rcases mem_cons.mp h with rfl | h
      · exact .inl ⟨mem_cons_self, by simpa using hdue⟩
      · exact hrest h

theorem mem_nackBatch {seq : BitVec 16} :
    seq ∈ (nackBatch due now nackList).2 ↔ ∃ info ∈ nackList, due info = true ∧ info.seq = seq := by
  induction nackList with
  | nil => simp [nackBatch]
  | cons first nackList ih =>
    rw [nackBatch]
    dsimp only
    by_cases hdue : due first = true
    · rw [if_pos hdue]
      simp only [mem_cons, exists_eq_or_imp, ih, hdue, true_and]
      exact or_congr_left eq_comm
    · rw [if_neg hdue]
      simp only [mem_cons, exists_eq_or_imp, ih, hdue, false_and, false_or, Bool.false_eq_true]

end Batch

def askedFor (output : List Output) : List (BitVec 16) :=
  output.flatMap fun
    | .nackRequired seqNumbers => seqNumbers
    | .keyFrameRequired => []

@[simp] theorem askedFor_nil : askedFor [] = [] := rfl

@[simp] theorem askedFor_append (output output' : List Output) :
    askedFor (output ++ output') = askedFor output ++ askedFor output' :=
  flatMap_append ..

@[simp] theorem askedFor_notify (batch : List (BitVec 16)) : askedFor (notify batch) = batch := by
  cases batch with
  | nil => rfl
  | cons seq batch => simp [notify, askedFor]

theorem addPacketsToNackList_new {trees : Trees} {seq : BitVec 16} {g g' : NackGenerator}
    {output : List Output} (hlist : NackOrder g.lastSeq g.nackSeqs)
    (h : g.addPacketsToNackList trees (g.lastSeq + 1) seq = .ok (g', output)) :
    askedFor output = [] ∧ ∀ info ∈ g'.nackList, info ∈ g.nackList ∨
      (info.seq ∉ g.nackSeqs ∧ info = .missing info.seq) := by
  rcases addPacketsToNackList_cases h with ⟨rfl, rfl⟩ | ⟨hroom, rfl, nackList, hadd, rfl⟩
  · exact ⟨rfl, fun info hinfo => absurd hinfo not_mem_nil⟩
  · refine ⟨rfl, fun info hinfo => ?_⟩
    rcases mem_of_mem_addMissing hadd hinfo with hmem | ⟨i, hi, rfl⟩
    · exact .inl (mem_of_mem_drop ((makeRoomFor_suffix ..).1.subset hmem))
    · refine .inr ⟨hlist.not_mem ?_, rfl⟩
      -- the missing numbers are ahead of the last one, by less than half a circle
      have hsizes : maxNackPackets < maxValue 16 / 2 ∧ maxValue 16 / 2 < 2 ^ 16 := by decide
      have hdist : cdist g.lastSeq (g.lastSeq + 1 + BitVec.ofNat 16 i) = i + 1 := by
        rw [add_one_add_ofNat, cdist_add (by rw [cdist_self]; omega), cdist_self, zero_add]
      rw [Bool.eq_false_iff]
      intro hlow
      have hlt := (isSeqLowerThan_iff_cdist (p := g.lastSeq) (by decide)
        (by show cdist _ (g.lastSeq + 1 + BitVec.ofNat 16 i) ≤ _; omega)
        (by rw [cdist_self]; omega)).mp hlow
      rw [cdist_self] at hlt
      omega

/-! ## The requests for each number -/

def Event.time : Event → Option (BitVec 64)
  | .receivePacket _ nowMs _ _ _ => some nowMs
  | .timer nowMs => some nowMs
  | .updateRtt _ => none
  | .reset => none

def Event.seq : Event → Option (BitVec 16)
  | .receivePacket _ _ seq _ _ => some seq
  | .timer _ => none
  | .updateRtt _ => none
  | .reset => none

structure Paced where
  generator : NackGenerator := {}
  nowMs : BitVec 64 := 0
  requests : BitVec 16 → List (BitVec 64) := fun _ => []
  received : BitVec 16 → Bool := fun _ => false

namespace Paced

def earlier (p : Paced) (seq : BitVec 16) : List (BitVec 64) :=
  if seq ∈ p.generator.nackSeqs then p.requests seq else []

def follow (p : Paced) (event : Event) (generator : NackGenerator) (output : List Output) : Paced :=
  let nowMs := event.time.getD p.nowMs
  { generator, nowMs
    requests := fun seq => (if seq ∈ askedFor output then [nowMs] else []) ++ p.earlier seq
    received := fun seq =>
      event.seq == some seq || (decide (seq ∈ p.generator.nackSeqs) && p.received seq) }

def step (p : Paced) (event : Event) : Except Fault (Paced × List Output) := do
  let (generator, output) ← p.generator.step event
  return (p.follow event generator output, output)

def next (p : Paced) (event : Event) : Except Fault Paced := Prod.fst <$> p.step event

def OnTime (p : Paced) (event : Event) : Prop :=
  ∀ nowMs ∈ event.time, 0 < nowMs.toNat ∧ p.nowMs.toNat ≤ nowMs.toNat

structure Paces (p : Paced) (event : Event) (p' : Paced) (output : List Output) : Prop where
  listed : ∀ seq ∈ askedFor output, seq ∈ p.generator.nackSeqs ∨ seq ∈ p'.generator.nackSeqs
  bounded : ∀ seq, (p'.requests seq).length ≤ maxNackRetries
  immediate : ∀ seq ∈ p'.generator.nackSeqs, seq ∉ p.generator.nackSeqs →
    event.seq.isSome = true ∧ seq ∈ askedFor output
  apart : ∀ seq ∈ askedFor output, seq ∈ p.generator.nackSeqs → ∀ last ∈ (p.requests seq).head?,
    last.toNat + p.generator.rtt.toNat ≤ p'.nowMs.toNat
  missing : ∀ seq ∈ askedFor output, p'.received seq = false
  armed : p'.generator.nackList ≠ [] → p'.generator.timerActive = true

structure Asked (nowMs : BitVec 64) (requests : List (BitVec 64)) (info : NackInfo) : Prop where
  length : requests.length = info.retries
  retries_lt : info.retries < maxNackRetries
  last : requests.head? = some info.sentAtMs
  sent : info.sentAtMs ≠ 0
  sent_le : info.sentAtMs.toNat ≤ nowMs.toNat

structure Inv (p : Paced) : Prop where
  inv : p.generator.Inv
  asked : ∀ info ∈ p.generator.nackList, Asked p.nowMs (p.requests info.seq) info
  missing : ∀ seq ∈ p.generator.nackSeqs, p.received seq = false
  armed : p.generator.nackList ≠ [] → p.generator.timerActive = true

theorem inv_new : Inv {} where
  inv := NackGenerator.inv_new
  asked := fun _ h => absurd h not_mem_nil
  missing := fun _ h => absurd h not_mem_nil
  armed := fun h => absurd rfl h

variable {nowMs : BitVec 64} {p : Paced} {event : Event} {gen : NackGenerator}
  {output : List Output} {seq : BitVec 16} {trees : Trees}

theorem Asked.mono {now' : BitVec 64} {requests : List (BitVec 64)} {info : NackInfo}
    (h : Asked nowMs requests info) (hle : nowMs.toNat ≤ now'.toNat) : Asked now' requests info :=
  { h with sent_le := h.sent_le.trans hle }

theorem nowMs_le_follow (htime : p.OnTime event) (gen : NackGenerator) (output : List Output) :
    p.nowMs.toNat ≤ (p.follow event gen output).nowMs.toNat := by
  unfold follow
  cases ht : event.time with
  | none => exact le_rfl
  | some nowMs => exact (htime nowMs ht).2

theorem Inv.earlier_eq (h : p.Inv) {info : NackInfo} (hinfo : info ∈ p.generator.nackList) :
    Asked p.nowMs (p.earlier info.seq) info := by
  have hmem : info.seq ∈ p.generator.nackSeqs := mem_map_of_mem hinfo
  rw [earlier, if_pos hmem]
  exact h.asked info hinfo

theorem Inv.earlier_length (h : p.Inv) (seq : BitVec 16) : (p.earlier seq).length < maxNackRetries := by
  by_cases hmem : seq ∈ p.generator.nackSeqs
  · obtain ⟨info, hinfo, rfl⟩ := mem_map.mp hmem
    have hasked := h.earlier_eq hinfo
    rw [hasked.length]
    exact hasked.retries_lt
  · rw [earlier, if_neg hmem]
    decide

theorem Inv.bounded (h : p.Inv) (event : Event) (gen : NackGenerator) (output : List Output)
    (seq : BitVec 16) : ((p.follow event gen output).requests seq).length ≤ maxNackRetries := by
  have hlen := h.earlier_length seq
  show ((if seq ∈ askedFor output then _ else _) ++ p.earlier seq).length ≤ maxNackRetries
  rw [length_append]
  split_ifs
  · rw [length_singleton]
    omega
  · rw [length_nil]
    omega

/-- **Events that ask for nothing.** Entries may leave, and if the event brings a packet its number
is not in the list afterwards. -/
theorem Inv.quiet (h : p.Inv) (htime : p.OnTime event) (hinv : gen.Inv)
    (hsub : ∀ info ∈ gen.nackList, info ∈ p.generator.nackList) (hseq : ∀ seq ∈ event.seq, seq ∉ gen.nackSeqs)
    (htimer : gen.timerActive = p.generator.timerActive) :
    (p.follow event gen []).Inv ∧ Paces p event (p.follow event gen []) [] := by
  have hseqs : ∀ seq ∈ gen.nackSeqs, seq ∈ p.generator.nackSeqs := by
    intro seq hmem
    obtain ⟨info, hinfo, rfl⟩ := mem_map.mp hmem
    exact mem_map_of_mem (hsub info hinfo)
  have harmed : gen.nackList ≠ [] → gen.timerActive = true := by
    intro hne
    obtain ⟨info, hinfo⟩ := exists_mem_of_ne_nil _ hne
    rw [htimer]
    exact h.armed (ne_nil_of_mem (hsub info hinfo))
  constructor
  · refine ⟨hinv, fun info hinfo => ?_, fun seq hmem => ?_, harmed⟩
    · exact (h.earlier_eq (hsub info hinfo)).mono (nowMs_le_follow htime gen [])
    · have hne : event.seq ≠ some seq := fun heq => hseq seq heq hmem
      show (event.seq == some seq || (_ && p.received seq)) = false
      rw [h.missing seq (hseqs seq hmem), Bool.and_false, Bool.or_false]
      simpa using hne
  · exact ⟨by simp, h.bounded event gen [], fun seq hmem hnot => absurd (hseqs seq hmem) hnot,
      by simp, by simp, harmed⟩

/-- **Events that ask for what is due.** Each entry has been asked for as often as it says, and
those not due have been asked for already. -/
theorem asked_of_nackBatch {due : NackInfo → Bool} {nackList : List NackInfo} (htime : p.OnTime event)
    (hnow : event.time = some nowMs) (hnd : (nackList.map NackInfo.seq).Nodup)
    (hpre : ∀ info ∈ nackList, (p.earlier info.seq).length = info.retries ∧
      (due info = false → Asked p.nowMs (p.earlier info.seq) info))
    (hout : askedFor output = (nackBatch due nowMs nackList).2)
    (hkept : gen.nackList = (nackBatch due nowMs nackList).1) :
    ∀ info ∈ gen.nackList, Asked nowMs ((p.follow event gen output).requests info.seq) info := by
  obtain ⟨hpos, hle⟩ := htime nowMs hnow
  intro info hinfo
  show Asked nowMs ((if info.seq ∈ askedFor output then [event.time.getD p.nowMs] else []) ++
    p.earlier info.seq) info
  rw [hnow, Option.getD_some, hout]
  rw [hkept] at hinfo
  rcases nackBatch_cases hinfo with ⟨hold, hdue⟩ | ⟨old, hold, hdue, hretry, rfl⟩
  · have hnot : info.seq ∉ (nackBatch due nowMs nackList).2 := by
      rw [mem_nackBatch]
      rintro ⟨other, hother, hdue', hseq⟩
      -- no other entry has the number
      rw [inj_on_of_nodup_map hnd hother hold hseq, hdue] at hdue'
      cases hdue'
    rw [if_neg hnot, nil_append]
    exact ((hpre info hold).2 hdue).mono hle
  · have hasked : (NackInfo.asked nowMs old).seq ∈ (nackBatch due nowMs nackList).2 :=
      mem_nackBatch.mpr ⟨old, hold, hdue, rfl⟩
    rw [if_pos hasked]
    refine ⟨?_, hretry, rfl, ?_, Nat.le_refl _⟩
    · show ([nowMs] ++ p.earlier old.seq).length = old.retries + 1
      rw [length_append, (hpre old hold).1, length_singleton, add_comm]
    · rintro (hzero : nowMs = 0)
      rw [hzero] at hpos
      exact absurd hpos (by decide)

theorem Inv.timer (h : p.Inv) (htime : p.OnTime (.timer nowMs)) (hinv : gen.Inv)
    (hstep : p.generator.onTimer nowMs = (gen, output)) : (p.follow (.timer nowMs) gen output).Inv ∧
      Paces p (.timer nowMs) (p.follow (.timer nowMs) gen output) output := by
  set due := ({ p.generator with timerActive := false } : NackGenerator).isDue .time nowMs
  have hg : gen.nackList = (nackBatch due nowMs p.generator.nackList).1 ∧
      (gen.nackList ≠ [] → gen.timerActive = true) ∧
      askedFor output = (nackBatch due nowMs p.generator.nackList).2 := by
    rw [onTimer_eq] at hstep
    cases hstep
    refine ⟨rfl, fun hne => ?_, askedFor_notify _⟩
    have hsome : (nackBatch due nowMs p.generator.nackList).1 ≠ [] := hne
    show (!(nackBatch due nowMs p.generator.nackList).1.isEmpty) = true
    simpa using hsome
  obtain ⟨hkept, harmed, hout⟩ := hg
  have hnd : (p.generator.nackList.map NackInfo.seq).Nodup := h.inv.ordered.nodup
  have hseqs : ∀ seq ∈ gen.nackSeqs, seq ∈ p.generator.nackSeqs := by
    rw [nackSeqs, hkept]
    exact fun seq hseq => (nackBatch_sublist _).1.subset hseq
  have hasked : ∀ seq ∈ askedFor output, seq ∈ p.generator.nackSeqs := by
    intro seq hseq
    rw [hout] at hseq
    exact (nackBatch_sublist _).2.subset hseq
  have hgap : ∀ seq ∈ p.generator.nackSeqs, (p.follow (.timer nowMs) gen output).received seq = false := by
    intro seq hseq
    show (false || (_ && p.received seq)) = false
    rw [h.missing seq hseq, Bool.and_false, Bool.or_false]
  constructor
  · refine ⟨hinv, ?_, fun seq hseq => hgap seq (hseqs seq hseq), harmed⟩
    refine asked_of_nackBatch htime rfl hnd (fun info hinfo => ?_) hout hkept
    have := h.earlier_eq hinfo
    exact ⟨this.length, fun _ => this⟩
  · refine ⟨fun seq hseq => .inl (hasked seq hseq), h.bounded _ _ _,
      fun seq hseq hnot => absurd (hseqs seq hseq) hnot, ?_,
      fun seq hseq => hgap seq (hasked seq hseq), harmed⟩
    intro seq hseq _ last hlast
    rw [hout, mem_nackBatch] at hseq
    obtain ⟨info, hinfo, hdue, rfl⟩ := hseq
    have hasked := h.asked info hinfo
    rw [hasked.last] at hlast
    obtain rfl : info.sentAtMs = last := Option.some.inj hlast
    have hrtt : p.generator.rtt.toNat ≤ (nowMs - info.sentAtMs).toNat := of_decide_eq_true hdue
    have hle : info.sentAtMs.toNat ≤ nowMs.toNat := hasked.sent_le.trans (htime nowMs rfl).2
    show info.sentAtMs.toNat + p.generator.rtt.toNat ≤ nowMs.toNat
    rw [BitVec.toNat_sub_of_le (BitVec.le_def.mpr hle)] at hrtt
    omega

/-- **A packet that becomes the last one.** What is due under the filter `SEQ` are the entries that
have just been added. -/
theorem Inv.newer (h : p.Inv) {g : NackGenerator} {out : List Output} (htime : p.OnTime event)
    (hnow : event.time = some nowMs) (he : event.seq = some seq) (hordered : NackOrder seq g.nackSeqs)
    (hout : askedFor out = []) (hnew : ∀ info ∈ g.nackList, info ∈ p.generator.nackList ∨
      (info.seq ∉ p.generator.nackSeqs ∧ info = .missing info.seq)) (hinv : gen.Inv)
    (hg : gen = (g.advance nowMs seq).1) (houtput : output = out ++ notify (g.advance nowMs seq).2) :
    (p.follow event gen output).Inv ∧ Paces p event (p.follow event gen output) output := by
  set due := ({ g with lastSeq := seq } : NackGenerator).isDue .seq nowMs with hdue
  have hkept : gen.nackList = (nackBatch due nowMs g.nackList).1 := by
    rw [hg]
    rfl
  have hasked : askedFor output = (nackBatch due nowMs g.nackList).2 := by
    rw [houtput, askedFor_append, hout, askedFor_notify]
    rfl
  have harmed : gen.nackList ≠ [] → gen.timerActive = true := by
    intro hne
    rw [hkept] at hne
    rw [hg]
    show (g.timerActive || !(nackBatch due nowMs g.nackList).1.isEmpty) = true
    simp [hne]
  -- an old entry is not due, and a new one is
  have hold : ∀ info ∈ g.nackList, info ∈ p.generator.nackList → due info = false := by
    intro info _ hinfo
    have hsent : (info.sentAtMs == 0) = false := beq_eq_false_iff_ne.mpr (h.asked info hinfo).sent
    rw [hdue, isDue, hsent, Bool.false_and]
  have hfresh : ∀ info ∈ g.nackList, due info = true → info.seq ∉ p.generator.nackSeqs ∧
      info = .missing info.seq := by
    intro info hinfo hdue'
    refine (hnew info hinfo).resolve_left fun hmem => ?_
    rw [hold info hinfo hmem] at hdue'
    cases hdue'
  have hdueNew : ∀ info ∈ g.nackList, info.seq ∉ p.generator.nackSeqs → due info = true := by
    intro info hinfo hnot
    have hgap := ((hnew info hinfo).resolve_left fun hmem => hnot (mem_map_of_mem hmem)).2
    have hlower : isSeqLowerThan info.seq seq = true := hordered.lower (mem_map_of_mem hinfo)
    rw [hdue, isDue, hgap]
    show ((0 : BitVec 64) == 0 && (info.seq == seq || isSeqHigherThan seq info.seq)) = true
    rw [isSeqHigherThan_eq, hlower, Bool.or_true]
    rfl
  have hrec : ∀ x ∈ g.nackSeqs, (p.follow event gen output).received x = false := by
    intro x hx
    have hne : event.seq ≠ some x := by
      rw [he]
      intro heq
      obtain rfl := Option.some.inj heq
      exact hordered.not_mem (isSeqLowerThan_self seq) hx
    show (event.seq == some x || (decide (x ∈ p.generator.nackSeqs) && p.received x)) = false
    rw [beq_eq_false_iff_ne.mpr hne, Bool.false_or]
    by_cases hmem : x ∈ p.generator.nackSeqs
    · rw [h.missing x hmem, Bool.and_false]
    · rw [decide_eq_false hmem, Bool.false_and]
  have hseqs : ∀ x ∈ gen.nackSeqs, x ∈ g.nackSeqs := by
    intro x hx
    rw [nackSeqs, hkept] at hx
    exact (nackBatch_sublist _).1.subset hx
  have hbatch : ∀ x ∈ askedFor output, ∃ info ∈ g.nackList, due info = true ∧ info.seq = x := by
    intro x hx
    rw [hasked] at hx
    exact mem_nackBatch.mp hx
  constructor
  · refine ⟨hinv, ?_, fun x hx => hrec x (hseqs x hx), harmed⟩
    have hnowMs : (p.follow event gen output).nowMs = nowMs := by
      show event.time.getD p.nowMs = nowMs
      rw [hnow]
      rfl
    rw [hnowMs]
    refine asked_of_nackBatch htime hnow hordered.nodup (fun info hinfo => ?_) hasked hkept
    rcases hnew info hinfo with hmem | ⟨hnot, hgap⟩
    · have := h.earlier_eq hmem
      exact ⟨this.length, fun _ => this⟩
    · refine ⟨?_, fun hdue' => ?_⟩
      · rw [earlier, if_neg hnot, hgap]
        rfl
      · rw [hdueNew info hinfo hnot] at hdue'
        cases hdue'
  · refine ⟨fun x hx => ?_, h.bounded _ _ _, fun x hx hnot => ?_, fun x hx hmem => ?_, fun x hx => ?_, harmed⟩
    · obtain ⟨info, hinfo, hdue', rfl⟩ := hbatch x hx
      have hretry : info.retries + 1 < maxNackRetries := by
        rw [(hfresh info hinfo hdue').2]
        exact Nat.one_lt_ofNat
      right
      show info.seq ∈ gen.nackList.map NackInfo.seq
      rw [hkept]
      exact nackBatch_mem hinfo hretry
    · obtain ⟨info, hinfo, rfl⟩ := mem_map.mp (hseqs x hx)
      refine ⟨by rw [he]; rfl, ?_⟩
      rw [hasked]
      exact mem_nackBatch.mpr ⟨info, hinfo, hdueNew info hinfo hnot, rfl⟩
    · obtain ⟨info, hinfo, hdue', rfl⟩ := hbatch x hx
      exact absurd hmem (hfresh info hinfo hdue').1
    · obtain ⟨info, hinfo, -, rfl⟩ := hbatch x hx
      exact hrec info.seq (mem_map_of_mem hinfo)

theorem not_mem_eraseIdx {it : ℕ} (hinv : gen.Inv) (hfind : trees.nackList.find gen.nackSeqs seq = some it) :
    seq ∉ (gen.nackList.eraseIdx it).map NackInfo.seq := by
  obtain ⟨e, he, hlow, hhi⟩ := Search.not_lt_of_find hfind
  obtain rfl : e = seq := by
    by_contra hne
    rcases lower_or_lower hne with h | h
    · rw [hlow] at h
      cases h
    · rw [hhi] at h
      cases h
  obtain ⟨hit, hget⟩ := List.getElem?_eq_some_iff.mp he
  rw [← List.eraseIdx_map]
  show e ∉ gen.nackSeqs.eraseIdx it
  rw [← hinv.ordered.nodup.erase_getElem it hit, hget]
  exact hinv.ordered.nodup.not_mem_erase

theorem not_mem_of_find_eq_none (hinv : gen.Inv) (hfind : trees.nackList.find gen.nackSeqs seq = none) :
    seq ∉ gen.nackSeqs := by
  intro hmem
  have hhalf : maxPacketAge ≤ maxValue 16 / 2 := by decide
  have hpos := hinv.ordered.below seq hmem
  have hlow : ∀ e ∈ gen.nackSeqs, (isSeqLowerThan e seq = true ↔
      cdist (oldestSeq gen.lastSeq) e < cdist (oldestSeq gen.lastSeq) seq) := by
    intro e he
    have := hinv.ordered.below e he
    exact isSeqLowerThan_iff_cdist (by decide) (by omega) (by omega)
  have hfound : ∃ it, trees.nackList.find gen.nackSeqs seq = some it ∧ gen.nackSeqs[it]? = some seq :=
    Search.find_of_mem hinv.ordered.increasing hlow (isSeqLowerThan_self seq) hmem
  obtain ⟨it, hit, -⟩ := hfound
  rw [hfind] at hit
  cases hit

theorem Inv.receivePacket (h : p.Inv) {key recov ret : Bool}
    (htime : p.OnTime (.receivePacket trees nowMs seq key recov)) (hinv : gen.Inv)
    (hrecv : p.generator.receivePacket trees nowMs seq key recov = .ok (gen, output, ret)) :
    (p.follow (.receivePacket trees nowMs seq key recov) gen output).Inv ∧
      Paces p (.receivePacket trees nowMs seq key recov)
        (p.follow (.receivePacket trees nowMs seq key recov) gen output)
        output := by
  -- the packets that ask for nothing, by what they leave
  have hquiet : output = [] → (∀ info ∈ gen.nackList, info ∈ p.generator.nackList) →
      seq ∉ gen.nackSeqs → gen.timerActive = p.generator.timerActive → _ :=
    fun hout hsub hseq htimer => hout ▸ h.quiet htime hinv hsub
      (fun x hx => by rw [← Option.some.inj hx]; exact hseq) htimer
  cases received_of_receivePacket hrecv with
  | first hst =>
    have hnil : p.generator.nackList = [] := h.inv.empty hst
    refine hquiet rfl (fun _ hinfo => hinfo) ?_ rfl
    show seq ∉ p.generator.nackList.map NackInfo.seq
    rw [hnil]
    exact not_mem_nil
  | repeated hst hseq =>
    refine hquiet rfl (fun _ hinfo => hinfo) (h.inv.ordered.not_mem ?_) rfl
    rw [hseq]
    exact isSeqLowerThan_self _
  | found hst hlow hfind =>
    exact hquiet rfl (fun _ hinfo => mem_of_mem_eraseIdx hinfo)
      (not_mem_eraseIdx h.inv hfind) rfl
  | notFound hst hlow hfind =>
    exact hquiet rfl (fun _ hinfo => hinfo) (not_mem_of_find_eq_none h.inv hfind) rfl
  | ahead hst hne hnewer =>
    exact hquiet rfl (fun _ hinfo => hinfo) (h.inv.ordered.not_mem hnewer) rfl
  | newer hst hne hnewer hadd =>
    set g := p.generator.updateKeyFrameList trees seq key
    have hlist : NackOrder g.lastSeq g.nackSeqs := h.inv.ordered
    obtain ⟨hout, hnew⟩ := addPacketsToNackList_new hlist hadd
    obtain ⟨g', out, hrun, hfill⟩ := addPacketsToNackList_spec trees hlist hne
    have hsame := hadd.symm.trans hrun
    cases hsame
    exact h.newer htime rfl rfl hfill.ordered hout hnew hinv rfl rfl

theorem Inv.step (h : p.Inv) (htime : p.OnTime event) :
    ∃ p' output, p.step event = .ok (p', output) ∧ p'.Inv ∧ Paces p event p' output := by
  obtain ⟨gen, output, hstep, hinv⟩ := step_inv h.inv event
  refine ⟨p.follow event gen output, output, ?_, ?_⟩
  · rw [Paced.step, hstep]
    rfl
  cases event with
  | receivePacket trees nowMs seq key recov =>
    obtain ⟨⟨g, out, ret⟩, hrecv, hret⟩ := bind_eq_ok.mp hstep
    cases hret
    exact h.receivePacket htime hinv hrecv
  | timer nowMs =>
    rw [NackGenerator.step] at hstep
    split_ifs at hstep with hact
    · exact h.timer htime hinv (Except.ok.inj hstep)
    · cases hstep
      exact h.quiet htime hinv (fun _ hinfo => hinfo) (fun _ hseq => by cases hseq) rfl
  | updateRtt rtt =>
    cases hstep
    exact h.quiet htime hinv (fun _ hinfo => hinfo) (fun _ hseq => by cases hseq) rfl
  | reset =>
    cases hstep
    exact h.quiet htime hinv (fun _ hinfo => absurd hinfo not_mem_nil)
      (fun _ hseq => by cases hseq) rfl

def KeepsPace (p : Paced) (event : Event) : Prop :=
  ∀ p' output, p.step event = .ok (p', output) → Paces p event p' output

def times (events : List Event) : List (BitVec 64) := events.filterMap Event.time

structure Clocked (events : List Event) : Prop where
  pos : ∀ nowMs ∈ times events, 0 < nowMs.toNat
  mono : (times events).Pairwise fun earlier later => earlier.toNat ≤ later.toNat

structure Followed (before : List Event) (p : Paced) : Prop where
  inv : p.Inv
  now : p.nowMs = 0 ∨ p.nowMs ∈ times before

theorem Followed.onTime {es pre : List Event} (h : Followed pre p) (hclock : Clocked es)
    (hpre : pre ++ [event] <+: es) : p.OnTime event := by
  intro nowMs htime
  have hsub : (times pre ++ [nowMs]).Sublist (times es) := by
    have hprefix := hpre.sublist.filterMap Event.time
    rwa [filterMap_append, filterMap_cons_some htime] at hprefix
  refine ⟨hclock.pos nowMs (hsub.subset (by simp)), ?_⟩
  rcases h.now with hzero | hmem
  · rw [hzero]
    exact Nat.zero_le _
  · have hpair := hclock.mono.sublist hsub
    exact (pairwise_append.mp hpair).2.2 p.nowMs hmem nowMs (mem_singleton_self _)

theorem Followed.step {es pre : List Event} (h : Followed pre p) (hclock : Clocked es)
    (hpre : pre ++ [event] <+: es) : ∃ p' output, p.step event = .ok (p', output) ∧ p.next event = .ok p' ∧
      Paces p event p' output ∧ Followed (pre ++ [event]) p' := by
  obtain ⟨p', output, hstep, hinv, hpaces⟩ := h.inv.step (h.onTime hclock hpre)
  have hnext : p.next event = .ok p' := by
    rw [next, hstep]
    rfl
  refine ⟨p', output, hstep, hnext, hpaces, hinv, ?_⟩
  obtain ⟨⟨gen, out⟩, -, hret⟩ := bind_eq_ok.mp hstep
  cases hret
  rw [times, filterMap_append]
  show event.time.getD p.nowMs = 0 ∨ event.time.getD p.nowMs ∈ _
  cases htime : event.time with
  | none => exact h.now.imp_right fun hmem => mem_append_left _ hmem
  | some nowMs =>
    right
    exact mem_append_right _ (by simp [htime])

/-- **How packets are asked for**, in every run whose clock is positive and does not go back: only
what is in the list, at once and then at intervals of the round trip time, at most `MaxNackRetries`
times, not after the packet has come, and the timer runs as long as needed. -/
theorem paced (events : List Event) (hclock : Clocked events) :
    (∃ p, run next {} events = .ok p) ∧ RunMeets next KeepsPace {} events := by
  have hnew : Followed [] {} := ⟨inv_new, Or.inl rfl⟩
  constructor
  · have hrun : ∃ p, run next {} events = .ok p ∧ Followed events p := by
      refine run_ok_of_history_inv hnew fun before event p hpre h => ?_
      obtain ⟨p', output, -, hnext, -, h'⟩ := h.step hclock hpre
      exact ⟨p', hnext, h'⟩
    obtain ⟨p, hrun, -⟩ := hrun
    exact ⟨p, hrun⟩
  · refine RunMeets.imp_of_history_inv hnew (fun before event p hpre h _ => ?_)
      (runMeets_true _ events)
    obtain ⟨p', output, hstep, hnext, hpaces, h'⟩ := h.step hclock hpre
    constructor
    · intro q out hq
      have hsame := hq.symm.trans hstep
      cases hsame
      exact hpaces
    · intro q hq
      have hsame := hq.symm.trans hnext
      cases hsame
      exact h'

theorem paced_recovery :
    RunMeets next KeepsPace {} [.receivePacket .linear 1 0 false false,
      .receivePacket .linear 2 2 false false, .timer 102, .receivePacket .linear 110 1 false true] :=
  (paced [.receivePacket .linear 1 0 false false, .receivePacket .linear 2 2 false false,
    .timer 102, .receivePacket .linear 110 1 false true] ⟨by simp [times, Event.time],
      by simp [times, Event.time]⟩).2

end Paced

end MediasoupWorker.RTC.NackGenerator
