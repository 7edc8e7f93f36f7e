import MediasoupWorker.RTC.RTCP.FeedbackRtpTransportRoundTrip

/-!
# The size of feedback that is generated here

`src/src/RTC/RTCP/FeedbackRtpTransport.cpp`. `AddPacket` leaves room for one chunk and one delta when it
compares the size with the limit, but the call can close up to three chunks.
-/

namespace MediasoupWorker.RTC.RTCP

open Library List
open FeedbackRtpTransportPacket

namespace LocalPacket

/-! ## What a call adds -/

structure Grows (p q : LocalPacket) (new : List Chunk) (ds : List (BitVec 16)) : Prop where
  size : q.size = p.size
  chunks : q.chunks = p.chunks ++ new
  deltas : q.deltas = p.deltas ++ ds
  counted : q.deltasAndChunksSize =
    p.deltasAndChunksSize + 2 * new.length + (ds.flatMap serializeDelta).length
  writable : ∀ chunk ∈ new, chunk.Writable

variable {p q r : LocalPacket} {new new' : List Chunk} {ds ds' : List (BitVec 16)}

theorem Grows.none (hsize : q.size = p.size) (hcs : q.chunks = p.chunks) (hds : q.deltas = p.deltas)
    (hcnt : q.deltasAndChunksSize = p.deltasAndChunksSize) : Grows p q [] [] :=
  ⟨hsize, by rw [hcs, append_nil], by rw [hds, append_nil], hcnt, forall_mem_nil _⟩

theorem Grows.trans (h : Grows p q new ds) (h' : Grows q r new' ds') :
    Grows p r (new ++ new') (ds ++ ds') where
  size := h'.size.trans h.size
  chunks := by rw [h'.chunks, h.chunks, append_assoc]
  deltas := by rw [h'.deltas, h.deltas, append_assoc]
  counted := by
    rw [h'.counted, h.counted, length_append, flatMap_append, length_append]
    omega
  writable := forall_mem_append.mpr ⟨h.writable, h'.writable⟩

theorem grows_createRunLengthChunk (st : Status) (n : BitVec 16) (ss : List Status) :
    Grows p ((p.createRunLengthChunk st n).setStatuses ss) [.runLength st n] [] where
  size := rfl
  chunks := rfl
  deltas := (append_nil _).symm
  counted := rfl
  writable := forall_mem_singleton.mpr trivial

theorem grows_flushVector (h : p.context.statuses.length ≤ 7) :
    Grows p p.flushVector [.twoBitVector p.context.statuses] [] where
  size := rfl
  chunks := rfl
  deltas := (append_nil _).symm
  counted := rfl
  writable := forall_mem_singleton.mpr h

theorem Grows.setCurrentStatus (h : Grows p q new ds) (st : Status) :
    Grows p (q.setCurrentStatus st) new ds :=
  ⟨h.size, h.chunks, h.deltas, h.counted, h.writable⟩

theorem grows_flushLongRun (p : LocalPacket) : ∃ new, Grows p p.flushLongRun new [] := by
  rw [flushLongRun]
  split_ifs
  · exact ⟨_, (grows_createRunLengthChunk _ _ _).setCurrentStatus _⟩
  · exact ⟨[], Grows.none rfl rfl rfl rfl⟩

theorem grows_fillContext (hlen : p.context.statuses.length < 7) (gap : ℕ) :
    ∃ new, Grows p (p.fillContext gap).1 new [] := by
  rw [fillContext, fillStatuses_eq]
  dsimp only
  set ss := p.context.statuses ++
    replicate (min gap (7 - p.context.statuses.length)) Status.notReceived with hsts
  have hle : ss.length ≤ 7 := by
    rw [hsts, length_append, length_replicate]
    omega
  have hfill : Grows p ((p.setCurrentStatus .notReceived).setStatuses ss) [] [] :=
    Grows.none rfl rfl rfl rfl
  split_ifs
  · exact ⟨_, hfill.trans ((grows_flushVector hle).setCurrentStatus _)⟩
  · exact ⟨[], hfill⟩

theorem grows_fillMissing (hsnd : p.context.Sound) (gap : BitVec 16) :
    ∃ new, Grows p (p.fillMissing gap) new [] := by
  have hroom := length_flushLongRun hsnd
  have hroom' : 0 < p.room := by
    rw [room]
    split_ifs <;> omega
  obtain ⟨first, hfirst⟩ := grows_flushLongRun p
  obtain ⟨second, hsecond⟩ := grows_fillContext (p := p.flushLongRun) (by omega) gap.toNat
  have hboth := hfirst.trans hsecond
  rw [fillMissing]
  generalize p.flushLongRun.fillContext gap.toNat = filled at *
  dsimp only
  split_ifs
  · exact ⟨_, hboth.trans ((grows_createRunLengthChunk _ _ _).setCurrentStatus _)⟩
  · exact ⟨_, hboth⟩

theorem grows_flushOtherRun (st : Status) (p : LocalPacket) : ∃ new, Grows p (p.flushOtherRun st) new [] := by
  rw [flushOtherRun]
  split_ifs
  · exact ⟨_, grows_createRunLengthChunk _ _ _⟩
  · exact ⟨[], Grows.none rfl rfl rfl rfl⟩

theorem grows_pushReceived (d : BitVec 16) : Grows p (p.pushReceived d) [] [d] where
  size := rfl
  chunks := (append_nil _).symm
  deltas := rfl
  counted := by
    rw [flatMap_singleton, length_serializeDelta]
    rfl
  writable := forall_mem_nil _

theorem grows_flushMixedVector (p : LocalPacket) : ∃ new, Grows p p.flushMixedVector new [] := by
  rw [flushMixedVector]
  split_ifs with hsmall hvec
  · exact ⟨[], Grows.none rfl rfl rfl rfl⟩
  · have hcur : Grows p (p.setCurrentStatus .none) [] [] := Grows.none rfl rfl rfl rfl
    exact ⟨_, hcur.trans (grows_flushVector hvec.1.le)⟩
  · exact ⟨[], Grows.none rfl rfl rfl rfl⟩

/-- **`FillChunk`** adds one delta, and the chunks that it closes. -/
theorem grows_fillChunk (hset : p.context.Settled) (prev seq d : BitVec 16) :
    ∃ new, Grows p (p.fillChunk prev seq d) new [d] := by
  have hrec (p : LocalPacket) : ∃ new, Grows p (p.fillReceived d) new [d] := by
    obtain ⟨first, hfirst⟩ := grows_flushOtherRun (deltaStatus d) p
    obtain ⟨last, hlast⟩ := grows_flushMixedVector ((p.flushOtherRun (deltaStatus d)).pushReceived d)
    exact ⟨_, (hfirst.trans (grows_pushReceived d)).trans hlast⟩
  rw [fillChunk]
  split_ifs with hgap
  · obtain ⟨first, hfirst⟩ :=
      grows_fillMissing hset.toSound (seq - (prev + 1))
    obtain ⟨last, hlast⟩ := hrec (p.fillMissing (seq - (prev + 1)))
    exact ⟨_, hfirst.trans hlast⟩
  · exact hrec p

/-- **`Finish`** closes what is left in the context. -/
theorem grows_addPendingChunks (hset : p.context.Settled) :
    ∃ q new, p.addPendingChunks = .ok q ∧ Grows p q new [] ∧ q.context.statuses = [] ∧
      new.length = if p.context.statuses = [] then 0 else 1 := by
  rw [addPendingChunks]
  by_cases hnil : p.context.statuses = []
  · rw [if_pos hnil, if_pos (isEmpty_iff.mpr hnil)]
    exact ⟨p, [], rfl, Grows.none rfl rfl rfl rfl, hnil, rfl⟩
  · rw [if_neg hnil, if_neg fun hemp => hnil (isEmpty_iff.mp hemp)]
    split_ifs with hsame
    · exact ⟨p.flushRun, _, rfl, grows_createRunLengthChunk _ _ _, rfl, rfl⟩
    · have hseven := hset.length_lt (Bool.not_eq_true _ ▸ hsame)
      rw [decide_eq_true hseven]
      exact ⟨p.flushVector, _, rfl, grows_flushVector hseven.le, rfl, rfl⟩

/-! ## Runs of calls that succeed -/

def success (maxRtcpPacketLen : ℕ) (p : LocalPacket) (arrival : Arrival) : Except Unit LocalPacket :=
  match p.addPacket arrival.sequenceNumber arrival.timestamp maxRtcpPacketLen with
  | .ok (q, .success) => .ok q
  | _ => .error ()

def padded (size : ℕ) : ℕ := size + padding size

def newChunks (p q : LocalPacket) : ℕ :=
  q.chunks.length - p.chunks.length + if q.context.statuses = [] then 0 else 1

def Room (maxRtcpPacketLen : ℕ) (p : LocalPacket) (arrival : Arrival) : Prop :=
  ∀ q ∈ (success maxRtcpPacketLen p arrival).toOption, q.deltas ≠ p.deltas →
    padded (headersSize + p.deltasAndChunksSize + 2 * newChunks p q + 2) ≤ maxRtcpPacketLen

instance (maxRtcpPacketLen : ℕ) (p : LocalPacket) (arrival : Arrival) :
    Decidable (Room maxRtcpPacketLen p arrival) :=
  inferInstanceAs (Decidable (∀ _ ∈ _, _))

variable {maxLen : ℕ}

theorem padded_mono {size size' : ℕ} (h : size ≤ size') : padded size ≤ padded size' := by
  simp only [padded, padding]
  omega

theorem success_cases {a : Arrival} (hset : p.context.Settled) (h : success maxLen p a = .ok q) :
    (Grows p q [] [] ∧ q.context = p.context) ∨ ∃ new d, Grows p q new [d] ∧ q.context.Settled := by
  have hadd : p.addPacket a.sequenceNumber a.timestamp maxLen = .ok (q, .success) := by
    rw [success] at h
    split at h
    · cases h
      assumption
    · cases h
  rcases addPacket_eq_ok hadd with ⟨-, rfl⟩ | rfl | ⟨-, -, d, rfl⟩
  · exact .inl ⟨Grows.none rfl rfl rfl rfl, rfl⟩
  · exact .inl ⟨Grows.none rfl rfl rfl rfl, rfl⟩
  · obtain ⟨new, hgrows⟩ :=
      grows_fillChunk hset p.latestSequenceNumber a.sequenceNumber d
    exact .inr ⟨new, d, ⟨hgrows.size, hgrows.chunks, hgrows.deltas, hgrows.counted,
      hgrows.writable⟩, settled_fillChunk hset _ _ _⟩

structure Within (maxRtcpPacketLen : ℕ) (p : LocalPacket) : Prop where
  settled : p.context.Settled
  unsized : p.size = 0
  counted : p.deltasAndChunksSize = 2 * p.chunks.length + (p.deltas.flatMap serializeDelta).length
  writable : ∀ chunk ∈ p.chunks, chunk.Writable
  fits : padded (headersSize + p.deltasAndChunksSize +
    2 * if p.context.statuses = [] then 0 else 1) ≤ maxRtcpPacketLen

theorem Within.grows (h : Within maxLen p) (hgrows : Grows p q new ds) :
    q.size = 0 ∧ q.deltasAndChunksSize = 2 * q.chunks.length + (q.deltas.flatMap serializeDelta).length ∧
    ∀ c ∈ q.chunks, c.Writable := by
  refine ⟨hgrows.size.trans h.unsized, ?_, ?_⟩
  · rw [hgrows.counted, h.counted, hgrows.chunks, hgrows.deltas, length_append, flatMap_append, length_append]
    omega
  · rw [hgrows.chunks]
    exact forall_mem_append.mpr ⟨h.writable, hgrows.writable⟩

/-- **One call** that had room for its chunks leaves the packet within the limit. -/
theorem Within.step {a : Arrival} (h : Within maxLen p) (hroom : Room maxLen p a)
    (hq : success maxLen p a = .ok q) : Within maxLen q := by
  rcases success_cases h.settled hq with ⟨hgrows, hctx⟩ | ⟨new, d, hgrows, hset⟩
  · obtain ⟨hunsized, hcnt, hwr⟩ := h.grows hgrows
    refine ⟨?_, hunsized, hcnt, hwr, ?_⟩
    · rw [hctx]
      exact h.settled
    · rw [hctx, hgrows.counted]
      exact h.fits
  · obtain ⟨hunsized, hcnt, hwr⟩ := h.grows hgrows
    refine ⟨hset, hunsized, hcnt, hwr, ?_⟩
    have hds : q.deltas ≠ p.deltas := by
      rw [hgrows.deltas]
      simp
    have hroom := hroom q (by rw [hq]; rfl) hds
    have hwidth := length_serializeDelta d
    have hle : (serializeDelta d).length ≤ 2 := by
      rw [hwidth]
      split_ifs <;> decide
    refine (padded_mono ?_).trans hroom
    rw [newChunks, hgrows.chunks, hgrows.counted, length_append, flatMap_singleton]
    omega

def fewArrivals : List Arrival := [⟨0, 64⟩, ⟨1, 70⟩, ⟨5, 80⟩]

def longRunThenGap : List Arrival :=
  ⟨0, 64⟩ :: ((List.range 40).map fun i => ⟨BitVec.ofNat 16 (i + 1), 64⟩) ++ [⟨49, 164⟩]

end LocalPacket

end MediasoupWorker.RTC.RTCP
