import MediasoupWorker.Library.Runs
import MediasoupWorker.Library.SlotTable
import MediasoupWorker.RTC.RTCP.FeedbackRtpNack
import MediasoupWorker.RTC.RtpStream

/-!
# `RtpStreamSend`: a sent stream and its retransmission buffer

`src/src/RTC/RtpStreamSend.cpp`. The copies of the last packets are in `storage`, an array of slots;
`buffer` has an entry for each of the 65536 sequence numbers, which is null or points to a slot. With `n`
slots such a pointer is a `Fin n`.
-/

namespace MediasoupWorker.RTC

open Library Function Option List
open RTCP (FeedbackRtpNackItem)

def mtuSize : ℕ := 1500

def maxRetransmissionDelay : ℕ := 2000

structure StorageItem where
  packet : Option MediaPacket := none
  resentAtMs : BitVec 64 := 0
  sentTimes : BitVec 8 := 0
  rtxEncoded : Bool := false
  deriving DecidableEq, Repr

structure RtpStreamSend.Params where
  useNack : Bool := true
  clockRate : BitVec 32
  rtx : Option (ℕ × ℕ) := none
  deriving DecidableEq, Repr

structure RtpStreamSend (n : ℕ) where
  params : RtpStreamSend.Params
  stream : RtpStream := {}
  buffer : BitVec 16 → Option (Fin n) := fun _ => none
  bufferStartIdx : BitVec 16 := 0
  bufferSize : ℕ := 0
  storage : Fin n → StorageItem := fun _ => {}
  rtxSeq : BitVec 16 := 0
  nackCount : ℕ := 0
  nackPacketCount : ℕ := 0
  packetsRetransmitted : ℕ := 0
  packetsRepaired : ℕ := 0

namespace RtpStreamSend

variable {n : ℕ}

/-! ## The buffer -/

def resetStorageItem (storageItem : Option (Fin n)) (s : RtpStreamSend n) :
    Except Fault (Fin n × RtpStreamSend n) :=
  match storageItem with
  | none => .error (.assertion "storageItem cannot be nullptr")
  | some slot => .ok (slot, { s with storage := Function.update s.storage slot {} })

def nextUsed (buffer : BitVec 16 → Option (Fin n)) : (count : ℕ) → BitVec 16 → Option (BitVec 16)
  | 0, _ => none
  | count + 1, seq => if (buffer seq).isSome then some seq else nextUsed buffer count (seq + 1)

def updateBufferStartIdx (s : RtpStreamSend n) : RtpStreamSend n :=
  { s with
    bufferStartIdx := (nextUsed s.buffer (2 ^ 16) (s.bufferStartIdx + 1)).getD s.bufferStartIdx }

def setBuffer (seq : BitVec 16) (storageItem : Option (Fin n)) (s : RtpStreamSend n) :
    RtpStreamSend n :=
  { s with buffer := Function.update s.buffer seq storageItem }

def clone (slot : Fin n) (packet : MediaPacket) (s : RtpStreamSend n) : RtpStreamSend n :=
  { s with
    storage := Function.update s.storage slot { s.storage slot with packet := some packet } }

def replacePacket (slot : Fin n) (packet : MediaPacket) (s : RtpStreamSend n) :
    Except Fault (RtpStreamSend n) :=
  match (s.storage slot).packet with
  | none => .error .nullPointer
  | some storedPacket =>
    if packet.timestamp = storedPacket.timestamp then .ok s
    else do
      let (slot, s) ← s.resetStorageItem (some slot)
      let s := if s.bufferStartIdx = packet.sequenceNumber then s.updateBufferStartIdx else s
      return s.clone slot packet

def evictAndStore (packet : MediaPacket) (s : RtpStreamSend n) : Except Fault (RtpStreamSend n) := do
  let (slot, s) ← s.resetStorageItem (s.buffer s.bufferStartIdx)
  let s := (s.setBuffer s.bufferStartIdx none).updateBufferStartIdx
  return (s.setBuffer packet.sequenceNumber (some slot)).clone slot packet

def storePacket (h : 0 < n) (packet : MediaPacket) (s : RtpStreamSend n) :
    Except Fault (RtpStreamSend n) :=
  let seq := packet.sequenceNumber
  if packet.getSize > mtuSize then .ok s
  else if s.bufferSize = 0 then
    let slot : Fin n := ⟨0, h⟩
    let s := { s.setBuffer seq (some slot) with bufferSize := s.bufferSize + 1, bufferStartIdx := seq }
    .ok (s.clone slot packet)
  else
    match s.buffer seq with
    | some slot => s.replacePacket slot packet
    | none =>
      if hsize : s.bufferSize < n then
        let slot : Fin n := ⟨s.bufferSize, hsize⟩
        let s := { s.setBuffer seq (some slot) with bufferSize := s.bufferSize + 1 }
        .ok (s.clone slot packet)
      else s.evictAndStore packet

def ignores (s : RtpStreamSend n) (packet : MediaPacket) : Bool :=
  packet.getSize > mtuSize || (s.bufferSize != 0 && (s.buffer packet.sequenceNumber).any fun slot =>
      (s.storage slot).packet.any fun storedPacket => packet.timestamp = storedPacket.timestamp)

def clearLoop : (count : ℕ) → BitVec 16 → RtpStreamSend n → Except Fault (RtpStreamSend n)
  | 0, _, s => .ok s
  | count + 1, idx, s =>
    match s.buffer idx with
    | none => do
      msAssert (s.buffer idx).isNone "key should be NULL"
      clearLoop count (idx + 1) s
    | some slot => do
      let (_, s) ← s.resetStorageItem (some slot)
      clearLoop count (idx + 1) (s.setBuffer idx none)

def clearBuffer (s : RtpStreamSend n) : Except Fault (RtpStreamSend n) :=
  if n = 0 then .ok s
  else do
    let s ← s.clearLoop (2 ^ 16) 0
    return { s with bufferStartIdx := 0, bufferSize := 0 }

/-! ## Packets and NACKs -/

def receivePacket (nowMs : BitVec 64) (packet : MediaPacket) (s : RtpStreamSend n) :
    Except Fault (RtpStreamSend n × Bool) :=
  match s.stream.receivePacket nowMs.toNat packet.sequenceNumber packet.timestamp with
  | (stream, false) => .ok ({ s with stream }, false)
  | (stream, true) =>
    let s := { s with stream }
    if h : 0 < n then do
      let s ← s.storePacket h packet
      return (s, true)
    else .ok (s, true)

def retransmitted (s : RtpStreamSend n) (item : StorageItem) (packet : MediaPacket) :
    MediaPacket × BitVec 16 × Bool :=
  match s.params.rtx with
  | none => (packet, s.rtxSeq, item.rtxEncoded)
  | some (payloadType, ssrc) =>
    let rtxSeq := s.rtxSeq + 1
    if item.rtxEncoded then ({ packet with sequenceNumber := rtxSeq }, rtxSeq, true)
    else (packet.rtxEncode payloadType ssrc rtxSeq, rtxSeq, true)

def requestPacket (nowMs : BitVec 64) (rtt : BitVec 16) (currentSeq : BitVec 16)
    (s : RtpStreamSend n) : Except Fault (RtpStreamSend n × List (Fin n)) :=
  match s.buffer currentSeq with
  | none => .ok (s, [])
  | some slot =>
    let item := s.storage slot
    match item.packet with
    | none => .error .nullPointer
    | some packet =>
      if s.params.clockRate = 0 then .error (.exception "division by zero")
      else
        let diffTs := s.stream.maxPacketTs - packet.timestamp
        let diffMs := diffTs * 1000 / s.params.clockRate
        if diffMs.toNat > maxRetransmissionDelay then .ok (s, [])
        else if item.resentAtMs ≠ 0 ∧ nowMs - item.resentAtMs ≤ rtt.setWidth 64 then .ok (s, [])
        else
          let (packet, rtxSeq, rtxEncoded) := s.retransmitted item packet
          let item : StorageItem :=
            { packet := some packet, resentAtMs := nowMs, sentTimes := item.sentTimes + 1, rtxEncoded }
          .ok ({ s with storage := Function.update s.storage slot item, rtxSeq }, [slot])

def requestPackets (nowMs : BitVec 64) (rtt : BitVec 16) :
    List (BitVec 16) → RtpStreamSend n → Except Fault (RtpStreamSend n × List (Fin n))
  | [], s => .ok (s, [])
  | seq :: seqs, s => do
    let (s, slots) ← s.requestPacket nowMs rtt seq
    let (s, slots') ← requestPackets nowMs rtt seqs s
    return (s, slots ++ slots')

def fillRetransmissionContainer (nowMs : BitVec 64) (rtt : BitVec 16) (item : FeedbackRtpNackItem)
    (s : RtpStreamSend n) : Except Fault (RtpStreamSend n × List (Fin n)) :=
  if !s.params.useNack then .ok (s, [])
  else if n = 0 then .error .outOfBounds
  else s.requestPackets nowMs rtt item.requestedSeqs

def retransmit (s : RtpStreamSend n) : List (Fin n) → RtpStreamSend n × List (Option MediaPacket)
  | [] => (s, [])
  | slot :: slots =>
    let item := s.storage slot
    let s := { s with
      packetsRetransmitted := s.packetsRetransmitted + 1
      packetsRepaired := s.packetsRepaired + if item.sentTimes = 1 then 1 else 0 }
    let (s, packets) := s.retransmit slots
    (s, item.packet :: packets)

def receiveNackItems (nowMs : BitVec 64) (rtt : BitVec 16) :
    List FeedbackRtpNackItem → RtpStreamSend n → Except Fault (RtpStreamSend n × List (Option MediaPacket))
  | [], s => .ok (s, [])
  | item :: items, s => do
    let s := { s with nackPacketCount := s.nackPacketCount + item.countRequestedPackets }
    let (s, slots) ← s.fillRetransmissionContainer nowMs rtt item
    let (s, packets) := s.retransmit slots
    let (s, packets') ← receiveNackItems nowMs rtt items s
    return (s, packets ++ packets')

def receiveNack (nowMs : BitVec 64) (rtt : BitVec 16) (items : List FeedbackRtpNackItem)
    (s : RtpStreamSend n) : Except Fault (RtpStreamSend n × List (Option MediaPacket)) :=
  { s with nackCount := s.nackCount + 1 }.receiveNackItems nowMs rtt items

inductive Event where
  | received (nowMs : BitVec 64) (seq : BitVec 16) (timestamp : BitVec 32)
  | storePacket (packet : MediaPacket)
  | receiveNack (nowMs : BitVec 64) (rtt : BitVec 16) (items : List FeedbackRtpNackItem)
  | clearBuffer

def next (s : RtpStreamSend n) : Event → Except Fault (RtpStreamSend n)
  | .received nowMs seq timestamp =>
    .ok { s with stream := (s.stream.receivePacket nowMs.toNat seq timestamp).1 }
  | .storePacket packet => if h : 0 < n then s.storePacket h packet else .ok s
  | .receiveNack nowMs rtt items => Prod.fst <$> s.receiveNack nowMs rtt items
  | .clearBuffer => s.clearBuffer

def stored (events : List Event) : List MediaPacket :=
  events.filterMap fun event =>
    match event with
    | .storePacket packet => some packet
    | _ => none

/-! ## The invariant -/

def HoldsPacket (params : Params) (packets : List MediaPacket) (seq : BitVec 16)
    (item : StorageItem) : Prop :=
  ∃ original ∈ packets, original.sequenceNumber = seq ∧
    ((item.rtxEncoded = false ∧ item.packet = some original) ∨
      (item.rtxEncoded = true ∧ ∃ payloadType ssrc rtxSeq, params.rtx = some (payloadType, ssrc) ∧
        item.packet = some (original.rtxEncode payloadType ssrc rtxSeq)))

variable {ps : List MediaPacket}

theorem HoldsPacket.mono {params : Params} {ps' : List MediaPacket} {seq : BitVec 16} {item : StorageItem}
    (h : HoldsPacket params ps seq item) (hsub : ps ⊆ ps') : HoldsPacket params ps' seq item := by
  obtain ⟨orig, hmem, hrest⟩ := h
  exact ⟨orig, hsub hmem, hrest⟩

theorem HoldsPacket.exists_packet {params : Params} {seq : BitVec 16} {item : StorageItem}
    (h : HoldsPacket params ps seq item) : ∃ packet, item.packet = some packet := by
  obtain ⟨orig, -, -, ⟨-, hp⟩ | ⟨-, _, _, _, -, hp⟩⟩ := h
  · exact ⟨_, hp⟩
  · exact ⟨_, hp⟩

structure Buffered (params : Params) (recorded : BitVec 16 → List MediaPacket) (s : RtpStreamSend n) :
    Prop where
  configured : s.params = params
  slots : SlotsUsed s.buffer s.bufferSize
  holds : ∀ seq slot, s.buffer seq = some slot → HoldsPacket params (recorded seq) seq (s.storage slot)
  free : ∀ slot : Fin n, s.bufferSize ≤ slot.val → s.storage slot = {}

structure Inv (params : Params) (packets : List MediaPacket) (s : RtpStreamSend n) : Prop where
  configured : s.params = params
  slots : SlotsUsed s.buffer s.bufferSize
  start : 0 < s.bufferSize → s.buffer s.bufferStartIdx ≠ none
  holds : ∀ seq slot, s.buffer seq = some slot → HoldsPacket params packets seq (s.storage slot)
  free : ∀ slot : Fin n, s.bufferSize ≤ slot.val → s.storage slot = {}

structure StoredAs (packet : MediaPacket) (slot : Fin n) (s s' : RtpStreamSend n) : Prop where
  params : s'.params = s.params
  rtxSeq : s'.rtxSeq = s.rtxSeq
  slots : SlotsUsed s'.buffer s'.bufferSize
  entry : s'.buffer packet.sequenceNumber = some slot
  other : ∀ seq slot', seq ≠ packet.sequenceNumber → s'.buffer seq = some slot' → s.buffer seq = some slot'
  storage : s'.storage = Function.update s.storage slot { packet := some packet }
  size : s.bufferSize ≤ s'.bufferSize

section Inv

variable {params : Params} {ps : List MediaPacket} {recorded : BitVec 16 → List MediaPacket}
  {s s' : RtpStreamSend n}

theorem Inv.buffered (h : Inv params ps s) : Buffered params (fun _ => ps) s :=
  ⟨h.configured, h.slots, h.holds, h.free⟩

theorem Buffered.inv (h : Buffered params (fun _ => ps) s)
    (hstart : 0 < s.bufferSize → s.buffer s.bufferStartIdx ≠ none) : Inv params ps s :=
  ⟨h.configured, h.slots, hstart, h.holds, h.free⟩

theorem buffered_new (params : Params) (rtxSeq : BitVec 16) (recorded : BitVec 16 → List MediaPacket) :
    Buffered params recorded ({ params, rtxSeq } : RtpStreamSend n) where
  configured := rfl
  slots := SlotsUsed.empty
  holds := by
    intro seq slot h
    cases h
  free := fun _ _ => rfl

theorem inv_new (params : Params) : Inv params [] ({ params } : RtpStreamSend n) :=
  (buffered_new params 0 _).inv fun h => absurd h (lt_irrefl 0)

variable {recorded' : BitVec 16 → List MediaPacket}

theorem Buffered.mono (h : Buffered params recorded s) (hsub : ∀ seq, recorded seq ⊆ recorded' seq) :
    Buffered params recorded' s :=
  { h with holds := fun seq slot hslot => (h.holds seq slot hslot).mono (hsub seq) }

theorem Buffered.congr (h : Buffered params recorded s) (hps : s'.params = s.params)
    (hbuf : s'.buffer = s.buffer) (hsize : s'.bufferSize = s.bufferSize) (hsto : s'.storage = s.storage) :
    Buffered params recorded s' := by
  refine ⟨hps.trans h.configured, ?_, ?_, ?_⟩
  · rw [hbuf, hsize]
    exact h.slots
  · rw [hbuf, hsto]
    exact h.holds
  · rw [hsize, hsto]
    exact h.free

theorem Inv.congr (h : Inv params ps s) (hps : s'.params = s.params) (hbuf : s'.buffer = s.buffer)
    (hstart : s'.bufferStartIdx = s.bufferStartIdx) (hsize : s'.bufferSize = s.bufferSize)
    (hsto : s'.storage = s.storage) : Inv params ps s' := by
  refine (h.buffered.congr hps hbuf hsize hsto).inv ?_
  rw [hbuf, hsize, hstart]
  exact h.start

variable {p : MediaPacket} {slot : Fin n} {count i : ℕ} {seq : BitVec 16}

theorem Buffered.of_stored (h : Buffered params recorded s) (hst : StoredAs p slot s s')
    (hnew : p ∈ recorded' p.sequenceNumber)
    (hold : ∀ seq, seq ≠ p.sequenceNumber → recorded seq ⊆ recorded' seq) : Buffered params recorded' s' := by
  refine ⟨hst.params.trans h.configured, hst.slots, fun seq slot' hslot' => ?_, fun slot' hslot' => ?_⟩
  · by_cases hseq : seq = p.sequenceNumber
    · obtain rfl : slot' = slot := by
        rw [hseq, hst.entry] at hslot'
        exact (some.inj hslot').symm
      rw [hst.storage, update_self]
      exact ⟨p, hseq ▸ hnew, hseq.symm, .inl ⟨rfl, rfl⟩⟩
    · have hne : slot' ≠ slot := by
        rintro rfl
        exact hseq (hst.slots.inj seq _ _ hslot' hst.entry)
      rw [hst.storage, update_of_ne hne]
      exact (h.holds seq slot' (hst.other seq slot' hseq hslot')).mono (hold seq hseq)
  · have hne : slot' ≠ slot := by
      rintro rfl
      have := hst.slots.lt _ _ hst.entry
      omega
    rw [hst.storage, update_of_ne hne]
    exact h.free slot' (hst.size.trans hslot')

/-! ### The start index -/

theorem nextUsed_spec {buf : BitVec 16 → Option (Fin n)} {used : BitVec 16} (hused : buf used ≠ none)
    (hn : cdist seq used < count) : ∃ found, nextUsed buf count seq = some found ∧ buf found ≠ none ∧
      ∀ other, buf other ≠ none → cdist seq found ≤ cdist seq other := by
  induction count generalizing seq with
  | zero => exact absurd hn (Nat.not_lt_zero _)
  | succ count ih =>
    rw [nextUsed]
    split_ifs with hseq
    · refine ⟨seq, rfl, isSome_iff_ne_none.mp hseq, fun other _ => ?_⟩
      rw [cdist_self]
      exact Nat.zero_le _
    · have hstep {other : BitVec 16} (hother : buf other ≠ none) :
          cdist seq other = cdist (seq + 1) other + 1 := by
        have hne : cdist seq other ≠ 0 := by
          intro hzero
          have hsame : seq = other := cdist_inj.mp ((cdist_self seq).trans hzero.symm)
          rw [hsame] at hseq
          exact hother (not_isSome_iff_eq_none.mp hseq)
        have hnext : cdist (seq + BitVec.ofNat 16 1) other = cdist seq other - 1 :=
          cdist_add_left (pos_of_ne_zero hne)
        change _ = cdist (seq + BitVec.ofNat 16 1) other + 1
        omega
      have hcloser : cdist (seq + 1) used < count := by
        have := hstep hused
        omega
      obtain ⟨found, hfound, husedFound, hfirst⟩ := ih hcloser
      refine ⟨found, hfound, husedFound, fun other hother => ?_⟩
      rw [hstep husedFound, hstep hother]
      exact Nat.succ_le_succ (hfirst other hother)

theorem updateBufferStartIdx_spec {used : BitVec 16} (hused : s.buffer used ≠ none) :
    s.buffer s.updateBufferStartIdx.bufferStartIdx ≠ none ∧ ∀ other, s.buffer other ≠ none →
      cdist (s.bufferStartIdx + 1) s.updateBufferStartIdx.bufferStartIdx ≤
        cdist (s.bufferStartIdx + 1) other := by
  obtain ⟨found, hfound, hspec⟩ := nextUsed_spec hused (cdist_lt (s.bufferStartIdx + 1) used)
  have hindex : s.updateBufferStartIdx.bufferStartIdx = found := by
    rw [updateBufferStartIdx, hfound]
    rfl
  rw [hindex]
  exact hspec

/-! ### Storing a packet -/

theorem clone_storage (hslot : s.storage slot = {}) (p : MediaPacket) :
    (s.clone slot p).storage = update s.storage slot { packet := some p } := by
  rw [clone, hslot]

theorem replacePacket_stored (hsl : SlotsUsed s.buffer s.bufferSize) {sp : MediaPacket}
    (hentry : s.buffer p.sequenceNumber = some slot) (hp : (s.storage slot).packet = some sp)
    (hother : p.timestamp ≠ sp.timestamp) : ∃ s', s.replacePacket slot p = .ok s' ∧ StoredAs p slot s s' ∧
      (s.buffer s.bufferStartIdx ≠ none → s'.buffer s'.bufferStartIdx ≠ none) := by
  rw [replacePacket, hp]
  dsimp only
  rw [if_neg hother]
  set reset : RtpStreamSend n := { s with storage := update s.storage slot {} } with hreset
  set moved := if reset.bufferStartIdx = p.sequenceNumber then reset.updateBufferStartIdx
    else reset with hmv
  have hused : s.buffer p.sequenceNumber ≠ none := by
    rw [hentry]
    exact some_ne_none _
  have hfields : moved.params = s.params ∧ moved.rtxSeq = s.rtxSeq ∧ moved.buffer = s.buffer ∧
      moved.bufferSize = s.bufferSize ∧ moved.storage = reset.storage := by
    rw [hmv]
    split_ifs <;> exact ⟨rfl, rfl, rfl, rfl, rfl⟩
  obtain ⟨hps, hrtxSeq, hbuf, hsize, hsto⟩ := hfields
  have hstart : s.buffer s.bufferStartIdx ≠ none → s.buffer moved.bufferStartIdx ≠ none := by
    intro hstart
    rw [hmv]
    split_ifs
    · exact (updateBufferStartIdx_spec (s := reset) hused).1
    · exact hstart
  refine ⟨moved.clone slot p, rfl, ⟨hps, hrtxSeq, ?_, ?_, ?_, ?_, ?_⟩, ?_⟩
  · show SlotsUsed moved.buffer moved.bufferSize
    rw [hbuf, hsize]
    exact hsl
  · show moved.buffer p.sequenceNumber = some slot
    rw [hbuf, hentry]
  · intro seq slot' _ hslot'
    have hslot' : moved.buffer seq = some slot' := hslot'
    rw [hbuf] at hslot'
    exact hslot'
  · have hslot : moved.storage slot = {} := by
      rw [hsto]
      exact update_self ..
    rw [clone_storage hslot, hsto]
    exact update_idem ..
  · show s.bufferSize ≤ moved.bufferSize
    rw [hsize]
  · show _ → moved.buffer moved.bufferStartIdx ≠ none
    rw [hbuf]
    exact hstart

theorem evictAndStore_stored (hsl : SlotsUsed s.buffer s.bufferSize)
    (hslot : s.buffer s.bufferStartIdx = some slot) (hentry : s.buffer p.sequenceNumber = none) :
    ∃ s', s.evictAndStore p = .ok s' ∧ StoredAs p slot s s' ∧
      (2 ≤ s.bufferSize → s'.buffer s'.bufferStartIdx ≠ none) := by
  set reset : RtpStreamSend n := { s with storage := update s.storage slot {} } with hreset
  set rm := reset.setBuffer reset.bufferStartIdx none with hrm
  have hbuf : rm.buffer = update s.buffer s.bufferStartIdx none := rfl
  refine ⟨(rm.updateBufferStartIdx.setBuffer p.sequenceNumber (some slot)).clone slot p,
    ?_, ⟨rfl, rfl, hsl.move hslot hentry, update_self .., ?_, ?_, Nat.le_refl _⟩, ?_⟩
  · rw [evictAndStore, hslot]
    rfl
  · intro seq slot' hseq hslot'
    have hslot' : update rm.buffer p.sequenceNumber (some slot) seq = some slot' := hslot'
    rw [update_of_ne hseq, hbuf] at hslot'
    by_cases hstartseq : seq = s.bufferStartIdx
    · rw [hstartseq, update_self] at hslot'
      cases hslot'
    · rw [update_of_ne hstartseq] at hslot'
      exact hslot'
  · rw [clone_storage (update_self ..)]
    exact update_idem ..
  · intro htwo
    obtain ⟨used, hne, hused⟩ := hsl.exists_ne htwo s.bufferStartIdx
    have hstart : rm.buffer rm.updateBufferStartIdx.bufferStartIdx ≠ none := by
      have hused' : rm.buffer used ≠ none := by
        rw [hbuf, update_of_ne hne]
        exact hused
      exact (updateBufferStartIdx_spec hused').1
    -- the new start index is the entry found, also when that is the new entry
    show update rm.buffer p.sequenceNumber (some slot)
      rm.updateBufferStartIdx.bufferStartIdx ≠ none
    by_cases hsame : rm.updateBufferStartIdx.bufferStartIdx = p.sequenceNumber
    · rw [hsame, update_self]
      exact some_ne_none _
    · rw [update_of_ne hsame]
      exact hstart

theorem addPacket_stored (h : Buffered params recorded s) (hslot : slot.val = s.bufferSize)
    (hentry : s.buffer p.sequenceNumber = none) (bufferStartIdx : BitVec 16) : StoredAs p slot s
      (clone slot p { s.setBuffer p.sequenceNumber (some slot) with
        bufferSize := s.bufferSize + 1, bufferStartIdx }) where
  params := rfl
  rtxSeq := rfl
  slots := h.slots.add hentry hslot
  entry := update_self ..
  other := by
    intro seq slot' hseq hslot'
    have hslot' : update s.buffer p.sequenceNumber (some slot) seq = some slot' := hslot'
    rw [update_of_ne hseq] at hslot'
    exact hslot'
  storage := clone_storage (h.free slot (by omega)) p
  size := Nat.le_succ _

/-- **What `StorePacket` can do**: it ignores the packet, or stores it, or the buffer is full and
has no entry at its start index. -/
theorem storePacket_cases (hn : 0 < n) (h : Buffered params recorded s) (p : MediaPacket) :
    (s.ignores p = true ∧ s.storePacket hn p = .ok s) ∨
    (s.ignores p = false ∧ ∃ slot s', s.storePacket hn p = .ok s' ∧ StoredAs p slot s s' ∧
      (2 ≤ n → (0 < s.bufferSize → s.buffer s.bufferStartIdx ≠ none) → s'.buffer s'.bufferStartIdx ≠ none)) ∨
    (0 < s.bufferSize ∧ s.buffer s.bufferStartIdx = none ∧ ∃ f, s.storePacket hn p = .error f) := by
  rw [storePacket]
  by_cases hbig : p.getSize > mtuSize
  · rw [if_pos hbig]
    refine .inl ⟨?_, rfl⟩
    rw [ignores, decide_eq_true hbig, Bool.true_or]
  rw [if_neg hbig]
  have hignores : s.ignores p = (s.bufferSize != 0 && (s.buffer p.sequenceNumber).any fun slot =>
        (s.storage slot).packet.any fun sp => p.timestamp = sp.timestamp) := by
    rw [ignores, decide_eq_false hbig, Bool.false_or]
  rw [hignores]
  by_cases hnil : s.bufferSize = 0
  · rw [if_pos hnil]
    have hentry : s.buffer p.sequenceNumber = none := by
      rw [eq_none_iff_forall_not_mem]
      intro slot hslot
      have := h.slots.lt _ _ hslot
      omega
    refine .inr (.inl ⟨by rw [hnil]; rfl, _, _, rfl,
      addPacket_stored h hnil.symm hentry p.sequenceNumber, fun _ _ => ?_⟩)
    exact ne_of_eq_of_ne (update_self ..) (some_ne_none _)
  rw [if_neg hnil]
  cases hentry : s.buffer p.sequenceNumber with
  | some slot =>
    obtain ⟨sp, hp⟩ := (h.holds _ _ hentry).exists_packet
    by_cases hsame : p.timestamp = sp.timestamp
    · refine .inl ⟨?_, ?_⟩
      · simp [hnil, hp, hsame]
      · show s.replacePacket slot p = .ok s
        rw [replacePacket, hp]
        exact if_pos hsame
    · obtain ⟨s', hs', hst, hstart⟩ := replacePacket_stored h.slots hentry hp hsame
      refine .inr (.inl ⟨by simp [hp, hsame], slot, s', hs', hst, fun _ hused => ?_⟩)
      exact hstart (hused (pos_of_ne_zero hnil))
  | none =>
    by_cases hsize : s.bufferSize < n
    · refine .inr (.inl ⟨by simp, ⟨s.bufferSize, hsize⟩, _, dif_pos hsize,
        addPacket_stored h rfl hentry s.bufferStartIdx, fun _ hused => ?_⟩)
      show update s.buffer p.sequenceNumber _ s.bufferStartIdx ≠ none
      by_cases hsame : s.bufferStartIdx = p.sequenceNumber
      · rw [hsame, update_self]
        exact some_ne_none _
      · rw [update_of_ne hsame]
        exact hused (pos_of_ne_zero hnil)
    · have hfull : s.bufferSize = n := by
        have := h.slots.size_le
        omega
      show _ ∨ _ ∨ _
      rw [dif_neg hsize]
      cases hslot : s.buffer s.bufferStartIdx with
      | none =>
        refine .inr (.inr ⟨pos_of_ne_zero hnil, rfl, ?_⟩)
        rw [evictAndStore, hslot]
        exact ⟨_, rfl⟩
      | some slot =>
        obtain ⟨s', hs', hst, hstart⟩ := evictAndStore_stored h.slots hslot hentry
        refine .inr (.inl ⟨by simp, slot, s', hs', hst, fun htwo _ => ?_⟩)
        exact hstart (by omega)

/-- **Storing a packet** in a buffer of at least two slots. -/
theorem storePacket_inv (hn : 2 ≤ n) (h : Inv params ps s) (p : MediaPacket) :
    ∃ s', s.storePacket (Nat.zero_lt_of_lt hn) p = .ok s' ∧ Inv params (ps ++ [p]) s' := by
  have hsub : ps ⊆ ps ++ [p] := subset_append_left ..
  obtain ⟨-, hsame⟩ | ⟨-, slot, s', hs', hst, hstart⟩ | ⟨hpos, hnone, -⟩ :=
    storePacket_cases (Nat.zero_lt_of_lt hn) h.buffered p
  · exact ⟨s, hsame, (h.buffered.mono fun _ => hsub).inv h.start⟩
  · have hbuf : Buffered params (fun _ => ps ++ [p]) s' :=
      h.buffered.of_stored hst (by simp) fun _ _ => hsub
    exact ⟨s', hs', hbuf.inv fun _ => hstart hn h.start⟩
  · exact absurd hnone (h.start hpos)

/-! ### Clearing the buffer -/

structure ClearedBelow (i : ℕ) (s : RtpStreamSend n) : Prop where
  below : ∀ seq : BitVec 16, seq.toNat < i → s.buffer seq = none
  slots : ∀ slot, s.storage slot ≠ {} → ∃ seq, s.buffer seq = some slot

theorem toNat_lt_of_ne (hi : i < 2 ^ 16) (hlt : seq.toNat < i + 1) (hne : seq ≠ BitVec.ofNat 16 i) :
    seq.toNat < i := by
  have hindex : (BitVec.ofNat 16 i).toNat = i := by
    rw [BitVec.toNat_ofNat]
    exact Nat.mod_eq_of_lt hi
  have : seq.toNat ≠ i := fun h => hne (BitVec.eq_of_toNat_eq (h.trans hindex.symm))
  omega

theorem ClearedBelow.skip (h : s.ClearedBelow i) (hi : i < 2 ^ 16)
    (hentry : s.buffer (BitVec.ofNat 16 i) = none) : s.ClearedBelow (i + 1) where
  below := by
    intro seq hlt
    by_cases hseq : seq = BitVec.ofNat 16 i
    · rw [hseq, hentry]
    · exact h.below seq (toNat_lt_of_ne hi hlt hseq)
  slots := h.slots

theorem ClearedBelow.clear (h : s.ClearedBelow i) (hi : i < 2 ^ 16)
    (hentry : s.buffer (BitVec.ofNat 16 i) = some slot) :
    ClearedBelow (i + 1) (setBuffer (BitVec.ofNat 16 i) none
      { s with storage := update s.storage slot {} }) where
  below := by
    intro seq hlt
    by_cases hseq : seq = BitVec.ofNat 16 i
    · rw [hseq]
      exact update_self ..
    · exact (update_of_ne hseq ..).trans (h.below seq (toNat_lt_of_ne hi hlt hseq))
  slots := by
    intro slot' hslot'
    by_cases hsame : slot' = slot
    · rw [hsame] at hslot'
      exact absurd (update_self ..) hslot'
    · have hold : s.storage slot' ≠ {} := fun hnil =>
        hslot' ((update_of_ne hsame ..).trans hnil)
      obtain ⟨seq, hseq⟩ := h.slots slot' hold
      have hne : seq ≠ BitVec.ofNat 16 i := by
        rintro rfl
        rw [hentry] at hseq
        exact hsame (some.inj hseq).symm
      exact ⟨seq, (update_of_ne hne ..).trans hseq⟩

theorem clearLoop_spec (hi : i + count = 2 ^ 16) (h : s.ClearedBelow i) :
    ∃ s', s.clearLoop count (BitVec.ofNat 16 i) = .ok s' ∧ s'.params = s.params ∧
      s'.rtxSeq = s.rtxSeq ∧ (∀ seq, s'.buffer seq = none) ∧ ∀ slot, s'.storage slot = {} := by
  induction count generalizing i s with
  | zero =>
    have hnone : ∀ seq, s.buffer seq = none := fun seq => h.below seq (by omega)
    refine ⟨s, rfl, rfl, rfl, hnone, fun slot => ?_⟩
    by_contra hslot
    obtain ⟨seq, hseq⟩ := h.slots slot hslot
    rw [hnone seq] at hseq
    cases hseq
  | succ count ih =>
    have hnext : BitVec.ofNat 16 i + 1 = BitVec.ofNat 16 (i + 1) := (BitVec.ofNat_add i 1).symm
    cases hentry : s.buffer (BitVec.ofNat 16 i) with
    | none =>
      obtain ⟨s', hs', hrest⟩ := ih (i := i + 1) (by omega) (h.skip (by omega) hentry)
      refine ⟨s', ?_, hrest⟩
      rw [clearLoop, hentry, hnext]
      exact hs'
    | some slot =>
      obtain ⟨s', hs', hrest⟩ := ih (i := i + 1) (by omega) (h.clear (by omega) hentry)
      refine ⟨s', ?_, hrest⟩
      rw [clearLoop, hentry, hnext]
      exact hs'

theorem clearBuffer_spec (h : Buffered params recorded s) :
    ∃ s', s.clearBuffer = .ok s' ∧ Buffered params recorded s' ∧ s'.rtxSeq = s.rtxSeq ∧
      s'.bufferSize = 0 := by
  rw [clearBuffer]
  split_ifs with hn
  · have := h.slots.size_le
    exact ⟨s, rfl, h, rfl, by omega⟩
  have hcleared : s.ClearedBelow 0 := by
    refine ⟨fun seq hlt => absurd hlt (Nat.not_lt_zero _), fun slot hslot => ?_⟩
    refine h.slots.surj slot ?_
    by_contra hlt
    exact hslot (h.free slot (not_lt.mp hlt))
  obtain ⟨s', hs', hps, hrtxSeq, hbuf, hnil⟩ :=
    clearLoop_spec (zero_add (2 ^ 16)) hcleared
  have hzero : s.clearLoop (2 ^ 16) 0 = .ok s' := hs'
  rw [hzero, ok_bind]
  refine ⟨{ s' with bufferStartIdx := 0, bufferSize := 0 }, rfl,
    ⟨hps.trans h.configured, ?_, fun seq slot hslot => ?_, fun slot _ => hnil slot⟩, hrtxSeq, rfl⟩
  · have hnone : s'.buffer = fun _ => none := funext hbuf
    show SlotsUsed s'.buffer 0
    rw [hnone]
    exact SlotsUsed.empty
  · have hslot : s'.buffer seq = some slot := hslot
    rw [hbuf seq] at hslot
    cases hslot

/-! ### Retransmissions -/

def ClockRateZero (params : Params) (fault : Fault) : Prop :=
  params.clockRate = 0 ∧ fault = .exception "division by zero"

theorem HoldsPacket.retransmitted_eq {item : StorageItem} (h : HoldsPacket s.params ps seq item)
    (hp : item.packet = some p) {pt ssrc : ℕ} (hrtx : s.params.rtx = some (pt, ssrc)) :
    ∃ original ∈ ps, original.sequenceNumber = seq ∧ s.retransmitted item p =
      (original.rtxEncode pt ssrc (s.rtxSeq + 1), s.rtxSeq + 1, true) := by
  obtain ⟨original, hmem, hseq, hitem⟩ := h
  refine ⟨original, hmem, hseq, ?_⟩
  rw [retransmitted, hrtx]
  dsimp only
  obtain ⟨henc, hitem⟩ | ⟨henc, _, _, rtxSeq, hsome, hitem⟩ := hitem
  · obtain rfl : p = original := some.inj (hp.symm.trans hitem)
    rw [henc, if_neg Bool.false_ne_true]
  · rw [hrtx] at hsome
    cases hsome
    obtain rfl : p = original.rtxEncode pt ssrc rtxSeq :=
      some.inj (hp.symm.trans hitem)
    rw [henc, if_pos rfl]
    rfl

theorem HoldsPacket.of_retransmitted {item : StorageItem} (h : HoldsPacket s.params ps seq item)
    (hp : item.packet = some p) (resentAtMs : BitVec 64) (sentTimes : BitVec 8) : HoldsPacket s.params ps seq
      { packet := some (s.retransmitted item p).1, resentAtMs, sentTimes,
        rtxEncoded := (s.retransmitted item p).2.2 } := by
  cases hrtx : s.params.rtx with
  | none =>
    rw [retransmitted, hrtx]
    obtain ⟨orig, hmem, hseq, ⟨henc, hitem⟩ | ⟨-, _, _, _, hsome, -⟩⟩ := h
    · exact ⟨orig, hmem, hseq, .inl ⟨henc, hp.symm.trans hitem⟩⟩
    · rw [hrtx] at hsome
      cases hsome
  | some rtx =>
    obtain ⟨pt, ssrc⟩ := rtx
    obtain ⟨orig, hmem, hseq, heq⟩ := h.retransmitted_eq hp hrtx
    rw [heq]
    exact ⟨orig, hmem, hseq, .inr ⟨rfl, pt, ssrc, s.rtxSeq + 1, hrtx, rfl⟩⟩

def resend (nowMs : BitVec 64) (slot : Fin n) (packet : MediaPacket) (s : RtpStreamSend n) :
    RtpStreamSend n :=
  { s with
    storage := Function.update s.storage slot
      { packet := some (s.retransmitted (s.storage slot) packet).1
        resentAtMs := nowMs
        sentTimes := (s.storage slot).sentTimes + 1
        rtxEncoded := (s.retransmitted (s.storage slot) packet).2.2 }
    rtxSeq := (s.retransmitted (s.storage slot) packet).2.1 }

theorem resend_storage_self (now : BitVec 64) (slot : Fin n) (p : MediaPacket) (s : RtpStreamSend n) :
    (s.resend now slot p).storage slot =
      { packet := some (s.retransmitted (s.storage slot) p).1
        resentAtMs := now
        sentTimes := (s.storage slot).sentTimes + 1
        rtxEncoded := (s.retransmitted (s.storage slot) p).2.2 } :=
  update_self ..

theorem resend_storage_of_ne {slot' : Fin n} (hne : slot' ≠ slot) (now : BitVec 64) (p : MediaPacket)
    (s : RtpStreamSend n) : (s.resend now slot p).storage slot' = s.storage slot' :=
  update_of_ne hne ..

/-- **What a request can do**: nothing, or resend the packet of its entry, or divide by a clock rate
of 0. -/
theorem requestPacket_cases (h : Buffered params recorded s) (now : BitVec 64) (rtt seq : BitVec 16) :
    s.requestPacket now rtt seq = .ok (s, []) ∨
    (∃ slot p, s.buffer seq = some slot ∧ (s.storage slot).packet = some p ∧
      s.requestPacket now rtt seq = .ok (s.resend now slot p, [slot])) ∨ (params.clockRate = 0 ∧
      s.requestPacket now rtt seq = .error (.exception "division by zero")) := by
  rw [requestPacket]
  cases hentry : s.buffer seq with
  | none => exact .inl rfl
  | some slot =>
    obtain ⟨p, hp⟩ := (h.holds seq slot hentry).exists_packet
    dsimp only
    rw [hp]
    dsimp only
    split_ifs with hclock hold hrs
    · exact .inr (.inr ⟨h.configured ▸ hclock, rfl⟩)
    · exact .inl rfl
    · exact .inl rfl
    · exact .inr (.inl ⟨slot, p, rfl, hp, rfl⟩)

theorem Buffered.resend (h : Buffered params recorded s) (hslot : s.buffer seq = some slot)
    (hp : (s.storage slot).packet = some p) (now : BitVec 64) :
    Buffered params recorded (s.resend now slot p) := by
  refine ⟨h.configured, h.slots, fun seq' slot' hslot' => ?_, fun slot' hslot' => ?_⟩
  · by_cases hsame : slot' = slot
    · obtain rfl : seq' = seq := h.slots.inj seq' seq slot (hsame ▸ hslot') hslot
      have hholds := h.holds seq' slot hslot
      rw [← h.configured] at hholds
      have hagain := hholds.of_retransmitted hp now ((s.storage slot).sentTimes + 1)
      rw [h.configured] at hagain
      rw [hsame, resend_storage_self]
      exact hagain
    · rw [resend_storage_of_ne hsame]
      exact h.holds seq' slot' hslot'
  · have hne : slot' ≠ slot := by
      rintro rfl
      have hlt := h.slots.lt seq _ hslot
      have hslot' : s.bufferSize ≤ slot'.val := hslot'
      omega
    rw [resend_storage_of_ne hne]
    exact h.free slot' hslot'

theorem requestPacket_inv (h : Inv params ps s) (now : BitVec 64) (rtt seq : BitVec 16) :
    Meets (fun r => Inv params ps r.1) (ClockRateZero params) (s.requestPacket now rtt seq) := by
  obtain hsame | ⟨slot, p, hslot, hp, hrs⟩ | ⟨hclock, hfault⟩ :=
    requestPacket_cases h.buffered now rtt seq
  · rw [hsame]
    exact h
  · rw [hrs]
    exact (h.buffered.resend hslot hp now).inv h.start
  · rw [hfault]
    exact ⟨hclock, rfl⟩

theorem requestPackets_inv (now : BitVec 64) (rtt : BitVec 16) (seqs : List (BitVec 16))
    (h : Inv params ps s) : Meets (fun r => Inv params ps r.1) (ClockRateZero params)
      (s.requestPackets now rtt seqs) := by
  induction seqs generalizing s with
  | nil => exact h
  | cons seq seqs ih =>
    rw [requestPackets]
    refine Meets.bind (requestPacket_inv h now rtt seq) fun r hr => ?_
    exact Meets.bind (ih hr) fun r' hr' => hr'

theorem fillRetransmissionContainer_inv (hn : 2 ≤ n) (h : Inv params ps s) (now : BitVec 64) (rtt : BitVec 16)
    (item : FeedbackRtpNackItem) : Meets (fun r => Inv params ps r.1) (ClockRateZero params)
      (s.fillRetransmissionContainer now rtt item) := by
  rw [fillRetransmissionContainer]
  split_ifs with hnack hzero
  · exact h
  · omega
  · exact requestPackets_inv now rtt _ h

theorem retransmit_eq (s : RtpStreamSend n) (slots : List (Fin n)) : s.retransmit slots = ({ s with
        packetsRetransmitted := s.packetsRetransmitted + slots.length
        packetsRepaired := s.packetsRepaired +
          (slots.filter fun slot => (s.storage slot).sentTimes = 1).length },
        slots.map fun slot => (s.storage slot).packet) := by
  induction slots generalizing s with
  | nil => rfl
  | cons slot slots ih =>
    rw [retransmit]
    dsimp only
    rw [ih]
    simp only [filter_cons, length_cons, map_cons, decide_eq_true_eq, add_assoc, add_comm 1]
    split_ifs with hfirst
    · rw [length_cons, add_comm 1]
    · rw [zero_add]

theorem receiveNackItems_inv (hn : 2 ≤ n) (now : BitVec 64) (rtt : BitVec 16) (its : List FeedbackRtpNackItem)
    (h : Inv params ps s) : Meets (fun r => Inv params ps r.1) (ClockRateZero params)
      (s.receiveNackItems now rtt its) := by
  induction its generalizing s with
  | nil => exact h
  | cons item its ih =>
    rw [receiveNackItems]
    have hcnt : Inv params ps
        { s with nackPacketCount := s.nackPacketCount + item.countRequestedPackets } :=
      h.congr rfl rfl rfl rfl rfl
    refine Meets.bind (fillRetransmissionContainer_inv hn hcnt now rtt item) ?_
    rintro ⟨t, slots⟩ ht
    dsimp only
    rw [retransmit_eq]
    exact Meets.bind (ih (ht.congr rfl rfl rfl rfl rfl)) fun r hr => hr

/-! ### Runs -/

theorem next_inv (hn : 2 ≤ n) {pre : List Event} (e : Event) (h : Inv params (stored pre) s) :
    Meets (Inv params (stored (pre ++ [e]))) (ClockRateZero params) (s.next e) := by
  have hst : stored (pre ++ [e]) = stored pre ++ stored [e] :=
    filterMap_append
  rw [hst]
  cases e with
  | received now seq ts =>
    rw [show stored [Event.received now seq ts] = [] from rfl, append_nil]
    exact h.congr rfl rfl rfl rfl rfl
  | storePacket p =>
    obtain ⟨s', hs', hinv⟩ := storePacket_inv hn h p
    have hnext : s.next (.storePacket p) = .ok s' := by
      rw [next, dif_pos (Nat.zero_lt_of_lt hn)]
      exact hs'
    rw [hnext]
    exact hinv
  | receiveNack now rtt its =>
    rw [show stored [Event.receiveNack now rtt its] = [] from rfl, append_nil]
    have hcnt : Inv params (stored pre) { s with nackCount := s.nackCount + 1 } :=
      h.congr rfl rfl rfl rfl rfl
    exact Meets.bind (receiveNackItems_inv hn now rtt its hcnt) fun r hr => hr
  | clearBuffer =>
    obtain ⟨s', hs', hbuf, -, hsize⟩ := clearBuffer_spec h.buffered
    rw [show stored [Event.clearBuffer] = [] from rfl, append_nil]
    have hnext : s.next .clearBuffer = .ok s' := hs'
    rw [hnext]
    exact hbuf.inv fun hpos => absurd hsize (ne_of_gt hpos)

end Inv

/-- **The retransmission buffer** with at least two slots, after any run. No assertion fails: a run
only ends early at a NACK when the clock rate is 0. -/
theorem buffer_inv (hn : 2 ≤ n) (params : Params) (events : List Event) :
    (∃ s, run next ({ params } : RtpStreamSend n) events = .ok s ∧
      {seq | s.buffer seq ≠ none}.ncard = s.bufferSize ∧ s.bufferSize ≤ n ∧
      (∀ seq seq' slot, s.buffer seq = some slot → s.buffer seq' = some slot → seq = seq') ∧
      (∀ seq slot, s.buffer seq = some slot → HoldsPacket params (stored events) seq (s.storage slot)) ∧
      (0 < s.bufferSize → s.buffer s.bufferStartIdx ≠ none)) ∨ (params.clockRate = 0 ∧
      run next ({ params } : RtpStreamSend n) events = .error (.exception "division by zero")) := by
  have hmeets : Meets (Inv params (stored events)) (ClockRateZero params)
      (run next ({ params } : RtpStreamSend n) events) :=
    run_meets_of_history_inv (I := fun before => Inv params (stored before)) (inv_new params)
      (fun _ event _ h => next_inv hn event h) events
  cases hrun : run next ({ params } : RtpStreamSend n) events with
  | ok s =>
    rw [hrun] at hmeets
    have h : Inv params (stored events) s := hmeets
    exact Or.inl ⟨s, rfl, h.slots.ncard, h.slots.size_le, h.slots.inj, h.holds, h.start⟩
  | error fault =>
    rw [hrun] at hmeets
    obtain ⟨hclock, rfl⟩ : ClockRateZero params fault := hmeets
    exact Or.inr ⟨hclock, rfl⟩

def rtxParams : Params where
  clockRate := 90000
  rtx := some (97, 1112)

def videoPacket (sequenceNumber : BitVec 16) : MediaPacket where
  ssrc := 1111
  payloadType := 96
  sequenceNumber
  timestamp := 3000
  payload := [7]

theorem buffer_inv_wrap : ∃ s, run next ({ params := rtxParams } : RtpStreamSend 2)
        [.storePacket (videoPacket 65535), .storePacket (videoPacket 0), .storePacket (videoPacket 1),
          .receiveNack 1000 0 [⟨1, 0⟩]] = .ok s ∧ {seq | s.buffer seq ≠ none}.ncard = s.bufferSize := by
  obtain ⟨s, hrun, hcard, -⟩ | ⟨hclock, -⟩ := buffer_inv (n := 2) (Nat.le_refl 2) rtxParams
    [.storePacket (videoPacket 65535), .storePacket (videoPacket 0), .storePacket (videoPacket 1),
      .receiveNack 1000 0 [⟨1, 0⟩]]
  · exact ⟨s, hrun, hcard⟩
  · exact absurd hclock (by decide)

theorem receivePacket_run (now : BitVec 64) (pkt : MediaPacket) (s : RtpStreamSend n) :
    Prod.fst <$> s.receivePacket now pkt = run next s (.received now pkt.sequenceNumber pkt.timestamp ::
        if (s.stream.receivePacket now.toNat pkt.sequenceNumber pkt.timestamp).2 then
          [.storePacket pkt] else []) := by
  rw [receivePacket, run_cons_of_ok rfl]
  cases hrec : s.stream.receivePacket now.toNat pkt.sequenceNumber pkt.timestamp with
  | mk stream accepted =>
    cases accepted with
    | false => rfl
    | true =>
      dsimp only
      rw [if_pos rfl]
      rw [run_singleton, next]
      by_cases hn : 0 < n
      · rw [dif_pos hn, dif_pos hn]
        cases storePacket hn pkt { s with stream } with
        | error f => rfl
        | ok s' => rfl
      · rw [dif_neg hn, dif_neg hn]
        rfl

end RtpStreamSend

end MediasoupWorker.RTC
