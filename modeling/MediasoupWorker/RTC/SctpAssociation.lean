import MediasoupWorker.Common
import MediasoupWorker.Library.Memory
import MediasoupWorker.Library.Runs

/-!
# Messages from SCTP data chunks

`src/src/RTC/SctpAssociation.cpp`. There is one buffer for the chunks of all streams, and whether what is
in it belongs to the message of the next chunk is told by the SSN alone. `Assembly` puts the messages of
each stream together on its own; the code does the same as long as it is not disturbed (`Undisturbed`): then
what it keeps of its buffer is what has arrived of the message.
-/

namespace MediasoupWorker.RTC

open Library List

structure SctpChunk where
  streamId : BitVec 16
  ssn : BitVec 16
  ppid : BitVec 32
  eor : Bool
  data : List Byte
  deriving DecidableEq, Repr

structure SctpMessage where
  streamId : BitVec 16
  ppid : BitVec 32
  data : List Byte
  deriving DecidableEq, Repr

structure SctpAssociation where
  maxSctpMessageSize : ℕ
  messageBuffer : Option (ℕ → Byte) := none
  messageBufferLen : ℕ := 0
  lastSsnReceived : BitVec 16 := 0
  received : List SctpMessage := []

namespace SctpAssociation

/-! ## The code -/

def buffered (s : SctpAssociation) : List Byte :=
  fetch (s.messageBuffer.getD fun _ => 0) 0 s.messageBufferLen

def discard (s : SctpAssociation) (ssn : BitVec 16) : SctpAssociation :=
  if s.messageBufferLen ≠ 0 ∧ ssn ≠ s.lastSsnReceived then { s with messageBufferLen := 0 } else s

def allocate (s : SctpAssociation) : SctpAssociation :=
  { s with messageBuffer := some (s.messageBuffer.getD fun _ => 0) }

def append (s : SctpAssociation) (data : List Byte) : Except Fault SctpAssociation :=
  match s.messageBuffer with
  | none => .error .nullPointer
  | some messageBuffer =>
    if s.messageBufferLen + data.length ≤ s.maxSctpMessageSize then
      .ok { s with
        messageBuffer := some (store messageBuffer s.messageBufferLen data)
        messageBufferLen := s.messageBufferLen + data.length }
    else .error .outOfBounds

def notify (s : SctpAssociation) (streamId : BitVec 16) (ppid : BitVec 32) (data : List Byte) :
    SctpAssociation :=
  { s with received := s.received ++ [⟨streamId, ppid, data⟩] }

def onUsrSctpReceiveSctpData (s : SctpAssociation) (c : SctpChunk) : Except Fault SctpAssociation :=
  if c.ppid = 50 then .ok s
  else
    let s := { s.discard c.ssn with lastSsnReceived := c.ssn }
    if s.messageBufferLen + c.data.length > s.maxSctpMessageSize then .ok { s with lastSsnReceived := 0 }
    else if c.eor ∧ s.messageBufferLen = 0 then .ok (s.notify c.streamId c.ppid c.data)
    else if c.eor ∧ s.messageBufferLen ≠ 0 then do
      let s ← s.append c.data
      .ok { s.notify c.streamId c.ppid s.buffered with messageBufferLen := 0 }
    else s.allocate.append c.data

/-! ## What a chunk does -/

structure InBounds (s : SctpAssociation) : Prop where
  messageBufferLen_le : s.messageBufferLen ≤ s.maxSctpMessageSize
  allocated : s.messageBufferLen ≠ 0 → ∃ messageBuffer, s.messageBuffer = some messageBuffer

def kept (s : SctpAssociation) (c : SctpChunk) : List Byte :=
  if s.messageBufferLen ≠ 0 ∧ c.ssn ≠ s.lastSsnReceived then [] else s.buffered

inductive Effect (s : SctpAssociation) (c : SctpChunk) (s' : SctpAssociation) : Prop where
  | tooLarge (hlarge : s.maxSctpMessageSize < (s.kept c ++ c.data).length)
      (hbuffered : s'.buffered = s.kept c) (hssn : s'.lastSsnReceived = 0)
      (hreceived : s'.received = s.received)
  | completes (hfits : (s.kept c ++ c.data).length ≤ s.maxSctpMessageSize) (heor : c.eor = true)
      (hbuffered : s'.buffered = [])
      (hreceived : s'.received = s.received ++ [⟨c.streamId, c.ppid, s.kept c ++ c.data⟩])
  | continues (hfits : (s.kept c ++ c.data).length ≤ s.maxSctpMessageSize) (heor : c.eor = false)
      (hbuffered : s'.buffered = s.kept c ++ c.data) (hssn : s'.lastSsnReceived = c.ssn)
      (hreceived : s'.received = s.received)

variable {s s' : SctpAssociation} {c : SctpChunk}

@[simp] theorem length_buffered (s : SctpAssociation) : s.buffered.length = s.messageBufferLen := length_fetch

theorem buffered_of_messageBufferLen (h : s.messageBufferLen = 0) : s.buffered = [] :=
  eq_nil_of_length_eq_zero (by rw [length_buffered, h])

theorem append_spec {buf : ℕ → Byte} {data : List Byte} (hbuf : s.messageBuffer = some buf)
    (hfits : s.messageBufferLen + data.length ≤ s.maxSctpMessageSize) :
    ∃ s', s.append data = .ok s' ∧ s'.InBounds ∧ s'.maxSctpMessageSize = s.maxSctpMessageSize ∧
      s'.buffered = s.buffered ++ data ∧ s'.lastSsnReceived = s.lastSsnReceived ∧
      s'.received = s.received := by
  rw [append, hbuf]
  simp only
  rw [if_pos hfits]
  refine ⟨_, rfl, ⟨hfits, fun _ => ⟨_, rfl⟩⟩, rfl, ?_, rfl, rfl⟩
  rw [buffered, buffered, hbuf, Option.getD_some, Option.getD_some, fetch_add, zero_add,
    fetch_store_of_le (by omega), fetch_store_self]

theorem discard_spec (hs : s.InBounds) : (s.discard c.ssn).InBounds ∧ (s.discard c.ssn).buffered = s.kept c ∧
      (s.discard c.ssn).maxSctpMessageSize = s.maxSctpMessageSize ∧
      (s.discard c.ssn).received = s.received := by
  unfold discard kept
  split
  · exact ⟨⟨Nat.zero_le _, fun h => absurd rfl h⟩, rfl, rfl, rfl⟩
  · exact ⟨hs, rfl, rfl, rfl⟩

/-- **What a chunk does.** -/
theorem onUsrSctpReceiveSctpData_spec (hs : s.InBounds) (hppid : c.ppid ≠ 50) :
    ∃ s', s.onUsrSctpReceiveSctpData c = .ok s' ∧ s'.InBounds ∧
      s'.maxSctpMessageSize = s.maxSctpMessageSize ∧ Effect s c s' := by
  rw [onUsrSctpReceiveSctpData, if_neg hppid]
  simp only
  obtain ⟨hbnd, hkept, hmax, hrec⟩ := discard_spec (c := c) hs
  generalize s.discard c.ssn = t at hbnd hkept hmax hrec
  have hlen : (s.kept c ++ c.data).length = t.messageBufferLen + c.data.length := by
    rw [← hkept, length_append, length_buffered]
  split
  · rename_i hlarge
    exact ⟨_, rfl, ⟨hbnd.messageBufferLen_le, hbnd.allocated⟩, hmax, .tooLarge (by omega) hkept rfl hrec⟩
  · rename_i hnot
    have hfits : t.messageBufferLen + c.data.length ≤ t.maxSctpMessageSize := by omega
    split
    · rename_i hdirect
      have hnil : s.kept c = [] := hkept ▸ buffered_of_messageBufferLen hdirect.2
      refine ⟨_, rfl, ⟨hbnd.messageBufferLen_le, hbnd.allocated⟩, hmax,
        .completes (by omega) hdirect.1 (hkept.trans hnil) ?_⟩
      rw [hnil, nil_append]
      exact congrArg (· ++ _) hrec
    · rename_i hindirect
      split
      · rename_i hlast
        obtain ⟨buf, hbuf⟩ := hbnd.allocated hlast.2
        obtain ⟨u, happend, hinBounds, humax, hubuffered, -, hureceived⟩ :=
          append_spec (s := { t with lastSsnReceived := c.ssn }) hbuf hfits
        rw [happend]
        refine ⟨_, rfl, ⟨Nat.zero_le _, fun h => absurd rfl h⟩, humax.trans hmax,
          .completes (by omega) hlast.1 rfl ?_⟩
        show u.received ++ [⟨c.streamId, c.ppid, u.buffered⟩] = _
        rw [hureceived, hubuffered, ← hkept, ← hrec]
        rfl
      · rename_i hmore
        have heor : c.eor = false := by
          by_contra h
          rw [Bool.not_eq_false] at h
          exact hmore ⟨h, fun hzero => hindirect ⟨h, hzero⟩⟩
        obtain ⟨u, happend, hinBounds, humax, hubuffered, hussn, hureceived⟩ :=
          append_spec (s := allocate { t with lastSsnReceived := c.ssn }) rfl hfits
        refine ⟨u, happend, hinBounds, humax.trans hmax, .continues (by omega) heor ?_ hussn ?_⟩
        · rw [hubuffered, ← hkept]
          rfl
        · exact hureceived.trans hrec

end SctpAssociation

/-! ## The messages of the streams -/

structure Unfinished where
  ssn : BitVec 16
  data : List Byte

structure Assembly where
  unfinished : BitVec 16 → Option Unfinished := fun _ => none
  completed : List SctpMessage := []
  leftover : Bool := false

namespace Assembly

variable (maxSize : ℕ)

def arrived (a : Assembly) (c : SctpChunk) : List Byte := ((a.unfinished c.streamId).map (·.data)).getD []

def step (a : Assembly) (c : SctpChunk) : Assembly where
  unfinished := Function.update a.unfinished c.streamId
    (if c.eor then none else some ⟨c.ssn, a.arrived c ++ c.data⟩)
  completed := if c.eor then a.completed ++ [⟨c.streamId, c.ppid, a.arrived c ++ c.data⟩] else a.completed
  leftover := c.eor && decide (a.arrived c ≠ []) && decide (maxSize < (a.arrived c ++ c.data).length)

structure InOrder (a : Assembly) (c : SctpChunk) : Prop where
  ppid_ne : c.ppid ≠ 50
  ssn_eq : ∀ u, a.unfinished c.streamId = some u → c.ssn = u.ssn

instance (a : Assembly) (c : SctpChunk) : Decidable (a.InOrder c) :=
  decidable_of_iff (c.ppid ≠ 50 ∧ ∀ u ∈ a.unfinished c.streamId, c.ssn = u.ssn)
    ⟨fun h => ⟨h.1, h.2⟩, fun h => ⟨h.1, h.2⟩⟩

structure Undisturbed (a : Assembly) (c : SctpChunk) : Prop where
  alone : ∀ streamId ≠ c.streamId, a.unfinished streamId = none
  eor_of_large : maxSize < (a.arrived c ++ c.data).length → c.eor = true
  ssn_ne_zero : a.leftover = true → c.ssn ≠ 0

variable {maxSize} {a : Assembly} {c : SctpChunk}

theorem arrived_of_none (h : a.unfinished c.streamId = none) : a.arrived c = [] := by
  rw [arrived, h]
  rfl

theorem unfinished_step_of_ne {streamId : BitVec 16} (h : streamId ≠ c.streamId) :
    (a.step maxSize c).unfinished streamId = a.unfinished streamId := Function.update_of_ne h _ _

theorem unfinished_step_of_eor (halone : ∀ sid ≠ c.streamId, a.unfinished sid = none) (heor : c.eor = true)
    (sid : BitVec 16) : (a.step maxSize c).unfinished sid = none := by
  by_cases hsame : sid = c.streamId
  · simp [Assembly.step, hsame, heor]
  · rw [unfinished_step_of_ne hsame, halone _ hsame]

theorem Undisturbed.next (h : a.Undisturbed maxSize c) (c' : SctpChunk)
    (hnext : c'.streamId = c.streamId ∨ c.eor = true)
    (hlarge : maxSize < ((a.step maxSize c).arrived c' ++ c'.data).length → c'.eor = true)
    (hleftover : (a.step maxSize c).leftover = true → c'.ssn ≠ 0) :
    (a.step maxSize c).Undisturbed maxSize c' := by
  refine ⟨fun sid hne => ?_, hlarge, hleftover⟩
  rcases hnext with hsame | heor
  · rw [hsame] at hne
    rw [unfinished_step_of_ne hne, h.alone _ hne]
  · exact unfinished_step_of_eor h.alone heor sid

theorem completed_step_of_eor (heor : c.eor = true) : (a.step maxSize c).completed =
    a.completed ++ [⟨c.streamId, c.ppid, a.arrived c ++ c.data⟩] := if_pos heor

end Assembly

namespace SctpAssociation

open Assembly

def Exact (maxSize : ℕ) (chunks : List SctpChunk) : Prop :=
  ∃ s, run onUsrSctpReceiveSctpData { maxSctpMessageSize := maxSize } chunks = .ok s ∧ s.received.Sublist
      ((chunks.foldl (Assembly.step maxSize) {}).completed.filter fun m => decide (m.data.length ≤ maxSize))

structure Follows (maxSize : ℕ) (s : SctpAssociation) (a : Assembly) : Prop where
  inBounds : s.InBounds
  maxSctpMessageSize_eq : s.maxSctpMessageSize = maxSize
  received_eq : s.received = a.completed.filter fun m => decide (m.data.length ≤ maxSize)
  kept_eq : ∀ c, a.InOrder c → a.Undisturbed maxSize c → s.kept c = a.arrived c

variable {s s' : SctpAssociation} {a : Assembly} {c : SctpChunk} {maxSize : ℕ}

section

variable (hmax : s.maxSctpMessageSize = maxSize) (hkept : s.kept c = a.arrived c)

include hmax hkept

theorem received_eq_step (hlarge : maxSize < (a.arrived c ++ c.data).length → c.eor = true)
    (hrec : s.received = a.completed.filter fun m => decide (m.data.length ≤ maxSize))
    (heffect : Effect s c s') :
    s'.received = (a.step maxSize c).completed.filter fun m => decide (m.data.length ≤ maxSize) := by
  cases heffect with
  | tooLarge htoo _ _ hsame =>
    rw [hkept, hmax] at htoo
    rw [completed_step_of_eor (hlarge htoo), filter_append, filter_cons_of_neg (by simpa using htoo),
      filter_nil, append_nil, hsame, hrec]
  | completes hfits heor _ hnew =>
    rw [hkept, hmax] at hfits
    rw [completed_step_of_eor heor, filter_append, filter_cons_of_pos (by simpa using hfits),
      filter_nil, hnew, hrec, hkept]
  | continues _ heor _ _ hsame =>
    rw [hsame, hrec]
    simp [Assembly.step, heor]

theorem kept_eq_step (hundist : a.Undisturbed maxSize c) (heffect : Effect s c s') {c' : SctpChunk}
    (hord' : (a.step maxSize c).InOrder c') (hundist' : (a.step maxSize c).Undisturbed maxSize c') :
    s'.kept c' = (a.step maxSize c).arrived c' := by
  cases heffect with
  | tooLarge htoo hbuf hssn _ =>
    rw [hkept, hmax] at htoo
    have heor := hundist.eor_of_large htoo
    rw [arrived_of_none (unfinished_step_of_eor hundist.alone heor _), kept]
    split
    · rfl
    · rename_i hkeeps
      rw [hbuf, hkept]
      -- What is left of several chunks would be discarded.
      by_contra hne
      refine hkeeps ⟨?_, ?_⟩
      · rw [← length_buffered, hbuf, hkept]
        exact fun h => hne (eq_nil_of_length_eq_zero h)
      · rw [hssn]
        refine hundist'.ssn_ne_zero ?_
        simp only [Assembly.step, heor, Bool.true_and, Bool.and_eq_true, decide_eq_true_eq]
        exact ⟨hne, htoo⟩
  | completes _ heor hbuf _ =>
    rw [arrived_of_none (unfinished_step_of_eor hundist.alone heor _), kept, hbuf, ite_self]
  | continues _ heor hbuf hssn _ =>
    have hunfinished : (a.step maxSize c).unfinished c.streamId = some ⟨c.ssn, a.arrived c ++ c.data⟩ := by
      simp [Assembly.step, heor]
    have hsame : c'.streamId = c.streamId := by
      by_contra hother
      rw [hundist'.alone c.streamId (Ne.symm hother)] at hunfinished
      cases hunfinished
    rw [← hsame] at hunfinished
    have harrived : (a.step maxSize c).arrived c' = a.arrived c ++ c.data := by
      rw [arrived, hunfinished]
      rfl
    rw [kept, hssn, hord'.ssn_eq _ hunfinished, if_neg (fun h => h.2 rfl), hbuf, hkept, harrived]

end

theorem follows_step (h : Follows maxSize s a) (hord : a.InOrder c) (hundist : a.Undisturbed maxSize c) :
    ∃ s', s.onUsrSctpReceiveSctpData c = .ok s' ∧ Follows maxSize s' (a.step maxSize c) := by
  obtain ⟨s', hstep, hbnd, hmax, heffect⟩ := onUsrSctpReceiveSctpData_spec h.inBounds hord.ppid_ne
  have hkept := h.kept_eq c hord hundist
  refine ⟨s', hstep, hbnd, hmax.trans h.maxSctpMessageSize_eq, ?_, fun c' hord' hundist' => ?_⟩
  · exact received_eq_step h.maxSctpMessageSize_eq hkept hundist.eor_of_large h.received_eq heffect
  · exact kept_eq_step h.maxSctpMessageSize_eq hkept hundist heffect hord' hundist'

theorem follows_initial (maxSize : ℕ) : Follows maxSize { maxSctpMessageSize := maxSize } {} where
  inBounds := ⟨Nat.zero_le _, fun h => absurd rfl h⟩
  maxSctpMessageSize_eq := rfl
  received_eq := rfl
  kept_eq := fun _ _ _ => rfl

/-- **Reassembly is exact** as long as it is not disturbed. -/
theorem exact_of_undisturbed (maxSize : ℕ) (chunks : List SctpChunk)
    (horder : StepsMeet (Assembly.step maxSize) InOrder {} chunks)
    (hundisturbed : StepsMeet (Assembly.step maxSize) (Undisturbed maxSize) {} chunks) :
    Exact maxSize chunks := by
  have hstep (s : SctpAssociation) (a : Assembly) (c : SctpChunk) (h : Follows maxSize s a)
      (hC : a.InOrder c ∧ a.Undisturbed maxSize c) :
      ∃ s', s.onUsrSctpReceiveSctpData c = .ok s' ∧ Follows maxSize s' (a.step maxSize c) :=
    follows_step h hC.1 hC.2
  obtain ⟨s, hrun, hfollows⟩ :=
    run_ok_of_simulation hstep (follows_initial maxSize) (horder.and hundisturbed)
  refine ⟨s, hrun, ?_⟩
  rw [hfollows.received_eq]

theorem exact_two_streams :
    Exact 3 [⟨1, 0, 51, false, [0x61]⟩, ⟨1, 0, 51, true, [0x62, 0x63]⟩, ⟨1, 1, 51, false, [0x64, 0x65]⟩,
      ⟨1, 1, 51, true, [0x66, 0x67]⟩, ⟨2, 1, 51, true, [0x68]⟩] := by
  have hfirst : Undisturbed 3 {} ⟨1, 0, 51, false, [0x61]⟩ := ⟨fun _ _ => rfl, by decide, by decide⟩
  have hsecond := hfirst.next ⟨1, 0, 51, true, [0x62, 0x63]⟩ (.inl rfl) (by decide) (by decide)
  have hthird := hsecond.next ⟨1, 1, 51, false, [0x64, 0x65]⟩ (.inl rfl) (by decide) (by decide)
  have hfourth := hthird.next ⟨1, 1, 51, true, [0x66, 0x67]⟩ (.inl rfl) (by decide) (by decide)
  have hfifth := hfourth.next ⟨2, 1, 51, true, [0x68]⟩ (.inr rfl) (by decide) (by decide)
  exact exact_of_undisturbed 3 _ (by decide) ⟨hfirst, hsecond, hthird, hfourth, hfifth, trivial⟩

theorem not_exact_of_run {chunks : List SctpChunk} {m : SctpMessage}
    (hrun : run onUsrSctpReceiveSctpData { maxSctpMessageSize := maxSize } chunks = .ok s)
    (hrec : m ∈ s.received) (hnot : m ∉ (chunks.foldl (Assembly.step maxSize) {}).completed) :
    ¬ Exact maxSize chunks := by
  rintro ⟨t, ht, hsublist⟩
  rw [hrun] at ht
  cases ht
  exact hnot (mem_of_mem_filter (hsublist.subset hrec))

def interrupted : List SctpChunk := [⟨1, 0, 51, false, [0x61]⟩, ⟨2, 0, 51, true, [0x62]⟩]

def oversized : List SctpChunk :=
  [⟨1, 0, 51, false, [0x61, 0x62]⟩, ⟨1, 0, 51, false, [0x63, 0x64]⟩, ⟨1, 0, 51, true, [0x65]⟩]

def afterOversized : List SctpChunk :=
  [⟨1, 0, 51, false, [0x61, 0x62]⟩, ⟨1, 0, 51, true, [0x63, 0x64]⟩, ⟨2, 0, 51, true, [0x65]⟩]

/-- **Data of two streams is joined, and a message that is too large is handed over in part.** -/
theorem not_exact :
    (StepsMeet (Assembly.step 3) InOrder {} interrupted ∧ ¬ Exact 3 interrupted) ∧
    (StepsMeet (Assembly.step 3) InOrder {} oversized ∧ ¬ Exact 3 oversized) ∧
    StepsMeet (Assembly.step 3) InOrder {} afterOversized ∧ ¬ Exact 3 afterOversized := by
  refine ⟨⟨by decide, ?_⟩, ⟨by decide, ?_⟩, by decide, ?_⟩
  · exact not_exact_of_run (m := ⟨2, 51, [0x61, 0x62]⟩) rfl List.mem_cons_self (by decide)
  · exact not_exact_of_run (m := ⟨1, 51, [0x61, 0x62, 0x65]⟩) rfl List.mem_cons_self (by decide)
  · exact not_exact_of_run (m := ⟨2, 51, [0x61, 0x62, 0x65]⟩) rfl List.mem_cons_self (by decide)

end SctpAssociation

end MediasoupWorker.RTC
