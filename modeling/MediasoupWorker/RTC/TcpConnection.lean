import MediasoupWorker.Library.Memory
import MediasoupWorker.Library.Runs
import MediasoupWorker.Utils.Byte

/-!
# Packets over TCP

`src/src/RTC/TcpConnection.cpp`, `src/src/handles/TcpConnectionHandler.cpp`. A packet is sent behind its
length. The reader keeps the place where the current frame starts and the end of the data in a buffer of
fixed size; the bytes between the two are `unread`.
`uv_try_write` writes a prefix, and the rest is queued.
-/

namespace MediasoupWorker.RTC

open Library List

/-! ## The reader -/

structure TcpConnection where
  bufferSize : ℕ
  buffer : ℕ → Byte
  bufferDataLen : ℕ := 0
  frameStart : ℕ := 0
  closed : Bool := false
  received : List (List Byte) := []

inductive OutOfTurns where
  | outOfTurns
  deriving DecidableEq, Repr

namespace TcpConnection

def packetLen (s : TcpConnection) : ℕ :=
  (s.buffer s.frameStart ++ s.buffer (s.frameStart + 1) : BitVec 16).toNat

def deliver (packetLen : ℕ) (s : TcpConnection) : TcpConnection :=
  if packetLen ≠ 0 then
    { s with received := s.received ++ [fetch s.buffer (s.frameStart + 2) packetLen] }
  else s

def skipFrame (packetLen : ℕ) (s : TcpConnection) : TcpConnection :=
  if s.frameStart + 2 + packetLen = s.bufferSize then { s with frameStart := 0, bufferDataLen := 0 }
  else { s with frameStart := s.frameStart + (2 + packetLen) }

def keepFrame (s : TcpConnection) : TcpConnection :=
  if s.bufferDataLen = s.bufferSize then
    if s.frameStart ≠ 0 then
      { s with
        buffer := move s.buffer 0 s.frameStart (s.bufferSize - s.frameStart)
        bufferDataLen := s.bufferSize - s.frameStart
        frameStart := 0 }
    -- `ErrorReceiving()`.
    else { s with closed := true }
  else s

def userOnTcpConnectionRead : (turns : ℕ) → TcpConnection → Except OutOfTurns TcpConnection
  | 0, _ => .error .outOfTurns
  | turns + 1, s =>
    if s.closed then .ok s
    else
      let dataLen := s.bufferDataLen - s.frameStart
      let packetLen := s.packetLen
      if dataLen ≥ 2 ∧ dataLen ≥ 2 + packetLen then
        let s := (s.deliver packetLen).skipFrame packetLen
        if s.bufferDataLen > s.frameStart then userOnTcpConnectionRead turns s else .ok s
      else .ok s.keepFrame

def onUvRead (s : TcpConnection) (bytes : List Byte) : Except OutOfTurns TcpConnection :=
  if bytes.length = 0 then .ok s
  else
    let s := { s with
      buffer := store s.buffer s.bufferDataLen bytes
      bufferDataLen := s.bufferDataLen + bytes.length }
    s.userOnTcpConnectionRead (s.bufferDataLen + 1)

def Fits (s : TcpConnection) (bytes : List Byte) : Prop := bytes.length ≤ s.bufferSize - s.bufferDataLen

instance (s : TcpConnection) (bytes : List Byte) : Decidable (s.Fits bytes) :=
  inferInstanceAs (Decidable (_ ≤ _))

end TcpConnection

/-! ## The writer -/

structure Stream where
  wire : List Byte := []
  queue : List Byte := []
  deriving DecidableEq

namespace Stream

def write (data1 data2 : List Byte) (written : ℤ) (s : Stream) : Stream :=
  if data1.length = 0 ∧ data2.length = 0 then s
  else if written = data1.length + data2.length then { s with wire := s.wire ++ (data1 ++ data2) }
  else
    let written := if written < 0 then 0 else written.toNat
    let store :=
      if written < data1.length then data1.drop written ++ data2 else data2.drop (written - data1.length)
    { wire := s.wire ++ (data1 ++ data2).take written, queue := s.queue ++ store }

def send (data : List Byte) (written : ℤ) (s : Stream) : Stream :=
  s.write (set2Bytes (BitVec.ofNat 16 data.length)) data written

inductive Event where
  | send (data : List Byte) (written : ℤ)
  | flush (len : ℕ)
  deriving DecidableEq

def step (s : Stream) : Event → Stream
  | .send data written => s.send data written
  | .flush len => { wire := s.wire ++ s.queue.take len, queue := s.queue.drop len }

def Possible (s : Stream) : Event → Prop
  | .send data written => written ≤ 2 + data.length ∧ (0 < written → s.queue = [])
  | .flush _ => True

instance (s : Stream) : DecidablePred s.Possible
  | .send _ _ => inferInstanceAs (Decidable (_ ∧ _))
  | .flush _ => inferInstanceAs (Decidable True)

end Stream

def frame (packet : List Byte) : List Byte := set2Bytes (BitVec.ofNat 16 packet.length) ++ packet

def Stream.Event.packet : Stream.Event → Option (List Byte)
  | .send data _ => some data
  | .flush _ => none

namespace Stream

theorem write_append (data1 data2 : List Byte) (s : Stream) {written : ℤ}
    (hqueue : 0 < written → s.queue = []) :
    (s.write data1 data2 written).wire ++ (s.write data1 data2 written).queue =
      s.wire ++ s.queue ++ (data1 ++ data2) := by
  unfold write
  split
  · rename_i hnil
    rw [eq_nil_of_length_eq_zero hnil.1, eq_nil_of_length_eq_zero hnil.2]
    simp
  · rename_i hne
    split
    · rw [hqueue (by omega)]
      simp
    · generalize hn : (if written < 0 then 0 else written.toNat) = n
      have hstore : (if n < data1.length then data1.drop n ++ data2 else data2.drop (n - data1.length)) =
          (data1 ++ data2).drop n := by
        rw [drop_append]
        split
        · rw [Nat.sub_eq_zero_of_le (by omega), drop_zero]
        · rename_i hge
          rw [drop_eq_nil_of_le (not_lt.mp hge), nil_append]
      simp only [hstore]
      by_cases hzero : n = 0
      · rw [hzero]
        simp
      · have hpos : 0 < written := by
          split at hn <;> omega
        rw [hqueue hpos, nil_append, append_nil, append_assoc, take_append_drop]

/-- **What is written and queued** is the frames of the packets that were sent. -/
theorem wire_append_queue {s : Stream} {es : List Event} (hpossible : StepsMeet step Possible s es) :
    (es.foldl step s).wire ++ (es.foldl step s).queue =
      s.wire ++ s.queue ++ (es.filterMap Event.packet).flatMap frame := by
  induction es generalizing s with
  | nil => simp
  | cons e es ih =>
    obtain ⟨he, hevs⟩ := hpossible
    rw [foldl_cons, ih hevs]
    cases e with
    | send data out =>
      have hwrite := write_append (set2Bytes (BitVec.ofNat 16 data.length)) data s he.2
      rw [show s.step (.send data out) = s.write (set2Bytes (BitVec.ofNat 16 data.length)) data
        out from rfl, hwrite, append_assoc]
      rfl
    | flush len =>
      rw [step, append_assoc s.wire, take_append_drop]
      rfl

end Stream

/-! ## What the reader does -/

@[simp] theorem length_frame (packet : List Byte) : (frame packet).length = 2 + packet.length := by
  rw [frame, length_append, length_set2Bytes]

namespace TcpConnection

def unread (s : TcpConnection) : List Byte := fetch s.buffer s.frameStart (s.bufferDataLen - s.frameStart)

@[simp] theorem length_unread (s : TcpConnection) :
    s.unread.length = s.bufferDataLen - s.frameStart := length_fetch

variable {s : TcpConnection} {packet future more : List Byte}

theorem packetLen_eq (h : s.unread ++ future = frame packet ++ more) (hlen : 2 ≤ s.unread.length)
    (hp : packet.length < 2 ^ 16) : s.packetLen = packet.length := by
  have hread : read2Bytes s.unread 0 = s.buffer s.frameStart ++ s.buffer (s.frameStart + 1) := by
    rw [length_unread] at hlen
    obtain ⟨n, hn⟩ := Nat.exists_eq_add_of_le hlen
    rw [unread, hn, fetch_add]
    rfl
  have hframe : read2Bytes (frame packet ++ more) 0 = BitVec.ofNat 16 packet.length :=
    read2Bytes_set2Bytes _ _
  rw [packetLen, ← hread, ← read2Bytes_append_left (by omega) future, h, hframe, BitVec.toNat_ofNat,
    Nat.mod_eq_of_lt hp]

theorem unread_eq (h : s.unread ++ future = frame packet ++ more)
    (hlen : 2 + packet.length ≤ s.unread.length) : fetch s.buffer (s.frameStart + 2) packet.length = packet ∧
      s.unread = frame packet ++ s.unread.drop (2 + packet.length) ∧
      s.unread.drop (2 + packet.length) ++ future = more := by
  have hframe : (frame packet).length = 2 + packet.length := length_frame packet
  have htake : s.unread.take (2 + packet.length) = frame packet := by
    have := congrArg (take (2 + packet.length)) h
    rwa [take_append_of_le_length hlen, take_left' hframe] at this
  refine ⟨?_, ?_, ?_⟩
  · rw [length_unread] at hlen
    rw [unread, take_fetch _ _ hlen, fetch_add] at htake
    exact (append_inj htake (by rw [length_fetch, length_set2Bytes])).2
  · rw [← htake, take_append_drop]
  · have := congrArg (drop (2 + packet.length)) h
    rwa [drop_append_of_le_length hlen, drop_left' hframe] at this

structure Waiting (s : TcpConnection) : Prop where
  isOpen : s.closed = false
  frameStart_le : s.frameStart ≤ s.bufferDataLen
  bufferDataLen_lt : s.bufferDataLen < s.bufferSize

def Framed (bufferSize : ℕ) (packets : List (List Byte)) : Prop :=
  ∀ packet ∈ packets, 1 ≤ packet.length ∧ packet.length < 2 ^ 16 ∧ 2 + packet.length ≤ bufferSize

variable {ps : List (List Byte)}

theorem exists_cons_of_unread (hdata : s.frameStart < s.bufferDataLen)
    (hs : s.unread ++ future = ps.flatMap frame) : ∃ packet rest, ps = packet :: rest := by
  cases ps with
  | nil =>
    have hlen := congrArg length (append_eq_nil_iff.mp hs).1
    rw [length_unread, length_nil] at hlen
    omega
  | cons packet rest => exact ⟨packet, rest, rfl⟩

theorem keepFrame_spec (hopen : s.closed = false) (hdata : s.frameStart < s.bufferDataLen)
    (hend : s.bufferDataLen ≤ s.bufferSize) (hs : s.unread ++ future = ps.flatMap frame)
    (hps : Framed s.bufferSize ps)
    (hshort : ∀ packet rest, ps = packet :: rest → s.unread.length < 2 + packet.length) :
    s.keepFrame.Waiting ∧ s.keepFrame.unread = s.unread ∧ s.keepFrame.received = s.received ∧
      s.keepFrame.bufferSize = s.bufferSize := by
  unfold keepFrame
  split
  · rename_i hfull
    split
    · rename_i hmove
      refine ⟨⟨hopen, Nat.zero_le _, ?_⟩, ?_, rfl, rfl⟩
      · show s.bufferSize - s.frameStart < s.bufferSize
        omega
      · rw [unread, unread, hfull]
        exact fetch_move s.buffer 0 s.frameStart (s.bufferSize - s.frameStart)
    · rename_i hzero
      -- A frame that fills the buffer is complete.
      obtain ⟨packet, rest, rfl⟩ := exists_cons_of_unread hdata hs
      have hlt := hshort packet rest rfl
      have hfits := (hps packet mem_cons_self).2.2
      rw [length_unread] at hlt
      omega
  · rename_i hspace
    exact ⟨⟨hopen, hdata.le, by omega⟩, rfl, rfl, rfl⟩

/-- **What the reader does** with the bytes of a stream: it delivers the packets whose frames are
complete, and waits for the rest of the next one. -/
theorem userOnTcpConnectionRead_spec {turns : ℕ} (hopen : s.closed = false)
    (hdata : s.frameStart < s.bufferDataLen) (hend : s.bufferDataLen ≤ s.bufferSize)
    (hturns : s.bufferDataLen - s.frameStart < turns) (hs : s.unread ++ future = ps.flatMap frame)
    (hps : Framed s.bufferSize ps) :
    ∃ s' now later, s.userOnTcpConnectionRead turns = .ok s' ∧ ps = now ++ later ∧
      s'.received = s.received ++ now ∧ s'.unread ++ future = later.flatMap frame ∧ s'.Waiting ∧
      s'.bufferSize = s.bufferSize ∧
      ∀ packet rest, later = packet :: rest → s'.unread.length < 2 + packet.length := by
  induction turns generalizing s ps with
  | zero => exact absurd hturns (Nat.not_lt_zero _)
  | succ turns ih =>
    rw [userOnTcpConnectionRead, if_neg (by rw [hopen]; exact Bool.false_ne_true)]
    simp only
    obtain ⟨packet, rest, rfl⟩ := exists_cons_of_unread hdata hs
    obtain ⟨hpos, hlt, hfits⟩ := hps packet mem_cons_self
    have hlen (h : 2 ≤ s.bufferDataLen - s.frameStart) : s.packetLen = packet.length :=
      packetLen_eq hs (by rwa [length_unread]) hlt
    split
    · rename_i hcomp
      rw [hlen hcomp.1] at hcomp ⊢
      obtain ⟨hpkt, hunr, hmore⟩ := unread_eq hs (by rw [length_unread]; exact hcomp.2)
      have hdel : s.deliver packet.length = { s with received := s.received ++ [packet] } := by
        rw [deliver, if_pos (by omega), hpkt]
      rw [hdel]
      unfold skipFrame
      simp only
      split
      · rename_i hfill
        have hnil : s.unread.drop (2 + packet.length) = [] := by
          refine drop_eq_nil_of_le ?_
          rw [length_unread]
          omega
        rw [hnil] at hmore
        refine ⟨_, [packet], rest, rfl, rfl, rfl, hmore, ⟨hopen, Nat.le_refl 0, ?_⟩, rfl, ?_⟩
        · show 0 < s.bufferSize
          omega
        · intro pkt' _ _
          show 0 < 2 + pkt'.length
          omega
      · rename_i hspace
        have hnext : fetch s.buffer (s.frameStart + (2 + packet.length))
            (s.bufferDataLen - (s.frameStart + (2 + packet.length))) = s.unread.drop (2 + packet.length) := by
          rw [unread, drop_fetch _ _ hcomp.2, Nat.sub_sub]
        split
        · rename_i hagain
          obtain ⟨s', now, later, hrun, hsplit, hrec, hunr', hwait, hsize, hshort⟩ :=
            ih (s := { s with
              received := s.received ++ [packet], frameStart := s.frameStart + (2 + packet.length) })
              hopen hagain hend (by simp only; omega) (by rw [unread, hnext]; exact hmore)
              fun p hp => hps p (mem_cons_of_mem _ hp)
          refine ⟨s', packet :: now, later, hrun, by rw [hsplit, cons_append], ?_, hunr', hwait,
            hsize, hshort⟩
          rw [hrec, append_assoc, singleton_append]
        · rename_i hdone
          simp only at hdone
          refine ⟨_, [packet], rest, rfl, rfl, rfl, ?_, ⟨hopen, ?_, ?_⟩, rfl, ?_⟩
          · rw [unread, hnext]
            exact hmore
          · show s.frameStart + (2 + packet.length) ≤ s.bufferDataLen
            omega
          · show s.bufferDataLen < s.bufferSize
            omega
          · intro pkt' _ _
            rw [length_unread]
            simp only
            omega
    · rename_i hincomplete
      have hshort (pkt' : List Byte) (rest' : List (List Byte))
          (heq : packet :: rest = pkt' :: rest') : s.unread.length < 2 + pkt'.length := by
        obtain ⟨rfl, -⟩ := cons.inj heq
        rw [length_unread]
        by_contra hge
        have h2 : 2 ≤ s.bufferDataLen - s.frameStart := by omega
        exact hincomplete ⟨h2, by rw [hlen h2]; omega⟩
      obtain ⟨hwait, hunr, hrec, hsize⟩ := keepFrame_spec hopen hdata hend hs hps hshort
      refine ⟨s.keepFrame, [], packet :: rest, rfl, rfl, ?_, ?_, hwait, hsize, ?_⟩
      · rw [hrec, append_nil]
      · rw [hunr]
        exact hs
      · rw [hunr]
        exact hshort

theorem onUvRead_spec {bytes : List Byte} (hwait : s.Waiting) (hfits : s.Fits bytes)
    (hs : s.unread ++ (bytes ++ future) = ps.flatMap frame) (hps : Framed s.bufferSize ps)
    (hshort : ∀ packet rest, ps = packet :: rest → s.unread.length < 2 + packet.length) :
    ∃ s' now later, s.onUvRead bytes = .ok s' ∧ ps = now ++ later ∧
      s'.received = s.received ++ now ∧ s'.unread ++ future = later.flatMap frame ∧ s'.Waiting ∧
      s'.bufferSize = s.bufferSize ∧
      ∀ packet rest, later = packet :: rest → s'.unread.length < 2 + packet.length := by
  unfold onUvRead
  split
  · rename_i hnil
    rw [eq_nil_of_length_eq_zero hnil, nil_append] at hs
    exact ⟨s, [], ps, rfl, rfl, (append_nil _).symm, hs, hwait, rfl, hshort⟩
  · rename_i hne
    have hstart := hwait.frameStart_le
    have hend : s.bufferDataLen + bytes.length ≤ s.bufferSize := by
      unfold Fits at hfits
      omega
    have hunr : fetch (store s.buffer s.bufferDataLen bytes) s.frameStart
        (s.bufferDataLen + bytes.length - s.frameStart) = s.unread ++ bytes := by
      obtain ⟨n, hn⟩ := Nat.exists_eq_add_of_le hstart
      rw [unread, hn, Nat.add_sub_cancel_left, add_assoc, Nat.add_sub_cancel_left, fetch_add,
        fetch_store_of_le le_rfl, fetch_store_self]
    refine userOnTcpConnectionRead_spec hwait.isOpen ?_ hend ?_ ?_ hps
    · show s.frameStart < s.bufferDataLen + bytes.length
      omega
    · simp only
      omega
    · rw [unread, hunr, append_assoc]
      exact hs

/-- **A stream that is read in any pieces** delivers its packets. -/
theorem received_of_run {cs : List (List Byte)} (hwait : s.Waiting) (hfits : RunMeets onUvRead Fits s cs)
    (hs : s.unread ++ cs.flatten = ps.flatMap frame) (hps : Framed s.bufferSize ps)
    (hshort : ∀ packet rest, ps = packet :: rest → s.unread.length < 2 + packet.length) :
    ∃ s', run onUvRead s cs = .ok s' ∧ s'.received = s.received ++ ps ∧ s'.closed = false := by
  induction cs generalizing s ps with
  | nil =>
    refine ⟨s, rfl, ?_, hwait.isOpen⟩
    cases ps with
    | nil => rw [append_nil]
    | cons packet rest =>
      -- No packet can be left, since its frame would be complete.
      have hlt := hshort packet rest rfl
      have hlen := congrArg length hs
      rw [flatten_nil, append_nil, flatMap_cons, length_append, length_frame] at hlen
      omega
  | cons bs cs ih =>
    obtain ⟨hbs, hrest⟩ := hfits
    obtain ⟨s₁, now, later, hread, rfl, hrec, hunr, hwait₁, hsize, hshort₁⟩ :=
      onUvRead_spec hwait hbs hs hps hshort
    obtain ⟨s', hrun, hrec', hopen⟩ := ih hwait₁ (hrest s₁ hread) hunr
      (hsize ▸ fun p hp => hps p (mem_append_right _ hp)) hshort₁
    refine ⟨s', (run_cons_of_ok hread).trans hrun, ?_, hopen⟩
    rw [hrec', hrec, append_assoc]

/-- **Framing does not depend on how the stream is cut**: every packet is delivered once and in
order. -/
theorem delivers_packets (events : List Stream.Event)
    (hpossible : StepsMeet Stream.step Stream.Possible {} events)
    (hsizes : ∀ packet ∈ events.filterMap Stream.Event.packet, 1 ≤ packet.length ∧ packet.length ≤ 65534)
    (hflushed : (events.foldl Stream.step {}).queue = []) (s : TcpConnection)
    (hsize : s.bufferSize = 65536) (hwaiting : s.Waiting) (hempty : s.unread = [])
    (chunks : List (List Byte)) (hchunks : chunks.flatten = (events.foldl Stream.step {}).wire)
    (hfits : RunMeets onUvRead Fits s chunks) :
    ∃ s', run onUvRead s chunks = .ok s' ∧
      s'.received = s.received ++ events.filterMap Stream.Event.packet ∧ s'.closed = false := by
  have hwire := Stream.wire_append_queue hpossible
  rw [hflushed, List.append_nil, List.nil_append, List.nil_append, ← hchunks] at hwire
  refine received_of_run hwaiting hfits ?_ ?_ ?_
  · rw [hempty, List.nil_append, hwire]
  · intro packet hpacket
    have := hsizes packet hpacket
    rw [hsize]
    omega
  · intro packet rest _
    rw [hempty, List.length_nil]
    omega

def accepted : TcpConnection where
  bufferSize := 65536
  buffer := fun _ => 0

theorem delivers_packets_pieces :
    ∃ s', run onUvRead accepted [[0x00, 0x01, 0x61, 0x00], [0x02, 0x62], [0x63]] = .ok s' ∧
      s'.received = [[0x61], [0x62, 0x63]] ∧ s'.closed = false := by
  refine delivers_packets [.send [0x61] 3, .send [0x62, 0x63] 1, .flush 3] ?_ ?_ ?_ accepted rfl
    ⟨rfl, Nat.le_refl 0, by decide⟩ rfl _ ?_ ?_
  all_goals decide

end TcpConnection

end MediasoupWorker.RTC
