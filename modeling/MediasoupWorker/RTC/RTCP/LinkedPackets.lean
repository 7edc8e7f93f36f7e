import MediasoupWorker.Library.BoundedLoop
import MediasoupWorker.Library.LinkedNodes
import MediasoupWorker.RTC.RTCP.CompoundPacket

/-!
# The list of packets that `Packet::Parse` returns

`src/src/RTC/RTCP/Packet.cpp`. The loop returns the first packet when the bytes are used up, and also when
there is no packet to be made. The pointers are positions among the packets made so far.
-/

namespace MediasoupWorker.RTC.RTCP.Packet

open Library Option List

variable {Other : Type}

structure Parser (Other : Type) where
  rest : List Byte
  offset : ℕ := 0
  nodes : List (Node (Parsed Other)) := []
  first : Option ℕ := none
  last : Option ℕ := none
  handed : List (ℕ × ℕ) := []

inductive Failure where
  | outOfTurns
  | nullPointer
  deriving DecidableEq, Repr

namespace Parser

def hand (s : Parser Other) (packetLen : ℕ) : Parser Other :=
  { s with handed := s.handed ++ [(s.offset, packetLen)] }

def skip (s : Parser Other) (packetLen : ℕ) : Parser Other :=
  { s with rest := s.rest.drop packetLen, offset := s.offset + packetLen }

-- The first of the packets is `current`; `SetNext` has put the receiver reports behind a sender report.
def link (s : Parser Other) (packets : List (Parsed Other)) : Except Failure (Parser Other) :=
  let current := s.nodes.length
  let nodes := s.nodes ++ chain current packets
  let last := some (((nodes[current]?).bind Node.next).getD current)
  match s.first, s.last with
  | none, _ => .ok { s with nodes, first := some current, last }
  | some _, none => .error .nullPointer
  | some _, some i => .ok { s with nodes := setNext nodes i (some current), last }

variable (parseOther : PacketType → List Byte → Option Other)

def turn (s : Parser Other) : Except Failure (Parser Other × Bool) :=
  let packetLen := (headerLength s.rest + 1) * 4
  if s.rest.isEmpty then .ok (s, false)
  else if !isRtcp s.rest then .ok (s, false)
  else if s.rest.length < packetLen then .ok (s, false)
  else
    match parseByType parseOther (s.rest.take packetLen) with
    | none => .ok (s.hand packetLen, false)
    | some packets => do
      let s ← ((s.hand packetLen).skip packetLen).link packets
      return (s, true)

end Parser

variable (parseOther : PacketType → List Byte → Option Other)

def parseList (data : List Byte) : Except Failure (Parser Other) :=
  loop .outOfTurns (Parser.turn parseOther) (data.length + 1) { rest := data }

/-! ## Sub-packets -/

structure Accepted (sub : List Byte) : Prop where
  isRtcp : isRtcp sub = true
  length : sub.length = (headerLength sub + 1) * 4
  parsed : (parseByType parseOther sub).isSome = true

def packetsOf (sub : List Byte) : List (Parsed Other) := (parseByType parseOther sub).getD []

section Prefix

variable {sub : List Byte} (h : 4 ≤ sub.length) (more : List Byte)

include h

theorem headerLength_append : headerLength (sub ++ more) = headerLength sub := by
  rw [headerLength, read2Bytes_append_left (by omega), headerLength]

theorem isRtcp_append : isRtcp (sub ++ more) = isRtcp sub := by
  have hfirst : read1Byte (sub ++ more) 0 = read1Byte sub 0 := read1Byte_append_left (by omega) more
  have htype : headerType (sub ++ more) = headerType sub := read1Byte_append_left (by omega) more
  have hlong : commonHeaderSize ≤ sub.length := h
  simp [isRtcp, hfirst, htype, hlong, Nat.le_add_right_of_le hlong]

end Prefix

variable {parseOther}

theorem Accepted.pos {sub : List Byte} (h : Accepted parseOther sub) : 4 ≤ sub.length := by
  have := h.length
  omega

variable {rest : List Byte}

/-- **The bytes that a turn looks at** are the only sub-packet that the rest can start with. -/
theorem exists_accepted_iff : (∃ sub more, rest = sub ++ more ∧ Accepted parseOther sub) ↔
      isRtcp rest = true ∧ (headerLength rest + 1) * 4 ≤ rest.length ∧
        (parseByType parseOther (rest.take ((headerLength rest + 1) * 4))).isSome = true := by
  constructor
  · rintro ⟨sub, more, rfl, h⟩
    rw [isRtcp_append h.pos, headerLength_append h.pos, ← h.length, take_left, length_append]
    exact ⟨h.isRtcp, Nat.le_add_right .., h.parsed⟩
  · rintro ⟨hrtcp, hlen, hparse⟩
    have htake : (rest.take ((headerLength rest + 1) * 4)).length = (headerLength rest + 1) * 4 := by
      rw [length_take, min_eq_left hlen]
    have hpos : 4 ≤ (rest.take ((headerLength rest + 1) * 4)).length := by omega
    have hrest := take_append_drop ((headerLength rest + 1) * 4) rest
    refine ⟨_, _, hrest.symm, ?_, ?_, hparse⟩
    · rw [← isRtcp_append hpos (rest.drop ((headerLength rest + 1) * 4)), hrest, hrtcp]
    · rw [htake, ← headerLength_append hpos (rest.drop ((headerLength rest + 1) * 4)), hrest]

theorem parseNext_of_accepted {sub : List Byte} (h : Accepted parseOther sub) (more : List Byte) :
    parseNext parseOther (sub ++ more) = some (headerLength sub, packetsOf parseOther sub) := by
  obtain ⟨ps, hps⟩ := isSome_iff_exists.mp h.parsed
  have hlong : ¬ (sub ++ more).length < sub.length := by
    rw [length_append]
    omega
  rw [parseNext, isRtcp_append h.pos, h.isRtcp, headerLength_append h.pos, ← h.length, if_neg hlong,
    take_left, packetsOf, hps]
  rfl

theorem parseNext_eq_none (h : ¬ ∃ sub more, rest = sub ++ more ∧ Accepted parseOther sub) :
    parseNext parseOther rest = none := by
  rw [exists_accepted_iff] at h
  rw [parseNext]
  split
  · rfl
  · split
    · rfl
    · rename_i hrtcp hlen
      have hnone : ¬ (parseByType parseOther (rest.take ((headerLength rest + 1) * 4))).isSome = true :=
        fun hparse => h ⟨by simpa using hrtcp, not_lt.mp hlen, hparse⟩
      rw [not_isSome_iff_eq_none.mp hnone]
      rfl

theorem parse_flatten {subs : List (List Byte)} (hsubs : ∀ sub ∈ subs, Accepted parseOther sub)
    (hrest : ¬ ∃ sub more, rest = sub ++ more ∧ Accepted parseOther sub) :
    parse parseOther (subs.flatten ++ rest) = subs.flatMap (packetsOf parseOther) := by
  induction subs with
  | nil =>
    rw [flatten_nil, nil_append, parse, parseWhile_of_none (parseNext_eq_none hrest)]
    rfl
  | cons sub subs ih =>
    have hsub := hsubs sub (mem_cons_self ..)
    rw [flatten_cons, append_assoc, parse_append parseOther hsub.length (parseNext_of_accepted hsub _),
      ih fun sub' hmem => hsubs sub' (mem_cons_of_mem _ hmem), flatMap_cons]

theorem parseByType_length {data : List Byte} {ps : List (Parsed Other)}
    (h : parseByType parseOther data = some ps) : ∃ p, ps = [p] ∨ ∃ behind, ps = [p, behind] := by
  have hone {α : Type} {a : Option α} {f : α → Parsed Other}
      (h : a.map (fun p => [f p]) = some ps) : ∃ p, ps = [p] := by
    obtain ⟨p, -, rfl⟩ := map_eq_some_iff.mp h
    exact ⟨_, rfl⟩
  rw [parseByType] at h
  split at h
  · obtain rfl := some.inj h
    simp only [parseSenderReport]
    split
    · split
      · exact ⟨_, .inl rfl⟩
      · exact ⟨_, .inr ⟨_, rfl⟩⟩
    · exact ⟨_, .inl rfl⟩
  · obtain ⟨p, rfl⟩ := hone h
    exact ⟨_, .inl rfl⟩
  · obtain rfl := some.inj h
    exact ⟨_, .inl rfl⟩
  · obtain ⟨p, rfl⟩ := hone h
    exact ⟨_, .inl rfl⟩
  · exact absurd h (by simp)
  · obtain ⟨p, rfl⟩ := hone h
    exact ⟨_, .inl rfl⟩
  · exact absurd h (by simp)

/-! ## One turn -/

namespace Parser

structure Linked (packets : List (Parsed Other)) (s : Parser Other) : Prop where
  nodes : s.nodes = chain 0 packets
  first : s.first = if packets.isEmpty then none else some 0
  last : packets ≠ [] → s.last = some (packets.length - 1)

variable {s : Parser Other}

/-- **The packets of a turn are put behind the others.** -/
theorem Linked.link {ps more : List (Parsed Other)} (h : s.Linked ps)
    (hmore : ∃ p, more = [p] ∨ ∃ behind, more = [p, behind]) :
    ∃ s', s.link more = .ok s' ∧ s'.Linked (ps ++ more) ∧
      s'.rest = s.rest ∧ s'.offset = s.offset ∧ s'.handed = s.handed := by
  have hlen : s.nodes.length = ps.length := by rw [h.nodes, length_chain]
  have hlast : ((s.nodes ++ chain s.nodes.length more)[s.nodes.length]?.bind Node.next).getD
      s.nodes.length = (ps ++ more).length - 1 := by
    rw [getElem?_append_right le_rfl, Nat.sub_self, hlen]
    obtain ⟨p, rfl | ⟨behind, rfl⟩⟩ := hmore <;> simp [chain]
  have hne : more ≠ [] := by
    obtain ⟨p, rfl | ⟨behind, rfl⟩⟩ := hmore <;> exact cons_ne_nil _ _
  rw [Parser.link, hlast, h.first, hlen]
  cases ps with
  | nil =>
    refine ⟨_, rfl, ⟨?_, ?_, fun _ => rfl⟩, rfl, rfl, rfl⟩
    · rw [h.nodes]
      rfl
    · simp [hne]
  | cons p ps =>
    rw [h.last (cons_ne_nil _ _)]
    refine ⟨_, rfl, ⟨?_, rfl, fun _ => rfl⟩, rfl, rfl, rfl⟩
    have hchain := setNext_chain (cons_ne_nil p ps) hne 0
    rwa [zero_add, ← h.nodes] at hchain

variable {data : List Byte}

structure Built (parseOther : PacketType → List Byte → Option Other) (data : List Byte)
    (subs : List (List Byte)) (s : Parser Other) : Prop where
  split : data = subs.flatten ++ s.rest
  accepted : ∀ sub ∈ subs, Accepted parseOther sub
  offset : s.offset + s.rest.length = data.length
  handed : ∀ span ∈ s.handed, span.1 + span.2 ≤ data.length
  linked : s.Linked (subs.flatMap (packetsOf parseOther))

variable {subs : List (List Byte)}

theorem Built.hand {len : ℕ} (h : s.Built parseOther data subs)
    (hlen : len ≤ s.rest.length) : (s.hand len).Built parseOther data subs := by
  refine ⟨h.split, h.accepted, h.offset, ?_, h.linked.nodes, h.linked.first, h.linked.last⟩
  refine forall_mem_append.mpr ⟨h.handed, forall_mem_singleton.mpr ?_⟩
  have := h.offset
  show s.offset + len ≤ data.length
  omega

theorem turn_of_accepted {sub more : List Byte} (hrest : s.rest = sub ++ more)
    (hsub : Accepted parseOther sub) : s.turn parseOther =
      (((s.hand sub.length).skip sub.length).link (packetsOf parseOther sub)).map (·, true) := by
  obtain ⟨ps, hps⟩ := isSome_iff_exists.mp hsub.parsed
  have hnil : ¬ (sub ++ more).isEmpty = true := by
    have := hsub.pos
    rw [isEmpty_iff_length_eq_zero, length_append]
    omega
  have hlong : ¬ (sub ++ more).length < sub.length := by
    rw [length_append]
    omega
  rw [Parser.turn, hrest, headerLength_append hsub.pos, ← hsub.length, if_neg hnil,
    isRtcp_append hsub.pos, hsub.isRtcp, if_neg hlong, take_left, packetsOf, hps]
  rfl

theorem turn_of_not (h : ¬ ∃ sub more, s.rest = sub ++ more ∧ Accepted parseOther sub) :
    s.turn parseOther = .ok (s, false) ∨ ∃ len ≤ s.rest.length,
      s.turn parseOther = .ok (s.hand len, false) := by
  rw [exists_accepted_iff] at h
  rw [Parser.turn]
  split
  · exact .inl rfl
  · split
    · exact .inl rfl
    · split
      · exact .inl rfl
      · rename_i hrtcp hlen
        have hnone : ¬ (parseByType parseOther (s.rest.take ((headerLength s.rest + 1) * 4))).isSome = true :=
          fun hparse => h ⟨by simpa using hrtcp, not_lt.mp hlen, hparse⟩
        rw [not_isSome_iff_eq_none.mp hnone]
        exact .inr ⟨_, not_lt.mp hlen, rfl⟩

/-- **A turn** makes the packets of the next sub-packet, or is the last one if there is none. -/
theorem Built.turn (h : s.Built parseOther data subs) :
    ∃ s' again, s.turn parseOther = .ok (s', again) ∧
      (again = true → s'.rest.length < s.rest.length ∧ ∃ sub, s'.Built parseOther data (subs ++ [sub])) ∧
      (again = false → s'.Built parseOther data subs ∧
        ¬ ∃ sub more, s'.rest = sub ++ more ∧ Accepted parseOther sub) := by
  by_cases hnext : ∃ sub more, s.rest = sub ++ more ∧ Accepted parseOther sub
  · obtain ⟨sub, more, hrest, hsub⟩ := hnext
    obtain ⟨packets, hps⟩ := isSome_iff_exists.mp hsub.parsed
    have hpacketsOf : packetsOf parseOther sub = packets := by rw [packetsOf, hps]; rfl
    have hlength : s.rest.length = sub.length + more.length := by rw [hrest, length_append]
    have hhand := h.hand (Nat.le.intro hlength.symm)
    have hlinked : ((s.hand sub.length).skip sub.length).Linked (subs.flatMap (packetsOf parseOther)) :=
      ⟨h.linked.nodes, h.linked.first, h.linked.last⟩
    obtain ⟨s', hlink, hlinked', hrest', hoff', hhanded'⟩ := hlinked.link (parseByType_length hps)
    have hmore : s'.rest = more := by
      rw [hrest', Parser.skip, Parser.hand, hrest, drop_left]
    refine ⟨s', true, ?_, fun _ => ⟨?_, sub, ?_, ?_, ?_, ?_, ?_⟩, nofun⟩
    · rw [turn_of_accepted hrest hsub, hpacketsOf, hlink]
      rfl
    · have := hsub.pos
      rw [hmore, hlength]
      omega
    · rw [hmore, flatten_append, flatten_singleton, append_assoc, ← hrest]
      exact h.split
    · exact forall_mem_append.mpr ⟨h.accepted, forall_mem_singleton.mpr hsub⟩
    · rw [hmore, hoff']
      show s.offset + sub.length + more.length = data.length
      rw [add_assoc, ← hlength]
      exact h.offset
    · rw [hhanded']
      exact hhand.handed
    · rwa [flatMap_append, flatMap_singleton, hpacketsOf]
  · rcases turn_of_not hnext with hturn | ⟨len, hlen, hturn⟩
    · exact ⟨s, false, hturn, nofun, fun _ => ⟨h, hnext⟩⟩
    · exact ⟨_, false, hturn, nofun, fun _ => ⟨h.hand hlen, hnext⟩⟩

end Parser

/-- **The list has the packets of the longest run of sub-packets at the start of the data.** -/
theorem parseList_prefix_exact (parseOther : PacketType → List Byte → Option Other) (data : List Byte) :
    ∃ (s : Parser Other) (subs : List (List Byte)) (rest : List Byte), parseList parseOther data = .ok s ∧
      (∀ span ∈ s.handed, span.1 + span.2 ≤ data.length) ∧
      data = subs.flatten ++ rest ∧ (∀ sub ∈ subs, Accepted parseOther sub) ∧
      (¬ ∃ sub more, rest = sub ++ more ∧ Accepted parseOther sub) ∧
      Reads s.nodes s.first (subs.flatMap (packetsOf parseOther)) ∧
      subs.flatMap (packetsOf parseOther) = parse parseOther data ∧
      ∀ sub ∈ subs, headerType sub = PacketType.sr.value →
        packetsOf parseOther sub = .senderReport (.parse sub) ::
          if headerCount sub > 0 then
            (ReceiverReportPacket.parse sub (SenderReportPacket.parse sub).getSize).toList.map
              .receiverReport
          else [] := by
  have hstart : ({ rest := data } : Parser Other).Built parseOther data [] :=
    ⟨rfl, nofun, Nat.zero_add _, nofun, rfl, rfl, nofun⟩
  obtain ⟨s, hok, subs, hbuilt, hnone⟩ := loop_ok_of_stages
    (I := fun k (s : Parser Other) => s.rest.length = k ∧ ∃ subs, s.Built parseOther data subs)
    (P := fun (s : Parser Other) => ∃ subs, s.Built parseOther data subs ∧
      ¬ ∃ sub more, s.rest = sub ++ more ∧ Accepted parseOther sub)
    (by
      rintro k s ⟨rfl, subs, hs⟩
      obtain ⟨s', again, hturn, hmore, hlast⟩ := hs.turn
      refine ⟨s', again, hturn, fun hagain => ?_, fun hagain => ⟨subs, hlast hagain⟩⟩
      obtain ⟨hless, sub, hs'⟩ := hmore hagain
      exact ⟨_, hless, rfl, _, hs'⟩)
    ⟨rfl, [], hstart⟩ (Nat.lt_succ_self data.length)
  refine ⟨s, subs, s.rest, hok, hbuilt.handed, hbuilt.split, hbuilt.accepted, hnone, ?_, ?_, ?_⟩
  · have hreads := reads_chain [] (subs.flatMap (packetsOf parseOther))
    rwa [List.length_nil, List.nil_append, ← hbuilt.linked.nodes, ← hbuilt.linked.first] at hreads
  · rw [hbuilt.split, parse_flatten hbuilt.accepted hnone]
  · intro sub _ htype
    rw [packetsOf, parseByType, htype, PacketType.ofByte_value]
    simp only [parseSenderReport, Option.getD_some]
    split
    · cases ReceiverReportPacket.parse sub (SenderReportPacket.parse sub).getSize <;> rfl
    · rfl

end MediasoupWorker.RTC.RTCP.Packet
