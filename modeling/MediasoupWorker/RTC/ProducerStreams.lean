import MediasoupWorker.Library.Runs
import MediasoupWorker.RTC.Producer

/-!
# The streams of a producer over a sequence of packets

The RID lookup and the lookup for a single encoding look first for a stream that they would duplicate. The
ssrc lookup does not, and an encoding without ssrc has ssrc `0`: the assertion of `CreateRtpStream` fails if
another packet of the encoding has already been resolved otherwise (`ssrc_zero_aborts`). It can also fail
in the search for the RTX codec.
-/

namespace MediasoupWorker.RTC

open Library List

namespace Producer

/-! ## The invariant -/

structure StreamOk (p : Producer) (id : ℕ) (s : RtpStreamRecv) : Prop where
  ssrc : p.mapSsrcRtpStream.find s.ssrc = some id
  slot : p.rtpStreamByEncodingIdx[s.encodingIdx]? = some (some id)
  rid : ∃ e : RtpEncodingParameters, p.rtpParameters.encodings[s.encodingIdx]? = some e ∧ s.rid = e.rid
  type : s.mimeType.type ≠ .unset

structure StreamsInv (p : Producer) : Prop where
  valid : p.rtpParameters.Valid
  mapping : p.rtpMapping.encodings.length = p.rtpParameters.encodings.length
  slots : p.rtpStreamByEncodingIdx.length = p.rtpParameters.encodings.length
  stream : ∀ id s, p.streams[id]? = some s → p.StreamOk id s
  ssrc : ∀ ssrc id, p.mapSsrcRtpStream.find ssrc = some id → id < p.streams.length
  slot : ∀ i id, p.rtpStreamByEncodingIdx[i]? = some (some id) →
    ∃ s : RtpStreamRecv, p.streams[id]? = some s ∧ s.encodingIdx = i

theorem streamsInv_of_ofJson {data : Json} {p : Producer} (h : ofJson data = .ok p) : p.StreamsInv := by
  rw [ofJson] at h
  split at h
  · cases h
  obtain ⟨kind, -, h⟩ := bind_eq_ok.mp h
  obtain ⟨-, -, h⟩ := bind_eq_ok.mp h
  obtain ⟨-, -, h⟩ := bind_eq_ok.mp h
  obtain ⟨params, hparameters, h⟩ := bind_eq_ok.mp h
  dsimp only at h
  split at h
  · cases h
  obtain ⟨mediaCodec, -, h⟩ := bind_eq_ok.mp h
  obtain ⟨-, -, h⟩ := bind_eq_ok.mp h
  obtain ⟨rtpMapping, -, h⟩ := bind_eq_ok.mp h
  obtain ⟨u, hsize, h⟩ := bind_eq_ok.mp h
  obtain ⟨-, -, h⟩ := bind_eq_ok.mp h
  have hlen : params.encodings.length = rtpMapping.encodings.length := by
    simpa using throwTypeErrorIf_eq_ok.mp hsize
  cases h
  refine ⟨RtpParameters.valid_of_ofJson hparameters, hlen.symm, length_replicate, ?_, ?_, ?_⟩
  · intro id s hs
    cases hs
  · intro ssrc id hfind
    cases hfind
  · intro i id hslot
    have hmem := mem_of_getElem? hslot
    cases eq_of_mem_replicate hmem

namespace StreamsInv

variable {p : Producer}

theorem eq_of_encodingIdx (h : p.StreamsInv) {id id' : ℕ} {s s' : RtpStreamRecv}
    (hs : p.streams[id]? = some s) (hs' : p.streams[id']? = some s') (he : s.encodingIdx = s'.encodingIdx) :
    id = id' := by
  have hslot := (h.stream id s hs).slot
  rw [he, (h.stream id' s' hs').slot] at hslot
  simpa using hslot.symm

variable {stream : RtpStreamRecv}

theorem streamOk_of_old {id : ℕ} {s : RtpStreamRecv} (hold : p.StreamOk id s) (mapped : ℕ)
    (hssrc : p.mapSsrcRtpStream.find stream.ssrc = none)
    (hslot : p.rtpStreamByEncodingIdx[stream.encodingIdx]? = some none) :
    (p.addRtpStream stream mapped).StreamOk id s := by
  have hne : s.ssrc ≠ stream.ssrc := by
    intro he
    rw [← he, hold.ssrc] at hssrc
    cases hssrc
  have hidx : stream.encodingIdx ≠ s.encodingIdx := by
    intro he
    rw [he, hold.slot] at hslot
    cases hslot
  refine ⟨?_, ?_, hold.rid, hold.type⟩
  · rw [Producer.addRtpStream, OrderedMap.find_insert_of_ne _ _ hne]
    exact hold.ssrc
  · rw [Producer.addRtpStream, getElem?_set_ne hidx]
    exact hold.slot

theorem addRtpStream (h : p.StreamsInv) (mapped : ℕ) (hssrc : p.mapSsrcRtpStream.find stream.ssrc = none)
    (hslot : p.rtpStreamByEncodingIdx[stream.encodingIdx]? = some none) (hrid : ∃ e : RtpEncodingParameters,
      p.rtpParameters.encodings[stream.encodingIdx]? = some e ∧ stream.rid = e.rid)
    (htype : stream.mimeType.type ≠ .unset) : (p.addRtpStream stream mapped).StreamsInv := by
  have hin : stream.encodingIdx < p.rtpStreamByEncodingIdx.length :=
    (List.getElem?_eq_some_iff.mp hslot).1
  refine ⟨h.valid, h.mapping, ?_, ?_, ?_, ?_⟩
  · show (p.rtpStreamByEncodingIdx.set _ _).length = _
    rw [List.length_set]
    exact h.slots
  · intro id s hs
    change (p.streams ++ [stream])[id]? = some s at hs
    rcases lt_or_ge id p.streams.length with hlt | hge
    · rw [List.getElem?_append_left hlt] at hs
      exact streamOk_of_old (h.stream id s hs) mapped hssrc hslot
    · -- the only stream from the old length on is the new one
      rw [List.getElem?_append_right hge] at hs
      obtain ⟨hid, rfl⟩ : id - p.streams.length = 0 ∧ stream = s := by
        have hlt := (List.getElem?_eq_some_iff.mp hs).1
        have hzero : id - p.streams.length = 0 := by simpa using hlt
        rw [hzero] at hs
        exact ⟨hzero, by simpa using hs⟩
      obtain rfl : id = p.streams.length := by omega
      refine ⟨?_, ?_, hrid, htype⟩
      · rw [Producer.addRtpStream, OrderedMap.find_insert_self]
      · rw [Producer.addRtpStream, List.getElem?_set_self (List.getElem?_eq_some_iff.mp hslot).1]
  · intro ssrc id hfind
    show id < (p.streams ++ [stream]).length
    rw [Producer.addRtpStream, OrderedMap.find_insert] at hfind
    rw [List.length_append, List.length_singleton]
    split_ifs at hfind
    · cases hfind
      omega
    · have := h.ssrc ssrc id hfind
      omega
  · intro i id hi
    change (p.rtpStreamByEncodingIdx.set stream.encodingIdx (some p.streams.length))[i]? = _ at hi
    show ∃ s : RtpStreamRecv, (p.streams ++ [stream])[id]? = some s ∧ s.encodingIdx = i
    by_cases he : stream.encodingIdx = i
    · subst he
      rw [List.getElem?_set_self hin] at hi
      cases hi
      exact ⟨stream, by simp, rfl⟩
    · rw [List.getElem?_set_ne he] at hi
      obtain ⟨s, hs, hidx⟩ := h.slot i id hi
      refine ⟨s, ?_, hidx⟩
      rw [List.getElem?_append_left (List.getElem?_eq_some_iff.mp hs).1]
      exact hs

theorem setRtxData (h : p.StreamsInv) {packet : StreamPacket} {st : ℕ} {old : RtpStreamRecv}
    (hold : p.streams[st]? = some old) (pt : ℕ) : (p.setRtxData packet st { old with
      rtxPayloadType := pt
      rtxSsrc := packet.ssrc
      hasRtx := true }).StreamsInv := by
  have hin := (List.getElem?_eq_some_iff.mp hold).1
  refine ⟨h.valid, h.mapping, h.slots, ?_, ?_, ?_⟩
  · intro id s hs
    change (p.streams.set st _)[id]? = some s at hs
    by_cases he : st = id
    · subst he
      rw [List.getElem?_set_self hin] at hs
      cases hs
      have hok := h.stream st old hold
      exact ⟨hok.ssrc, hok.slot, hok.rid, hok.type⟩
    · rw [List.getElem?_set_ne he] at hs
      have hok := h.stream id s hs
      exact ⟨hok.ssrc, hok.slot, hok.rid, hok.type⟩
  · intro ssrc id hfind
    show id < (p.streams.set st _).length
    rw [List.length_set]
    exact h.ssrc ssrc id hfind
  · intro i id hi
    obtain ⟨s, hs, hidx⟩ := h.slot i id hi
    show ∃ s : RtpStreamRecv, (p.streams.set st _)[id]? = some s ∧ s.encodingIdx = i
    by_cases he : st = id
    · subst he
      obtain rfl : old = s := by simpa [hold] using hs
      exact ⟨_, List.getElem?_set_self hin, hidx⟩
    · exact ⟨s, by rw [List.getElem?_set_ne he]; exact hs, hidx⟩

end StreamsInv

/-! ## How a lookup can end -/

inductive LookupResult (p : Producer) (packet : StreamPacket) : Producer × Option ℕ → Prop
  | ignored : LookupResult p packet (p, none)
  | created (stream : RtpStreamRecv) (mappedSsrc : ℕ) (hssrc : stream.ssrc = packet.ssrc)
      (hslot : p.rtpStreamByEncodingIdx[stream.encodingIdx]? = some none)
      (hrid : ∃ e : RtpEncodingParameters,
        p.rtpParameters.encodings[stream.encodingIdx]? = some e ∧ stream.rid = e.rid)
      (htype : stream.mimeType.type ≠ .unset) :
      LookupResult p packet (p.addRtpStream stream mappedSsrc, some p.streams.length)
  | rtx (rtpStream : ℕ) (old : RtpStreamRecv) (hold : p.streams[rtpStream]? = some old) :
      LookupResult p packet (p.setRtxData packet rtpStream { old with
        rtxPayloadType := packet.payloadType
        rtxSsrc := packet.ssrc
        hasRtx := true }, some rtpStream)

theorem StreamsInv.of_lookupResult {p : Producer} (h : p.StreamsInv) {packet : StreamPacket}
    {r : Producer × Option ℕ} (hunk : p.mapSsrcRtpStream.find packet.ssrc = none)
    (hr : LookupResult p packet r) : r.1.StreamsInv := by
  cases hr with
  | ignored => exact h
  | created stream mapped hssrc hslot hrid htype =>
    exact h.addRtpStream mapped (hssrc ▸ hunk) hslot hrid htype
  | rtx st old hold => exact h.setRtxData hold packet.payloadType

section Lookups

variable {p : Producer} {pkt : StreamPacket}

variable {codec : RtpCodecParameters} {i : ℕ}

section

variable (h : p.StreamsInv) (hunk : p.mapSsrcRtpStream.find pkt.ssrc = none)

include h hunk

theorem createRtpStream_of_empty (hcodec : codec ∈ p.rtpParameters.codecs)
    (hslot : p.rtpStreamByEncodingIdx[i]? = some none) :
    ∃ r, p.createRtpStream pkt codec i = .ok r ∧ LookupResult p pkt r := by
  have hin : i < p.rtpStreamByEncodingIdx.length := (List.getElem?_eq_some_iff.mp hslot).1
  have henc := List.getElem?_eq_getElem (h.slots ▸ hin)
  have hmapping := List.getElem?_eq_getElem (h.mapping ▸ h.slots ▸ hin)
  rw [createRtpStream, hunk, hslot, henc, hmapping]
  refine ⟨_, rfl, LookupResult.created _ _ rfl hslot ⟨_, henc, rfl⟩ ?_⟩
  exact h.valid.types codec hcodec

theorem createRtpStream_of_occupied (codec : RtpCodecParameters) {id : ℕ}
    (hslot : p.rtpStreamByEncodingIdx[i]? = some (some id)) : p.createRtpStream pkt codec i =
      .error (.assertion "RtpStream for given encoding index already exists") := by
  have hin : i < p.rtpStreamByEncodingIdx.length := (List.getElem?_eq_some_iff.mp hslot).1
  have henc := List.getElem?_eq_getElem (h.slots ▸ hin)
  have hmapping := List.getElem?_eq_getElem (h.mapping ▸ h.slots ▸ hin)
  rw [createRtpStream, hunk, hslot, henc, hmapping]
  rfl

theorem createRtpStream_cases (hcodec : codec ∈ p.rtpParameters.codecs)
    (hin : i < p.rtpStreamByEncodingIdx.length) : (p.rtpStreamByEncodingIdx[i]? = some none ∧
      ∃ r, p.createRtpStream pkt codec i = .ok r ∧ LookupResult p pkt r) ∨
    (p.rtpStreamByEncodingIdx[i]? ≠ some none ∧ ∃ f, p.createRtpStream pkt codec i = .error f) := by
  cases hslot : p.rtpStreamByEncodingIdx[i]? with
  | none => exact absurd (getElem?_eq_none_iff.mp hslot) (by omega)
  | some slot =>
    cases slot with
    | none => exact .inl ⟨rfl, createRtpStream_of_empty h hunk hcodec hslot⟩
    | some id =>
      exact .inr ⟨by simp, _, createRtpStream_of_occupied h hunk codec hslot⟩

end

theorem setRtxStream_ok (pkt : StreamPacket) (h : p.StreamsInv) {tgt : Option ℕ}
    (htgt : ∀ id ∈ tgt, id < p.streams.length) :
    ∃ r, p.setRtxStream pkt tgt = .ok r ∧ LookupResult p pkt r := by
  cases tgt with
  | none => exact ⟨_, rfl, .ignored⟩
  | some id =>
    obtain ⟨stream, hs⟩ : ∃ stream, p.streams[id]? = some stream :=
      ⟨_, getElem?_eq_getElem (htgt id rfl)⟩
    rw [setRtxStream, hs]
    by_cases hrtx : stream.hasRtx = true
    · dsimp only
      rw [if_pos hrtx]
      exact ⟨_, rfl, .ignored⟩
    · dsimp only
      rw [if_neg hrtx, RtpStreamRecv.setRtx_eq_ok (h.stream id _ hs).type]
      exact ⟨_, rfl, .rtx id _ hs⟩

end Lookups

/-! ## The three lookups -/

def MediaMatches (packet : StreamPacket) (encoding : RtpEncodingParameters) : Prop :=
  encoding.codecPayloadType = packet.payloadType ∧ encoding.ssrc = packet.ssrc

def RtxMatches (p : Producer) (packet : StreamPacket) (encoding : RtpEncodingParameters) : Prop :=
  (∃ codec, p.rtpParameters.getRtxCodecForEncoding encoding = .ok (some codec) ∧
    codec.payloadType = packet.payloadType) ∧ encoding.hasRtx = true ∧ encoding.rtx.ssrc = packet.ssrc

def SsrcLookupSafe (p : Producer) (packet : StreamPacket) :
    List (RtpEncodingParameters × ℕ) → Prop :=
  UpToFirst (fun ei => MediaMatches packet ei.1 ∨ p.RtxMatches packet ei.1) fun ei =>
    RtpParameters.AptReadable ei.1.codecPayloadType p.rtpParameters.codecs ∧
      (MediaMatches packet ei.1 → p.rtpStreamByEncodingIdx[ei.2]? = some none)

section Lookups

variable {p : Producer} {pkt : StreamPacket} {encoding : RtpEncodingParameters}

variable {i : ℕ} {rest : List (RtpEncodingParameters × ℕ)}

theorem ssrcLookupSafe_cons_of_matches (h : MediaMatches pkt encoding ∨ p.RtxMatches pkt encoding) :
    p.SsrcLookupSafe pkt ((encoding, i) :: rest) ↔
      RtpParameters.AptReadable encoding.codecPayloadType p.rtpParameters.codecs ∧
        (MediaMatches pkt encoding → p.rtpStreamByEncodingIdx[i]? = some none) :=
  upToFirst_cons_of_stop (a := (encoding, i)) h

theorem ssrcLookupSafe_cons_of_not_matches (hmedia : ¬ MediaMatches pkt encoding)
    (hrtx : ¬ p.RtxMatches pkt encoding) : p.SsrcLookupSafe pkt ((encoding, i) :: rest) ↔
      RtpParameters.AptReadable encoding.codecPayloadType p.rtpParameters.codecs ∧
        p.SsrcLookupSafe pkt rest := by
  refine (upToFirst_cons_of_not_stop (a := (encoding, i)) (not_or.mpr ⟨hmedia, hrtx⟩)).trans ?_
  refine and_congr_left fun _ => ⟨fun hQ => hQ.1, fun hQ => ⟨hQ, fun hm => absurd hm hmedia⟩⟩

section

variable (pkt) (h : p.StreamsInv) (henc : encoding ∈ p.rtpParameters.encodings)

include pkt h henc

theorem packetKind_of_readable
    (hread : RtpParameters.AptReadable encoding.codecPayloadType p.rtpParameters.codecs) :
    ∃ codec ∈ p.rtpParameters.codecs, ∃ media rtx, p.packetKind pkt encoding = .ok (codec, media, rtx) ∧
      (media = true ↔ encoding.codecPayloadType = pkt.payloadType) ∧
      (rtx = true ↔ ∃ codec, p.rtpParameters.getRtxCodecForEncoding encoding =
        .ok (some codec) ∧ codec.payloadType = pkt.payloadType) := by
  obtain ⟨codec, hcodec, hget, hpt, -⟩ :=
    RtpParameters.getCodecForEncoding_of_valid h.valid henc
  obtain ⟨r, hr⟩ := RtpParameters.findRtxCodec_isOk_iff.mpr hread
  have hrtx : p.rtpParameters.getRtxCodecForEncoding encoding = .ok r := hr
  refine ⟨codec, hcodec, codec.payloadType == pkt.payloadType,
    r.any fun c => c.payloadType == pkt.payloadType, ?_, ?_, ?_⟩
  · rw [packetKind, hget, hrtx]
    rfl
  · rw [beq_iff_eq, hpt]
  · rw [hrtx]
    cases r with
    | none =>
      constructor
      · intro hany
        cases hany
      · rintro ⟨c, hc, -⟩
        cases hc
    | some c =>
      constructor
      · intro hany
        exact ⟨c, rfl, by simpa using hany⟩
      · rintro ⟨c', hc', hpt'⟩
        cases hc'
        simpa using hpt'

theorem packetKind_of_not_readable
    (hread : ¬ RtpParameters.AptReadable encoding.codecPayloadType p.rtpParameters.codecs) :
    ∃ fault, p.packetKind pkt encoding = .error fault := by
  obtain ⟨codec, -, hget, -, -⟩ := RtpParameters.getCodecForEncoding_of_valid h.valid henc
  rw [packetKind, hget]
  cases hr : p.rtpParameters.getRtxCodecForEncoding encoding with
  | ok r => exact absurd (RtpParameters.findRtxCodec_isOk_iff.mp ⟨r, hr⟩) hread
  | error fault => exact ⟨fault, rfl⟩

end

variable {encodings : List RtpEncodingParameters}

variable (h : p.StreamsInv)

include h

/-- **The ssrc lookup does not fail exactly when it is safe.** It then ends in one of the ways of
a lookup, or it has read every `apt` of every encoding. -/
theorem ssrcLookup_spec (hunk : p.mapSsrcRtpStream.find pkt.ssrc = none) (before : List RtpEncodingParameters)
    (hall : p.rtpParameters.encodings = before ++ encodings) :
    (p.SsrcLookupSafe pkt (encodings.zipIdx before.length) →
      ∃ r, p.ssrcLookup pkt before.length encodings = .ok r ∧ (∀ r' ∈ r, LookupResult p pkt r') ∧
        (r = none → ∀ e ∈ encodings, RtpParameters.AptReadable e.codecPayloadType p.rtpParameters.codecs)) ∧
    (¬ p.SsrcLookupSafe pkt (encodings.zipIdx before.length) →
      ∃ f, p.ssrcLookup pkt before.length encodings = .error f) := by
  induction encodings generalizing before with
  | nil =>
    refine ⟨fun _ => ⟨none, rfl, by simp, by simp⟩, fun hno => absurd trivial hno⟩
  | cons encoding encodings ih =>
    have hmem : encoding ∈ p.rtpParameters.encodings := by
      rw [hall]
      simp
    have hnext : p.rtpParameters.encodings = (before ++ [encoding]) ++ encodings := by
      rw [hall, append_assoc]
      rfl
    have hsl : before.length < p.rtpStreamByEncodingIdx.length := by
      rw [h.slots, hall]
      simp
    have ih' := ih _ hnext
    rw [length_append, length_singleton] at ih'
    rw [zipIdx_cons, ssrcLookup]
    by_cases hread : RtpParameters.AptReadable encoding.codecPayloadType p.rtpParameters.codecs
    · obtain ⟨codec, hcodec, isMedia, isRtx, hkind, hmedia, hrtx⟩ :=
        packetKind_of_readable pkt h hmem hread
      have hM : (isMedia && encoding.ssrc == pkt.ssrc) = true ↔ MediaMatches pkt encoding := by
        rw [Bool.and_eq_true, hmedia, beq_iff_eq, MediaMatches]
      have hR : (isRtx && encoding.hasRtx && encoding.rtx.ssrc == pkt.ssrc) = true ↔
          p.RtxMatches pkt encoding := by
        rw [Bool.and_eq_true, Bool.and_eq_true, hrtx, beq_iff_eq, RtxMatches, and_assoc]
      rw [hkind, ok_bind]
      dsimp only
      by_cases hmm : MediaMatches pkt encoding
      · rw [if_pos (hM.mpr hmm), ssrcLookupSafe_cons_of_matches (.inl hmm)]
        rcases createRtpStream_cases h hunk hcodec hsl with
          ⟨hslot, r, hr, hres⟩ | ⟨hslot, f, hfault⟩
        · rw [hr]
          refine ⟨fun _ => ⟨some r, rfl, ?_, by simp⟩, fun hno => absurd ⟨hread, fun _ => hslot⟩ hno⟩
          rintro r' ⟨⟩
          exact hres
        · rw [hfault]
          exact ⟨fun hsafe => absurd (hsafe.2 hmm) hslot, fun _ => ⟨f, rfl⟩⟩
      · rw [if_neg fun hc => hmm (hM.mp hc)]
        by_cases hrm : p.RtxMatches pkt encoding
        · rw [if_pos (hR.mpr hrm), ssrcLookupSafe_cons_of_matches (.inr hrm)]
          obtain ⟨r, hr, hres⟩ := setRtxStream_ok pkt h (fun id hid => h.ssrc _ id hid)
          rw [hr]
          refine ⟨fun _ => ⟨some r, rfl, ?_, by simp⟩, fun hno => absurd ⟨hread, fun hm => absurd hm hmm⟩ hno⟩
          rintro r' ⟨⟩
          exact hres
        · rw [if_neg fun hc => hrm (hR.mp hc), ssrcLookupSafe_cons_of_not_matches hmm hrm]
          refine ⟨fun hsafe => ?_, fun hno => ih'.2 fun hsafe => hno ⟨hread, hsafe⟩⟩
          obtain ⟨r, hr, hres, hnone⟩ := ih'.1 hsafe.2
          exact ⟨r, hr, hres, fun hr' => forall_mem_cons.mpr ⟨hread, hnone hr'⟩⟩
    · obtain ⟨f, hfault⟩ := packetKind_of_not_readable pkt h hmem hread
      rw [hfault]
      refine ⟨fun hsafe => absurd hsafe.1.1 hread, fun _ => ⟨f, rfl⟩⟩

theorem slot_empty_of_streamWithRid (henc : p.rtpParameters.encodings[i]? = some encoding)
    (hnone : p.streamWithRid encoding.rid = none) : p.rtpStreamByEncodingIdx[i]? = some none := by
  have hin : i < p.rtpStreamByEncodingIdx.length := by
    rw [h.slots]
    exact (List.getElem?_eq_some_iff.mp henc).1
  rw [List.getElem?_eq_getElem hin]
  cases hslot : p.rtpStreamByEncodingIdx[i] with
  | none => rfl
  | some id =>
    obtain ⟨s, hs, hidx⟩ := h.slot i id (by rw [List.getElem?_eq_getElem hin, hslot])
    have hok := h.stream id s hs
    obtain ⟨e, he, hrid⟩ := hok.rid
    obtain rfl : encoding = e := by
      rw [hidx, henc] at he
      exact Option.some.inj he
    have hmem := p.mapSsrcRtpStream.mem_entries_iff.mpr hok.ssrc
    rw [streamWithRid, Option.map_eq_none_iff, List.find?_eq_none] at hnone
    have habsent := hnone (s.ssrc, id) hmem
    simp [hs, hrid] at habsent

theorem lt_of_mem_entries {e : ℕ × ℕ} (hentry : e ∈ p.mapSsrcRtpStream.entries) : e.2 < p.streams.length :=
  h.ssrc e.1 e.2 (p.mapSsrcRtpStream.mem_entries_iff.mp hentry)

/-- **The RID lookup does not fail**, when every `apt` can be read. -/
theorem ridLookup_ok (hunk : p.mapSsrcRtpStream.find pkt.ssrc = none) (rid : String)
    (hread : ∀ e ∈ p.rtpParameters.encodings,
      RtpParameters.AptReadable e.codecPayloadType p.rtpParameters.codecs) (pre : List RtpEncodingParameters)
    (hall : p.rtpParameters.encodings = pre ++ encodings) :
    ∃ r, p.ridLookup pkt rid pre.length encodings = .ok r ∧ LookupResult p pkt r := by
  induction encodings generalizing pre with
  | nil => exact ⟨_, rfl, .ignored⟩
  | cons encoding encodings ih =>
    have hmem : encoding ∈ p.rtpParameters.encodings := by
      rw [hall]
      simp
    have hget : p.rtpParameters.encodings[pre.length]? = some encoding := by
      rw [hall]
      simp
    have hnext : p.rtpParameters.encodings = (pre ++ [encoding]) ++ encodings := by
      rw [hall, append_assoc]
      rfl
    have ih' := ih _ hnext
    rw [length_append, length_singleton] at ih'
    rw [ridLookup]
    by_cases hrid : encoding.rid = rid
    · obtain ⟨codec, hcodec, isMedia, isRtx, hkind, -, -⟩ :=
        packetKind_of_readable pkt h hmem (hread encoding hmem)
      rw [if_neg (not_not.mpr hrid), hkind, ok_bind]
      dsimp only
      cases isMedia with
      | true =>
        rw [if_pos rfl]
        cases hwith : p.streamWithRid rid with
        | some id => exact ⟨_, rfl, .ignored⟩
        | none =>
          exact createRtpStream_of_empty h hunk hcodec
            (slot_empty_of_streamWithRid h hget (hrid ▸ hwith))
      | false =>
        rw [if_neg Bool.false_ne_true]
        cases isRtx with
        | true =>
          rw [if_pos rfl]
          refine setRtxStream_ok pkt h fun id hid => ?_
          obtain ⟨ent, hentry, rfl⟩ := Option.map_eq_some_iff.mp hid
          exact lt_of_mem_entries h (mem_of_find?_eq_some hentry)
        | false =>
          rw [if_neg Bool.false_ne_true]
          exact ih'
    · rw [if_pos hrid]
      exact ih'

theorem slot_empty_of_entries_eq_nil (hnil : p.mapSsrcRtpStream.entries = []) (hin : i < p.rtpStreamByEncodingIdx.length) :
    p.rtpStreamByEncodingIdx[i]? = some none := by
  rw [getElem?_eq_getElem hin]
  cases hslot : p.rtpStreamByEncodingIdx[i] with
  | none => rfl
  | some id =>
    -- A stream in the slot would be in the map.
    obtain ⟨s, hs, -⟩ := h.slot i id (by rw [getElem?_eq_getElem hin, hslot])
    have hfind := (h.stream id s hs).ssrc
    rw [p.mapSsrcRtpStream.entries_eq_nil_iff.mp hnil] at hfind
    cases hfind

theorem singleLookup_ok (hunk : p.mapSsrcRtpStream.find pkt.ssrc = none)
    (hread : ∀ e ∈ p.rtpParameters.encodings,
      RtpParameters.AptReadable e.codecPayloadType p.rtpParameters.codecs) :
    ∃ r, p.singleLookup pkt = .ok r ∧ LookupResult p pkt r := by
  rw [singleLookup]
  split
  · rename_i encoding hsingle
    have hmem : encoding ∈ p.rtpParameters.encodings := by
      rw [hsingle]
      simp
    by_cases hplain : encoding.ssrc = 0 ∧ encoding.rid = ""
    · obtain ⟨codec, hcodec, isMedia, isRtx, hkind, -, -⟩ :=
        packetKind_of_readable pkt h hmem (hread encoding hmem)
      rw [if_pos hplain, hkind, ok_bind]
      dsimp only
      cases isMedia with
      | true =>
        rw [if_pos rfl]
        by_cases hnil : p.mapSsrcRtpStream.entries = []
        · rw [if_neg (by simp [hnil])]
          have hin : 0 < p.rtpStreamByEncodingIdx.length := by
            rw [h.slots, hsingle]
            simp
          exact createRtpStream_of_empty h hunk hcodec
            (slot_empty_of_entries_eq_nil h hnil hin)
        · rw [if_pos (by simpa using hnil)]
          exact ⟨_, rfl, .ignored⟩
      | false =>
        rw [if_neg Bool.false_ne_true]
        cases isRtx with
        | true =>
          rw [if_pos rfl]
          refine setRtxStream_ok pkt h fun id hid => ?_
          obtain ⟨ent, hentry, rfl⟩ := Option.map_eq_some_iff.mp hid
          exact lt_of_mem_entries h (mem_of_mem_head? hentry)
        | false => exact ⟨_, rfl, .ignored⟩
    · rw [if_neg hplain]
      exact ⟨_, rfl, .ignored⟩
  · exact ⟨_, rfl, .ignored⟩

end Lookups

/-! ## `GetRtpStream` -/

def resolve (p : Producer) (ssrc : ℕ) : Option ℕ :=
  (p.mapSsrcRtpStream.find ssrc).or (p.mapRtxSsrcRtpStream.find ssrc)

def LookupSafe (p : Producer) (packet : StreamPacket) : Prop :=
  (p.resolve packet.ssrc).isSome ∨ p.SsrcLookupSafe packet (p.rtpParameters.encodings.zipIdx 0)

section GetRtpStream

variable {p : Producer} {pkt : StreamPacket}

theorem getRtpStream_of_resolve {id : ℕ} (hid : p.resolve pkt.ssrc = some id) :
    p.getRtpStream pkt = .ok (p, some id) := by
  rw [resolve, Option.or_eq_some_iff] at hid
  rw [getRtpStream]
  rcases hid with hmedia | ⟨hmedia, hrtx⟩
  · rw [hmedia]
  · rw [hmedia, hrtx]

theorem getRtpStream_of_unknown (h : p.StreamsInv) (hnone : p.resolve pkt.ssrc = none) :
    (p.SsrcLookupSafe pkt (p.rtpParameters.encodings.zipIdx 0) →
      ∃ r, p.getRtpStream pkt = .ok r ∧ LookupResult p pkt r) ∧
    (¬ p.SsrcLookupSafe pkt (p.rtpParameters.encodings.zipIdx 0) → ∃ f, p.getRtpStream pkt = .error f) := by
  obtain ⟨hmedia, hrtx⟩ := Option.or_eq_none_iff.mp hnone
  obtain ⟨hsafe, hunsafe⟩ := ssrcLookup_spec h hmedia [] rfl
  rw [getRtpStream, hmedia, hrtx]
  constructor
  · intro hs
    obtain ⟨r, hr, hres, hread⟩ := hsafe hs
    rw [length_nil] at hr
    dsimp only
    rw [hr, ok_bind]
    cases r with
    | some r => exact ⟨r, rfl, hres r rfl⟩
    | none =>
      dsimp only
      split
      · exact ridLookup_ok h hmedia _ (hread rfl) [] rfl
      · exact singleLookup_ok h hmedia (hread rfl)
  · intro hs
    obtain ⟨f, hfault⟩ := hunsafe hs
    rw [length_nil] at hfault
    dsimp only
    rw [hfault]
    exact ⟨f, rfl⟩

/-- **A packet does not abort the worker exactly when it is safe.** -/
theorem getRtpStream_isOk_iff (h : p.StreamsInv) : p.LookupSafe pkt ↔ ∃ r, p.getRtpStream pkt = .ok r := by
  cases hrslv : p.resolve pkt.ssrc with
  | some id =>
    rw [getRtpStream_of_resolve hrslv, LookupSafe, hrslv]
    exact ⟨fun _ => ⟨_, rfl⟩, fun _ => .inl rfl⟩
  | none =>
    obtain ⟨hsafe, hunsafe⟩ := getRtpStream_of_unknown h hrslv
    rw [LookupSafe, hrslv]
    constructor
    · rintro (hsome | hs)
      · cases hsome
      · obtain ⟨r, hr, -⟩ := hsafe hs
        exact ⟨r, hr⟩
    · rintro ⟨r, hr⟩
      by_contra hno
      obtain ⟨f, hfault⟩ := hunsafe fun hs => hno (.inr hs)
      rw [hfault] at hr
      cases hr

theorem getRtpStream_step (h : p.StreamsInv) {r : Producer × Option ℕ} (hr : p.getRtpStream pkt = .ok r) :
    r.1.StreamsInv ∧ (∀ ssrc id, p.resolve ssrc = some id → r.1.resolve ssrc = some id) ∧
      ∀ id ∈ r.2, r.1.resolve pkt.ssrc = some id := by
  cases hrslv : p.resolve pkt.ssrc with
  | some id =>
    rw [getRtpStream_of_resolve hrslv] at hr
    cases hr
    refine ⟨h, fun _ _ hid => hid, ?_⟩
    rintro id' ⟨⟩
    exact hrslv
  | none =>
    obtain ⟨hsafe, hunsafe⟩ := getRtpStream_of_unknown h hrslv
    obtain ⟨hmedia, hrtx⟩ := Option.or_eq_none_iff.mp hrslv
    have hres : LookupResult p pkt r := by
      by_cases hs : p.SsrcLookupSafe pkt (p.rtpParameters.encodings.zipIdx 0)
      · obtain ⟨r', hr', hres⟩ := hsafe hs
        rw [hr'] at hr
        cases hr
        exact hres
      · obtain ⟨f, hfault⟩ := hunsafe hs
        rw [hfault] at hr
        cases hr
    refine ⟨h.of_lookupResult hmedia hres, ?_⟩
    cases hres with
    | ignored => exact ⟨fun _ _ hid => hid, by simp⟩
    | created stream mapped hssrc hslot hrid htype =>
      constructor
      · intro ssrc id hid
        have hne : ssrc ≠ stream.ssrc := by
          rintro rfl
          rw [hssrc, hrslv] at hid
          cases hid
        rw [resolve, addRtpStream, OrderedMap.find_insert_of_ne _ _ hne]
        exact hid
      · rintro id ⟨⟩
        rw [resolve, addRtpStream, hssrc, OrderedMap.find_insert_self]
        rfl
    | rtx st old hold =>
      constructor
      · intro ssrc id hid
        have hne : ssrc ≠ pkt.ssrc := by
          rintro rfl
          rw [hrslv] at hid
          cases hid
        rw [resolve, setRtxData, OrderedMap.find_insert_of_ne _ _ hne]
        exact hid
      · rintro id ⟨⟩
        rw [resolve, setRtxData, hmedia, OrderedMap.find_insert_self]
        rfl

end GetRtpStream

/-! ## Runs -/

structure StreamTrace where
  producer : Producer
  resolved : List (ℕ × Option ℕ) := []

namespace StreamTrace

def receive (t : StreamTrace) (packet : StreamPacket) : Except Fault StreamTrace := do
  let (producer, rtpStream) ← t.producer.getRtpStream packet
  return { producer, resolved := t.resolved ++ [(packet.ssrc, rtpStream)] }

structure Consistent (t : StreamTrace) : Prop where
  encoding : ∀ (id id' : ℕ) (s s' : RtpStreamRecv), t.producer.streams[id]? = some s →
    t.producer.streams[id']? = some s' → s.encodingIdx = s'.encodingIdx → id = id'
  resolved : t.resolved.Pairwise fun a b => a.1 = b.1 → ∀ id ∈ a.2, b.2 = some id

structure Inv (t : StreamTrace) : Prop where
  streams : t.producer.StreamsInv
  known : ∀ entry ∈ t.resolved, ∀ id ∈ entry.2, t.producer.resolve entry.1 = some id
  resolved : t.resolved.Pairwise fun a b => a.1 = b.1 → ∀ id ∈ a.2, b.2 = some id

variable {t : StreamTrace}

theorem Inv.consistent (h : t.Inv) : t.Consistent :=
  ⟨fun _ _ _ _ hs hs' he => h.streams.eq_of_encodingIdx hs hs' he, h.resolved⟩

theorem receive_isOk_iff (h : t.Inv) (packet : StreamPacket) :
    t.producer.LookupSafe packet ↔ ∃ t', t.receive packet = .ok t' := by
  rw [getRtpStream_isOk_iff h.streams, receive]
  constructor
  · rintro ⟨r, hr⟩
    rw [hr]
    exact ⟨_, rfl⟩
  · rintro ⟨t', ht'⟩
    obtain ⟨r, hr, -⟩ := bind_eq_ok.mp ht'
    exact ⟨r, hr⟩

theorem Inv.receive {t' : StreamTrace} (h : t.Inv) {packet : StreamPacket} (ht' : t.receive packet = .ok t') :
    t'.Inv := by
  obtain ⟨⟨p, st⟩, hr, hret⟩ := bind_eq_ok.mp ht'
  cases hret
  obtain ⟨hinv, hpersist, hp⟩ := getRtpStream_step h.streams hr
  refine ⟨hinv, ?_, ?_⟩
  · exact forall_mem_append.mpr ⟨fun e he id hid => hpersist _ _ (h.known e he id hid),
      forall_mem_singleton.mpr hp⟩
  · refine pairwise_append.mpr ⟨h.resolved, pairwise_singleton _ _, fun e hentry => ?_⟩
    refine forall_mem_singleton.mpr fun heq id hid => ?_
    have hknown := h.known e hentry id hid
    rw [heq] at hknown
    rw [getRtpStream_of_resolve hknown] at hr
    cases hr
    rfl

end StreamTrace

/-- **When packets do not abort the worker**: exactly when every packet is safe in the state it
meets, and then encodings and ssrcs have one stream each. -/
theorem getRtpStream_run_safe_iff (data : Json) (p : Producer) (h : ofJson data = .ok p)
    (packets : List StreamPacket) : (∃ t, run StreamTrace.receive { producer := p } packets = .ok t ∧ t.Consistent) ↔
      RunMeets StreamTrace.receive (fun t packet => t.producer.LookupSafe packet)
        { producer := p } packets := by
  have hinit : StreamTrace.Inv { producer := p } :=
    ⟨streamsInv_of_ofJson h, by simp, List.Pairwise.nil⟩
  rw [← run_ok_iff_runMeets (fun t packet ht => StreamTrace.receive_isOk_iff ht packet)
    (fun t packet t' ht ht' => ht.receive ht') hinit]
  constructor
  · rintro ⟨t, ht, -⟩
    exact ⟨t, ht⟩
  · rintro ⟨t, ht⟩
    exact ⟨t, ht, (inv_of_run_ok (fun t packet t' ht ht' => ht.receive ht') hinit ht).consistent⟩

def midOnlyJson : Json :=
  .object [("kind", .string "video"), ("rtpParameters", .object [("mid", .string "0"),
      ("codecs", .array [RtpParameters.codecJson "video/VP8" 96 [],
        RtpParameters.codecJson "video/rtx" 97 [("apt", .integer 96)]]), ("encodings", .array [.object []])]),
    ("rtpMapping", .object [("codecs", .array []),
      ("encodings", .array [.object [("mappedSsrc", .integer 1000)]])])]

theorem getRtpStream_run_safe_midOnly :
    ∃ p, ofJson midOnlyJson = .ok p ∧
      RunMeets StreamTrace.receive (fun t packet => t.producer.LookupSafe packet)
        { producer := p }
        [{ ssrc := 5, payloadType := 96 }, { ssrc := 6, payloadType := 97 },
          { ssrc := 7, payloadType := 96 }, { ssrc := 5, payloadType := 96 }] := by
  refine ⟨_, rfl, (getRtpStream_run_safe_iff midOnlyJson _ rfl _).mp ⟨_, rfl, ?_, ?_⟩⟩
  · rintro (_ | id) (_ | id') s s' hs hs' -
    · rfl
    · cases hs'
    · cases hs
    · cases hs
  · decide

theorem ssrc_zero_aborts :
    ∃ p, ofJson midOnlyJson = .ok p ∧ run StreamTrace.receive { producer := p }
        [{ ssrc := 5, payloadType := 96 }, { ssrc := 0, payloadType := 96 }] =
        .error (.assertion "RtpStream for given encoding index already exists") :=
  ⟨_, rfl, rfl⟩

end Producer
end MediasoupWorker.RTC
