import MediasoupWorker.RTC.Producer
import MediasoupWorker.RTC.RtpPacketExtensions

/-!
# `Producer::MangleRtpPacket`

`src/src/RTC/Producer.cpp`. Before a packet goes to the router, its payload type and ssrc are mapped and
its header extensions are replaced by new ones and some that are taken over from the packet.
-/

namespace MediasoupWorker.RTC

open Library List

namespace RtpPacket

theorem getExtension_lt {p : RtpPacket} {id v len : ℕ} (h : p.getExtension id = some (v, len)) :
    len < 2 ^ 8 := by
  unfold getExtension at h
  split_ifs at h
  · split at h
    · cases h
    · cases h
      rename_i ext _
      have hlow : (p.buffer ext &&& 0x0F).toNat ≤ 15 := by
        rw [BitVec.toNat_and]
        exact Nat.and_le_right
      omega
  · split at h
    · cases h
    · split_ifs at h
      cases h
      exact BitVec.isLt _

end RtpPacket

namespace Producer

def proxiedExtension (packet : RtpPacket) (id : ℕ) (type : RtpHeaderExtensionUri.Type) :
    List RtpPacket.GenericExtension :=
  match h : packet.getExtension id with
  | none => []
  | some (value, len) =>
    [⟨type.value, fetch packet.buffer value len, length_fetch.trans_lt (RtpPacket.getExtension_lt h)⟩]

def mangledExtensions (p : Producer) (packet : RtpPacket) : List RtpPacket.GenericExtension :=
  ⟨RtpHeaderExtensionUri.Type.mid.value, List.replicate 8 0, by decide⟩ ::
    match p.kind with
    | .audio => proxiedExtension packet p.rtpHeaderExtensionIds.ssrcAudioLevel .ssrcAudioLevel
    | .video =>
      [⟨RtpHeaderExtensionUri.Type.absSendTime.value, List.replicate 3 0, by decide⟩,
        ⟨RtpHeaderExtensionUri.Type.transportWideCc01.value, List.replicate 2 0, by decide⟩] ++
      proxiedExtension packet p.rtpHeaderExtensionIds.frameMarking07 .frameMarking07 ++
      proxiedExtension packet p.rtpHeaderExtensionIds.frameMarking .frameMarking ++
      proxiedExtension packet p.rtpHeaderExtensionIds.videoOrientation .videoOrientation ++
      proxiedExtension packet p.rtpHeaderExtensionIds.toffset .toffset
    | .all => []

def mangledExtensionIds : RtpPacket.ExtensionIds where
  mid := RtpHeaderExtensionUri.Type.mid.value.toNat
  absSendTime := RtpHeaderExtensionUri.Type.absSendTime.value.toNat
  transportWideCc01 := RtpHeaderExtensionUri.Type.transportWideCc01.value.toNat
  frameMarking07 := RtpHeaderExtensionUri.Type.frameMarking07.value.toNat
  frameMarking := RtpHeaderExtensionUri.Type.frameMarking.value.toNat
  ssrcAudioLevel := RtpHeaderExtensionUri.Type.ssrcAudioLevel.value.toNat
  videoOrientation := RtpHeaderExtensionUri.Type.videoOrientation.value.toNat

def mangleRtpPacket (p : Producer) (packet : RtpPacket) (rtpStream : ℕ) :
    Except Fault (RtpPacket × Bool) :=
  match p.rtpMapping.codecs.find packet.getPayloadType with
  | none => .ok (packet, false)
  | some mappedPayloadType =>
    let packet := packet.setPayloadType mappedPayloadType
    match p.mapRtpStreamMappedSsrc.find rtpStream with
    | none => .error (.exception "std::out_of_range")
    | some mappedSsrc => do
      let packet := packet.setSsrc mappedSsrc
      let packet ← packet.setExtensions 1 (p.mangledExtensions packet)
      return ({ packet with extensionIds := mangledExtensionIds }, true)

/-! ## What it costs -/

open RtpPacket

theorem elementSize_le_of_isValid {ext : GenericExtension} (h : ext.isValid 1 = true) :
    ext.elementSize 1 ≤ 17 := by
  simp only [GenericExtension.isValid, if_true, Bool.not_eq_true', Bool.or_eq_false_iff,
    decide_eq_false_iff_not] at h
  unfold GenericExtension.elementSize
  omega

theorem extensionsTotalSize_proxiedExtension_le (pkt : RtpPacket) (id : ℕ)
    (type : RtpHeaderExtensionUri.Type) : extensionsTotalSize 1 (proxiedExtension pkt id type) ≤ 17 := by
  unfold proxiedExtension
  split
  · exact Nat.zero_le _
  · rw [extensionsTotalSize_cons]
    split_ifs with hvalid
    · exact elementSize_le_of_isValid hvalid
    · exact Nat.zero_le _

theorem extensionsTotalSize_append (type : ℕ) (l l' : List GenericExtension) :
    extensionsTotalSize type (l ++ l') = extensionsTotalSize type l + extensionsTotalSize type l' := by
  unfold extensionsTotalSize
  rw [filter_append, map_append, sum_append]

theorem extensionsTotalSize_mangledExtensions_le (p : Producer) (pkt : RtpPacket) :
    extensionsTotalSize 1 (p.mangledExtensions pkt) ≤ 84 := by
  unfold mangledExtensions
  rw [extensionsTotalSize_cons, if_pos (by decide)]
  show 9 + _ ≤ 84
  have hle := extensionsTotalSize_proxiedExtension_le pkt
  cases p.kind with
  | all => exact (by decide : 9 + 0 ≤ 84)
  | audio =>
    have h := hle p.rtpHeaderExtensionIds.ssrcAudioLevel .ssrcAudioLevel
    dsimp only
    omega
  | video =>
    have hframe07 := hle p.rtpHeaderExtensionIds.frameMarking07 .frameMarking07
    have hframe := hle p.rtpHeaderExtensionIds.frameMarking .frameMarking
    have horientation := hle p.rtpHeaderExtensionIds.videoOrientation .videoOrientation
    have htoffset := hle p.rtpHeaderExtensionIds.toffset .toffset
    dsimp only
    rw [extensionsTotalSize_append, extensionsTotalSize_append, extensionsTotalSize_append,
      extensionsTotalSize_append, extensionsTotalSize_cons, extensionsTotalSize_cons,
      if_pos (by decide), if_pos (by decide)]
    show 9 + (4 + (3 + 0) + _ + _ + _ + _) ≤ _
    omega

section Fields

variable {p : RtpPacket}

theorem layout_of_written (h : p.Layout) {p' : RtpPacket} {ptr ptr' : ℕ} (hwr : Written p p' ptr ptr')
    (hptr : ptr' ≤ headerSize) : p'.Layout ∧ p'.getHeaderExtensionLength = p.getHeaderExtensionLength := by
  have hlen : p'.getHeaderExtensionLength = p.getHeaderExtensionLength := by
    refine hwr.getHeaderExtensionLength_eq fun a ha => .inr ?_
    have hstart := (h.headerExtension a ha).1
    omega
  refine ⟨⟨?_, hwr.payload ▸ h.payload, ?_⟩, hlen⟩
  · rw [hwr.headerExtension, hwr.payload, hlen]
    exact h.headerExtension
  · rw [hwr.size, hwr.payload, hwr.payloadLength, hwr.payloadPadding]
    exact h.size

theorem written_setPayloadType (p : RtpPacket) (pt : ℕ) : Written p (p.setPayloadType pt) 1 2 := by
  refine ⟨rfl, rfl, rfl, rfl, rfl, fun a ha => ?_⟩
  rcases ha with ha | ha
  · exact store_of_lt ha
  · exact store_of_ge ha

theorem written_setSsrc (p : RtpPacket) (ssrc : ℕ) : Written p (p.setSsrc ssrc) 8 12 := by
  refine ⟨rfl, rfl, rfl, rfl, rfl, fun a ha => ?_⟩
  rcases ha with ha | ha
  · exact store_of_lt ha
  · exact store_of_ge ha

end Fields

/-- **Which packets abort the worker.** A received packet is mangled without a fault exactly when
its header extension is at most 32768 bytes longer than the new one. -/
theorem mangleRtpPacket_isOk_iff (p : Producer) {data : ℕ → Byte} {len : ℕ} {pkt : RtpPacket}
    (hparse : parse data len = .ok (some pkt)) (hlen : len ≤ 65535) {st pt ssrc : ℕ}
    (hpt : p.rtpMapping.codecs.find pkt.getPayloadType = some pt)
    (hssrc : p.mapRtpStreamMappedSsrc.find st = some ssrc) :
    (∃ r, p.mangleRtpPacket pkt st = .ok r) ↔ pkt.getHeaderExtensionLength ≤
        paddedSize 1 (p.mangledExtensions ((pkt.setPayloadType pt).setSsrc ssrc)) + 32768 := by
  obtain ⟨hlay, hsize⟩ := layout_of_parse hparse
  have hwr := written_setPayloadType pkt pt
  obtain ⟨hlay', hlength'⟩ := layout_of_written hlay hwr (by decide)
  obtain ⟨hlay'', hlength''⟩ :=
    layout_of_written hlay' (written_setSsrc _ ssrc) le_rfl
  rw [← hlength', ← hlength'']
  set mangled := (pkt.setPayloadType pt).setSsrc ssrc with hmangled
  have hold : mangled.getHeaderExtensionLength < 2 ^ 16 :=
    hlay''.getHeaderExtensionLength_lt (hsize.trans_le hlen)
  have hexts := extensionsTotalSize_mangledExtensions_le p mangled
  rw [← extensionsShift_eq_iff hlay'' hold _ (by unfold paddedSize; omega)]
  unfold mangleRtpPacket
  rw [hpt]
  dsimp only
  rw [hssrc]
  dsimp only
  rw [← hmangled]
  constructor
  · rintro ⟨r, hr⟩
    by_contra hne
    rw [setExtensions_of_ne hlay'' (.inl rfl) (by omega) hne] at hr
    cases hr
  · intro heq
    obtain ⟨p', hp', -⟩ := setExtensions_of_eq hlay'' (.inl rfl) (by omega) heq
    rw [hp']
    exact ⟨_, rfl⟩

def audioProducer : Producer :=
  ⟨.audio, {}, .simple, ⟨OrderedMap.empty.insert 0 100, []⟩, {}, false, 0, none, [], .empty, .empty, [], [],
    OrderedMap.empty.insert 0 7, .empty⟩

def bareHeader (a : ℕ) : Byte := if a = 0 then 0x80 else 0

theorem mangleRtpPacket_bareHeader : ∃ pkt, parse bareHeader 12 = .ok (some pkt) ∧
    ∃ r, audioProducer.mangleRtpPacket pkt 0 = .ok r :=
  ⟨_, rfl, (mangleRtpPacket_isOk_iff audioProducer (show parse bareHeader 12 = _ from rfl) (by decide) rfl
    rfl).mpr (Nat.zero_le _)⟩

end Producer
end MediasoupWorker.RTC
