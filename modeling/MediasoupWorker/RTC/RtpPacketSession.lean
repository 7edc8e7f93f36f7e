import MediasoupWorker.RTC.RtpPacketElements
import MediasoupWorker.RTC.RtpPacketMid

/-!
# Sequences of rewrites
-/

namespace MediasoupWorker.RTC

open Library

namespace RtpPacket
namespace Session

def Allowed (s : Session) : Rewrite → Prop
  | .setExtensions type _ => type = 1 ∨ type = 2
  | .updateMid mid => 1 ≤ mid.length ∧ mid.length ≤ midMaxLength ∧
    s.created s.packet.extensionIds.mid = some midMaxLength
  | .shiftPayload payloadOffset shift expand => shift = 0 ∨ payloadOffset < s.packet.payloadLength ∧
    (expand = true ∨ shift ≤ s.packet.payloadLength - payloadOffset)
  | _ => True

def Fits (s : Session) : Rewrite → Prop
  | .setExtensions type extensions => ExtensionsFit s.packet type extensions
  | _ => True

structure Sound (s : Session) : Prop where
  consistent : s.packet.Consistent
  room : ∀ id room, s.created id = some room → s.packet.HasRoom id room

theorem sound_new {p : RtpPacket} (hp : p.Consistent) : (new p).Sound where
  consistent := hp
  room id room hcreated := by
    obtain ⟨v, hv, rfl⟩ := Option.map_eq_some_iff.mp hcreated
    exact hp.hasRoom hv

theorem Sound.of_kept {s : Session} (h : s.Sound) {p : RtpPacket} (hkept : Kept s.packet p) :
    Sound { s with packet := p } where
  consistent := hkept.consistent
  room id room hcreated := hkept.hasRoom h.consistent (h.room id room hcreated)

/-- **Every call keeps the session sound.** -/
theorem step_sound {s : Session} (h : s.Sound) (op : Rewrite) (hall : s.Allowed op) (hfits : s.Fits op) :
    ∃ s', s.step op = .ok s' ∧ s'.Sound := by
  cases op with
  | setExtensions type extensions =>
    obtain ⟨p, hp, hcon⟩ := h.consistent.setExtensions hall hfits
    refine ⟨new p, ?_, sound_new hcon⟩
    rw [step, hp]
    rfl
  | setMidExtensionId id =>
    refine ⟨_, rfl, h.of_kept ⟨⟨h.consistent.isRtp, h.consistent.headerExtension, h.consistent.payload,
      h.consistent.size, h.consistent.padding, h.consistent.padding_pos,
      h.consistent.mapOneByteExtensions, h.consistent.mapTwoBytesExtensions⟩, ?_⟩⟩
    exact ⟨⟨rfl, rfl, rfl, rfl⟩, rfl, fun _ _ _ => rfl⟩
  | updateMid mid =>
    obtain ⟨hpos, hmid, hcr⟩ := hall
    obtain ⟨hcon, hself, hothers⟩ :=
      h.consistent.updateMid (h.room _ _ hcr) hpos hmid
    refine ⟨_, rfl, hcon, fun id room hid => ?_⟩
    by_cases hne : id = s.packet.extensionIds.mid
    · rw [hne, hcr] at hid
      cases hid
      rw [hne]
      exact hself
    · exact hothers id room hne (h.room id room hid)
  | shiftPayload off shift expand =>
    obtain ⟨p, hp, hkept⟩ := h.consistent.shiftPayload hall
    refine ⟨{ s with packet := p }, ?_, h.of_kept hkept⟩
    rw [step, hp]
    rfl
  | setPayloadLength length => exact ⟨_, rfl, h.of_kept (h.consistent.setPayloadLength length)⟩
  | rtxEncode pt ssrc seq =>
    exact ⟨_, rfl, h.of_kept (h.consistent.rtxEncode pt ssrc seq)⟩
  | rtxDecode pt ssrc => exact ⟨_, rfl, h.of_kept (h.consistent.rtxDecode pt ssrc)⟩
  | clone buffer =>
    obtain ⟨buffer', hclone, hkept⟩ := h.consistent.clone buffer
    refine ⟨{ s with packet := { s.packet with buffer := buffer' } }, ?_, h.of_kept hkept⟩
    rw [step, hclone]
    rfl

end Session

/-- **Rewriting keeps bytes and packet in agreement**, in every sequence of calls that are allowed
and fit. -/
theorem rewriting_agrees (data : ℕ → Byte) (len : ℕ) (p : RtpPacket)
    (hparse : parse data len = .ok (some p)) (calls : List Rewrite)
    (hcalls : RunMeets Session.step (fun s op => s.Allowed op ∧ s.Fits op) (.new p) calls) :
    ∃ s, run Session.step (.new p) calls = .ok s ∧ s.packet.Agrees := by
  obtain ⟨s, hrun, hsound⟩ := run_ok_of_inv
    (fun s op hs hop => Session.step_sound hs op hop.1 hop.2)
    (Session.sound_new (consistent_of_parse hparse)) hcalls
  exact ⟨s, hrun, hsound.consistent.agrees⟩

def midCalls : List Rewrite :=
  [.setExtensions 1 [midExtension], .setMidExtensionId 1, .updateMid [97], .rtxEncode 97 5 9,
    .clone fun _ => 0]

theorem rewriting_agrees_midCalls :
    ∃ p, parse plainBytes 16 = .ok (some p) ∧
      ∃ s, run Session.step (.new p) midCalls = .ok s ∧ s.packet.Agrees := by
  refine ⟨_, rfl, rewriting_agrees plainBytes 16 _ rfl midCalls ?_⟩
  refine runMeets_cons_of_run rfl ⟨Or.inl rfl, by decide, by decide, by decide⟩ ?_
  refine runMeets_cons_of_run rfl ⟨trivial, trivial⟩ ?_
  refine runMeets_cons_of_run rfl ⟨⟨by decide, by decide, rfl⟩, trivial⟩ ?_
  refine runMeets_cons_of_run rfl ⟨trivial, trivial⟩ ?_
  exact ⟨⟨trivial, trivial⟩, fun _ _ => trivial⟩

def longExtension (id : ℕ) : GenericExtension where
  id := BitVec.ofNat 8 id
  value := List.replicate 255 0
  length_lt := by
    rw [List.length_replicate]
    decide

def longExtensions : List GenericExtension := (List.range 129).map fun i => longExtension (i + 1)

def plainPacket : RtpPacket where
  buffer := plainBytes
  headerExtension := none
  mapOneByteExtensions := .empty
  mapTwoBytesExtensions := .empty
  extensionIds := {}
  payload := 12
  payloadLength := 4
  payloadPadding := 0
  size := 16

/-- **Extensions of 33153 bytes**, which fit into the buffer of 65536 bytes: the distance of 33160
bytes becomes -32376. -/
theorem long_extensions_abort :
    parse plainBytes 16 = .ok (some plainPacket) ∧
      (longExtensions.map (·.id)).Nodup ∧ (∀ extension ∈ longExtensions, extension.isValid 2 = true) ∧
      16 + 4 + paddedSize 2 longExtensions ≤ 65536 ∧
      run Session.step (.new plainPacket) [.setExtensions 2 longExtensions] =
        .error (.assertion "wrong ptr calculation") := by
  have hparse : parse plainBytes 16 = .ok (some plainPacket) := rfl
  have hsize : extensionsTotalSize 2 longExtensions = 33153 := by decide +kernel
  refine ⟨hparse, by decide +kernel, by decide +kernel, ?_, ?_⟩
  · rw [paddedSize, hsize]
    decide
  · have hfail : plainPacket.setExtensions 2 longExtensions =
        .error (.assertion "wrong ptr calculation") := by
      refine setExtensions_of_ne (layout_of_parse hparse).1 (Or.inr rfl) (by omega) ?_
      rw [paddedSize, hsize]
      decide +kernel
    rw [run_singleton, Session.step, Session.new, hfail]
    rfl

end RtpPacket
end MediasoupWorker.RTC
