import MediasoupWorker.Library.OwnedTable
import MediasoupWorker.Library.Runs
import MediasoupWorker.RTC.Producer
import Mathlib.Data.String.Basic

/-!
# `RtpListener`: which producer a packet belongs to

`src/src/RTC/RtpListener.cpp`. Three tables point from ssrcs, MIDs and RIDs to the producers of a
transport. Where `AddProducer` meets a key that is taken it removes whatever points to the producer and
throws; the failure carries the listener. What `GetProducer` finds by the MID or the RID it remembers for
the ssrc of the packet.
-/

namespace MediasoupWorker.RTC

open Library OrderedMap List

structure RtpListener (P : Type*) where
  ssrcTable : OrderedMap ℕ P
  midTable : OrderedMap String P
  ridTable : OrderedMap String P

namespace RtpListener

structure ListenedPacket extends Producer.StreamPacket where
  mid : Option String := none
  mid_ne : mid ≠ some "" := by decide

variable {P : Type*} [DecidableEq P]

def empty : RtpListener P where
  ssrcTable := .empty
  midTable := .empty
  ridTable := .empty

def removeProducer (l : RtpListener P) (producer : P) : RtpListener P where
  ssrcTable := l.ssrcTable.release producer
  midTable := l.midTable.release producer
  ridTable := l.ridTable.release producer

/-! ## `AddProducer` -/

abbrev Throwing (P : Type*) := Except (Fault × RtpListener P)

def removeAndThrow (l : RtpListener P) (producer : P) (message : String) : Throwing P (RtpListener P) :=
  .error (.error message, l.removeProducer producer)

def addSsrc (l : RtpListener P) (producer : P) (name : String) (ssrc : ℕ) : Throwing P (RtpListener P) :=
  if ssrc = 0 then .ok l
  else
    match l.ssrcTable.find ssrc with
    | none => .ok { l with ssrcTable := l.ssrcTable.insert ssrc producer }
    | some _ =>
      l.removeAndThrow producer
        (name ++ " already exists in RTP listener [ssrc:" ++ toString ssrc ++ "]")

def addSsrcs (producer : P) (l : RtpListener P) (encoding : RtpEncodingParameters) : Throwing P (RtpListener P) := do
  let l ← l.addSsrc producer "ssrc" encoding.ssrc
  l.addSsrc producer "RTX ssrc" encoding.rtx.ssrc

def addMid (l : RtpListener P) (producer : P) (mid : String) : Throwing P (RtpListener P) :=
  if mid = "" then .ok l
  else
    match l.midTable.find mid with
    | none => .ok { l with midTable := l.midTable.insert mid producer }
    | some _ =>
      l.removeAndThrow producer ("MID already exists in RTP listener [mid:" ++ mid ++ "]")

def addRid (producer : P) (mid : String) (l : RtpListener P) (encoding : RtpEncodingParameters) :
    Throwing P (RtpListener P) :=
  if encoding.rid = "" then .ok l
  else
    match l.ridTable.find encoding.rid with
    | none => .ok { l with ridTable := l.ridTable.insert encoding.rid producer }
    | some _ =>
      -- "Just fail if no MID is given."
      if mid = "" then
        l.removeAndThrow producer
          ("RID already exists in RTP listener and no MID is given [rid:" ++ encoding.rid ++ "]")
      else .ok l

def addProducer (l : RtpListener P) (producer : P) (rtpParameters : RtpParameters) : Throwing P (RtpListener P) := do
  let l ← rtpParameters.encodings.foldlM (addSsrcs producer) l
  let l ← l.addMid producer rtpParameters.mid
  rtpParameters.encodings.foldlM (addRid producer rtpParameters.mid) l

/-! ## `GetProducer` -/

def getProducerOfSsrc (l : RtpListener P) (ssrc : ℕ) : Option P := l.ssrcTable.find ssrc

def learn (l : RtpListener P) (packet : ListenedPacket) (producer : P) :
    RtpListener P × Option P :=
  ({ l with ssrcTable := l.ssrcTable.insert packet.ssrc producer }, some producer)

def getProducerOfRid (l : RtpListener P) (packet : ListenedPacket) : RtpListener P × Option P :=
  match packet.rid.bind l.ridTable.find with
  | some producer => l.learn packet producer
  | none => (l, none)

def getProducer (l : RtpListener P) (packet : ListenedPacket) : RtpListener P × Option P :=
  match l.getProducerOfSsrc packet.ssrc with
  | some producer => (l, some producer)
  | none =>
    match packet.mid.bind l.midTable.find with
    | some producer => l.learn packet producer
    | none => l.getProducerOfRid packet

/-! ## A call that throws -/

section AddProducer

variable {l pre : RtpListener P} {pr : P}

def Restores (before : RtpListener P) (producer : P) (result : Throwing P (RtpListener P)) : Prop :=
  Meets (fun l => l.removeProducer producer = before) (fun e => e.2 = before) result

section

variable (h : l.removeProducer pr = pre)

include h

theorem restores_removeAndThrow (msg : String) : Restores pre pr (l.removeAndThrow pr msg) := h

theorem restores_addSsrc (name : String) (ssrc : ℕ) : Restores pre pr (l.addSsrc pr name ssrc) := by
  unfold addSsrc
  split_ifs
  · exact h
  · cases hfind : l.ssrcTable.find ssrc with
    | some owner => exact restores_removeAndThrow h _
    | none =>
      subst h
      simp only [Restores, Meets, removeProducer, release_insert hfind]

theorem restores_addSsrcs (enc : RtpEncodingParameters) : Restores pre pr (addSsrcs pr l enc) :=
  (restores_addSsrc h "ssrc" enc.ssrc).bind fun _ h' => restores_addSsrc h' _ _

theorem restores_addMid (mid : String) : Restores pre pr (l.addMid pr mid) := by
  unfold addMid
  split_ifs
  · exact h
  · cases hfind : l.midTable.find mid with
    | some owner => exact restores_removeAndThrow h _
    | none =>
      subst h
      simp only [Restores, Meets, removeProducer, release_insert hfind]

theorem restores_addRid (mid : String) (enc : RtpEncodingParameters) :
    Restores pre pr (addRid pr mid l enc) := by
  unfold addRid
  by_cases hrid : enc.rid = ""
  · rw [if_pos hrid]
    exact h
  · rw [if_neg hrid]
    cases hfind : l.ridTable.find enc.rid with
    | some owner =>
      by_cases hmid : mid = ""
      · simp only [hmid, if_true]
        exact restores_removeAndThrow h _
      · simp only [hmid, if_false]
        exact h
    | none =>
      subst h
      simp only [Restores, Meets, removeProducer, release_insert hfind]

end

/-- **`AddProducer` of a producer to which no entry points**: after a throw the listener is as
before, and after a return removing the producer would make it so. -/
theorem restores_addProducer (h : l.removeProducer pr = l) (params : RtpParameters) :
    Restores l pr (l.addProducer pr params) := by
  refine Meets.bind (Meets.foldlM (fun _ _ h' => restores_addSsrcs h' _) h _) fun l₁ h₁ => ?_
  refine Meets.bind (restores_addMid h₁ _) fun l₂ h₂ => ?_
  exact Meets.foldlM (fun _ _ h' => restores_addRid h' _ _) h₂ _

end AddProducer

/-! ## Runs -/

structure Sound (l : RtpListener P) (producers : Set P) : Prop where
  ssrcTable : l.ssrcTable.OwnedBy producers
  midTable : l.midTable.OwnedBy producers
  ridTable : l.ridTable.OwnedBy producers

namespace Sound

variable {l : RtpListener P} {producers : Set P}

omit [DecidableEq P] in
theorem empty (producers : Set P) : (RtpListener.empty : RtpListener P).Sound producers :=
  ⟨ownedBy_empty _, ownedBy_empty _, ownedBy_empty _⟩

theorem removeProducer (h : l.Sound producers) (producer : P) :
    (l.removeProducer producer).Sound (producers \ {producer}) :=
  ⟨h.ssrcTable.release producer, h.midTable.release producer, h.ridTable.release producer⟩

variable {pr : P}

theorem of_removeProducer (h : (l.removeProducer pr).Sound producers) : l.Sound (Set.insert pr producers) :=
  ⟨h.ssrcTable.of_release, h.midTable.of_release, h.ridTable.of_release⟩

theorem removeProducer_eq_self (h : l.Sound producers) (hnew : pr ∉ producers) : l.removeProducer pr = l := by
  obtain ⟨ssrcTable, midTable, ridTable⟩ := l
  simp only [RtpListener.removeProducer, h.ssrcTable.release_eq_self hnew,
    h.midTable.release_eq_self hnew, h.ridTable.release_eq_self hnew]

omit [DecidableEq P] in
theorem mono (h : l.Sound producers) {producers' : Set P} (hsub : producers ⊆ producers') :
    l.Sound producers' :=
  ⟨h.ssrcTable.mono hsub, h.midTable.mono hsub, h.ridTable.mono hsub⟩

omit [DecidableEq P] in
theorem learn (h : l.Sound producers) (p : ListenedPacket) (hpr : pr ∈ producers) :
    (l.learn p pr).1.Sound producers :=
  { h with ssrcTable := h.ssrcTable.insert p.ssrc hpr }

omit [DecidableEq P] in
theorem getProducer (h : l.Sound producers) (p : ListenedPacket) : (l.getProducer p).1.Sound producers := by
  unfold RtpListener.getProducer
  cases l.getProducerOfSsrc p.ssrc with
  | some pr => exact h
  | none =>
    cases hmid : p.mid.bind l.midTable.find with
    | some pr =>
      obtain ⟨mid, -, hfind⟩ := Option.bind_eq_some_iff.mp hmid
      exact h.learn p (h.midTable mid pr hfind)
    | none =>
      show (l.getProducerOfRid p).1.Sound producers
      unfold getProducerOfRid
      cases hrid : p.rid.bind l.ridTable.find with
      | some pr =>
        obtain ⟨rid, -, hfind⟩ := Option.bind_eq_some_iff.mp hrid
        exact h.learn p (h.ridTable rid pr hfind)
      | none => exact h

end Sound

inductive Event (P : Type*) where
  | addProducer (producer : P)
  | removeProducer (producer : P)
  | getProducer (packet : ListenedPacket)

structure Session (P : Type*) where
  listener : RtpListener P
  added : List P

def Session.new : Session P := ⟨empty, []⟩

variable (getRtpParameters : P → RtpParameters)

def Session.afterAdd (s : Session P) (producer : P) :
    Throwing P (RtpListener P) → Session P
  | .ok l => ⟨l, producer :: s.added⟩
  | .error (_, l) => ⟨l, s.added⟩

def Session.next (s : Session P) : Event P → Session P
  | .addProducer producer =>
    s.afterAdd producer (s.listener.addProducer producer (getRtpParameters producer))
  | .removeProducer producer =>
    ⟨s.listener.removeProducer producer, s.added.filter fun p => decide (p ≠ producer)⟩
  | .getProducer packet => ⟨(s.listener.getProducer packet).1, s.added⟩

def Session.AddsNew (s : Session P) : Event P → Prop
  | .addProducer producer => producer ∉ s.added
  | _ => True

instance (s : Session P) (event : Event P) : Decidable (s.AddsNew event) :=
  match event with
  | .addProducer producer => inferInstanceAs (Decidable (producer ∉ s.added))
  | .removeProducer _ => .isTrue trivial
  | .getProducer _ => .isTrue trivial

def Session.Sound (s : Session P) : Prop := s.listener.Sound {producer | producer ∈ s.added}

variable {getRtpParameters}

theorem Session.Sound.addProducer {s : Session P} (h : s.Sound) {prod : P} (hnew : prod ∉ s.added) :
    (s.next getRtpParameters (.addProducer prod)).Sound := by
  have hrst := restores_addProducer (h.removeProducer_eq_self hnew) (getRtpParameters prod)
  rw [Session.next]
  cases hadd : s.listener.addProducer prod (getRtpParameters prod) with
  | ok l =>
    rw [hadd] at hrst
    have hrm : (l.removeProducer prod).Sound {p | p ∈ s.added} := by
      rw [show l.removeProducer prod = s.listener from hrst]
      exact h
    exact hrm.of_removeProducer.mono fun p => mem_cons.mpr
  | error e =>
    rw [hadd] at hrst
    obtain ⟨f, l⟩ := e
    obtain rfl : l = s.listener := hrst
    exact h

theorem Session.Sound.next {s : Session P} (h : s.Sound) {e : Event P} (hnew : s.AddsNew e) :
    (s.next getRtpParameters e).Sound := by
  cases e with
  | addProducer producer => exact h.addProducer hnew
  | removeProducer producer =>
    refine (RtpListener.Sound.removeProducer h producer).mono fun p hp => ?_
    exact mem_filter.mpr ⟨hp.1, decide_eq_true hp.2⟩
  | getProducer pkt => exact RtpListener.Sound.getProducer h pkt

/-- **The tables stay sound** in runs in which a producer is only added while it is not; an
`AddProducer` that throws leaves them as they were. -/
theorem tables_sound {events : List (Event P)}
    (hnew : StepsMeet (Session.next getRtpParameters) Session.AddsNew Session.new events) : let s := events.foldl (Session.next getRtpParameters) Session.new
    s.listener.Sound {producer | producer ∈ s.added} ∧ ∀ producer ∉ s.added, ∀ fault l,
        s.listener.addProducer producer (getRtpParameters producer) = .error (fault, l) → l = s.listener := by
  intro s
  have hsound : s.Sound := foldl_inv (I := fun _ s => s.Sound) (Sound.empty _)
    (fun _ _ _ _ h hnew => h.next hnew) hnew
  refine ⟨hsound, fun producer hproducer fault l hthrow => ?_⟩
  have hrestores :=
    restores_addProducer (hsound.removeProducer_eq_self hproducer) (getRtpParameters producer)
  rw [hthrow] at hrestores
  exact hrestores

def twoProducers : Bool → RtpParameters
  | false => { mid := "a", encodings := [{ ssrc := 1, rtx := { ssrc := 2 } }] }
  | true => { mid := "b", encodings := [{ ssrc := 3, rid := "r" }, { ssrc := 9 }] }

def learnedConflict : List (Event Bool) :=
  [.addProducer false, .getProducer { ssrc := 9, payloadType := 96, mid := some "a" }, .addProducer true]

theorem tables_sound_learnedConflict :
    StepsMeet (Session.next twoProducers) Session.AddsNew Session.new learnedConflict ∧
      let s := learnedConflict.foldl (Session.next twoProducers) Session.new
      s.listener.Sound {producer | producer ∈ s.added} ∧ ∀ producer ∉ s.added, ∀ fault l,
          s.listener.addProducer producer (twoProducers producer) = .error (fault, l) → l = s.listener :=
  have hnew : StepsMeet (Session.next twoProducers) Session.AddsNew Session.new learnedConflict := by
    decide
  ⟨hnew, tables_sound hnew⟩

/-! ## Adding two producers and removing the first one -/

section Influence

variable {l l' l₁ l₁' l₂ : RtpListener P} {pr : P} {ssrcs ssrcs' : List ℕ}
  {mids mids' rids rids' : List String}

structure Added (producer : P) (ssrcs : List ℕ) (mids rids : List String) (l l' : RtpListener P) :
    Prop where
  ssrcTable : l.ssrcTable.Claims l'.ssrcTable producer ssrcs
  midTable : l.midTable.Claims l'.midTable producer mids
  ridTable : l.ridTable.Claims l'.ridTable producer rids
  ssrcs_free : ∀ ssrc ∈ ssrcs, l.ssrcTable.find ssrc = none
  mids_free : ∀ mid ∈ mids, l.midTable.find mid = none

structure Within (l l₁ : RtpListener P) : Prop where
  ssrcTable : ∀ ssrc, l₁.ssrcTable.find ssrc = none → l.ssrcTable.find ssrc = none
  midTable : ∀ mid, l₁.midTable.find mid = none → l.midTable.find mid = none
  ridTable : ∀ rid, l₁.ridTable.find rid = none → l.ridTable.find rid = none

omit [DecidableEq P] in
theorem added_self (pr : P) (l : RtpListener P) : Added pr [] [] [] l l :=
  ⟨claims_empty _ _, claims_empty _ _, claims_empty _ _, nofun, nofun⟩

omit [DecidableEq P] in
theorem Added.trans (h : Added pr ssrcs mids rids l l') (h' : Added pr ssrcs' mids' rids' l' l₂) :
    Added pr (ssrcs ++ ssrcs') (mids ++ mids') (rids ++ rids') l l₂ where
  ssrcTable := h.ssrcTable.trans h'.ssrcTable
  midTable := h.midTable.trans h'.midTable
  ridTable := h.ridTable.trans h'.ridTable
  ssrcs_free ssrc hmem := (mem_append.mp hmem).elim (h.ssrcs_free ssrc) fun hssrc =>
    ((h.ssrcTable.find_eq_none ssrc).mp (h'.ssrcs_free ssrc hssrc)).1
  mids_free mid hmem := (mem_append.mp hmem).elim (h.mids_free mid) fun hmid =>
    ((h.midTable.find_eq_none mid).mp (h'.mids_free mid hmid)).1

omit [DecidableEq P] in
theorem Added.within (h : Added pr ssrcs mids rids l l') : Within l l' where
  ssrcTable ssrc hnone := ((h.ssrcTable.find_eq_none ssrc).mp hnone).1
  midTable mid hnone := ((h.midTable.find_eq_none mid).mp hnone).1
  ridTable rid hnone := ((h.ridTable.find_eq_none rid).mp hnone).1

omit [DecidableEq P] in
theorem Within.added (h : Within l l₁) (hl : Added pr ssrcs mids rids l l')
    (hl₁ : Added pr ssrcs mids rids l₁ l₁') : Within l' l₁' where
  ssrcTable ssrc hnone := by
    rw [hl₁.ssrcTable.find_eq_none] at hnone
    exact (hl.ssrcTable.find_eq_none ssrc).mpr (hnone.imp_left (h.ssrcTable ssrc))
  midTable mid hnone := by
    rw [hl₁.midTable.find_eq_none] at hnone
    exact (hl.midTable.find_eq_none mid).mpr (hnone.imp_left (h.midTable mid))
  ridTable rid hnone := by
    rw [hl₁.ridTable.find_eq_none] at hnone
    exact (hl.ridTable.find_eq_none rid).mpr (hnone.imp_left (h.ridTable rid))

def Adds (producer : P) (rids : List String) (add : RtpListener P → Throwing P (RtpListener P)) : Prop :=
  ∀ l l₁ l₁', Within l l₁ → add l₁ = .ok l₁' → ∃ ssrcs mids l', add l = .ok l' ∧
    Added producer ssrcs mids rids l l' ∧ Added producer ssrcs mids rids l₁ l₁'

omit [DecidableEq P] in
theorem Adds.pure (pr : P) : Adds pr [] Except.ok := by
  rintro l l₁ _ - ⟨⟩
  exact ⟨[], [], l, rfl, added_self pr l, added_self pr l₁⟩

omit [DecidableEq P] in
theorem Adds.bind {f g : RtpListener P → Throwing P (RtpListener P)} (hf : Adds pr rids f)
    (hg : Adds pr rids' g) : Adds pr (rids ++ rids') fun l => f l >>= g := by
  intro l l₁ l₁' hin hadd
  obtain ⟨l₂, hl₂, hl₁'⟩ := bind_eq_ok.mp hadd
  obtain ⟨ssrcs, mids, l', hl', hadded, hadded₁⟩ := hf l l₁ l₂ hin hl₂
  obtain ⟨ssrcs', mids', l'', hl'', hadded', hadded₁'⟩ :=
    hg l' l₂ l₁' (hin.added hadded hadded₁) hl₁'
  refine ⟨_, _, l'', ?_, hadded.trans hadded', hadded₁.trans hadded₁'⟩
  show f l >>= g = _
  rw [hl', ok_bind, hl'']

omit [DecidableEq P] in
theorem Adds.foldlM {α : Type*} {f : RtpListener P → α → Throwing P (RtpListener P)} {rids : α → List String}
    (h : ∀ a, Adds pr (rids a) (f · a)) (as : List α) : Adds pr (as.flatMap rids) fun l => as.foldlM f l := by
  induction as with
  | nil => exact Adds.pure pr
  | cons a as ih =>
    rw [flatMap_cons]
    exact (h a).bind ih

theorem adds_addSsrc (pr : P) (name : String) (ssrc : ℕ) : Adds pr [] fun l => l.addSsrc pr name ssrc := by
  by_cases hzero : ssrc = 0
  · simp only [addSsrc, if_pos hzero]
    exact Adds.pure pr
  · intro l l₁ l₁' hin hadd
    simp only [addSsrc, if_neg hzero] at hadd ⊢
    cases hfind : l₁.ssrcTable.find ssrc with
    | some owner => rw [hfind] at hadd; cases hadd
    | none =>
      rw [hfind] at hadd
      cases hadd
      rw [hin.ssrcTable ssrc hfind]
      have hadded {l : RtpListener P} (hnone : l.ssrcTable.find ssrc = none) :
          Added pr [ssrc] [] [] l { l with ssrcTable := l.ssrcTable.insert ssrc pr } :=
        { added_self pr l with
          ssrcTable := claims_insert hnone pr
          ssrcs_free := fun _ hmem => mem_singleton.mp hmem ▸ hnone }
      exact ⟨[ssrc], [], _, rfl, hadded (hin.ssrcTable ssrc hfind), hadded hfind⟩

theorem adds_addMid (pr : P) (mid : String) : Adds pr [] fun l => l.addMid pr mid := by
  by_cases hnil : mid = ""
  · simp only [addMid, if_pos hnil]
    exact Adds.pure pr
  · intro l l₁ l₁' hin hadd
    simp only [addMid, if_neg hnil] at hadd ⊢
    cases hfind : l₁.midTable.find mid with
    | some owner => rw [hfind] at hadd; cases hadd
    | none =>
      rw [hfind] at hadd
      cases hadd
      rw [hin.midTable mid hfind]
      have hadded {l : RtpListener P} (hnone : l.midTable.find mid = none) :
          Added pr [] [mid] [] l { l with midTable := l.midTable.insert mid pr } :=
        { added_self pr l with
          midTable := claims_insert hnone pr
          mids_free := fun _ hmem => mem_singleton.mp hmem ▸ hnone }
      exact ⟨[], [mid], _, rfl, hadded (hin.midTable mid hfind), hadded hfind⟩

def ridsOf (encoding : RtpEncodingParameters) : List String :=
  if encoding.rid = "" then [] else [encoding.rid]

theorem adds_addRid (pr : P) (mid : String) (encoding : RtpEncodingParameters) :
    Adds pr (ridsOf encoding) fun l => addRid pr mid l encoding := by
  by_cases hnil : encoding.rid = ""
  · simp only [addRid, ridsOf, if_pos hnil]
    exact Adds.pure pr
  · have hone : ridsOf encoding = [encoding.rid] := if_neg hnil
    have hinsert {l : RtpListener P} (hnone : l.ridTable.find encoding.rid = none) :
        Added pr [] [] (ridsOf encoding) l
          { l with ridTable := l.ridTable.insert encoding.rid pr } :=
      { added_self pr l with ridTable := hone ▸ claims_insert hnone pr }
    have htaken {l : RtpListener P} (hsome : l.ridTable.find encoding.rid ≠ none) :
        Added pr [] [] (ridsOf encoding) l l :=
      { added_self pr l with ridTable := hone ▸ claims_of_taken hsome pr }
    intro l l₁ l₁' hin hadd
    simp only [addRid, if_neg hnil] at hadd ⊢
    cases hfind : l₁.ridTable.find encoding.rid with
    | none =>
      rw [hfind] at hadd
      cases hadd
      have hnone := hin.ridTable _ hfind
      rw [hnone]
      exact ⟨[], [], _, rfl, hinsert hnone, hinsert hfind⟩
    | some owner =>
      have htaken₁ : Added pr [] [] (ridsOf encoding) l₁ l₁ := htaken (by simp [hfind])
      by_cases hmid : mid = ""
      · simp only [hfind, hmid, if_true] at hadd
        cases hadd
      · simp only [hfind, hmid, if_false] at hadd ⊢
        cases hadd
        cases hfind' : l.ridTable.find encoding.rid with
        | none => exact ⟨[], [], _, rfl, hinsert hfind', htaken₁⟩
        | some owner' => exact ⟨[], [], _, rfl, htaken (by simp [hfind']), htaken₁⟩

theorem adds_addProducer (pr : P) (rtpParameters : RtpParameters) :
    Adds pr (rtpParameters.encodings.flatMap ridsOf) fun l => l.addProducer pr rtpParameters := by
  have hssrcs (encoding : RtpEncodingParameters) :
      Adds pr [] fun l => addSsrcs pr l encoding :=
    (adds_addSsrc pr "ssrc" encoding.ssrc).bind
      (adds_addSsrc pr "RTX ssrc" encoding.rtx.ssrc)
  have h := (Adds.foldlM hssrcs rtpParameters.encodings).bind
    ((adds_addMid pr rtpParameters.mid).bind
      (Adds.foldlM (adds_addRid pr rtpParameters.mid) rtpParameters.encodings))
  rw [flatMap_eq_nil_iff.mpr fun _ _ => rfl] at h
  exact h

variable (l l₁ l₂) in
/-- **Removing a producer erases its influence** unless the tables pointed to it before, or it has taken a
RID that the other producer has as well. -/
theorem removeProducer_eq_iff {p q : P} (hne : p ≠ q)
    (parameters : P → RtpParameters) (hp : l.addProducer p (parameters p) = .ok l₁)
    (hq : l₁.addProducer q (parameters q) = .ok l₂) :
    ∃ l', l.addProducer q (parameters q) = .ok l' ∧ (l₂.removeProducer p = l' ↔ l.removeProducer p = l ∧
        ∀ rid ∈ (parameters p).encodings.flatMap ridsOf,
          rid ∈ (parameters q).encodings.flatMap ridsOf → l.ridTable.find rid ≠ none) := by
  obtain ⟨_, _, l₁', hp', hadded, -⟩ :=
    adds_addProducer p (parameters p) l l l₁ (added_self p l).within hp
  obtain rfl : l₁' = l₁ := Except.ok.inj (hp'.symm.trans hp)
  obtain ⟨_, _, l', hq', hadded', hadded₂⟩ :=
    adds_addProducer q (parameters q) l l₁' l₂ hadded.within hq
  have hssrc := hadded.ssrcTable.release_eq_iff hne hadded₂.ssrcTable hadded'.ssrcTable
  have hmid := hadded.midTable.release_eq_iff hne hadded₂.midTable hadded'.midTable
  have hrid := hadded.ridTable.release_eq_iff hne hadded₂.ridTable hadded'.ridTable
  rw [and_iff_left fun ssrc hmem hmem' => absurd hmem
    ((hadded.ssrcTable.find_eq_none ssrc).mp (hadded₂.ssrcs_free ssrc hmem')).2] at hssrc
  rw [and_iff_left fun mid hmem hmem' => absurd hmem
    ((hadded.midTable.find_eq_none mid).mp (hadded₂.mids_free mid hmem')).2] at hmid
  refine ⟨l', hq', ?_⟩
  obtain ⟨ssrcTable, midTable, ridTable⟩ := l
  obtain ⟨ssrcTable', midTable', ridTable'⟩ := l'
  rw [removeProducer, removeProducer, mk.injEq, mk.injEq, hssrc, hmid, hrid, and_assoc, and_assoc]

theorem removeProducer_eq_twoProducers :
    ∃ l₁ l₂ l' : RtpListener Bool, empty.addProducer false (twoProducers false) = .ok l₁ ∧
      l₁.addProducer true (twoProducers true) = .ok l₂ ∧
      empty.addProducer true (twoProducers true) = .ok l' ∧ l₂.removeProducer false = l' := by
  obtain ⟨l', hl', hiff⟩ :=
    removeProducer_eq_iff empty _ _ Bool.false_ne_true twoProducers rfl rfl
  exact ⟨_, _, l', rfl, rfl, hl', hiff.mpr ⟨rfl, by decide⟩⟩

def sharedRid : Bool → RtpParameters
  | false => { mid := "a", encodings := [{ ssrc := 1, rid := "r" }] }
  | true => { mid := "b", encodings := [{ ssrc := 2, rid := "r" }] }

/-- **A RID that both producers have** points to the first one, and to none when that is removed. -/
theorem removeProducer_ne_sharedRid :
    ∃ l₁ l₂ l' : RtpListener Bool, empty.addProducer false (sharedRid false) = .ok l₁ ∧
      l₁.addProducer true (sharedRid true) = .ok l₂ ∧ empty.addProducer true (sharedRid true) = .ok l' ∧
      (l₂.removeProducer false).ridTable.find "r" = none ∧ l'.ridTable.find "r" = some true :=
  ⟨_, _, _, rfl, rfl, rfl, by decide, by decide⟩

end Influence

end RtpListener

end MediasoupWorker.RTC
