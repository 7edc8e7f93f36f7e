import MediasoupWorker.Common
import MediasoupWorker.Library.Runs

/-!
# Requests for key frames

`src/src/RTC/KeyFrameRequestManager.cpp`. A request for a key frame is repeated once if no key frame
arrives. With a delay, a second request that comes too early is kept by a delayer. Both are objects with a
timer, which can fire whenever its object exists.
-/

namespace MediasoupWorker.RTC

open Library Option List

structure Objects where
  found : Option ℕ := none
  flags : List (Option Bool) := []
  deriving DecidableEq, Repr

namespace Objects

def flag (n : ℕ) (o : Objects) : Option Bool := o.flags[n]?.join

def create (value : Bool) (o : Objects) : Objects :=
  { found := some o.flags.length, flags := o.flags ++ [some value] }

def setFlag (n : ℕ) (value : Bool) (o : Objects) : Objects :=
  { o with flags := o.flags.set n (some value) }

def delete (n : ℕ) (o : Objects) : Objects := { o with flags := o.flags.set n none }

def erase (o : Objects) : Objects := { o with found := none }

end Objects

structure KeyFrameRequestManager where
  keyFrameRequestDelay : BitVec 32
  mapSsrcPendingKeyFrameInfo : BitVec 32 → Objects := fun _ => {}
  mapSsrcKeyFrameRequestDelayer : BitVec 32 → Objects := fun _ => {}
  notified : List (BitVec 32) := []

namespace KeyFrameRequestManager

def setPending (ssrc : BitVec 32) (o : Objects) (s : KeyFrameRequestManager) : KeyFrameRequestManager :=
  { s with mapSsrcPendingKeyFrameInfo := Function.update s.mapSsrcPendingKeyFrameInfo ssrc o }

def setDelayer (ssrc : BitVec 32) (o : Objects) (s : KeyFrameRequestManager) : KeyFrameRequestManager :=
  { s with mapSsrcKeyFrameRequestDelayer := Function.update s.mapSsrcKeyFrameRequestDelayer ssrc o }

def onKeyFrameNeeded (ssrc : BitVec 32) (s : KeyFrameRequestManager) : KeyFrameRequestManager :=
  { s with notified := s.notified ++ [ssrc] }

def request (ssrc : BitVec 32) (s : KeyFrameRequestManager) : KeyFrameRequestManager :=
  let pending := s.mapSsrcPendingKeyFrameInfo ssrc
  match pending.found with
  | some n => s.setPending ssrc (pending.setFlag n true)
  | none => (s.setPending ssrc (pending.create true)).onKeyFrameNeeded ssrc

def keyFrameNeeded (ssrc : BitVec 32) (s : KeyFrameRequestManager) : KeyFrameRequestManager :=
  let delayer := s.mapSsrcKeyFrameRequestDelayer ssrc
  if s.keyFrameRequestDelay > 0 then
    match delayer.found with
    | some n => s.setDelayer ssrc (delayer.setFlag n true)
    | none => (s.setDelayer ssrc (delayer.create false)).request ssrc
  else s.request ssrc

def replaceDelayer (ssrc : BitVec 32) (s : KeyFrameRequestManager) : KeyFrameRequestManager :=
  let delayer := s.mapSsrcKeyFrameRequestDelayer ssrc
  if s.keyFrameRequestDelay > 0 then
    match delayer.found with
    | some n => s.setDelayer ssrc ((delayer.delete n).create false)
    | none => s.setDelayer ssrc (delayer.create false)
  else s

def forceKeyFrameNeeded (ssrc : BitVec 32) (s : KeyFrameRequestManager) : KeyFrameRequestManager :=
  let s := s.replaceDelayer ssrc
  let pending := s.mapSsrcPendingKeyFrameInfo ssrc
  match pending.found with
  | some n => (s.setPending ssrc (pending.setFlag n true)).onKeyFrameNeeded ssrc
  | none => (s.setPending ssrc (pending.create true)).onKeyFrameNeeded ssrc

def keyFrameReceived (ssrc : BitVec 32) (s : KeyFrameRequestManager) : KeyFrameRequestManager :=
  let pending := s.mapSsrcPendingKeyFrameInfo ssrc
  match pending.found with
  | some n => s.setPending ssrc (pending.delete n).erase
  | none => s

def onKeyFrameRequestTimeout (ssrc : BitVec 32) (n : ℕ) (retryOnTimeout : Bool)
    (s : KeyFrameRequestManager) : Except Fault KeyFrameRequestManager := do
  let pending := s.mapSsrcPendingKeyFrameInfo ssrc
  msAssert pending.found.isSome "PendingKeyFrameInfo not present in the map"
  if !retryOnTimeout then return s.setPending ssrc (pending.delete n).erase
  else return (s.setPending ssrc (pending.setFlag n false)).onKeyFrameNeeded ssrc

def onKeyFrameDelayTimeout (ssrc : BitVec 32) (n : ℕ) (keyFrameRequested : Bool)
    (s : KeyFrameRequestManager) : Except Fault KeyFrameRequestManager := do
  let delayer := s.mapSsrcKeyFrameRequestDelayer ssrc
  msAssert delayer.found.isSome "KeyFrameRequestDelayer not present in the map"
  let s := s.setDelayer ssrc (delayer.delete n).erase
  if keyFrameRequested then return s.keyFrameNeeded ssrc else return s

inductive Event where
  | keyFrameNeeded (ssrc : BitVec 32)
  | forceKeyFrameNeeded (ssrc : BitVec 32)
  | keyFrameReceived (ssrc : BitVec 32)
  | requestTimeout (ssrc : BitVec 32) (n : ℕ)
  | delayTimeout (ssrc : BitVec 32) (n : ℕ)
  deriving DecidableEq, Repr

def Event.ssrc : Event → BitVec 32
  | .keyFrameNeeded ssrc | .forceKeyFrameNeeded ssrc | .keyFrameReceived ssrc
  | .requestTimeout ssrc _ | .delayTimeout ssrc _ => ssrc

def step (s : KeyFrameRequestManager) : Event → Except Fault KeyFrameRequestManager
  | .keyFrameNeeded ssrc => .ok (s.keyFrameNeeded ssrc)
  | .forceKeyFrameNeeded ssrc => .ok (s.forceKeyFrameNeeded ssrc)
  | .keyFrameReceived ssrc => .ok (s.keyFrameReceived ssrc)
  | .requestTimeout ssrc n =>
    match (s.mapSsrcPendingKeyFrameInfo ssrc).flag n with
    | some retryOnTimeout => s.onKeyFrameRequestTimeout ssrc n retryOnTimeout
    | none => .ok s
  | .delayTimeout ssrc n =>
    match (s.mapSsrcKeyFrameRequestDelayer ssrc).flag n with
    | some keyFrameRequested => s.onKeyFrameDelayTimeout ssrc n keyFrameRequested
    | none => .ok s

end KeyFrameRequestManager

/-! ## Objects and the map -/

namespace Objects

variable {o : Objects} {n : ℕ}

def Owned (o : Objects) : Prop := ∀ n, (o.flag n).isSome = true ↔ o.found = some n

def raised (o : Objects) : ℕ := if o.found.bind (o.flag ·) = some true then 1 else 0

theorem owned_empty : Owned {} := by
  intro n
  simp [flag]

theorem flag_create (value : Bool) (m : ℕ) :
    (o.create value).flag m = if m = o.flags.length then some value else o.flag m := by
  rw [flag, create, flag, getElem?_append]
  rcases lt_trichotomy m o.flags.length with hlt | rfl | hgt
  · rw [if_pos hlt, if_neg hlt.ne]
  · simp
  · rw [if_neg (by omega), if_neg hgt.ne', getElem?_eq_none (by simp; omega), getElem?_eq_none hgt.le]

theorem flag_set (value : Option Bool) (hfound : (o.flag n).isSome = true) (m : ℕ) :
    flag m { o with flags := o.flags.set n value } = if m = n then value else o.flag m := by
  have hlt : n < o.flags.length := by
    by_contra hge
    rw [flag, getElem?_eq_none (by omega)] at hfound
    cases hfound
  rw [flag, flag, getElem?_set]
  by_cases hm : m = n
  · subst hm
    simp [hlt]
  · rw [if_neg (Ne.symm hm), if_neg hm]

def Empty (o : Objects) : Prop := ∀ n, o.flag n = none

theorem Owned.empty_of_none (h : o.Owned) (hnone : o.found = none) : o.Empty := by
  intro n
  rw [← not_isSome_iff_eq_none, h n, hnone]
  simp

theorem Owned.empty_delete (h : o.Owned) (hfound : o.found = some n) : (o.delete n).Empty := by
  intro m
  rw [delete, flag_set none ((h n).mpr hfound)]
  split_ifs with hm
  · rfl
  · rw [← not_isSome_iff_eq_none, h m, hfound]
    simpa using Ne.symm hm

theorem Empty.erase (h : o.Empty) : o.erase.Owned ∧ o.erase.raised = false.toNat := by
  refine ⟨fun n => ?_, rfl⟩
  rw [show o.erase.flag n = none from h n]
  simp [Objects.erase]

theorem Empty.create (h : o.Empty) (value : Bool) :
    (o.create value).Owned ∧ (o.create value).raised = value.toNat := by
  refine ⟨fun n => ?_, ?_⟩
  · rw [flag_create, h n, show (o.create value).found = some o.flags.length from rfl]
    by_cases hn : n = o.flags.length
    · simp [hn]
    · simp [hn, Ne.symm hn]
  · rw [raised, show (o.create value).found = some o.flags.length from rfl, bind_some, flag_create,
      if_pos rfl]
    cases value <;> rfl

theorem Owned.setFlag (h : o.Owned) (hfound : o.found = some n) (value : Bool) :
    (o.setFlag n value).Owned ∧ (o.setFlag n value).raised = value.toNat := by
  have hexists := (h n).mpr hfound
  refine ⟨fun m => ?_, ?_⟩
  · rw [Objects.setFlag, flag_set _ hexists]
    show _ ↔ o.found = some m
    split_ifs with hm
    · rw [hm, hfound]
      simp
    · exact h m
  · rw [raised, show (o.setFlag n value).found = some n from hfound, bind_some, Objects.setFlag,
      flag_set _ hexists, if_pos rfl]
    cases value <;> rfl

theorem Owned.found_of_flag (h : o.Owned) {value : Bool} (hflag : o.flag n = some value) :
    o.found = some n ∧ o.raised = value.toNat := by
  have hfound : o.found = some n := (h n).mp (by rw [hflag]; rfl)
  refine ⟨hfound, ?_⟩
  rw [raised, hfound, bind_some, hflag]
  cases value <;> rfl

end Objects

namespace KeyFrameRequestManager

/-! ## One stream

What the manager has of an SSRC changes as if there were no other one: `View.step` is the machine of one
stream, and `step_spec` says that the manager consists of such machines. -/

structure View where
  keyFrameRequestDelay : BitVec 32
  pending : Objects
  delayer : Objects
  notified : ℕ

def view (ssrc : BitVec 32) (s : KeyFrameRequestManager) : View where
  keyFrameRequestDelay := s.keyFrameRequestDelay
  pending := s.mapSsrcPendingKeyFrameInfo ssrc
  delayer := s.mapSsrcKeyFrameRequestDelayer ssrc
  notified := s.notified.count ssrc

namespace View

def setPending (o : Objects) (v : View) : View := { v with pending := o }

def setDelayer (o : Objects) (v : View) : View := { v with delayer := o }

def notify (v : View) : View := { v with notified := v.notified + 1 }

def request (v : View) : View :=
  match v.pending.found with
  | some n => v.setPending (v.pending.setFlag n true)
  | none => (v.setPending (v.pending.create true)).notify

def keyFrameNeeded (v : View) : View :=
  if v.keyFrameRequestDelay > 0 then
    match v.delayer.found with
    | some n => v.setDelayer (v.delayer.setFlag n true)
    | none => (v.setDelayer (v.delayer.create false)).request
  else v.request

def replaceDelayer (v : View) : View :=
  if v.keyFrameRequestDelay > 0 then
    match v.delayer.found with
    | some n => v.setDelayer ((v.delayer.delete n).create false)
    | none => v.setDelayer (v.delayer.create false)
  else v

def force (v : View) : View :=
  match v.pending.found with
  | some n => (v.setPending (v.pending.setFlag n true)).notify
  | none => (v.setPending (v.pending.create true)).notify

def keyFrameReceived (v : View) : View :=
  match v.pending.found with
  | some n => v.setPending (v.pending.delete n).erase
  | none => v

def requestTimeout (n : ℕ) (retryOnTimeout : Bool) (v : View) : View :=
  if !retryOnTimeout then v.setPending (v.pending.delete n).erase
  else (v.setPending (v.pending.setFlag n false)).notify

def delayTimeout (n : ℕ) (keyFrameRequested : Bool) (v : View) : View :=
  let v := v.setDelayer (v.delayer.delete n).erase
  if keyFrameRequested then v.keyFrameNeeded else v

def step (v : View) : Event → View
  | .keyFrameNeeded _ => v.keyFrameNeeded
  | .forceKeyFrameNeeded _ => v.replaceDelayer.force
  | .keyFrameReceived _ => v.keyFrameReceived
  | .requestTimeout _ n => (v.pending.flag n).elim v fun retryOnTimeout => v.requestTimeout n retryOnTimeout
  | .delayTimeout _ n =>
    (v.delayer.flag n).elim v fun keyFrameRequested => v.delayTimeout n keyFrameRequested

end View

variable {s s' r t : KeyFrameRequestManager} {ssrc other : BitVec 32} {v w : View}

structure Becomes (ssrc : BitVec 32) (v : View) (s s' : KeyFrameRequestManager) : Prop where
  here : s'.view ssrc = v
  others : ∀ other ≠ ssrc, s'.view other = s.view other

theorem Becomes.trans (h : Becomes ssrc v s r) (h' : Becomes ssrc w r s') : Becomes ssrc w s s' :=
  ⟨h'.here, fun other hne => (h'.others other hne).trans (h.others other hne)⟩

theorem becomes_setPending (o : Objects) :
    Becomes ssrc ((s.view ssrc).setPending o) s (s.setPending ssrc o) :=
  ⟨by simp [view, setPending, View.setPending], fun other hne => by simp [view, setPending, hne]⟩

theorem becomes_setDelayer (o : Objects) :
    Becomes ssrc ((s.view ssrc).setDelayer o) s (s.setDelayer ssrc o) :=
  ⟨by simp [view, setDelayer, View.setDelayer], fun other hne => by simp [view, setDelayer, hne]⟩

theorem becomes_onKeyFrameNeeded : Becomes ssrc (s.view ssrc).notify s (s.onKeyFrameNeeded ssrc) :=
  ⟨by simp [view, onKeyFrameNeeded, View.notify], fun other hne => by simp [view, onKeyFrameNeeded, hne.symm]⟩

theorem Becomes.onKeyFrameNeeded (h : Becomes ssrc v s s') :
    Becomes ssrc v.notify s (s'.onKeyFrameNeeded ssrc) :=
  h.trans (h.here ▸ becomes_onKeyFrameNeeded)

theorem view_pending : (s.view ssrc).pending = s.mapSsrcPendingKeyFrameInfo ssrc := rfl

theorem view_delayer : (s.view ssrc).delayer = s.mapSsrcKeyFrameRequestDelayer ssrc := rfl

theorem view_delay : (s.view ssrc).keyFrameRequestDelay = s.keyFrameRequestDelay := rfl

theorem becomes_request : Becomes ssrc (s.view ssrc).request s (s.request ssrc) := by
  rw [request, View.request, view_pending]
  cases (s.mapSsrcPendingKeyFrameInfo ssrc).found with
  | some n => exact becomes_setPending _
  | none => exact (becomes_setPending _).onKeyFrameNeeded

theorem Becomes.request (h : Becomes ssrc v s s') : Becomes ssrc v.request s (s'.request ssrc) :=
  h.trans (h.here ▸ becomes_request)

theorem becomes_keyFrameNeeded : Becomes ssrc (s.view ssrc).keyFrameNeeded s (s.keyFrameNeeded ssrc) := by
  rw [keyFrameNeeded, View.keyFrameNeeded, view_delay, view_delayer]
  split_ifs
  · cases (s.mapSsrcKeyFrameRequestDelayer ssrc).found with
    | some n => exact becomes_setDelayer _
    | none =>
      exact (becomes_setDelayer _).request
  · exact becomes_request

theorem Becomes.keyFrameNeeded (h : Becomes ssrc v s s') :
    Becomes ssrc v.keyFrameNeeded s (s'.keyFrameNeeded ssrc) :=
  h.trans (h.here ▸ becomes_keyFrameNeeded)

theorem becomes_forceKeyFrameNeeded :
    Becomes ssrc (s.view ssrc).replaceDelayer.force s (s.forceKeyFrameNeeded ssrc) := by
  have hreplaced : Becomes ssrc (s.view ssrc).replaceDelayer s (s.replaceDelayer ssrc) := by
    rw [replaceDelayer, View.replaceDelayer, view_delay, view_delayer]
    split_ifs
    · cases (s.mapSsrcKeyFrameRequestDelayer ssrc).found with
      | some n => exact becomes_setDelayer _
      | none => exact becomes_setDelayer _
    · exact ⟨rfl, fun _ _ => rfl⟩
  rw [forceKeyFrameNeeded, View.force, ← hreplaced.here, view_pending]
  refine hreplaced.trans ?_
  cases ((s.replaceDelayer ssrc).mapSsrcPendingKeyFrameInfo ssrc).found with
  | some n => exact (becomes_setPending _).onKeyFrameNeeded
  | none => exact (becomes_setPending _).onKeyFrameNeeded

theorem becomes_keyFrameReceived :
    Becomes ssrc (s.view ssrc).keyFrameReceived s (s.keyFrameReceived ssrc) := by
  rw [keyFrameReceived, View.keyFrameReceived, view_pending]
  cases (s.mapSsrcPendingKeyFrameInfo ssrc).found with
  | some n => exact becomes_setPending _
  | none => exact ⟨rfl, fun _ _ => rfl⟩

/-- **One event** of an SSRC whose objects are those in the maps: no assertion fails, and the event is
one of the stream. -/
theorem step_spec {e : Event} (hpend : (s.view e.ssrc).pending.Owned)
    (hdelayer : (s.view e.ssrc).delayer.Owned) :
    ∃ s', s.step e = .ok s' ∧ Becomes e.ssrc ((s.view e.ssrc).step e) s s' := by
  cases e with
  | keyFrameNeeded ssrc => exact ⟨_, rfl, becomes_keyFrameNeeded⟩
  | forceKeyFrameNeeded ssrc => exact ⟨_, rfl, becomes_forceKeyFrameNeeded⟩
  | keyFrameReceived ssrc => exact ⟨_, rfl, becomes_keyFrameReceived⟩
  | requestTimeout ssrc n =>
    dsimp only [Event.ssrc] at *
    rw [step, View.step, view_pending]
    rw [view_pending] at hpend
    cases hflag : (s.mapSsrcPendingKeyFrameInfo ssrc).flag n with
    | none => exact ⟨s, rfl, rfl, fun _ _ => rfl⟩
    | some retry =>
      obtain ⟨hfound, -⟩ := hpend.found_of_flag hflag
      dsimp only [Option.elim]
      rw [onKeyFrameRequestTimeout, hfound, Option.isSome_some, msAssert_true, ok_bind, View.requestTimeout]
      split_ifs
      · exact ⟨_, rfl, becomes_setPending _⟩
      · exact ⟨_, rfl, (becomes_setPending _).onKeyFrameNeeded⟩
  | delayTimeout ssrc n =>
    dsimp only [Event.ssrc] at *
    rw [step, View.step, view_delayer]
    rw [view_delayer] at hdelayer
    cases hflag : (s.mapSsrcKeyFrameRequestDelayer ssrc).flag n with
    | none => exact ⟨s, rfl, rfl, fun _ _ => rfl⟩
    | some asked =>
      obtain ⟨hfound, -⟩ := hdelayer.found_of_flag hflag
      dsimp only [Option.elim]
      rw [onKeyFrameDelayTimeout, hfound, Option.isSome_some, msAssert_true, ok_bind, View.delayTimeout]
      split_ifs
      · exact ⟨_, rfl, (becomes_setDelayer _).keyFrameNeeded⟩
      · exact ⟨_, rfl, becomes_setDelayer _⟩

/-! ## What the notifications cost -/

namespace View

def Owned (v : View) : Prop := v.pending.Owned ∧ v.delayer.Owned

def potential (v : View) : ℕ := v.notified + v.pending.raised + 2 * v.delayer.raised

structure Paid (budget : ℕ) (v w : View) : Prop where
  owned : w.Owned
  paid : w.potential ≤ v.potential + budget

variable {budget : ℕ}

theorem Paid.trans {u : View} (h : Paid 0 u v) (h' : Paid budget v w) : Paid budget u w :=
  ⟨h'.owned, h'.paid.trans (Nat.add_le_add_right h.paid budget)⟩

variable {o : Objects} {val : Bool}

variable (h : v.Owned)

include h

section

variable (ho : o.Owned ∧ o.raised = val.toNat)

include ho

theorem Owned.setPending (hpaid : val.toNat ≤ v.pending.raised + budget) :
    Paid budget v (v.setPending o) := by
  refine ⟨⟨ho.1, h.2⟩, ?_⟩
  show v.notified + o.raised + 2 * v.delayer.raised ≤ v.potential + budget
  rw [ho.2, potential]
  omega

theorem Owned.setDelayer (hpaid : 2 * val.toNat ≤ 2 * v.delayer.raised + budget) :
    Paid budget v (v.setDelayer o) := by
  refine ⟨⟨h.1, ho.1⟩, ?_⟩
  show v.notified + v.pending.raised + 2 * o.raised ≤ v.potential + budget
  rw [ho.2, potential]
  omega

theorem Owned.setPending_notify (hpaid : val.toNat + 1 ≤ v.pending.raised + budget) :
    Paid budget v (v.setPending o).notify := by
  refine ⟨⟨ho.1, h.2⟩, ?_⟩
  show v.notified + 1 + o.raised + 2 * v.delayer.raised ≤ v.potential + budget
  rw [ho.2, potential]
  omega

end

theorem Owned.request : Paid 2 v v.request := by
  rw [View.request]
  cases hfound : v.pending.found with
  | some n => exact h.setPending (h.1.setFlag hfound true) (by simp)
  | none => exact h.setPending_notify ((h.1.empty_of_none hfound).create true) (by simp)

theorem Owned.keyFrameNeeded : Paid 2 v v.keyFrameNeeded := by
  rw [View.keyFrameNeeded]
  split_ifs
  · cases hfound : v.delayer.found with
    | some n => exact h.setDelayer (h.2.setFlag hfound true) (by simp)
    | none =>
      have hcr : Paid 0 v _ :=
        h.setDelayer ((h.2.empty_of_none hfound).create false) (Nat.zero_le _)
      exact hcr.trans hcr.owned.request
  · exact h.request

theorem Owned.replaceDelayer : Paid 0 v v.replaceDelayer := by
  rw [View.replaceDelayer]
  split_ifs
  · cases hfound : v.delayer.found with
    | some n => exact h.setDelayer ((h.2.empty_delete hfound).create false) (Nat.zero_le _)
    | none => exact h.setDelayer ((h.2.empty_of_none hfound).create false) (Nat.zero_le _)
  · exact ⟨h, Nat.le_refl _⟩

theorem Owned.force : Paid 2 v v.force := by
  rw [View.force]
  cases hfound : v.pending.found with
  | some n => exact h.setPending_notify (h.1.setFlag hfound true) (by simp)
  | none => exact h.setPending_notify ((h.1.empty_of_none hfound).create true) (by simp)

theorem Owned.keyFrameReceived : Paid 0 v v.keyFrameReceived := by
  rw [View.keyFrameReceived]
  cases hfound : v.pending.found with
  | some n => exact h.setPending (h.1.empty_delete hfound).erase (Nat.zero_le _)
  | none => exact ⟨h, Nat.le_refl _⟩

theorem Owned.requestTimeout {n : ℕ} (hflag : v.pending.flag n = some val) :
    Paid 0 v (v.requestTimeout n val) := by
  obtain ⟨hfound, hraised⟩ := h.1.found_of_flag hflag
  cases val with
  | false => exact h.setPending (h.1.empty_delete hfound).erase (Nat.zero_le _)
  | true => exact h.setPending_notify (h.1.setFlag hfound false) hraised.ge

theorem Owned.delayTimeout {n : ℕ} (hflag : v.delayer.flag n = some val) :
    Paid 0 v (v.delayTimeout n val) := by
  obtain ⟨hfound, hraised⟩ := h.2.found_of_flag hflag
  have herased := (h.2.empty_delete hfound).erase
  cases val with
  | false => exact h.setDelayer herased (Nat.zero_le _)
  | true =>
    have hpaid : Paid 0 v (v.setDelayer (v.delayer.delete n).erase) :=
      h.setDelayer herased (Nat.zero_le _)
    obtain ⟨howned, hneeded⟩ := hpaid.owned.keyFrameNeeded
    refine ⟨howned, hneeded.trans ?_⟩
    show v.notified + v.pending.raised + 2 * (v.delayer.delete n).erase.raised + 2 ≤ _
    rw [herased.2, potential, hraised]
    exact le_rfl

end View

def Event.budget : Event → ℕ
  | .keyFrameNeeded _ | .forceKeyFrameNeeded _ => 2
  | _ => 0

/-- **An event pays** for the notifications that it causes. -/
theorem View.Owned.step (h : v.Owned) (e : Event) : View.Paid e.budget v (v.step e) := by
  cases e with
  | keyFrameNeeded ssrc => exact h.keyFrameNeeded
  | forceKeyFrameNeeded ssrc => exact h.replaceDelayer.trans h.replaceDelayer.owned.force
  | keyFrameReceived ssrc => exact h.keyFrameReceived
  | requestTimeout ssrc n =>
    rw [View.step]
    cases hflag : v.pending.flag n with
    | none => exact ⟨h, Nat.le_refl _⟩
    | some retry => exact h.requestTimeout hflag
  | delayTimeout ssrc n =>
    rw [View.step]
    cases hflag : v.delayer.flag n with
    | none => exact ⟨h, Nat.le_refl _⟩
    | some asked => exact h.delayTimeout hflag

/-! ## Runs -/

def new (keyFrameRequestDelay : BitVec 32) : KeyFrameRequestManager where
  keyFrameRequestDelay := keyFrameRequestDelay

def calls (ssrc : BitVec 32) (events : List Event) : ℕ :=
  events.count (.keyFrameNeeded ssrc) + events.count (.forceKeyFrameNeeded ssrc)

theorem calls_append_self (e : Event) (es : List Event) :
    2 * calls e.ssrc (es ++ [e]) = 2 * calls e.ssrc es + e.budget := by
  cases e <;> simp [calls, Event.budget, Event.ssrc] <;> omega

theorem calls_append_of_ne {e : Event} (h : e.ssrc ≠ ssrc) (events : List Event) :
    calls ssrc (events ++ [e]) = calls ssrc events := by
  cases e <;> simp_all [calls, Event.ssrc]

def Follows (keyFrameRequestDelay : BitVec 32) (events : List Event) (s : KeyFrameRequestManager) : Prop :=
  ∀ ssrc, s.view ssrc = (events.filter (·.ssrc = ssrc)).foldl View.step
      ((new keyFrameRequestDelay).view ssrc) ∧
    (s.view ssrc).Owned ∧ (s.view ssrc).potential ≤ 2 * calls ssrc events

/-- **A run** does not fail, and follows its events. -/
theorem run_follows (delay : BitVec 32) (es : List Event) :
    ∃ s, run step (new delay) es = .ok s ∧ Follows delay es s := by
  refine run_ok_of_history_inv (fun ssrc => ?_) fun pre e s _ hs => ?_
  · exact ⟨rfl, ⟨Objects.owned_empty, Objects.owned_empty⟩, Nat.le_refl _⟩
  · obtain ⟨hview, howned, hle⟩ := hs e.ssrc
    obtain ⟨s', he, hhere, hothers⟩ := step_spec howned.1 howned.2
    refine ⟨s', he, fun ssrc => ?_⟩
    by_cases hssrc : ssrc = e.ssrc
    · subst hssrc
      obtain ⟨howned', hpaid⟩ := howned.step e
      rw [hhere, filter_append, foldl_append, ← hview, calls_append_self]
      exact ⟨by simp, howned', by omega⟩
    · have hfilt : (pre ++ [e]).filter (·.ssrc = ssrc) = pre.filter (·.ssrc = ssrc) := by
        simp [Ne.symm hssrc]
      rw [hothers ssrc hssrc, hfilt, calls_append_of_ne (Ne.symm hssrc)]
      exact hs ssrc

/-- **Requests are bounded and belong to one stream**: no assertion fails, there are at most two
notifications of an SSRC for each call, and as many without the events of the others. -/
theorem requests_bounded (keyFrameRequestDelay : BitVec 32) (events : List Event) :
    ∃ s, run step (new keyFrameRequestDelay) events = .ok s ∧ ∀ ssrc,
      s.notified.count ssrc ≤ 2 * calls ssrc events ∧
      ∃ s', run step (new keyFrameRequestDelay) (events.filter (·.ssrc = ssrc)) = .ok s' ∧
        s'.notified.count ssrc = s.notified.count ssrc := by
  obtain ⟨s, hrun, hs⟩ := run_follows keyFrameRequestDelay events
  refine ⟨s, hrun, fun ssrc => ⟨?_, ?_⟩⟩
  · have hle := (hs ssrc).2.2
    simp only [View.potential, view] at hle
    omega
  · obtain ⟨s', hrun', hs'⟩ := run_follows keyFrameRequestDelay (events.filter (·.ssrc = ssrc))
    have hview : s'.view ssrc = s.view ssrc := by
      rw [(hs' ssrc).1, (hs ssrc).1, List.filter_filter]
      simp
    exact ⟨s', hrun', congrArg View.notified hview⟩

end KeyFrameRequestManager

end MediasoupWorker.RTC
