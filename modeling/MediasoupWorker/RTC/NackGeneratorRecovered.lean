import MediasoupWorker.RTC.NackGenerator

/-!
# `NackGenerator`: missing packets that are taken for recovered ones

A packet that came via RTX and is newer than the last one is recorded in `recoveredList`, by a sequence
number of 16 bits. To say which packet a record is of, `Traced` follows the stream with numbers that do not
wrap.
-/

namespace MediasoupWorker.RTC.NackGenerator

open Library

structure Recovery where
  number : ℕ
  head : ℕ
  deriving DecidableEq, Repr

structure Traced where
  generator : NackGenerator := {}
  head : ℕ := 0
  recoveries : List Recovery := []
  deriving DecidableEq, Repr

def newer (generator : NackGenerator) (seq : BitVec 16) : Bool :=
  generator.started && seq != generator.lastSeq && !isSeqLowerThan seq generator.lastSeq

def gap (generator : NackGenerator) (seq : BitVec 16) : ℕ :=
  (seq - (generator.lastSeq + 1)).toNat

def missingSeq (generator : NackGenerator) (i : ℕ) : BitVec 16 :=
  generator.lastSeq + 1 + BitVec.ofNat 16 i

namespace Traced

def number (t : Traced) (seq : BitVec 16) : ℕ := t.head + cdist t.generator.lastSeq seq

def follow (t : Traced) (generator : NackGenerator) : Event → Traced
  | .receivePacket _ _ seq _ isRecovered =>
    if !t.generator.started then { t with generator, head := seq.toNat }
    else if !t.generator.newer seq then { t with generator }
    else if isRecovered then
      { t with
        generator, recoveries := { number := t.number seq, head := t.head } :: t.recoveries }
    else { t with generator, head := t.number seq }
  | .timer _ => { t with generator }
  | .updateRtt _ => { t with generator }
  | .reset => { generator }

def step (t : Traced) (event : Event) : Except Fault (Traced × List Output) := do
  let (generator, output) ← t.generator.step event
  return (t.follow generator event, output)

def next (t : Traced) (event : Event) : Except Fault Traced := Prod.fst <$> t.step event

@[simp] theorem follow_generator (t : Traced) (generator : NackGenerator) (e : Event) :
    (t.follow generator e).generator = generator := by
  cases e with
  | receivePacket => simp only [follow]; split_ifs <;> rfl
  | timer => rfl
  | updateRtt => rfl
  | reset => rfl

theorem next_generator (t : Traced) (event : Event) :
    (t.next event).map Traced.generator = t.generator.next event := by
  unfold next step NackGenerator.next
  cases h : t.generator.step event with
  | error f => rfl
  | ok r =>
    show Except.ok (t.follow r.1 event).generator = .ok r.1
    rw [follow_generator]

theorem run_generator (t : Traced) (events : List Event) :
    (run next t events).map Traced.generator = run NackGenerator.next t.generator events :=
  run_map (I := fun _ => True) (fun t e _ => t.next_generator e)
    (fun _ _ _ _ _ => trivial) trivial

/-! ## Missing packets -/

def RecentlyRecovered (t : Traced) (seq : BitVec 16) (i : ℕ) : Prop :=
  ∃ r ∈ t.recoveries, r.number = t.head + 1 + i ∧ t.number seq - r.head ≤ maxPacketAge

instance (t : Traced) (seq : BitVec 16) (i : ℕ) : Decidable (t.RecentlyRecovered seq i) :=
  List.decidableBEx _ t.recoveries

def RecordsFresh (t : Traced) : Event → Prop
  | .receivePacket _ _ seq _ false =>
    t.generator.newer seq = true → ∀ i < t.generator.gap seq,
      t.generator.missingSeq i ∈ t.generator.recoveredList → t.RecentlyRecovered seq i
  | _ => True

instance (t : Traced) : (event : Event) → Decidable (t.RecordsFresh event)
  | .receivePacket _ _ seq _ false =>
    inferInstanceAs (Decidable (t.generator.newer seq = true → ∀ i < t.generator.gap seq,
      t.generator.missingSeq i ∈ t.generator.recoveredList → t.RecentlyRecovered seq i))
  | .receivePacket _ _ _ _ true => isTrue trivial
  | .timer _ => isTrue trivial
  | .updateRtt _ => isTrue trivial
  | .reset => isTrue trivial

def NothingForgotten (t : Traced) : Event → Prop
  | .receivePacket trees nowMs seq isKeyFrame false =>
    t.generator.newer seq = true → ∀ t' output,
      t.step (.receivePacket trees nowMs seq isKeyFrame false) = .ok (t', output) →
      .keyFrameRequired ∉ output → ∀ i < t.generator.gap seq,
        t.generator.missingSeq i ∈ t'.generator.nackSeqs ∨ t.RecentlyRecovered seq i
  | _ => True

theorem eq_of_not_lower {a b : BitVec 16} (hab : isSeqLowerThan a b = false)
    (hba : isSeqLowerThan b a = false) : a = b := by
  by_contra hne
  rcases lower_or_lower hne with h | h
  · rw [hab] at h
    cases h
  · rw [hba] at h
    cases h

theorem mem_of_contains {trees : Trees} {recoveredList : List (BitVec 16)} {seq : BitVec 16}
    (h : trees.recoveredList.contains recoveredList seq = true) : seq ∈ recoveredList := by
  obtain ⟨e, he, hlow, hhi⟩ := Search.exists_of_contains h
  rw [← eq_of_not_lower hlow hhi]
  exact he

theorem nothingForgotten_of_recordsFresh {t : Traced} {event : Event} (hinv : t.generator.Inv)
    (hfresh : t.RecordsFresh event) : t.NothingForgotten event := by
  cases event with
  | timer => trivial
  | updateRtt => trivial
  | reset => trivial
  | receivePacket trees nowMs seq isKeyFrame recov =>
    cases recov with
    | true => trivial
    | false =>
      intro hnewer t' output hstep hnokey i hi
      have hnew := hnewer
      simp only [newer, Bool.and_eq_true, bne_iff_ne, Bool.not_eq_true'] at hnew
      obtain ⟨⟨hst, hne⟩, hlower⟩ := hnew
      obtain ⟨⟨generator', _⟩, hg, hreturn⟩ := bind_eq_ok.mp hstep
      cases hreturn
      obtain ⟨⟨_, _, returned⟩, hrecv, hreturn⟩ := bind_eq_ok.mp hg
      cases hreturn
      have hadvanced := receivePacket_newer hinv hst hne hlower hrecv
      rw [follow_generator]
      cases hrecord : trees.recoveredList.contains t.generator.recoveredList
          (t.generator.missingSeq i) with
      | true => exact .inr (hfresh hnewer i hi (mem_of_contains hrecord))
      | false => exact .inl (hadvanced.missing hnokey i hi hrecord)

theorem next_inv {t t' : Traced} {event : Event} (hinv : t.generator.Inv) (hnext : t.next event = .ok t') :
    t'.generator.Inv := by
  obtain ⟨g, output, hstep, hinv'⟩ := step_inv hinv event
  rw [next, step, hstep] at hnext
  cases hnext
  rw [follow_generator]
  exact hinv'

def packet (seq : BitVec 16) (isRecovered : Bool) : Event :=
  .receivePacket .linear 1 seq false isRecovered

end Traced

end MediasoupWorker.RTC.NackGenerator
