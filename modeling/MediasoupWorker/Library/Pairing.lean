import MediasoupWorker.Library.Runs
import Mathlib.Order.Nat

/-!
# Receivers of a stream of headers and payloads

Messages come in pairs, but over a stream that does not say which is which. A receiver that can make an
object of a header takes the next message for its payload and delivers both; otherwise it goes on waiting
for a header. Messages are numbered, so that deliveries of equal contents can be told apart.
-/

namespace MediasoupWorker.Library.Pairing

variable {M O D φ : Type*}

structure Delivery (D : Type*) where
  header : ℕ
  payload : ℕ
  object : D

structure Receiver (O D : Type*) where
  ongoing : Option (ℕ × O) := none
  received : ℕ := 0
  delivered : List (Delivery D) := []

namespace Receiver

def started (s : Receiver O D) (object : Option O) : Receiver O D :=
  { s with ongoing := object.map fun o => (s.received, o), received := s.received + 1 }

def completed (s : Receiver O D) (header : ℕ) (object : D) : Receiver O D where
  ongoing := none
  received := s.received + 1
  delivered := s.delivered ++ [⟨header, s.received, object⟩]

def deliveriesOf (s : Receiver O D) (n : ℕ) : List (Delivery D) :=
  s.delivered.filter fun d => decide (d.header = n)

structure Fresh (s : Receiver O D) : Prop where
  ongoing : ∀ x, s.ongoing = some x → x.1 < s.received
  delivered : ∀ d ∈ s.delivered, d.header < s.received

structure Past (s : Receiver O D) (n : ℕ) : Prop where
  lt : n < s.received
  ne : ∀ x, s.ongoing = some x → x.1 ≠ n

variable {s : Receiver O D} {n : ℕ}

theorem Fresh.started (h : s.Fresh) (obj : Option O) : (s.started obj).Fresh := by
  constructor
  · rintro x hx
    obtain ⟨o, -, rfl⟩ := Option.map_eq_some_iff.mp hx
    exact Nat.lt_succ_self _
  · intro d hd
    exact Nat.lt_succ_of_lt (h.delivered d hd)

theorem Fresh.completed (h : s.Fresh) {header : ℕ} (hhdr : header < s.received) (obj : D) :
    (s.completed header obj).Fresh := by
  constructor
  · intro x hx
    cases hx
  · exact List.forall_mem_append.mpr ⟨fun d hd => Nat.lt_succ_of_lt (h.delivered d hd),
      List.forall_mem_singleton.mpr (Nat.lt_succ_of_lt hhdr)⟩

theorem Past.started (h : s.Past n) (obj : Option O) : (s.started obj).Past n := by
  constructor
  · exact Nat.lt_succ_of_lt h.lt
  · rintro x hx
    obtain ⟨o, -, rfl⟩ := Option.map_eq_some_iff.mp hx
    exact h.lt.ne'

theorem past_completed (hn : n ≤ s.received) (header : ℕ) (obj : D) : (s.completed header obj).Past n := by
  constructor
  · exact Nat.lt_succ_of_le hn
  · intro x hx
    cases hx

theorem past_started_none (hn : n ≤ s.received) : (s.started none).Past n := by
  constructor
  · exact Nat.lt_succ_of_le hn
  · intro x hx
    cases hx

@[simp] theorem deliveriesOf_started (obj : Option O) :
    (s.started obj).deliveriesOf n = s.deliveriesOf n := rfl

theorem deliveriesOf_completed_of_ne {header : ℕ} (hne : header ≠ n) (obj : D) :
    (s.completed header obj).deliveriesOf n = s.deliveriesOf n := by
  unfold deliveriesOf completed
  simp [hne]

theorem deliveriesOf_completed_self (obj : D) :
    (s.completed n obj).deliveriesOf n = s.deliveriesOf n ++ [⟨n, s.received, obj⟩] := by
  unfold deliveriesOf completed
  simp

theorem Fresh.deliveriesOf (h : s.Fresh) (hn : s.received ≤ n) : s.deliveriesOf n = [] := by
  refine List.filter_eq_nil_iff.mpr fun d hd heq => ?_
  have hlt := h.delivered d hd
  have heq : d.header = n := of_decide_eq_true heq
  omega

end Receiver

open Receiver

variable (accept : M → Except φ (Option O)) (complete : O → M → D)

def receive (s : Receiver O D) (m : M) : Except φ (Receiver O D) :=
  match s.ongoing with
  | some (header, o) => .ok (s.completed header (complete o m))
  | none => (accept m).map s.started

def messages : List (M × M) → List M
  | [] => []
  | (header, payload) :: pairs => header :: payload :: messages pairs

def Readable (m : M) : Prop := ∃ object, accept m = .ok object

def objectOf (m : M) : Option O :=
  match accept m with
  | .ok object => object
  | .error _ => none

def InStep : Bool → List (M × M) → Prop
  | _, [] => True
  | false, (header, payload) :: pairs =>
    if (objectOf accept header).isSome then InStep false pairs
    else Readable accept header ∧ Readable accept payload ∧ InStep (objectOf accept payload).isSome pairs
  | true, (header, payload) :: pairs =>
    objectOf accept header = none ∧ Readable accept payload ∧ InStep (objectOf accept payload).isSome pairs

def DeliversFrom (base : ℕ) (pairs : List (M × M)) (s : Receiver O D) : Prop :=
  ∀ i header payload o, pairs[i]? = some (header, payload) → accept header = .ok (some o) →
    s.deliveriesOf (base + 2 * i) = [⟨base + 2 * i, base + 2 * i + 1, complete o payload⟩]

variable {accept complete}

variable {m : M} {o : O} {s : Receiver O D} {n : ℕ}

theorem accept_eq_ok_iff {object : Option O} :
    accept m = .ok object ↔ Readable accept m ∧ objectOf accept m = object := by
  unfold Readable objectOf
  cases accept m with
  | error e => simp
  | ok object' => simp

theorem readable_of_objectOf (h : objectOf accept m = some o) : Readable accept m := by
  unfold objectOf at h
  unfold Readable
  cases hacc : accept m with
  | error e =>
    rw [hacc] at h
    cases h
  | ok obj => exact ⟨obj, rfl⟩

variable {header : M}

theorem deliversFrom_cons {base : ℕ} {pl : M} {ps : List (M × M)} :
    DeliversFrom accept complete base ((header, pl) :: ps) s ↔ (∀ o, objectOf accept header = some o →
        s.deliveriesOf base = [⟨base, base + 1, complete o pl⟩]) ∧
      DeliversFrom accept complete (base + 2) ps s := by
  have hshift (i : ℕ) : base + 2 * (i + 1) = base + 2 + 2 * i := by omega
  constructor
  · intro h
    refine ⟨fun o ho => ?_, fun i header' pl' o hi ho => ?_⟩
    · exact h 0 header pl o rfl (accept_eq_ok_iff.mpr ⟨readable_of_objectOf ho, ho⟩)
    · have hnext := h (i + 1) header' pl' o hi ho
      rw [hshift] at hnext
      exact hnext
  · rintro ⟨hhead, htail⟩ i header' pl' o hi ho
    cases i with
    | zero =>
      cases hi
      exact hhead o (accept_eq_ok_iff.mp ho).2
    | succ i =>
      rw [hshift]
      exact htail i header' pl' o hi ho

/-! ## One message -/

theorem receive_past {s' : Receiver O D} (h : receive accept complete s m = .ok s') (hpast : s.Past n) :
    s'.Past n ∧ s'.deliveriesOf n = s.deliveriesOf n := by
  unfold receive at h
  cases hon : s.ongoing with
  | none =>
    rw [hon] at h
    cases hacc : accept m with
    | error e =>
      rw [hacc] at h
      cases h
    | ok obj =>
      rw [hacc] at h
      cases h
      exact ⟨hpast.started obj, rfl⟩
  | some x =>
    rw [hon] at h
    cases h
    exact ⟨past_completed hpast.lt.le _ _, deliveriesOf_completed_of_ne (hpast.ne x hon) _⟩

theorem deliveriesOf_of_run {t : Receiver O D} {ms : List M} (hpast : s.Past n)
    (hrun : run (receive accept complete) s ms = .ok t) : t.deliveriesOf n = s.deliveriesOf n := by
  have hinv := inv_of_run_ok (I := fun r => r.Past n ∧ r.deliveriesOf n = s.deliveriesOf n)
    (fun r m r' hr h => by
      obtain ⟨hpast', heq⟩ := receive_past h hr.1
      exact ⟨hpast', heq.trans hr.2⟩) ⟨hpast, rfl⟩ hrun
  exact hinv.2

theorem run_idle (hidle : s.ongoing = none) (m : M) (ms : List M) (P : Receiver O D → Prop) :
    (∃ t, run (receive accept complete) s (m :: ms) = .ok t ∧ P t) ↔ Readable accept m ∧
        ∃ t, run (receive accept complete) (s.started (objectOf accept m)) ms = .ok t ∧ P t := by
  have hrecv : receive accept complete s m = (accept m).map s.started := by
    unfold receive
    rw [hidle]
  cases hacc : accept m with
  | error e =>
    rw [hacc] at hrecv
    rw [run_cons_of_error hrecv]
    simp [Readable, hacc]
  | ok obj =>
    rw [hacc] at hrecv
    rw [run_cons_of_ok hrecv, (accept_eq_ok_iff.mp hacc).2]
    exact ⟨fun h => ⟨⟨obj, hacc⟩, h⟩, And.right⟩

theorem run_ongoing {header : ℕ} (hon : s.ongoing = some (header, o)) (m : M) (ms : List M) :
    run (receive accept complete) s (m :: ms) =
      run (receive accept complete) (s.completed header (complete o m)) ms := by
  refine run_cons_of_ok ?_
  unfold receive
  rw [hon]

/-! ## All messages -/

variable (accept complete) in
def RunDelivers (s : Receiver O D) (base : ℕ) (pairs : List (M × M)) (ms : List M) : Prop :=
  ∃ t, run (receive accept complete) s ms = .ok t ∧ DeliversFrom accept complete base pairs t

theorem run_deliversFrom_cons {base : ℕ} (hpast : s.Past base) (header pl : M) (ps : List (M × M))
    (ms : List M) : (∃ t, run (receive accept complete) s ms = .ok t ∧
        DeliversFrom accept complete base ((header, pl) :: ps) t) ↔
      (∀ o, objectOf accept header = some o → s.deliveriesOf base = [⟨base, base + 1, complete o pl⟩]) ∧
      RunDelivers accept complete s (base + 2) ps ms := by
  constructor
  · rintro ⟨t, hrun, hdelivers⟩
    obtain ⟨hhead, htail⟩ := deliversFrom_cons.mp hdelivers
    rw [deliveriesOf_of_run hpast hrun] at hhead
    exact ⟨hhead, t, hrun, htail⟩
  · rintro ⟨hhead, t, hrun, htail⟩
    refine ⟨t, hrun, deliversFrom_cons.mpr ⟨?_, htail⟩⟩
    rw [deliveriesOf_of_run hpast hrun]
    exact hhead

variable (complete) in
theorem run_good_header (hs : s.Fresh) (hidle : s.ongoing = none) (hobj : objectOf accept header = some o)
    (pl : M) (ps : List (M × M)) :
    ∃ s' : Receiver O D, s'.Fresh ∧ s'.received = s.received + 2 ∧ s'.ongoing = none ∧
      (RunDelivers accept complete s s.received ((header, pl) :: ps) (messages ((header, pl) :: ps)) ↔
        RunDelivers accept complete s' (s.received + 2) ps (messages ps)) := by
  set s' := (s.started (some o)).completed s.received (complete o pl) with hs'
  have hpast : s'.Past s.received := past_completed (Nat.le_succ _) _ _
  have hown : s'.deliveriesOf s.received = [⟨s.received, s.received + 1, complete o pl⟩] := by
    rw [hs', deliveriesOf_completed_self, deliveriesOf_started, hs.deliveriesOf le_rfl]
    rfl
  refine ⟨s', (hs.started (some o)).completed (Nat.lt_succ_self _) _, rfl, rfl, ?_⟩
  rw [RunDelivers, messages, run_idle hidle, hobj, run_ongoing rfl pl, ← hs', run_deliversFrom_cons hpast, hobj]
  constructor
  · rintro ⟨-, -, h⟩
    exact h
  · intro h
    refine ⟨readable_of_objectOf hobj, ?_, h⟩
    rintro o' ho'
    cases ho'
    exact hown

variable (complete) in
theorem run_bad_header (hs : s.Fresh) (hidle : s.ongoing = none) (hobj : objectOf accept header = none)
    (pl : M) (ps : List (M × M)) : ∃ s' : Receiver O D, s'.Fresh ∧ s'.received = s.received + 2 ∧
      s'.ongoing.isSome = (objectOf accept pl).isSome ∧
      (RunDelivers accept complete s s.received ((header, pl) :: ps) (messages ((header, pl) :: ps)) ↔
        Readable accept header ∧ Readable accept pl ∧
          RunDelivers accept complete s' (s.received + 2) ps (messages ps)) := by
  set s' := (s.started none).started (objectOf accept pl) with hs'
  have hpast : s'.Past s.received := (past_started_none le_rfl).started _
  refine ⟨s', (hs.started none).started _, rfl, Option.isSome_map, ?_⟩
  rw [RunDelivers, messages, run_idle hidle, hobj, run_idle rfl pl, ← hs', run_deliversFrom_cons hpast, hobj]
  simp

variable (complete) in
theorem run_taken_header (hs : s.Fresh) (hon : s.ongoing = some (n, o)) (header pl : M) (ps : List (M × M)) :
    ∃ s' : Receiver O D, s'.Fresh ∧ s'.received = s.received + 2 ∧
      s'.ongoing.isSome = (objectOf accept pl).isSome ∧
      (RunDelivers accept complete s s.received ((header, pl) :: ps) (messages ((header, pl) :: ps)) ↔
        objectOf accept header = none ∧ Readable accept pl ∧
          RunDelivers accept complete s' (s.received + 2) ps (messages ps)) := by
  have hn : n < s.received := hs.ongoing (n, o) hon
  set s' := (s.completed n (complete o header)).started (objectOf accept pl) with hs'
  have hpast : s'.Past s.received := (past_completed le_rfl n _).started _
  have hnone : s'.deliveriesOf s.received = [] := by
    rw [hs', deliveriesOf_started, deliveriesOf_completed_of_ne hn.ne, hs.deliveriesOf le_rfl]
  refine ⟨s', (hs.completed hn _).started _, rfl, Option.isSome_map, ?_⟩
  rw [RunDelivers, messages, run_ongoing hon, run_idle rfl pl, ← hs', run_deliversFrom_cons hpast, hnone]
  cases objectOf accept header with
  | none => simp
  | some o' => simp

variable (accept complete) in
/-- **Pairs are delivered as pairs** exactly if they are in step. -/
theorem run_messages_iff (hs : s.Fresh) (pairs : List (M × M)) :
    (∃ t, run (receive accept complete) s (messages pairs) = .ok t ∧
        DeliversFrom accept complete s.received pairs t) ↔ InStep accept s.ongoing.isSome pairs := by
  change RunDelivers accept complete s s.received pairs (messages pairs) ↔ _
  induction pairs generalizing s with
  | nil =>
    have hdelivers : DeliversFrom accept complete s.received [] s := fun i _ _ _ hi => by cases hi
    exact ⟨fun _ => trivial, fun _ => ⟨s, rfl, hdelivers⟩⟩
  | cons pair pairs ih =>
    obtain ⟨header, pl⟩ := pair
    cases hon : s.ongoing with
    | none =>
      cases hobj : objectOf accept header with
      | some o =>
        obtain ⟨s', hs', hrec, hidle, hiff⟩ :=
          run_good_header complete hs hon hobj pl pairs
        rw [hiff, ← hrec, ih hs', hidle]
        simp [InStep, hobj]
      | none =>
        obtain ⟨s', hs', hrec, hon', hiff⟩ :=
          run_bad_header complete hs hon hobj pl pairs
        rw [hiff, ← hrec, ih hs', hon']
        simp [InStep, hobj]
    | some x =>
      obtain ⟨s', hs', hrec, hon', hiff⟩ :=
        run_taken_header complete hs hon header pl pairs
      rw [hiff, ← hrec, ih hs', hon']
      rfl

end MediasoupWorker.Library.Pairing
