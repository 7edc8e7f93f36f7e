import Mathlib.Data.List.MinMax
import MediasoupWorker.Library.Runs
import MediasoupWorker.RTC.StunPacket

/-!
# The tuples of an `IceServer`

`src/src/RTC/IceServer.cpp`, `src/include/RTC/IceServer.hpp`, `src/include/RTC/TransportTuple.hpp`.
`selectedTuple` is a pointer into the list of tuples. A stored tuple has an address that is not given out
twice; where the code follows the pointer to an element that is no longer there, the model has a fault.
There are tuples exactly in the states 'connected' and 'completed' (`Active`).
-/

namespace MediasoupWorker.RTC

open Library List

def SockAddr.compareAddresses : SockAddr → SockAddr → Bool
  | .inet port addr, .inet port' addr' => port == port' && addr == addr'
  | .inet6 port addr, .inet6 port' addr' => port == port' && addr == addr'
  | _, _ => false

theorem SockAddr.compareAddresses_comm (addr addr' : SockAddr) :
    addr.compareAddresses addr' = addr'.compareAddresses addr := by
  cases addr <;> cases addr' <;> simp [compareAddresses, Bool.beq_comm]

inductive TransportTuple where
  | udp (udpSocket : ℕ) (udpRemoteAddr : SockAddr)
  | tcp (tcpConnection : ℕ) (peerAddr : SockAddr)
  deriving DecidableEq

namespace TransportTuple

def compare : TransportTuple → TransportTuple → Bool
  | .udp udpSocket addr, .udp udpSocket' addr' => udpSocket == udpSocket' && addr.compareAddresses addr'
  | .tcp tcpConnection _, .tcp tcpConnection' _ => tcpConnection == tcpConnection'
  | _, _ => false

theorem compare_comm (tuple t' : TransportTuple) : tuple.compare t' = t'.compare tuple := by
  cases tuple <;> cases t' <;> simp [compare, SockAddr.compareAddresses_comm, Bool.beq_comm]

def getRemoteAddress : TransportTuple → SockAddr
  | .udp _ udpRemoteAddr => udpRemoteAddr
  | .tcp _ peerAddr => peerAddr

end TransportTuple

structure Allocator where
  allocate : List ℕ → ℕ
  fresh : ∀ used, allocate used ∉ used

namespace IceServer

inductive IceState where
  | new
  | connected
  | completed
  | disconnected
  deriving DecidableEq, Repr

structure StoredTuple where
  address : ℕ
  tuple : TransportTuple
  deriving DecidableEq

inductive ListenerCall where
  | onIceServerSendStunPacket (packet : StunPacket) (tuple : TransportTuple)
  | onIceServerSelectedTuple (address : ℕ)
  | onIceServerConnected
  | onIceServerCompleted
  | onIceServerDisconnected
  deriving DecidableEq

end IceServer

open IceServer

structure IceServer where
  usernameFragment : List Byte
  password : List Byte
  oldUsernameFragment : List Byte := []
  oldPassword : List Byte := []
  state : IceState := .new
  tuples : List StoredTuple := []
  selectedTuple : Option ℕ := none
  calls : List ListenerCall := []
  deriving DecidableEq

namespace IceServer

/-! ## The code -/

def notify (call : ListenerCall) (s : IceServer) : IceServer := { s with calls := s.calls ++ [call] }

def hasTuple (tuple : TransportTuple) (s : IceServer) : Except Fault (Option ℕ) :=
  match s.selectedTuple with
  | none => .ok none
  | some selectedTuple =>
    match s.tuples.find? fun t => t.address == selectedTuple with
    | none => .error .nullPointer
    | some selected =>
      if selected.tuple.compare tuple then .ok (some selectedTuple)
      else .ok ((s.tuples.find? fun t => t.tuple.compare tuple).map StoredTuple.address)

def isValidTuple (tuple : TransportTuple) (s : IceServer) : Except Fault Bool :=
  Option.isSome <$> s.hasTuple tuple

def setSelectedTuple (storedTuple : ℕ) (s : IceServer) : IceServer :=
  if s.selectedTuple = some storedTuple then s
  else { s with selectedTuple := some storedTuple }.notify (.onIceServerSelectedTuple storedTuple)

def removeTuple (tuple : TransportTuple) (s : IceServer) : IceServer :=
  match s.tuples.find? fun t => t.tuple.compare tuple with
  | none => s
  | some removedTuple =>
    let s := { s with tuples := s.tuples.eraseP fun t => t.address == removedTuple.address }
    if s.selectedTuple ≠ some removedTuple.address then s
    else
      let s := { s with selectedTuple := none }
      match s.tuples with
      | first :: _ => s.setSelectedTuple first.address
      | [] => { s with state := .disconnected }.notify .onIceServerDisconnected

def forceSelectedTuple (tuple : TransportTuple) (s : IceServer) : Except Fault IceServer := do
  msAssert s.selectedTuple.isSome "cannot force the selected tuple if there was not a selected tuple"
  match ← s.hasTuple tuple with
  | none =>
    .error (.assertion
      "cannot force the selected tuple if the given tuple was not already a valid tuple")
  | some storedTuple => return s.setSelectedTuple storedTuple

section Code

variable (allocator : Allocator)

def addTuple (tuple : TransportTuple) (s : IceServer) : ℕ × IceServer :=
  let address := allocator.allocate (s.tuples.map StoredTuple.address)
  (address, { s with tuples := ⟨address, tuple⟩ :: s.tuples })

def storeTuple (tuple : TransportTuple) (s : IceServer) : Except Fault (ℕ × IceServer) := do
  match ← s.hasTuple tuple with
  | some storedTuple => return (storedTuple, s)
  | none => return s.addTuple allocator tuple

def handleFirstTuple (name : String) (tuple : TransportTuple) (hasUseCandidate : Bool) (s : IceServer) :
    Except Fault IceServer := do
  msAssert s.tuples.isEmpty
    ("state is '" ++ name ++ "' but there are " ++ toString s.tuples.length ++ " tuples")
  msAssert s.selectedTuple.isNone ("state is '" ++ name ++ "' but there is selected tuple")
  let (storedTuple, s) := s.addTuple allocator tuple
  let s := s.setSelectedTuple storedTuple
  if !hasUseCandidate then return { s with state := .connected }.notify .onIceServerConnected
  else return { s with state := .completed }.notify .onIceServerCompleted

def assertTuples (name : String) (s : IceServer) : Except Fault Unit := do
  msAssert (!s.tuples.isEmpty) ("state is '" ++ name ++ "' but there are no tuples")
  msAssert s.selectedTuple.isSome ("state is '" ++ name ++ "' but there is not selected tuple")

def handleTuple (tuple : TransportTuple) (hasUseCandidate : Bool) (s : IceServer) :
    Except Fault IceServer :=
  match s.state with
  | .new => s.handleFirstTuple allocator "new" tuple hasUseCandidate
  | .disconnected => s.handleFirstTuple allocator "disconnected" tuple hasUseCandidate
  | .connected => do
    s.assertTuples "connected"
    let (storedTuple, s) ← s.storeTuple allocator tuple
    if !hasUseCandidate then return s
    else
      let s := s.setSelectedTuple storedTuple
      return { s with state := .completed }.notify .onIceServerCompleted
  | .completed => do
    s.assertTuples "completed"
    let (storedTuple, s) ← s.storeTuple allocator tuple
    if !hasUseCandidate then return s
    else return s.setSelectedTuple storedTuple

end Code

/-! ## What holds between the calls -/

structure Idle (s : IceServer) : Prop where
  tuples : s.tuples = []
  selectedTuple : s.selectedTuple = none
  state : s.state = .new ∨ s.state = .disconnected

structure Active (s : IceServer) : Prop where
  selectedTuple : ∃ t ∈ s.tuples, s.selectedTuple = some t.address
  state : s.state = .connected ∨ s.state = .completed

structure Listed (tuples : List StoredTuple) : Prop where
  nodup : (tuples.map StoredTuple.address).Nodup
  distinct : tuples.Pairwise fun t t' => t.tuple.compare t'.tuple = false

structure Consistent (s : IceServer) : Prop where
  listed : Listed s.tuples
  phase : s.Idle ∨ s.Active

variable {s : IceServer} {tuple : TransportTuple}

theorem consistent_start (usernameFragment password : List Byte) :
    Consistent { usernameFragment, password } :=
  ⟨⟨nodup_nil, List.Pairwise.nil⟩, .inl ⟨rfl, rfl, .inl rfl⟩⟩

theorem Consistent.of_eq {s' : IceServer} (h : s.Consistent) (htups : s'.tuples = s.tuples)
    (hsel : s'.selectedTuple = s.selectedTuple) (hst : s'.state = s.state) : s'.Consistent := by
  refine ⟨htups ▸ h.listed, h.phase.imp (fun hidle => ?_) fun hact => ?_⟩
  · exact ⟨htups.trans hidle.tuples, hsel.trans hidle.selectedTuple, hst ▸ hidle.state⟩
  · refine ⟨?_, hst ▸ hact.state⟩
    rw [htups, hsel]
    exact hact.selectedTuple

/-! ## Looking for a tuple -/

theorem Consistent.hasTuple_cases (h : s.Consistent) (tuple : TransportTuple) :
    (∃ t ∈ s.tuples, s.hasTuple tuple = .ok (some t.address)) ∨
      (s.hasTuple tuple = .ok none ∧ ∀ t ∈ s.tuples, t.tuple.compare tuple = false) := by
  unfold hasTuple
  rcases h.phase with hidle | hact
  · right
    rw [hidle.selectedTuple, hidle.tuples]
    exact ⟨rfl, fun t ht => absurd ht not_mem_nil⟩
  · obtain ⟨t, ht, hsel⟩ := hact.selectedTuple
    rw [hsel]
    simp only
    cases hfind : s.tuples.find? fun t' => t'.address == t.address with
    | none => exact absurd (beq_self_eq_true _) (find?_eq_none.mp hfind t ht)
    | some sel =>
      simp only
      split
      · exact .inl ⟨t, ht, rfl⟩
      · cases hother : s.tuples.find? fun t' => t'.tuple.compare tuple with
        | none =>
          right
          exact ⟨rfl, fun t' ht' => by simpa using find?_eq_none.mp hother t' ht'⟩
        | some other => exact .inl ⟨other, mem_of_find?_eq_some hother, rfl⟩

/-! ## What a call changes -/

structure Moved (s s' : IceServer) : Prop where
  eq : s' = { s with
    tuples := s'.tuples, selectedTuple := s'.selectedTuple, state := s'.state, calls := s'.calls }
  calls : ∃ calls, s'.calls = s.calls ++ calls ∧
    ∀ packet tuple, ListenerCall.onIceServerSendStunPacket packet tuple ∉ calls

theorem Moved.refl (s : IceServer) : Moved s s := ⟨rfl, [], (append_nil _).symm, by simp⟩

theorem Moved.trans {s₁ s₂ s₃ : IceServer} (h : Moved s₁ s₂) (h' : Moved s₂ s₃) : Moved s₁ s₃ := by
  obtain ⟨heq, calls, hcalls, hsend⟩ := h
  obtain ⟨heq', calls', hcalls', hsend'⟩ := h'
  refine ⟨?_, calls ++ calls', ?_, ?_⟩
  · rw [heq', heq]
  · rw [hcalls', hcalls, append_assoc]
  · simp [hsend, hsend']

theorem moved_setState (s : IceServer) (state : IceState) {call : ListenerCall}
    (hcall : ∀ p tuple, call ≠ .onIceServerSendStunPacket p tuple) : Moved s ({ s with state }.notify call) :=
  ⟨rfl, [call], rfl, fun p tuple hmem => hcall p tuple (mem_singleton.mp hmem).symm⟩

theorem moved_setTuples (s : IceServer) (tuples : List StoredTuple) : Moved s { s with tuples } :=
  ⟨rfl, [], (append_nil _).symm, by simp⟩

/-! ## Selecting and adding -/

theorem setSelectedTuple_tuples (addr : ℕ) (s : IceServer) : (s.setSelectedTuple addr).tuples = s.tuples := by
  unfold setSelectedTuple
  split <;> rfl

theorem setSelectedTuple_state (addr : ℕ) (s : IceServer) : (s.setSelectedTuple addr).state = s.state := by
  unfold setSelectedTuple
  split <;> rfl

theorem setSelectedTuple_selectedTuple (address : ℕ) (s : IceServer) :
    (s.setSelectedTuple address).selectedTuple = some address := by
  unfold setSelectedTuple
  split
  · assumption
  · rfl

theorem moved_setSelectedTuple (s : IceServer) (addr : ℕ) : Moved s (s.setSelectedTuple addr) := by
  unfold setSelectedTuple
  split
  · exact Moved.refl s
  · exact ⟨rfl, [.onIceServerSelectedTuple addr], rfl, by simp⟩

theorem active_setSelectedTuple {t : StoredTuple} (ht : t ∈ s.tuples)
    (hst : s.state = .connected ∨ s.state = .completed) : (s.setSelectedTuple t.address).Active := by
  refine ⟨⟨t, ?_, setSelectedTuple_selectedTuple _ _⟩, ?_⟩
  · rwa [setSelectedTuple_tuples]
  · rwa [setSelectedTuple_state]

variable (allocator : Allocator)

theorem listed_addTuple (h : Listed s.tuples) (hnew : ∀ t ∈ s.tuples, t.tuple.compare tuple = false) :
    Listed (s.addTuple allocator tuple).2.tuples := by
  constructor
  · exact nodup_cons.mpr ⟨allocator.fresh _, h.nodup⟩
  · refine pairwise_cons.mpr ⟨fun t ht => ?_, h.distinct⟩
    rw [TransportTuple.compare_comm]
    exact hnew t ht

theorem storeTuple_spec (h : s.Consistent) (tuple : TransportTuple) :
    ∃ t tuples, s.storeTuple allocator tuple = .ok (t.address, { s with tuples }) ∧ Listed tuples ∧
      t ∈ tuples ∧ ∀ t' ∈ s.tuples, t' ∈ tuples := by
  unfold storeTuple
  rcases h.hasTuple_cases tuple with ⟨t, ht, hfound⟩ | ⟨hnone, hnew⟩
  · rw [hfound]
    exact ⟨t, s.tuples, rfl, h.listed, ht, fun _ ht' => ht'⟩
  · rw [hnone]
    exact ⟨_, _, rfl, listed_addTuple allocator h.listed hnew, mem_cons_self,
      fun _ ht' => mem_cons_of_mem _ ht'⟩

/-! ## The calls -/

theorem handleFirstTuple_spec (name : String) (tuple : TransportTuple) (hasUseCandidate : Bool)
    (hidle : s.Idle) :
    ∃ s', s.handleFirstTuple allocator name tuple hasUseCandidate = .ok s' ∧ s'.Consistent ∧ Moved s s' := by
  have hlist : Listed (s.addTuple allocator tuple).2.tuples := by
    refine listed_addTuple allocator ?_ ?_
    · rw [hidle.tuples]
      exact ⟨nodup_nil, List.Pairwise.nil⟩
    · rw [hidle.tuples]
      exact fun t ht => absurd ht not_mem_nil
  have hmv : Moved s ((s.addTuple allocator tuple).2.setSelectedTuple (s.addTuple allocator tuple).1) :=
    (moved_setTuples s _).trans (moved_setSelectedTuple _ _)
  have htups := setSelectedTuple_tuples (s.addTuple allocator tuple).1 (s.addTuple allocator tuple).2
  have hsel := setSelectedTuple_selectedTuple (s.addTuple allocator tuple).1
    (s.addTuple allocator tuple).2
  rw [handleFirstTuple, hidle.tuples, hidle.selectedTuple]
  simp only [isEmpty_nil, Option.isNone_none, msAssert_true, ok_bind]
  generalize hs₁ : (s.addTuple allocator tuple).2.setSelectedTuple (s.addTuple allocator tuple).1 = s₁ at *
  have hactive (state : IceState) (call : ListenerCall)
      (hst : state = .connected ∨ state = .completed) :
      ({ s₁ with state }.notify call).Consistent := by
    refine ⟨htups ▸ hlist, .inr ⟨⟨⟨_, tuple⟩, ?_, hsel⟩, hst⟩⟩
    exact htups ▸ mem_cons_self
  cases hasUseCandidate with
  | false =>
    exact ⟨_, rfl, hactive _ _ (.inl rfl), hmv.trans (moved_setState _ _ (by simp))⟩
  | true =>
    exact ⟨_, rfl, hactive _ _ (.inr rfl), hmv.trans (moved_setState _ _ (by simp))⟩

theorem Consistent.setState (h : s.Consistent) (state : IceState) (call : ListenerCall) (hact : s.Active)
    (hst : state = .connected ∨ state = .completed) : ({ s with state }.notify call).Consistent :=
  ⟨h.listed, .inr ⟨hact.selectedTuple, hst⟩⟩

theorem assertTuples_of_active (hact : s.Active) (name : String) : s.assertTuples name = .ok () := by
  obtain ⟨t, ht, hsel⟩ := hact.selectedTuple
  have hne : s.tuples.isEmpty = false := by
    simpa using ne_nil_of_mem ht
  rw [assertTuples, hne, hsel]
  rfl

/-- **`HandleTuple`** fails no assertion. -/
theorem handleTuple_spec (h : s.Consistent) (tuple : TransportTuple) (hasUseCandidate : Bool) :
    ∃ s', s.handleTuple allocator tuple hasUseCandidate = .ok s' ∧ s'.Consistent ∧ Moved s s' := by
  unfold handleTuple
  rcases h.phase with hidle | hact
  · rcases hidle.state with hst | hst
    · rw [hst]
      exact handleFirstTuple_spec allocator "new" tuple hasUseCandidate hidle
    · rw [hst]
      exact handleFirstTuple_spec allocator "disconnected" tuple hasUseCandidate hidle
  · obtain ⟨t, tuples, hstore, hlist, ht, hold⟩ := storeTuple_spec allocator h tuple
    obtain ⟨sel, hsel, heq⟩ := hact.selectedTuple
    have hstored : Moved s { s with tuples } := moved_setTuples s tuples
    have hkept : Consistent { s with tuples } :=
      ⟨hlist, .inr ⟨⟨sel, hold _ hsel, heq⟩, hact.state⟩⟩
    have hchosen : (setSelectedTuple t.address { s with tuples }).Consistent :=
      ⟨by rwa [setSelectedTuple_tuples], .inr (active_setSelectedTuple ht hact.state)⟩
    have hmv : Moved s (setSelectedTuple t.address { s with tuples }) :=
      hstored.trans (moved_setSelectedTuple _ _)
    rcases hact.state with hst | hst
    · rw [hst]
      simp only [assertTuples_of_active hact, hstore, ok_bind]
      cases hasUseCandidate with
      | false => exact ⟨_, rfl, hkept, hstored⟩
      | true =>
        exact ⟨_, rfl, hchosen.setState _ _ (active_setSelectedTuple ht hact.state) (.inr rfl), hmv.trans (moved_setState _ _ (by simp))⟩
    · rw [hst]
      simp only [assertTuples_of_active hact, hstore, ok_bind]
      cases hasUseCandidate with
      | false => exact ⟨_, rfl, hkept, hstored⟩
      | true => exact ⟨_, rfl, hchosen, hmv⟩

/-- **`RemoveTuple`** keeps a selected tuple, if there is another one. -/
theorem consistent_removeTuple (h : s.Consistent) (tuple : TransportTuple) :
    (s.removeTuple tuple).Consistent := by
  unfold removeTuple
  split
  · exact h
  · rename_i rm hrm
    have hmem := mem_of_find?_eq_some hrm
    rcases h.phase with hidle | hact
    · rw [hidle.tuples] at hmem
      exact absurd hmem not_mem_nil
    have hsub : (s.tuples.eraseP fun t => t.address == rm.address).Sublist s.tuples :=
      eraseP_sublist
    have hlist : Listed (s.tuples.eraseP fun t => t.address == rm.address) :=
      ⟨h.listed.nodup.sublist (hsub.map _), h.listed.distinct.sublist hsub⟩
    simp only
    obtain ⟨sel, hsel, heq⟩ := hact.selectedTuple
    split
    · rename_i hother
      refine ⟨hlist, .inr ⟨⟨sel, ?_, heq⟩, hact.state⟩⟩
      refine (mem_eraseP_of_neg ?_).mpr hsel
      simpa [heq] using hother
    · split
      · rename_i first rest hfirst
        refine ⟨?_, .inr (active_setSelectedTuple ?_ hact.state)⟩
        · rwa [setSelectedTuple_tuples]
        · simp only at hfirst ⊢
          rw [hfirst]
          exact mem_cons_self
      · rename_i hnil
        exact ⟨hlist, .inl ⟨hnil, rfl, .inr rfl⟩⟩

/-- **`ForceSelectedTuple`** of a valid tuple fails no assertion. -/
theorem forceSelectedTuple_spec (h : s.Consistent) (hvalid : s.isValidTuple tuple = .ok true) :
    ∃ s', s.forceSelectedTuple tuple = .ok s' ∧ s'.Consistent := by
  rcases h.hasTuple_cases tuple with ⟨t, ht, hfound⟩ | ⟨hnone, -⟩
  · rcases h.phase with hidle | hact
    · rw [hidle.tuples] at ht
      exact absurd ht not_mem_nil
    obtain ⟨sel, -, heq⟩ := hact.selectedTuple
    refine ⟨s.setSelectedTuple t.address, ?_, ?_⟩
    · rw [forceSelectedTuple, heq, hfound]
      rfl
    · exact ⟨by rw [setSelectedTuple_tuples]; exact h.listed, .inr (active_setSelectedTuple ht hact.state)⟩
  · rw [isValidTuple, hnone] at hvalid
    cases hvalid

/-! ## Runs -/

inductive TupleEvent where
  | handleTuple (tuple : TransportTuple) (hasUseCandidate : Bool)
  | removeTuple (tuple : TransportTuple)
  | forceSelectedTuple (tuple : TransportTuple)
  deriving DecidableEq

def step (s : IceServer) : TupleEvent → Except Fault IceServer
  | .handleTuple tuple hasUseCandidate => s.handleTuple allocator tuple hasUseCandidate
  | .removeTuple tuple => .ok (s.removeTuple tuple)
  | .forceSelectedTuple tuple => s.forceSelectedTuple tuple

def Allowed (s : IceServer) : TupleEvent → Prop
  | .forceSelectedTuple tuple => s.isValidTuple tuple = .ok true
  | _ => True

instance (s : IceServer) : DecidablePred s.Allowed
  | .handleTuple _ _ => inferInstanceAs (Decidable True)
  | .removeTuple _ => inferInstanceAs (Decidable True)
  | .forceSelectedTuple tuple => inferInstanceAs (Decidable (s.isValidTuple tuple = .ok true))

theorem consistent_step (h : s.Consistent) {e : TupleEvent} (hall : s.Allowed e) :
    ∃ s', s.step allocator e = .ok s' ∧ s'.Consistent := by
  cases e with
  | handleTuple tuple hasUseCandidate =>
    obtain ⟨s', hs', hcon, -⟩ := handleTuple_spec allocator h tuple hasUseCandidate
    exact ⟨s', hs', hcon⟩
  | removeTuple tuple => exact ⟨_, rfl, consistent_removeTuple h tuple⟩
  | forceSelectedTuple tuple => exact forceSelectedTuple_spec h hall

/-- **A connected transport has a tuple to send on**, whatever happens to the tuples. -/
theorem consistent_of_run (usernameFragment password : List Byte) (events : List TupleEvent)
    (hallowed : RunMeets (step allocator) Allowed { usernameFragment, password } events) :
    ∃ s, run (step allocator) { usernameFragment, password } events = .ok s ∧
      (s.tuples ≠ [] ↔ s.state = .connected ∨ s.state = .completed) ∧
      (s.tuples ≠ [] ↔ s.selectedTuple.isSome = true) ∧
      (∀ address, s.selectedTuple = some address → ∃ t ∈ s.tuples, t.address = address) ∧
      s.tuples.Pairwise fun t t' => t.tuple.compare t'.tuple = false := by
  obtain ⟨s, hrun, hs⟩ := run_ok_of_inv (fun s event hs => consistent_step allocator hs)
    (consistent_start usernameFragment password) hallowed
  refine ⟨s, hrun, ?_, ?_, ?_, hs.listed.distinct⟩
  · rcases hs.phase with hidle | hactive
    · rw [hidle.tuples]
      rcases hidle.state with hstate | hstate <;> simp [hstate]
    · obtain ⟨t, ht, -⟩ := hactive.selectedTuple
      exact ⟨fun _ => hactive.state, fun _ => List.ne_nil_of_mem ht⟩
  · rcases hs.phase with hidle | hactive
    · simp [hidle.tuples, hidle.selectedTuple]
    · obtain ⟨t, ht, heq⟩ := hactive.selectedTuple
      simp [heq, List.ne_nil_of_mem ht]
  · intro address haddress
    rcases hs.phase with hidle | hactive
    · rw [hidle.selectedTuple] at haddress
      cases haddress
    · obtain ⟨t, ht, heq⟩ := hactive.selectedTuple
      exact ⟨t, ht, Option.some.inj (heq.symm.trans haddress)⟩

def nextAddress : Allocator where
  allocate used := used.foldr max 0 + 1
  fresh _ hmem := Nat.not_succ_le_self _ (List.le_max_of_le' 0 hmem le_rfl)

def handover : List TupleEvent :=
  [.handleTuple (.tcp 1 .other) false, .handleTuple (.tcp 2 .other) false,
    .forceSelectedTuple (.tcp 2 .other), .removeTuple (.tcp 2 .other)]

theorem consistent_handover : ∃ s, run (step nextAddress) { usernameFragment := [], password := [] } handover = .ok s ∧
      (s.tuples ≠ [] ↔ s.selectedTuple.isSome = true) := by
  obtain ⟨s, hrun, -, hselected, -⟩ := consistent_of_run nextAddress [] [] handover (by decide)
  exact ⟨s, hrun, hselected⟩

end IceServer

end MediasoupWorker.RTC
