import MediasoupWorker.RTC.IceServer
import MediasoupWorker.RTC.StunPacketRoundTrip

/-!
# Which STUN requests an `IceServer` accepts

`src/src/RTC/IceServer.cpp`, `src/src/RTC/WebRtcTransport.cpp`. A restart of ICE replaces the user name
fragment and the password. The ones before are kept, and are tried for a request that does not pass with
the new ones, until one does. `inForce` and `Fallback` say what a request may pass with by the history of a
server.
-/

namespace MediasoupWorker.RTC

open Library List StunPacket

namespace IceServer

structure Thread where
  server : IceServer
  stunSerializeBuffer : ℕ → Byte

def setUsernameFragment (usernameFragment : List Byte) (s : IceServer) : IceServer :=
  { s with oldUsernameFragment := s.usernameFragment, usernameFragment }

def setPassword (password : List Byte) (s : IceServer) : IceServer :=
  { s with oldPassword := s.password, password }

def applyCredentials (s : IceServer) : IceServer :=
  if !s.oldPassword.isEmpty then { s with oldUsernameFragment := [], oldPassword := [] } else s

theorem applyCredentials_oldPassword (s : IceServer) : s.applyCredentials.oldPassword = [] := by
  unfold applyCredentials
  split
  · rfl
  · rename_i hnil
    simpa using hnil

theorem applyCredentials_eq (s : IceServer) : s.applyCredentials = { s with
      oldUsernameFragment := s.applyCredentials.oldUsernameFragment
      oldPassword := s.applyCredentials.oldPassword } := by
  unfold applyCredentials
  split <;> rfl

namespace Thread

section Code

variable (crypto : Crypto)

def sendStunPacket (response : StunPacket) (tuple : TransportTuple) (s : Thread) : Except Fault Thread := do
  let (response, stunSerializeBuffer) ← response.serialize crypto s.stunSerializeBuffer
  return { server := s.server.notify (.onIceServerSendStunPacket response tuple), stunSerializeBuffer }

def replyError (errorCode : BitVec 16) (packet : StunPacket) (tuple : TransportTuple) (s : Thread) :
    Except Fault Thread := do
  let response ← packet.createErrorResponse errorCode
  s.sendStunPacket crypto response tuple

variable (allocator : Allocator)

def acceptRequest (packet : StunPacket) (tuple : TransportTuple) (s : Thread) : Except Fault Thread :=
  if packet.iceControlled ≠ 0 then s.replyError crypto 487 packet tuple
  else do
    let response ← packet.createSuccessResponse
    let response := { response with xorMappedAddress := some tuple.getRemoteAddress }
    let response := response.authenticate
      (if s.server.oldPassword.isEmpty then s.server.password else s.server.oldPassword)
    let s ← s.sendStunPacket crypto response tuple
    let server ← s.server.handleTuple allocator tuple packet.hasUseCandidate
    return { s with server }

def processRequest (packet : StunPacket) (tuple : TransportTuple) (s : Thread) : Except Fault Thread :=
  if packet.messageIntegrity.isNone ∨ packet.priority = 0 ∨ packet.username.isEmpty then
    s.replyError crypto 400 packet tuple
  else
    match packet.checkAuthentication crypto s.server.usernameFragment s.server.password with
    | (.ok, packet) =>
      { s with server := s.server.applyCredentials }.acceptRequest crypto allocator packet tuple
    | (.unauthorized, packet) =>
      if s.server.oldUsernameFragment.isEmpty ∨ s.server.oldPassword.isEmpty then
        s.replyError crypto 401 packet tuple
      else
        match packet.checkAuthentication crypto s.server.oldUsernameFragment s.server.oldPassword with
        | (.ok, packet) => s.acceptRequest crypto allocator packet tuple
        | (_, packet) => s.replyError crypto 401 packet tuple
    | (.badRequest, packet) => s.replyError crypto 400 packet tuple

def processStunPacket (packet : StunPacket) (tuple : TransportTuple) (s : Thread) : Except Fault Thread :=
  if packet.method ≠ binding then
    if packet.klass = .request then s.replyError crypto 400 packet tuple else .ok s
  else if packet.hasFingerprint = false ∧ packet.klass ≠ .indication then
    if packet.klass = .request then s.replyError crypto 400 packet tuple else .ok s
  else
    match packet.klass with
    | .request => s.processRequest crypto allocator packet tuple
    | _ => .ok s

end Code

end Thread

/-! ## What happens to a server -/

structure Credentials where
  usernameFragment : List Byte
  password : List Byte
  deriving DecidableEq

structure Received (crypto : Crypto) where
  data : List Byte
  packet : StunPacket
  length_le : data.length ≤ 65535
  parsed : parse crypto data.length data = some (.ok (some packet))

inductive Event (crypto : Crypto) where
  | stunPacket (received : Received crypto) (tuple : TransportTuple)
  | restartIce (credentials : Credentials)

namespace Thread

variable {crypto : Crypto} (allocator : Allocator)

def step (s : Thread) : Event crypto → Except Fault Thread
  | .stunPacket received tuple => s.processStunPacket crypto allocator received.packet tuple
  | .restartIce credentials =>
    let server := s.server.setUsernameFragment credentials.usernameFragment
    .ok { s with server := server.setPassword credentials.password }

def start (initial : Credentials) (stunSerializeBuffer : ℕ → Byte) : Thread where
  server := { usernameFragment := initial.usernameFragment, password := initial.password }
  stunSerializeBuffer := stunSerializeBuffer

end Thread

/-! ## Which credentials may be used -/

section Credentials

variable {crypto : Crypto}

def inForce (initial : Credentials) (history : List (Event crypto)) : Credentials :=
  history.foldl (fun credentials event =>
    match event with
    | .stunPacket _ _ => credentials
    | .restartIce credentials => credentials) initial

def Passes (crypto : Crypto) (credentials : Credentials) (packet : StunPacket) : Prop :=
  (packet.checkAuthentication crypto credentials.usernameFragment credentials.password).1 = .ok

structure IsBindingRequest (packet : StunPacket) : Prop where
  method : packet.method = binding
  klass : packet.klass = .request

structure IsComplete (packet : StunPacket) : Prop extends IsBindingRequest packet where
  hasFingerprint : packet.hasFingerprint = true
  priority : packet.priority ≠ 0

def Fallback (initial : Credentials) (history : List (Event crypto)) (credentials : Credentials) : Prop :=
  ∃ front current since, history = front ++ .restartIce current :: since ∧
    (∀ event ∈ since, ∃ received tuple, event = .stunPacket received tuple ∧
      ¬ (IsComplete received.packet ∧ Passes crypto current received.packet)) ∧
    credentials = inForce initial front

def Validated (initial : Credentials) (history : List (Event crypto)) (packet : StunPacket)
    (password : List Byte) : Prop :=
  ∃ credentials, (credentials = inForce initial history ∨ Fallback initial history credentials) ∧
    Passes crypto credentials packet ∧ credentials.password = password

end Credentials

/-! ## Packets that were parsed -/

section Received

variable {cr : Crypto}

theorem data_foldl_take (attrs : List Tlv) (s : Scan) :
    (attrs.foldl Scan.take s).packet.data = s.packet.data ∧
      (attrs.foldl Scan.take s).packet.size = s.packet.size := by
  induction attrs generalizing s with
  | nil => exact ⟨rfl, rfl⟩
  | cons a attrs ih =>
    have htake : (s.take a).packet.data = s.packet.data ∧ (s.take a).packet.size = s.packet.size := by
      unfold Scan.take Scan.absorb
      split <;> exact ⟨rfl, rfl⟩
    rw [foldl_cons, (ih _).1, (ih _).2]
    exact htake

theorem Received.spec (r : Received cr) :
    ValidHeader r.data ∧ r.packet.data = r.data ∧ r.packet.size = r.data.length := by
  have hhdr : ValidHeader r.data := by
    by_contra hnot
    have hparse := r.parsed
    rw [parse, parseHeader_of_not_valid hnot] at hparse
    cases hparse
  obtain ⟨res, hres, hp⟩ := parse_of_valid cr hhdr r.length_le
    (show r.data.length ≤ 4 * r.data.length by omega)
  have heq : res = some r.packet := by
    have := r.parsed.symm.trans hres
    simpa using this.symm
  obtain ⟨attrs, -, hpkt⟩ := (hp r.packet).mp heq
  rw [← hpkt]
  exact ⟨hhdr, data_foldl_take attrs { packet := ofHeader r.data }⟩

theorem Received.checkAuthentication_snd (r : Received cr) (u pw : List Byte) :
    (r.packet.checkAuthentication cr u pw).2 = r.packet := by
  obtain ⟨hhdr, hdata, hsize⟩ := r.spec
  have hge := hhdr.length_ge
  have hword : BitVec.ofNat 16 (r.data.length - 20) = read2Bytes r.data 2 := by
    rw [← hhdr.length_eq, BitVec.ofNat_toNat, BitVec.setWidth_eq]
  refine StunPacket.checkAuthentication_snd (by rw [hdata]; omega) ?_ u pw
  rw [hdata, hsize, hword, setLength, set2Bytes_read2Bytes (by omega), ← take_add, take_append_drop]

end Received

/-! ## What the server does with a packet -/

def NoSuccess (calls : List ListenerCall) : Prop :=
  ∀ response tuple, .onIceServerSendStunPacket response tuple ∈ calls → response.klass ≠ .successResponse

def SignedSuccess (crypto : Crypto) (password : List Byte) (calls : List ListenerCall) : Prop :=
  ∀ response tuple, .onIceServerSendStunPacket response tuple ∈ calls →
    response.klass = .successResponse → SignedWith crypto password response

namespace Thread

variable {crypto : Crypto} {s : Thread} {p : StunPacket}

variable (crypto)

theorem sendStunPacket_spec (s : Thread) (resp : StunPacket) (t : TransportTuple)
    (hname : resp.username.length ≤ 65000) : ∃ s' resp', s.sendStunPacket crypto resp t = .ok s' ∧
      s'.server = s.server.notify (.onIceServerSendStunPacket resp' t) ∧ resp'.klass = resp.klass ∧
      (resp.addMessageIntegrity = true → SignedWith crypto resp.password resp') := by
  obtain ⟨attrs, buf', -, hser, -⟩ := serialize_spec crypto hname s.stunSerializeBuffer
  rw [sendStunPacket, hser]
  exact ⟨_, _, rfl, rfl, rfl, signedWith_serialized⟩

theorem replyError_spec (s : Thread) (errorCode : BitVec 16) (t : TransportTuple)
    (hklass : p.klass = .request) : ∃ s' calls, s.replyError crypto errorCode p t = .ok s' ∧
      s'.server = { s.server with calls := s.server.calls ++ calls } ∧ NoSuccess calls := by
  have hresp : p.createErrorResponse errorCode = .ok
      { klass := .errorResponse, method := p.method, transactionId := p.transactionId, errorCode } := by
    rw [createErrorResponse, hklass]
    rfl
  rw [replyError, hresp, ok_bind]
  obtain ⟨s', resp', hsend, hsrv, hklass', -⟩ := sendStunPacket_spec crypto s
    { klass := .errorResponse, method := p.method, transactionId := p.transactionId,
      errorCode } t (show ([] : List Byte).length ≤ 65000 by decide)
  refine ⟨s', [.onIceServerSendStunPacket resp' t], hsend, hsrv, ?_⟩
  · intro resp t' hmem
    cases mem_singleton.mp hmem
    rw [hklass']
    exact nofun

def responseKey (s : Thread) : List Byte :=
  if s.server.oldPassword.isEmpty then s.server.password else s.server.oldPassword

theorem acceptRequest_spec (allocator : Allocator) (hs : s.server.Consistent) (t : TransportTuple)
    (hklass : p.klass = .request) (hkey : s.responseKey ≠ []) :
    ∃ s' calls, s.acceptRequest crypto allocator p t = .ok s' ∧ s'.server.Consistent ∧
      s'.server = { s.server with
        tuples := s'.server.tuples, selectedTuple := s'.server.selectedTuple, state := s'.server.state,
        calls := s.server.calls ++ calls } ∧ SignedSuccess crypto s.responseKey calls := by
  unfold acceptRequest
  split
  · obtain ⟨s', calls, hreply, hsrv, hcalls⟩ := replyError_spec crypto s 487 t hklass
    refine ⟨s', calls, hreply, ?_, ?_, ?_⟩
    · rw [hsrv]
      exact hs.of_eq rfl rfl rfl
    · rw [hsrv]
    · exact fun resp t' hmem hsuccess => absurd hsuccess (hcalls resp t' hmem)
  · have hresp : p.createSuccessResponse = .ok
        { klass := .successResponse, method := p.method, transactionId := p.transactionId } := by
      rw [createSuccessResponse, hklass]
      rfl
    obtain ⟨s₁, resp', hsend, hsrv, -, hsigned⟩ := sendStunPacket_spec crypto s
      { klass := .successResponse, method := p.method, transactionId := p.transactionId,
        xorMappedAddress := some t.getRemoteAddress, password := s.responseKey } t
      (show ([] : List Byte).length ≤ 65000 by decide)
    have hs₁ : s₁.server.Consistent := by
      rw [hsrv]
      exact hs.of_eq rfl rfl rfl
    obtain ⟨server, hhdl, hcon, hmv⟩ :=
      handleTuple_spec allocator hs₁ t p.hasUseCandidate
    obtain ⟨calls, hcalls, hnone⟩ := hmv.calls
    refine ⟨{ s₁ with server }, .onIceServerSendStunPacket resp' t :: calls, ?_, hcon, ?_, ?_⟩
    · rw [hresp, ok_bind]
      refine bind_eq_ok.mpr ⟨s₁, hsend, ?_⟩
      rw [hhdl]
      rfl
    · rw [hsrv] at hcalls
      have heq := hmv.eq
      rw [hsrv, hcalls] at heq
      rw [heq]
      simp [notify]
    · intro resp t' hmem _
      rcases mem_cons.mp hmem with heq | hmem
      · cases heq
        refine hsigned ?_
        simp [addMessageIntegrity, hkey]
      · exact absurd hmem (hnone resp t')

def credentials (s : Thread) : Credentials := ⟨s.server.usernameFragment, s.server.password⟩

def oldCredentials (s : Thread) : Credentials := ⟨s.server.oldUsernameFragment, s.server.oldPassword⟩

structure Processed (packet : StunPacket) (s s' : Thread) : Prop where
  consistent : s'.server.Consistent
  credentials : s'.credentials = s.credentials
  dropped : IsComplete packet → Passes crypto s.credentials packet → s'.server.oldPassword = []
  kept : s'.server.oldPassword ≠ [] → s'.oldCredentials = s.oldCredentials
  calls : ∃ calls, s'.server.calls = s.server.calls ++ calls ∧
    (NoSuccess calls ∧ s'.server.tuples = s.server.tuples ∧ s'.server.selectedTuple = s.server.selectedTuple ∨
      IsBindingRequest packet ∧ ∃ c, (c = s.credentials ∨ c = s.oldCredentials ∧ c.password ≠ []) ∧
        Passes crypto c packet ∧ SignedSuccess crypto c.password calls)

variable {crypto}

theorem processed_self (hs : s.server.Consistent) (hnot : ¬ (IsComplete p ∧ Passes crypto s.credentials p)) :
    Processed crypto p s s :=
  ⟨hs, rfl, fun hcomp hpass => absurd ⟨hcomp, hpass⟩ hnot, fun _ => rfl,
    [], (append_nil _).symm, .inl ⟨fun _ _ hmem => absurd hmem not_mem_nil, rfl, rfl⟩⟩

theorem processed_replyError (hs : s.server.Consistent) (code : BitVec 16) (t : TransportTuple)
    (hklass : p.klass = .request) (hnot : ¬ (IsComplete p ∧ Passes crypto s.credentials p)) :
    ∃ s', s.replyError crypto code p t = .ok s' ∧ Processed crypto p s s' := by
  obtain ⟨s', calls, hreply, hsrv, hcalls⟩ := replyError_spec crypto s code t hklass
  refine ⟨s', hreply, ?_, ?_, fun hcomp hpass => absurd ⟨hcomp, hpass⟩ hnot, fun _ => ?_,
    calls, ?_, .inl ⟨hcalls, ?_, ?_⟩⟩
  · rw [hsrv]
    exact hs.of_eq rfl rfl rfl
  all_goals
    simp only [Thread.credentials, Thread.oldCredentials, hsrv]

theorem messageIntegrity_of_passes {c : Credentials} (h : Passes crypto c p) :
    p.messageIntegrity.isSome = true ∧ p.username.isEmpty = false := by
  unfold Passes checkAuthentication at h
  split at h
  · cases h
  split at h
  · cases h
  · rename_i hint
    split at h
    · cases h
    · rename_i hnil
      simp [hint, Bool.eq_false_iff.mpr hnil]

theorem processed_acceptRequest (allocator : Allocator) {t : Thread} {c : Credentials}
    (ht : t.server.Consistent) (hcred : t.credentials = s.credentials)
    (hcalls : t.server.calls = s.server.calls) (hkey : t.responseKey = c.password)
    (hc : c = s.credentials ∨ c = s.oldCredentials) (hne : c.password ≠ []) (hreq : IsBindingRequest p)
    (hpass : Passes crypto c p) (hdrop : Passes crypto s.credentials p → t.server.oldPassword = [])
    (hkept : t.server.oldPassword ≠ [] → t.oldCredentials = s.oldCredentials) (tup : TransportTuple) :
    ∃ s', t.acceptRequest crypto allocator p tup = .ok s' ∧ Processed crypto p s s' := by
  obtain ⟨s', calls, hacc, hcon, hsrv, hsigned⟩ :=
    acceptRequest_spec crypto allocator ht tup hreq.klass (hkey ▸ hne)
  have hnew : s'.credentials = t.credentials ∧ s'.oldCredentials = t.oldCredentials := by
    unfold Thread.credentials Thread.oldCredentials
    rw [hsrv]
    exact ⟨rfl, rfl⟩
  have hold : s'.server.oldPassword = t.server.oldPassword := congrArg Credentials.password hnew.2
  refine ⟨s', hacc, hcon, hnew.1.trans hcred, fun _ h => hold.trans (hdrop h),
    fun h => hnew.2.trans (hkept (hold ▸ h)), calls, ?_, .inr ⟨hreq, c, ?_, hpass, hkey ▸ hsigned⟩⟩
  · rw [hsrv, ← hcalls]
  · exact hc.imp id fun h => ⟨h, hne⟩

section

variable (allocator : Allocator) (hs : s.server.Consistent) (hpw : s.server.password ≠ [])
  (r : Received crypto) (t : TransportTuple)

include allocator hs hpw r t

theorem processed_processRequest (hreq : IsBindingRequest r.packet) :
    ∃ s', s.processRequest crypto allocator r.packet t = .ok s' ∧ Processed crypto r.packet s s' := by
  have hklass := hreq.klass
  unfold processRequest
  split
  · rename_i hgap
    refine processed_replyError hs 400 t hklass ?_
    rintro ⟨hcomp, hpass⟩
    obtain ⟨hint, huser⟩ := messageIntegrity_of_passes hpass
    rcases hgap with hnone | hprio | hnil
    · rw [Option.isNone_iff_eq_none.mp hnone] at hint
      cases hint
    · exact hcomp.priority hprio
    · rw [huser] at hnil
      cases hnil
  have hsame (u pw : List Byte) {res : Authentication} {p : StunPacket}
      (h : r.packet.checkAuthentication crypto u pw = (res, p)) : p = r.packet := by
    rw [← r.checkAuthentication_snd u pw, h]
  split
  · rename_i p hcheck
    obtain rfl := hsame _ _ hcheck
    have hpass : Passes crypto s.credentials r.packet := congrArg Prod.fst hcheck
    have hold := applyCredentials_oldPassword s.server
    refine processed_acceptRequest (c := s.credentials) allocator ?_ ?_ ?_ ?_ (.inl rfl) hpw hreq
      hpass (fun _ => hold) (fun h => absurd hold h) t
    · rw [applyCredentials_eq]
      exact hs.of_eq rfl rfl rfl
    · unfold Thread.credentials
      rw [applyCredentials_eq]
    · rw [applyCredentials_eq]
    · unfold responseKey
      simp only [hold, isEmpty_nil, if_true]
      rw [applyCredentials_eq]
      rfl
  · rename_i p hcheck
    obtain rfl := hsame _ _ hcheck
    have hnot : ¬ Passes crypto s.credentials r.packet := fun h => by
      rw [Passes, Thread.credentials, hcheck] at h
      cases h
    split
    · exact processed_replyError hs 401 t hklass fun h => hnot h.2
    · rename_i hold
      rw [not_or] at hold
      split
      · rename_i p hcheck'
        obtain rfl := hsame _ _ hcheck'
        have hne : s.server.oldPassword ≠ [] := by simpa using hold.2
        refine processed_acceptRequest (c := s.oldCredentials) allocator hs rfl rfl ?_ (.inr rfl) hne
          hreq (congrArg Prod.fst hcheck') (fun h => absurd h hnot) (fun _ => rfl) t
        rw [responseKey, if_neg hold.2]
        rfl
      · rename_i p _ hcheck'
        obtain rfl := hsame _ _ hcheck'
        exact processed_replyError hs 401 t hklass fun h => hnot h.2
  · rename_i p hcheck
    obtain rfl := hsame _ _ hcheck
    refine processed_replyError hs 400 t hklass fun h => ?_
    rw [Passes, Thread.credentials, hcheck] at h
    cases h.2

/-- **What `ProcessStunPacket` does** with a packet that was received. -/
theorem processed_processStunPacket :
    ∃ s', s.processStunPacket crypto allocator r.packet t = .ok s' ∧ Processed crypto r.packet s s' := by
  have hreject (hnot : ¬ IsComplete r.packet) :
      ∃ s', (if r.packet.klass = .request then s.replyError crypto 400 r.packet t else .ok s) = .ok s' ∧
        Processed crypto r.packet s s' := by
    split
    · rename_i hklass
      exact processed_replyError hs 400 t hklass fun h => hnot h.1
    · exact ⟨s, rfl, processed_self hs fun h => hnot h.1⟩
  unfold processStunPacket
  split
  · rename_i hmeth
    exact hreject fun h => hmeth h.method
  · rename_i hmeth
    split
    · rename_i hfp
      refine hreject fun h => ?_
      rw [h.hasFingerprint] at hfp
      cases hfp.1
    · split
      · rename_i hklass
        exact processed_processRequest allocator hs hpw r t ⟨of_not_not hmeth, hklass⟩
      · rename_i hklass
        exact ⟨s, rfl, processed_self hs fun h => hklass h.1.klass⟩

end

end Thread

/-! ## Runs -/

section Runs

variable {crypto : Crypto} (allocator : Allocator) (initial : Credentials)

theorem inForce_stunPacket (history : List (Event crypto)) (got : Received crypto) (t : TransportTuple) :
    inForce initial (history ++ [.stunPacket got t]) = inForce initial history := by
  rw [inForce, foldl_append]
  rfl

theorem inForce_restartIce (history : List (Event crypto)) (credentials : Credentials) :
    inForce initial (history ++ [.restartIce credentials]) = credentials := by
  rw [inForce, foldl_append]
  rfl

theorem inForce_of_last {front since : List (Event crypto)} {current : Credentials}
    (hsince : ∀ ev ∈ since, ∃ got t, ev = .stunPacket got t) :
    inForce initial (front ++ .restartIce current :: since) = current := by
  induction since using reverseRecOn with
  | nil => exact inForce_restartIce initial front current
  | append_singleton since ev ih =>
    obtain ⟨got, t, rfl⟩ := hsince ev (by simp)
    rw [← cons_append, ← append_assoc, inForce_stunPacket]
    exact ih fun e he => hsince e (mem_append_left _ he)

variable {history : List (Event crypto)}

theorem inForce_password_ne_nil (hinitial : initial.password ≠ [])
    (hpasswords : ∀ c, .restartIce c ∈ history → c.password ≠ []) :
    (inForce initial history).password ≠ [] := by
  induction history using reverseRecOn with
  | nil => exact hinitial
  | append_singleton history e ih =>
    cases e with
    | stunPacket got t =>
      rw [inForce_stunPacket]
      exact ih fun c hc => hpasswords c (mem_append_left _ hc)
    | restartIce creds =>
      rw [inForce_restartIce]
      exact hpasswords creds (by simp)

structure Current (history : List (Event crypto)) (s : Thread) : Prop where
  consistent : s.server.Consistent
  credentials : s.credentials = inForce initial history
  fallback : s.server.oldPassword ≠ [] → Fallback initial history s.oldCredentials

variable {initial}

theorem Current.stunPacket {s s' : Thread} (h : Current initial history s) {got : Received crypto}
    (t : TransportTuple) (hs' : Thread.Processed crypto got.packet s s') :
    Current initial (history ++ [.stunPacket got t]) s' := by
  refine ⟨hs'.consistent, ?_, fun hne => ?_⟩
  · rw [hs'.credentials, h.credentials, inForce_stunPacket]
  · have hold := hs'.kept hne
    have hne' : s.server.oldPassword ≠ [] := fun hnil =>
      hne ((congrArg Credentials.password hold).trans hnil)
    obtain ⟨front, current, since, hhist, hsince, hcred⟩ := h.fallback hne'
    have hcur : s.credentials = current := by
      rw [h.credentials, hhist]
      refine inForce_of_last initial fun e he => ?_
      obtain ⟨got, t, heq, -⟩ := hsince e he
      exact ⟨got, t, heq⟩
    refine ⟨front, current, since ++ [.stunPacket got t], ?_, ?_, hold.trans hcred⟩
    · rw [hhist, append_assoc, cons_append]
    · intro e he
      rcases mem_append.mp he with he | he
      · exact hsince e he
      · refine ⟨got, t, mem_singleton.mp he, fun hpassed => hne ?_⟩
        exact hs'.dropped hpassed.1 (hcur ▸ hpassed.2)

theorem Current.step {s : Thread} (h : Current initial history s)
    (hpassword : (inForce initial history).password ≠ []) (e : Event crypto) :
    ∃ s', s.step allocator e = .ok s' ∧ Current initial (history ++ [e]) s' := by
  cases e with
  | stunPacket got t =>
    have hne : s.server.password ≠ [] := by
      rw [← h.credentials] at hpassword
      exact hpassword
    obtain ⟨s', hs', hprocessed⟩ :=
      Thread.processed_processStunPacket allocator h.consistent hne got t
    exact ⟨s', hs', h.stunPacket t hprocessed⟩
  | restartIce creds =>
    refine ⟨_, rfl, h.consistent.of_eq rfl rfl rfl, ?_, fun _ => ?_⟩
    · rw [inForce_restartIce]
      rfl
    · exact ⟨history, creds, [], rfl, fun e he => absurd he not_mem_nil, h.credentials⟩

/-- **Only authenticated requests change the state of ICE**, after any history. -/
theorem success_only_if_validated (initial : Credentials) (stunSerializeBuffer : ℕ → Byte)
    (history : List (Event crypto)) (event : Event crypto) (hinitial : initial.password ≠ [])
    (hpasswords : ∀ c, .restartIce c ∈ history → c.password ≠ []) :
    ∃ s s' calls, run (Thread.step allocator) (Thread.start initial stunSerializeBuffer) history = .ok s ∧
      s.step allocator event = .ok s' ∧ s'.server.calls = s.server.calls ++ calls ∧
      (s'.server.tuples ≠ s.server.tuples ∨ s'.server.selectedTuple ≠ s.server.selectedTuple ∨
          (∃ response tuple, .onIceServerSendStunPacket response tuple ∈ calls ∧
            response.klass = .successResponse) →
        ∃ received tuple password, event = .stunPacket received tuple ∧
          IsBindingRequest received.packet ∧ Validated initial history received.packet password ∧
          ∀ response tuple', .onIceServerSendStunPacket response tuple' ∈ calls →
            response.klass = .successResponse → SignedWith crypto password response) := by
  have hpassword (before : List (Event crypto)) (hbefore : before <+: history) :
      (inForce initial before).password ≠ [] :=
    inForce_password_ne_nil initial hinitial fun c hc => hpasswords c (hbefore.subset hc)
  have hstart : Current initial ([] : List (Event crypto)) (Thread.start initial stunSerializeBuffer) :=
    ⟨consistent_start _ _, rfl, fun h => absurd rfl h⟩
  obtain ⟨s, hrun, hs⟩ := run_ok_of_history_inv hstart fun before e s hbefore hs =>
    hs.step allocator (hpassword before ((List.prefix_append before [e]).trans hbefore)) e
  refine ⟨s, ?_⟩
  cases event with
  | restartIce credentials =>
    refine ⟨_, [], hrun, rfl, (List.append_nil _).symm, ?_⟩
    rintro (htuples | hselected | ⟨response, tuple, hmem, -⟩)
    · exact absurd rfl htuples
    · exact absurd rfl hselected
    · exact absurd hmem List.not_mem_nil
  | stunPacket received tuple =>
    have hne : s.server.password ≠ [] := by
      have := hpassword history (List.prefix_refl history)
      rwa [← hs.credentials] at this
    obtain ⟨s', hs', hprocessed⟩ :=
      Thread.processed_processStunPacket allocator hs.consistent hne received tuple
    obtain ⟨calls, hcalls, hcases⟩ := hprocessed.calls
    refine ⟨s', calls, hrun, hs', hcalls, fun hchanged => ?_⟩
    rcases hcases with ⟨hnone, htuples, hselected⟩ | ⟨hrequest, c, hc, hpasses, hsigned⟩
    · rcases hchanged with hchanged | hchanged | ⟨response, tuple', hmem, hsuccess⟩
      · exact absurd htuples hchanged
      · exact absurd hselected hchanged
      · exact absurd hsuccess (hnone response tuple' hmem)
    · refine ⟨received, tuple, c.password, rfl, hrequest, ⟨c, ?_, hpasses, rfl⟩, hsigned⟩
      rcases hc with rfl | ⟨rfl, hne'⟩
      · exact .inl hs.credentials
      · exact .inr (hs.fallback hne')

def pingData : List Byte :=
  [0x00, 0x01, 0x00, 0x30, 0x21, 0x12, 0xA4, 0x42] ++ List.replicate 12 0x07 ++
    [0x00, 0x06, 0x00, 0x03, 0x75, 0x3A, 0x76, 0x00] ++ [0x00, 0x24, 0x00, 0x04, 0x00, 0x00, 0x00, 0x01] ++
    [0x00, 0x08, 0x00, 0x14] ++ List.replicate 20 0x00 ++ [0x80, 0x28, 0x00, 0x04, 0x53, 0x54, 0x55, 0x4E]

def ping : Received constantCrypto where
  data := pingData
  packet :=
    { klass := .request, method := binding, transactionId := ⟨List.replicate 12 7#8, rfl⟩,
      data := pingData, size := 68, username := [0x75, 0x3A, 0x76], priority := 1,
      messageIntegrity := some 40, hasFingerprint := true }
  length_le := by decide
  parsed := by decide +kernel

def restart : List (Event constantCrypto) := [.restartIce ⟨[0x77], [0x71]⟩]

theorem ping_validated :
    ∃ s s', run (Thread.step nextAddress) (Thread.start ⟨[0x75], [0x70]⟩ fun _ => 0) restart = .ok s ∧
      s.step nextAddress (.stunPacket ping (.tcp 1 .other)) = .ok s' ∧ s'.server.tuples ≠ s.server.tuples ∧
      ∃ password, Validated ⟨[0x75], [0x70]⟩ restart ping.packet password := by
  obtain ⟨s, s', calls, hrun, hstep, -, hvalid⟩ := success_only_if_validated nextAddress
    ⟨[0x75], [0x70]⟩ (fun _ => 0) restart (.stunPacket ping (.tcp 1 .other)) (by decide) (by
      intro c hc
      cases List.mem_singleton.mp hc
      decide)
  have htuples : s'.server.tuples ≠ s.server.tuples := by
    cases hrun
    have hlength := congrArg (Except.map fun t => t.server.tuples.length) hstep
    have hone : s'.server.tuples.length = 1 := by
      refine Except.ok.inj (hlength.symm.trans ?_)
      decide +kernel
    exact fun heq => absurd (heq ▸ hone) (by decide)
  obtain ⟨received, tuple, password, hevent, -, hvalidated, -⟩ := hvalid (.inl htuples)
  cases hevent
  exact ⟨s, s', hrun, hstep, htuples, password, hvalidated⟩

end Runs

end IceServer

end MediasoupWorker.RTC
