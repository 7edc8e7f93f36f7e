import MediasoupWorker.Common
import MediasoupWorker.Library.Pairing

/-!
# The payload channel

`src/src/PayloadChannel/PayloadChannelSocket.cpp`, with `PayloadChannelRequest.cpp` and
`Notification.cpp`. Requests and notifications come as two messages, a JSON header and a payload.
The socket keeps the object of the header until the payload arrives.
-/

namespace MediasoupWorker.PayloadChannel

open Library Library.Pairing

structure JsonLibrary where
  parse : List Byte → Option Json
  dump : Json → List Byte

def nsPayloadMaxLen : ℕ := 4194304

def findObject (data : Json) (key : String) : Json :=
  match data.find key with
  | some value => if value.isObject then value else .object []
  | none => .object []

/-! ## Requests and notifications -/

inductive PayloadChannelRequest.MethodId where
  | dataConsumerSend
  deriving DecidableEq, Repr

def PayloadChannelRequest.string2MethodId : String → Option MethodId
  | "dataConsumer.send" => some .dataConsumerSend
  | _ => none

structure PayloadChannelRequest where
  id : ℕ
  method : String
  methodId : PayloadChannelRequest.MethodId := .dataConsumerSend
  internal : Json := .object []
  data : Json := .object []
  payload : List Byte := []
  replied : Bool := false

inductive Notification.EventId where
  | transportSendRtcp
  | producerSend
  | dataProducerSend
  deriving DecidableEq, Repr

def Notification.string2EventId : String → Option EventId
  | "transport.sendRtcp" => some .transportSendRtcp
  | "producer.send" => some .producerSend
  | "dataProducer.send" => some .dataProducerSend
  | _ => none

structure Notification where
  event : String
  eventId : Notification.EventId
  internal : Json
  data : Json
  payload : List Byte := []

structure PayloadChannelSocket where
  closed : Bool := false
  ongoingNotification : Option Notification := none
  ongoingRequest : Option PayloadChannelRequest := none
  sent : List (List Byte) := []

inductive Thrown where
  | typeError (message : String)
  | error (message : String)

def PayloadChannelSocket.send (lib : JsonLibrary) (jsonMessage : Json) (s : PayloadChannelSocket) :
    PayloadChannelSocket :=
  if s.closed then s
  else if nsPayloadMaxLen < (lib.dump jsonMessage).length then s
  else { s with sent := s.sent ++ [lib.dump jsonMessage] }

namespace PayloadChannelRequest

def isRequest (jsonRequest : Json) : Bool :=
  ((jsonRequest.find "id").bind (Json.unsigned 32)).isSome &&
    ((jsonRequest.find "method").bind Json.asString).isSome

def respond (lib : JsonLibrary) (jsonResponse : Json) (request : PayloadChannelRequest)
    (s : PayloadChannelSocket) : Except Fault (PayloadChannelRequest × PayloadChannelSocket) := do
  msAssert (!request.replied) "request already replied"
  return ({ request with replied := true }, s.send lib jsonResponse)

def accept (lib : JsonLibrary) (request : PayloadChannelRequest) (s : PayloadChannelSocket) :
    Except Fault (PayloadChannelRequest × PayloadChannelSocket) :=
  request.respond lib (.object [("accepted", .boolean true), ("id", .integer request.id)]) s

def error (lib : JsonLibrary) (reason : String) (request : PayloadChannelRequest)
    (s : PayloadChannelSocket) : Except Fault (PayloadChannelRequest × PayloadChannelSocket) :=
  request.respond lib (.object [("error", .string "Error"), ("id", .integer request.id),
    ("reason", .string reason)]) s

def typeError (lib : JsonLibrary) (reason : String) (request : PayloadChannelRequest)
    (s : PayloadChannelSocket) : Except Fault (PayloadChannelRequest × PayloadChannelSocket) :=
  request.respond lib (.object [("error", .string "TypeError"), ("id", .integer request.id),
    ("reason", .string reason)]) s

def make (lib : JsonLibrary) (jsonRequest : Json) (s : PayloadChannelSocket) :
    Except Fault (PayloadChannelSocket × Except Thrown PayloadChannelRequest) :=
  match (jsonRequest.find "id").bind (Json.unsigned 32) with
  | none => .ok (s, .error (.error "missing id"))
  | some id =>
    match (jsonRequest.find "method").bind Json.asString with
    | none => .ok (s, .error (.error "missing method"))
    | some method =>
      match string2MethodId method with
      | none => do
        let (_, s) ← error lib "unknown method" { id, method } s
        return (s, .error (.error ("unknown method '" ++ method ++ "'")))
      | some methodId =>
        .ok (s, .ok {
          id, method, methodId
          internal := findObject jsonRequest "internal"
          data := findObject jsonRequest "data" })

def setPayload (payload : List Byte) (request : PayloadChannelRequest) : PayloadChannelRequest :=
  { request with payload }

end PayloadChannelRequest

namespace Notification

def isNotification (jsonNotification : Json) : Bool :=
  match (jsonNotification.find "event").bind Json.asString with
  | none => false
  | some event => (string2EventId event).isSome

def make (jsonNotification : Json) : Except Thrown Notification :=
  match (jsonNotification.find "event").bind Json.asString with
  | none => .error (.error "missing event")
  | some event =>
    match string2EventId event with
    | none => .error (.error ("unknown event '" ++ event ++ "'"))
    | some eventId =>
      .ok {
        event, eventId
        internal := findObject jsonNotification "internal"
        data := findObject jsonNotification "data" }

def setPayload (payload : List Byte) (notification : Notification) : Notification :=
  { notification with payload }

end Notification

/-! ## The socket -/

inductive RequestOutcome where
  | accepted
  | failed (reason : String)
  | unanswered
  | thrown (exception : Thrown)

def RequestOutcome.apply (lib : JsonLibrary) (request : PayloadChannelRequest)
    (s : PayloadChannelSocket) :
    RequestOutcome → Except Fault (PayloadChannelRequest × PayloadChannelSocket)
  | .accepted => request.accept lib s
  | .failed reason => request.error lib reason s
  | .unanswered => .ok (request, s)
  | .thrown (.typeError message) => request.typeError lib message s
  | .thrown (.error message) => request.error lib message s

inductive Message where
  | notification (notification : Notification)
  | request (request : PayloadChannelRequest)

def Message.setPayload (message : Message) (payload : List Byte) : Message :=
  match message with
  | .notification object => .notification (object.setPayload payload)
  | .request object => .request (object.setPayload payload)

namespace PayloadChannelSocket

def onHeader (lib : JsonLibrary) (msg : List Byte) (s : PayloadChannelSocket) :
    Except Fault PayloadChannelSocket :=
  match lib.parse msg with
  | none => .error (.exception "json::parse_error")
  | some jsonData =>
    if PayloadChannelRequest.isRequest jsonData then
      match lib.parse msg with
      | none => .ok s
      | some jsonMessage => do
        let (s, made) ← PayloadChannelRequest.make lib jsonMessage s
        match made with
        | .ok request => return { s with ongoingRequest := some request }
        | .error _ => return s
    else if Notification.isNotification jsonData then
      match lib.parse msg with
      | none => .ok s
      | some jsonMessage =>
        match Notification.make jsonMessage with
        | .ok notification => .ok { s with ongoingNotification := some notification }
        | .error _ => .ok s
    else .ok s

def onConsumerSocketMessage (lib : JsonLibrary) (listener : PayloadChannelRequest → RequestOutcome)
    (msg : List Byte) (s : PayloadChannelSocket) :
    Except Fault (PayloadChannelSocket × Option Message) :=
  match s.ongoingNotification, s.ongoingRequest with
  | none, none => do
    let s ← s.onHeader lib msg
    return (s, none)
  | some notification, _ =>
    let notification := notification.setPayload msg
    .ok ({ s with ongoingNotification := none }, some (.notification notification))
  | none, some request => do
    let request := request.setPayload msg
    let (_, s) ← (listener request).apply lib request s
    return ({ s with ongoingRequest := none }, some (.request request))

def ongoing (s : PayloadChannelSocket) : Option Message :=
  match s.ongoingNotification, s.ongoingRequest with
  | some notification, _ => some (.notification notification)
  | none, some request => some (.request request)
  | none, none => none

end PayloadChannelSocket

def objectOfHeader (lib : JsonLibrary) (msg : List Byte) : Except Fault (Option Message) :=
  match lib.parse msg with
  | none => .error (.exception "json::parse_error")
  | some data =>
    if PayloadChannelRequest.isRequest data then
      match PayloadChannelRequest.make lib data {} with
      | .ok (_, .ok request) => .ok (some (.request request))
      | _ => .ok none
    else if Notification.isNotification data then
      match Notification.make data with
      | .ok notification => .ok (some (.notification notification))
      | .error _ => .ok none
    else .ok none

/-! ## Runs -/

structure ChannelTrace where
  socket : PayloadChannelSocket := {}
  headerAt : ℕ := 0
  received : ℕ := 0
  delivered : List (Delivery Message) := []

abbrev Listener := List (Delivery Message) → PayloadChannelRequest → RequestOutcome

namespace ChannelTrace

def step (lib : JsonLibrary) (listener : Listener) (t : ChannelTrace) (msg : List Byte) :
    Except Fault ChannelTrace := do
  let (socket, object) ← t.socket.onConsumerSocketMessage lib (listener t.delivered) msg
  return {
    socket
    headerAt := if t.socket.ongoing.isNone then t.received else t.headerAt
    received := t.received + 1
    delivered := t.delivered ++ (object.map (Delivery.mk t.headerAt t.received)).toList }

def abs (t : ChannelTrace) : Receiver Message Message where
  ongoing := t.socket.ongoing.map fun object => (t.headerAt, object)
  received := t.received
  delivered := t.delivered

end ChannelTrace

def PayloadChannelSocket.Inv (s : PayloadChannelSocket) : Prop :=
  ∀ request, s.ongoingRequest = some request → request.replied = false ∧ s.ongoingNotification = none

section Proofs

variable {lib : JsonLibrary} {s : PayloadChannelSocket}

theorem PayloadChannelSocket.send_ongoing (lib : JsonLibrary) (jsonMessage : Json)
    (s : PayloadChannelSocket) : (s.send lib jsonMessage).ongoingNotification = s.ongoingNotification ∧
      (s.send lib jsonMessage).ongoingRequest = s.ongoingRequest := by
  unfold send
  split_ifs <;> exact ⟨rfl, rfl⟩

variable {req : PayloadChannelRequest}

theorem PayloadChannelRequest.respond_of_not_replied (h : req.replied = false) (json : Json)
    (s : PayloadChannelSocket) :
    req.respond lib json s = .ok ({ req with replied := true }, s.send lib json) := by
  unfold respond
  rw [h]
  rfl

theorem PayloadChannelRequest.make_spec (lib : JsonLibrary) (data : Json) (s : PayloadChannelSocket) :
    ∃ s' made, make lib data s = .ok (s', made) ∧
      s'.ongoingNotification = s.ongoingNotification ∧ s'.ongoingRequest = s.ongoingRequest ∧
      (∀ req, made = .ok req → req.replied = false) ∧ ∃ s₀, make lib data {} = .ok (s₀, made) := by
  unfold make
  split
  · exact ⟨_, _, rfl, rfl, rfl, (fun _ h => by cases h), _, rfl⟩
  split
  · exact ⟨_, _, rfl, rfl, rfl, (fun _ h => by cases h), _, rfl⟩
  split
  · unfold error
    rw [respond_of_not_replied rfl, respond_of_not_replied rfl]
    obtain ⟨hnote, hreq⟩ := PayloadChannelSocket.send_ongoing lib _ s
    exact ⟨_, _, rfl, hnote, hreq, (fun _ h => by cases h), _, rfl⟩
  · refine ⟨_, _, rfl, rfl, rfl, fun req h => ?_, _, rfl⟩
    cases h
    rfl

theorem PayloadChannelSocket.ongoing_eq_none_iff :
    s.ongoing = none ↔ s.ongoingNotification = none ∧ s.ongoingRequest = none := by
  unfold ongoing
  cases s.ongoingNotification <;> cases s.ongoingRequest <;> simp

theorem PayloadChannelSocket.onHeader_spec (hnote : s.ongoingNotification = none)
    (hreq : s.ongoingRequest = none) (msg : List Byte) :
    (∃ s', s.onHeader lib msg = .ok s' ∧ objectOfHeader lib msg = .ok s'.ongoing ∧ s'.Inv) ∨
      ∃ fault, s.onHeader lib msg = .error fault ∧ objectOfHeader lib msg = .error fault := by
  have hon : s.ongoing = none := ongoing_eq_none_iff.mpr ⟨hnote, hreq⟩
  have hinv : s.Inv := fun req h => by
    rw [hreq] at h
    cases h
  unfold onHeader objectOfHeader
  cases hparse : lib.parse msg with
  | none => exact .inr ⟨_, rfl, rfl⟩
  | some data =>
    refine .inl ?_
    dsimp only
    split_ifs
    · obtain ⟨s', made, hmake, hn, hr, hreplied, s₀, hmake₀⟩ :=
        PayloadChannelRequest.make_spec lib data s
      rw [hmake, hmake₀]
      cases made with
      | ok req =>
        refine ⟨_, rfl, ?_, ?_⟩
        · unfold ongoing
          dsimp only
          rw [hn, hnote]
        · intro request' h
          cases h
          exact ⟨hreplied req rfl, hn.trans hnote⟩
      | error e =>
        refine ⟨_, rfl, ?_, ?_⟩
        · unfold ongoing
          rw [hn, hr, hnote, hreq]
        · intro request' h
          rw [hr, hreq] at h
          cases h
    · cases Notification.make data with
      | ok note =>
        refine ⟨_, rfl, rfl, fun req h => ?_⟩
        rw [hreq] at h
        cases h
      | error e =>
        refine ⟨s, rfl, ?_, hinv⟩
        rw [hon]
    · refine ⟨s, rfl, ?_, hinv⟩
      rw [hon]

theorem RequestOutcome.apply_spec (h : req.replied = false) (s : PayloadChannelSocket)
    (outcome : RequestOutcome) :
    ∃ req' s', outcome.apply lib req s = .ok (req', s') ∧ s'.ongoingNotification = s.ongoingNotification := by
  have hresp (json : Json) :
      ∃ req' s', req.respond lib json s = .ok (req', s') ∧
        s'.ongoingNotification = s.ongoingNotification := by
    rw [PayloadChannelRequest.respond_of_not_replied h]
    exact ⟨_, _, rfl, (PayloadChannelSocket.send_ongoing lib json s).1⟩
  match outcome with
  | .accepted => exact hresp _
  | .failed _ => exact hresp _
  | .unanswered => exact ⟨_, _, rfl, rfl⟩
  | .thrown (.typeError _) => exact hresp _
  | .thrown (.error _) => exact hresp _

theorem PayloadChannelSocket.onPayload_spec (hinv : s.Inv) {o : Message} (hon : s.ongoing = some o)
    (listener : PayloadChannelRequest → RequestOutcome) (msg : List Byte) :
    ∃ s', s.onConsumerSocketMessage lib listener msg = .ok (s', some (o.setPayload msg)) ∧
      s'.ongoingNotification = none ∧ s'.ongoingRequest = none := by
  unfold ongoing at hon
  unfold onConsumerSocketMessage
  cases hnote : s.ongoingNotification with
  | some note =>
    rw [hnote] at hon
    cases hon
    refine ⟨{ s with ongoingNotification := none }, rfl, rfl, ?_⟩
    cases hreq : s.ongoingRequest with
    | none => rfl
    | some req =>
      have hnone := (hinv req hreq).2
      rw [hnote] at hnone
      cases hnone
  | none =>
    cases hreq : s.ongoingRequest with
    | none =>
      rw [hnote, hreq] at hon
      cases hon
    | some req =>
      rw [hnote, hreq] at hon
      cases hon
      have hreplied : (req.setPayload msg).replied = false := (hinv req hreq).1
      obtain ⟨req', s', happly, hn⟩ :=
        RequestOutcome.apply_spec hreplied s (listener (req.setPayload msg))
      dsimp only
      rw [happly]
      exact ⟨{ s' with ongoingRequest := none }, rfl, hn.trans hnote, rfl⟩

namespace ChannelTrace

variable {listener : Listener} {t t' : ChannelTrace} {msg : List Byte}

theorem step_idle (hon : t.socket.ongoing = none) (msg : List Byte) :
    t.step lib listener msg = (t.socket.onHeader lib msg).map fun socket =>
      { socket, headerAt := t.received, received := t.received + 1, delivered := t.delivered } := by
  have hnone : t.socket.ongoingNotification = none ∧ t.socket.ongoingRequest = none :=
    PayloadChannelSocket.ongoing_eq_none_iff.mp hon
  unfold step PayloadChannelSocket.onConsumerSocketMessage
  rw [hon, hnone.1, hnone.2]
  cases t.socket.onHeader lib msg with
  | error f => rfl
  | ok socket =>
    show Except.ok _ = Except.ok _
    simp

/-- **The socket is a receiver of pairs**, message by message. -/
theorem map_abs_step (hinv : t.socket.Inv) (msg : List Byte) :
    (t.step lib listener msg).map abs = receive (objectOfHeader lib) Message.setPayload t.abs msg := by
  cases hon : t.socket.ongoing with
  | none =>
    obtain ⟨hnote, hreq⟩ := PayloadChannelSocket.ongoing_eq_none_iff.mp hon
    rw [step_idle hon]
    unfold receive abs
    rw [hon]
    rcases PayloadChannelSocket.onHeader_spec hnote hreq msg with
      ⟨s', hs', hobject, -⟩ | ⟨fault, hs', hobject⟩
    · rw [hs', hobject]
      rfl
    · rw [hs', hobject]
      rfl
  | some object =>
    obtain ⟨s', hs', hn, hr⟩ :=
      PayloadChannelSocket.onPayload_spec hinv hon (listener t.delivered) msg
    unfold step receive abs
    rw [hs', hon]
    have hidle : s'.ongoing = none := PayloadChannelSocket.ongoing_eq_none_iff.mpr ⟨hn, hr⟩
    show Except.ok (Receiver.mk (s'.ongoing.map _) _ _) = Except.ok _
    rw [hidle]
    rfl

theorem inv_of_step (hinv : t.socket.Inv) (hstep : t.step lib listener msg = .ok t') : t'.socket.Inv := by
  cases hon : t.socket.ongoing with
  | none =>
    obtain ⟨hnote, hreq⟩ := PayloadChannelSocket.ongoing_eq_none_iff.mp hon
    rw [step_idle hon] at hstep
    rcases PayloadChannelSocket.onHeader_spec hnote hreq msg with
      ⟨s', hs', -, hinv'⟩ | ⟨fault, hs', -⟩
    · rw [hs'] at hstep
      cases hstep
      exact hinv'
    · rw [hs'] at hstep
      cases hstep
  | some object =>
    obtain ⟨s', hs', -, hr⟩ :=
      PayloadChannelSocket.onPayload_spec hinv hon (listener t.delivered) msg
    unfold step at hstep
    rw [hs'] at hstep
    cases hstep
    intro req hreq
    rw [hr] at hreq
    cases hreq

end ChannelTrace

end Proofs

def ChannelTrace.DeliversPairs (lib : JsonLibrary) (pairs : List (List Byte × List Byte))
    (t : ChannelTrace) : Prop :=
  ∀ i header payload object, pairs[i]? = some (header, payload) →
    objectOfHeader lib header = .ok (some object) → (t.delivered.filter fun d => decide (d.header = 2 * i)) =
        [⟨2 * i, 2 * i + 1, object.setPayload payload⟩]

/-- **Pairs over the payload channel**: every pair with a good header is delivered once, with its
own payload, exactly if the pairs are in step. -/
theorem pairs_delivered_iff (lib : JsonLibrary) (listener : Listener)
    (pairs : List (List Byte × List Byte)) :
    (∃ t, run (ChannelTrace.step lib listener) {} (messages pairs) = .ok t ∧ t.DeliversPairs lib pairs) ↔
      InStep (objectOfHeader lib) false pairs := by
  have hinv : ∀ t msg t', PayloadChannelSocket.Inv (ChannelTrace.socket t) →
      t.step lib listener msg = .ok t' → t'.socket.Inv := fun t msg t' h hstep =>
    ChannelTrace.inv_of_step h hstep
  have hmap : (run (ChannelTrace.step lib listener) {} (messages pairs)).map ChannelTrace.abs =
      run (receive (objectOfHeader lib) Message.setPayload) {} (messages pairs) :=
    run_map (fun t msg h => ChannelTrace.map_abs_step h msg) hinv (fun request h => by cases h)
  have hfresh : Receiver.Fresh ({} : Receiver Message Message) :=
    ⟨(fun x hx => by cases hx), (fun d hd => by cases hd)⟩
  refine Iff.trans ?_ (run_messages_iff (objectOfHeader lib) Message.setPayload hfresh pairs)
  rw [← hmap]
  have hdelivers (t : ChannelTrace) : DeliversFrom (objectOfHeader lib) Message.setPayload 0 pairs
      t.abs ↔ t.DeliversPairs lib pairs := by
    unfold DeliversFrom ChannelTrace.DeliversPairs Receiver.deliveriesOf
    simp only [Nat.zero_add]
    rfl
  constructor
  · rintro ⟨t, hrun, h⟩
    exact ⟨t.abs, map_eq_ok.mpr ⟨t, hrun, rfl⟩, (hdelivers t).mpr h⟩
  · rintro ⟨r, hrun, h⟩
    obtain ⟨t, ht, rfl⟩ := map_eq_ok.mp hrun
    exact ⟨t, ht, (hdelivers t).mp h⟩

theorem rejected_header_terminates :
    run (ChannelTrace.step
        { parse := fun msg => if msg = [0x7b, 0x7d] then some (.object []) else none
          dump := fun _ => [] }
        fun _ _ => .accepted) {} (messages [([0x7b, 0x7d], [0x78])]) =
      .error (.exception "json::parse_error") := by
  rfl


end MediasoupWorker.PayloadChannel
