import MediasoupWorker.Library.ObjectGraph
import MediasoupWorker.RTC.ActiveSpeakerObserver
import MediasoupWorker.RTC.AudioLevelObserver

/-!
# The producers, consumers and observers of a router

`src/src/RTC/Router.cpp`, and the parts of `src/src/RTC/Transport.cpp` and `src/src/RTC/Consumer.cpp` that
call it back. A pointer is an address on a heap; `delete` takes an object from it, and what uses an address
that is not on the heap fails. A request that throws leaves behind the state in which it threw.

While a producer is closed the router walks a set with dangling pointers. So there are two invariants:
`Owned`, of transports and consumers throughout, and `Wired`, of the router's maps between the calls. A
transport that is closed is left out until its map is cleared. An active speaker observer may follow a null
pointer; such a run ends there.
-/

namespace MediasoupWorker.RTC

open Library OrderedMap List

/-! ## Objects -/

namespace RouterGraph

abbrev Pointer := ℕ

structure ProducerObject where
  id : String
  kind : Media.Kind
  transport : Pointer
  deriving DecidableEq, Repr

structure ConsumerObject where
  id : String
  transport : Pointer
  deriving DecidableEq, Repr

structure TransportObject where
  id : String
  mapProducers : OrderedMap String Pointer := .empty
  mapConsumers : OrderedMap String Pointer := .empty

inductive Observer where
  | activeSpeaker (o : ActiveSpeakerObserver)
  | audioLevel (o : AudioLevelObserver Pointer)

structure ObserverObject where
  id : String
  observer : Observer

end RouterGraph

open RouterGraph

structure RouterGraph where
  producers : OrderedMap Pointer ProducerObject := .empty
  consumers : OrderedMap Pointer ConsumerObject := .empty
  transports : OrderedMap Pointer TransportObject := .empty
  rtpObservers : OrderedMap Pointer ObserverObject := .empty
  mapTransports : OrderedMap String Pointer := .empty
  mapRtpObservers : OrderedMap String Pointer := .empty
  mapProducerConsumers : OrderedMap Pointer (Finset Pointer) := .empty
  mapConsumerProducer : OrderedMap Pointer Pointer := .empty
  mapProducerRtpObservers : OrderedMap Pointer (Finset Pointer) := .empty
  mapProducers : OrderedMap String Pointer := .empty

namespace RouterGraph

inductive Stop where
  | router (f : Fault)
  | observer (f : Fault)
  deriving DecidableEq, Repr

def Stop.isException : Stop → Bool
  | .router (.error _) => true
  | .router (.typeError _) => true
  | _ => false

abbrev Throwing := Except (Stop × RouterGraph)

structure HashOrder where
  set : Finset Pointer → List Pointer
  nodup_set : ∀ s, (set s).Nodup
  mem_set : ∀ s p, p ∈ set s ↔ p ∈ s
  map : OrderedMap String Pointer → List Pointer
  perm_map : ∀ m, (map m).Perm (m.entries.map Prod.snd)
  speakers : ActiveSpeakerObserver.Iteration

variable (s : RouterGraph)

def fail {α : Type} (f : Fault) : Throwing α := .error (.router f, s)

def check (condition : Bool) (description : String) : Throwing Unit :=
  if condition then .ok () else s.fail (.assertion description)

def deref {α : Type} (heap : OrderedMap Pointer α) (p : Pointer) : Throwing α :=
  match heap.find p with
  | none => s.fail .nullPointer
  | some o => .ok o

def get (map : OrderedMap String Pointer) (id : String) (message : String) : Throwing Pointer :=
  match map.find id with
  | none => s.fail (.error message)
  | some p => .ok p

def modifyTransport (t : Pointer) (f : TransportObject → TransportObject) : Throwing RouterGraph := do
  let transport ← s.deref s.transports t
  return { s with transports := s.transports.insert t (f transport) }

def deleteProducer (producer : Pointer) : RouterGraph :=
  { s with producers := s.producers.erase producer }

def deleteConsumer (consumer : Pointer) : RouterGraph :=
  { s with consumers := s.consumers.erase consumer }

/-! ## The callbacks of the router -/

def onTransportNewProducer (producer : Pointer) : Throwing RouterGraph := do
  s.check (s.mapProducerConsumers.find producer).isNone "Producer already present in mapProducerConsumers"
  let object ← s.deref s.producers producer
  if (s.mapProducers.find object.id).isSome then
    s.fail (.error ("Producer already present in mapProducers [producerId:" ++ object.id ++ "]"))
  else
    return { s with
      mapProducers := s.mapProducers.insert object.id producer
      mapProducerConsumers := s.mapProducerConsumers.insert producer ∅
      mapProducerRtpObservers := s.mapProducerRtpObservers.insert producer
        ((s.mapProducerRtpObservers.find producer).getD ∅) }

def onTransportConsumerProducerClosed (consumer : Pointer) : Throwing RouterGraph := do
  s.check (s.mapConsumerProducer.find consumer).isSome "Consumer not present in mapConsumerProducer"
  return { s with mapConsumerProducer := s.mapConsumerProducer.erase consumer }

def onConsumerProducerClosed (transport consumer : Pointer) : Throwing RouterGraph := do
  let object ← s.deref s.consumers consumer
  let s ← s.modifyTransport transport fun t => { t with mapConsumers := t.mapConsumers.erase object.id }
  let s ← s.onTransportConsumerProducerClosed consumer
  return s.deleteConsumer consumer

def producerClosed (consumer : Pointer) : Throwing RouterGraph := do
  let object ← s.deref s.consumers consumer
  s.onConsumerProducerClosed object.transport consumer

def Observer.removeProducer (order : HashOrder) (now : ℕ) (producer : Pointer) (object : ProducerObject) :
    Observer → Except Fault Observer
  | .activeSpeaker o =>
    (o.removeProducer order.speakers now ⟨object.id, object.kind⟩).map fun result => .activeSpeaker result.1
  | .audioLevel o => .ok (.audioLevel (o.removeProducer producer))

def Observer.addProducer (now : ℕ) (producer : Pointer) (object : ProducerObject) :
    Observer → Except Fault Observer
  | .activeSpeaker o => (o.addProducer now ⟨object.id, object.kind⟩).map .activeSpeaker
  | .audioLevel o => (o.addProducer producer object.kind).map .audioLevel

def removeProducerOf (order : HashOrder) (now : ℕ) (producer rtpObserver : Pointer) : Throwing RouterGraph := do
  let object ← s.deref s.producers producer
  let o ← s.deref s.rtpObservers rtpObserver
  match o.observer.removeProducer order now producer object with
  | .error f => .error (.observer f, s)
  | .ok observer => return { s with rtpObservers := s.rtpObservers.insert rtpObserver { o with observer } }

def onTransportProducerClosed (order : HashOrder) (now : ℕ) (producer : Pointer) : Throwing RouterGraph := do
  let object ← s.deref s.producers producer
  s.check (s.mapProducerConsumers.find producer).isSome "Producer not present in mapProducerConsumers"
  s.check (s.mapProducers.find object.id).isSome "Producer not present in mapProducers"
  s.check (s.mapProducerRtpObservers.find producer).isSome "Producer not present in mapProducerRtpObservers"
  -- The sets are walked while the consumers and the observers are told.
  let consumers := (s.mapProducerConsumers.find producer).getD ∅
  let rtpObservers := (s.mapProducerRtpObservers.find producer).getD ∅
  let s ← (order.set consumers).foldlM producerClosed s
  let s ← (order.set rtpObservers).foldlM (fun s rtpObserver => s.removeProducerOf order now producer rtpObserver) s
  return { s with
    mapProducers := s.mapProducers.erase object.id
    mapProducerConsumers := s.mapProducerConsumers.erase producer
    mapProducerRtpObservers := s.mapProducerRtpObservers.erase producer }

def onTransportNewConsumer (consumer : Pointer) (producerId : String) : Throwing RouterGraph := do
  let producer ← s.get s.mapProducers producerId ("Producer not found [producerId:" ++ producerId ++ "]")
  s.check (s.mapProducerConsumers.find producer).isSome "Producer not present in mapProducerConsumers"
  s.check (s.mapConsumerProducer.find consumer).isNone "Consumer already present in mapConsumerProducer"
  let _ ← s.deref s.producers producer
  let consumers := (s.mapProducerConsumers.find producer).getD ∅
  return { s with
    mapProducerConsumers := s.mapProducerConsumers.insert producer (insert consumer consumers)
    mapConsumerProducer := s.mapConsumerProducer.insert consumer producer }

def onTransportConsumerClosed (consumer : Pointer) : Throwing RouterGraph := do
  s.check (s.mapConsumerProducer.find consumer).isSome "Consumer not present in mapConsumerProducer"
  let producer := (s.mapConsumerProducer.find consumer).getD 0
  s.check (s.mapProducerConsumers.find producer).isSome "Producer not present in mapProducerConsumers"
  let consumers := (s.mapProducerConsumers.find producer).getD ∅
  return { s with
    mapProducerConsumers := s.mapProducerConsumers.insert producer (consumers.erase consumer)
    mapConsumerProducer := s.mapConsumerProducer.erase consumer }

/-! ## Requests -/

def rethrow (undo : RouterGraph → RouterGraph) : Throwing RouterGraph → Throwing RouterGraph
  | .ok s => .ok s
  | .error (stop, s) => .error (stop, if stop.isException then undo s else s)

def produce (transportId producerId : String) (kind : Media.Kind) (address : Pointer) (refusal : Option String) :
    Throwing RouterGraph := do
  let t ← s.get s.mapTransports transportId "Transport not found"
  let transport ← s.deref s.transports t
  if (transport.mapProducers.find producerId).isSome then
    s.fail (.error "a Producer with same producerId already exists")
  else
    match refusal with
    | some message => s.fail (.typeError message)
    | none =>
      let producer := newAddress s.producers address
      let s := { s with producers := s.producers.insert producer ⟨producerId, kind, t⟩ }
      let s ← rethrow (deleteProducer · producer) (s.onTransportNewProducer producer)
      s.modifyTransport t fun o => { o with mapProducers := o.mapProducers.insert producerId producer }

def closeProducer (order : HashOrder) (now : ℕ) (transportId producerId : String) : Throwing RouterGraph := do
  let t ← s.get s.mapTransports transportId "Transport not found"
  let transport ← s.deref s.transports t
  let producer ← s.get transport.mapProducers producerId "Producer not found"
  let object ← s.deref s.producers producer
  let s ← s.modifyTransport t fun o => { o with mapProducers := o.mapProducers.erase object.id }
  let s ← s.onTransportProducerClosed order now producer
  return s.deleteProducer producer

def consume (transportId producerId consumerId : String) (address : Pointer) (refusal : Option String) :
    Throwing RouterGraph := do
  let t ← s.get s.mapTransports transportId "Transport not found"
  let transport ← s.deref s.transports t
  if (transport.mapConsumers.find consumerId).isSome then
    s.fail (.error "a Consumer with same consumerId already exists")
  else
    match refusal with
    | some message => s.fail (.typeError message)
    | none =>
      let consumer := newAddress s.consumers address
      let s := { s with consumers := s.consumers.insert consumer ⟨consumerId, t⟩ }
      let s ← rethrow (deleteConsumer · consumer) (s.onTransportNewConsumer consumer producerId)
      s.modifyTransport t fun o => { o with mapConsumers := o.mapConsumers.insert consumerId consumer }

def closeConsumer (transportId consumerId : String) : Throwing RouterGraph := do
  let t ← s.get s.mapTransports transportId "Transport not found"
  let transport ← s.deref s.transports t
  let consumer ← s.get transport.mapConsumers consumerId "Consumer not found"
  let object ← s.deref s.consumers consumer
  let s ← s.modifyTransport t fun o => { o with mapConsumers := o.mapConsumers.erase object.id }
  let s ← s.onTransportConsumerClosed consumer
  return s.deleteConsumer consumer

def closeOwnProducer (order : HashOrder) (now : ℕ) (producer : Pointer) : Throwing RouterGraph := do
  let s ← s.onTransportProducerClosed order now producer
  return s.deleteProducer producer

def closeOwnConsumer (consumer : Pointer) : Throwing RouterGraph := do
  let s ← s.onTransportConsumerClosed consumer
  return s.deleteConsumer consumer

def closeProducersAndConsumers (order : HashOrder) (now : ℕ) (t : Pointer) : Throwing RouterGraph := do
  let transport ← s.deref s.transports t
  let s ← (order.map transport.mapProducers).foldlM (fun s p => s.closeOwnProducer order now p) s
  let s ← s.modifyTransport t fun o => { o with mapProducers := .empty }
  let transport ← s.deref s.transports t
  let s ← (order.map transport.mapConsumers).foldlM (fun s c => s.closeOwnConsumer c) s
  s.modifyTransport t fun o => { o with mapConsumers := .empty }

def closeTransport (order : HashOrder) (now : ℕ) (transportId : String) : Throwing RouterGraph := do
  let t ← s.get s.mapTransports transportId "Transport not found"
  let s ← s.closeProducersAndConsumers order now t
  let transport ← s.deref s.transports t
  return { s with
    mapTransports := s.mapTransports.erase transport.id
    transports := s.transports.erase t }

def createTransport (transportId : String) (address : Pointer) (refusal : Option String) : Throwing RouterGraph :=
  if (s.mapTransports.find transportId).isSome then
    s.fail (.error "a Transport with same transportId already exists")
  else
    match refusal with
    | some message => s.fail (.typeError message)
    | none =>
      let t := newAddress s.transports address
      return { s with
        transports := s.transports.insert t { id := transportId }
        mapTransports := s.mapTransports.insert transportId t }

def createRtpObserver (rtpObserverId : String) (observer : Observer) (address : Pointer) (refusal : Option String) :
    Throwing RouterGraph :=
  if (s.mapRtpObservers.find rtpObserverId).isSome then
    s.fail (.error "an RtpObserver with same rtpObserverId already exists")
  else
    match refusal with
    | some message => s.fail (.typeError message)
    | none =>
      let o := newAddress s.rtpObservers address
      return { s with
        rtpObservers := s.rtpObservers.insert o ⟨rtpObserverId, observer⟩
        mapRtpObservers := s.mapRtpObservers.insert rtpObserverId o }

def closeRtpObserver (rtpObserverId : String) : Throwing RouterGraph := do
  let o ← s.get s.mapRtpObservers rtpObserverId "RtpObserver not found"
  let object ← s.deref s.rtpObservers o
  return { s with
    mapRtpObservers := s.mapRtpObservers.erase object.id
    mapProducerRtpObservers := s.mapProducerRtpObservers.mapValues fun _ rtpObservers => rtpObservers.erase o
    rtpObservers := s.rtpObservers.erase o }

def addProducer (now : ℕ) (rtpObserverId producerId : String) : Throwing RouterGraph := do
  let o ← s.get s.mapRtpObservers rtpObserverId "RtpObserver not found"
  let producer ← s.get s.mapProducers producerId "Producer not found"
  let object ← s.deref s.rtpObservers o
  let producerObject ← s.deref s.producers producer
  match object.observer.addProducer now producer producerObject with
  | .error f => s.fail f
  | .ok observer =>
    return { s with
      rtpObservers := s.rtpObservers.insert o { object with observer }
      mapProducerRtpObservers := s.mapProducerRtpObservers.insert producer
        (insert o ((s.mapProducerRtpObservers.find producer).getD ∅)) }

def removeProducer (order : HashOrder) (now : ℕ) (rtpObserverId producerId : String) : Throwing RouterGraph := do
  let o ← s.get s.mapRtpObservers rtpObserverId "RtpObserver not found"
  let producer ← s.get s.mapProducers producerId "Producer not found"
  let s ← s.removeProducerOf order now producer o
  return { s with
    mapProducerRtpObservers := s.mapProducerRtpObservers.insert producer
      (((s.mapProducerRtpObservers.find producer).getD ∅).erase o) }

inductive Request where
  | createTransport (transportId : String) (address : Pointer) (refusal : Option String)
  | closeTransport (transportId : String)
  | createRtpObserver (rtpObserverId : String) (observer : Observer) (address : Pointer) (refusal : Option String)
  | closeRtpObserver (rtpObserverId : String)
  | addProducer (rtpObserverId producerId : String)
  | removeProducer (rtpObserverId producerId : String)
  | produce (transportId producerId : String) (kind : Media.Kind) (address : Pointer) (refusal : Option String)
  | closeProducer (transportId producerId : String)
  | consume (transportId producerId consumerId : String) (address : Pointer) (refusal : Option String)
  | closeConsumer (transportId consumerId : String)

def handleRequest (order : HashOrder) (now : ℕ) : Request → Throwing RouterGraph
  | .createTransport transportId address refusal => s.createTransport transportId address refusal
  | .closeTransport transportId => s.closeTransport order now transportId
  | .createRtpObserver rtpObserverId observer address refusal =>
    s.createRtpObserver rtpObserverId observer address refusal
  | .closeRtpObserver rtpObserverId => s.closeRtpObserver rtpObserverId
  | .addProducer rtpObserverId producerId => s.addProducer now rtpObserverId producerId
  | .removeProducer rtpObserverId producerId => s.removeProducer order now rtpObserverId producerId
  | .produce transportId producerId kind address refusal => s.produce transportId producerId kind address refusal
  | .closeProducer transportId producerId => s.closeProducer order now transportId producerId
  | .consume transportId producerId consumerId address refusal =>
    s.consume transportId producerId consumerId address refusal
  | .closeConsumer transportId consumerId => s.closeConsumer transportId consumerId

def answer : Throwing RouterGraph → Except Stop RouterGraph
  | .ok s => .ok s
  | .error (stop, s) => if stop.isException then .ok s else .error stop

def step (order : HashOrder) (event : ℕ × Request) : Except Stop RouterGraph :=
  answer (s.handleRequest order event.1 event.2)

/-! ## Consistency -/

structure Consistent : Prop where
  inverse : ∀ p c, (∃ consumers, s.mapProducerConsumers.find p = some consumers ∧ c ∈ consumers) ↔
    s.mapConsumerProducer.find c = some p
  producers_alive : ∀ id p, s.mapProducers.find id = some p → s.producers.find p ≠ none
  producerConsumers_alive : ∀ p consumers, s.mapProducerConsumers.find p = some consumers →
    s.producers.find p ≠ none ∧ ∀ c ∈ consumers, s.consumers.find c ≠ none
  consumerProducer_alive : ∀ c p, s.mapConsumerProducer.find c = some p →
    s.consumers.find c ≠ none ∧ s.producers.find p ≠ none
  producerRtpObservers_alive : ∀ p rtpObservers, s.mapProducerRtpObservers.find p = some rtpObservers →
    s.producers.find p ≠ none ∧ ∀ o ∈ rtpObservers, s.rtpObservers.find o ≠ none
  rtpObservers_alive : ∀ id o, s.mapRtpObservers.find id = some o → s.rtpObservers.find o ≠ none
  transports_alive : ∀ id t, s.mapTransports.find id = some t → s.transports.find t ≠ none

structure Owned (leftProducers leftConsumers : Option Pointer) : Prop where
  transports : Names TransportObject.id (fun _ => True) s.mapTransports s.transports
  ownsProducers : Owns ProducerObject.transport ProducerObject.id TransportObject.mapProducers leftProducers
    s.transports s.producers
  ownsConsumers : Owns ConsumerObject.transport ConsumerObject.id TransportObject.mapConsumers leftConsumers
    s.transports s.consumers
  housedProducers : Housed ProducerObject.transport s.transports s.producers
  housedConsumers : Housed ConsumerObject.transport s.transports s.consumers
  consumers : SameKeys s.mapConsumerProducer s.consumers

structure Wired (leftProducers leftConsumers : Option Pointer) : Prop
    extends Owned s leftProducers leftConsumers where
  producers : Names ProducerObject.id (fun _ => True) s.mapProducers s.producers
  producerConsumers : SameKeys s.mapProducerConsumers s.producers
  producerRtpObservers : SameKeys s.mapProducerRtpObservers s.producers
  links : Links s.mapConsumerProducer s.mapProducerConsumers
  rtpObservers : Names ObserverObject.id (fun _ => True) s.mapRtpObservers s.rtpObservers
  watchers : ∀ p rtpObservers o, s.mapProducerRtpObservers.find p = some rtpObservers → o ∈ rtpObservers →
    s.rtpObservers.find o ≠ none

section

variable {s} {leftProducers leftConsumers : Option Pointer}

theorem Wired.consistent (h : Wired s leftProducers leftConsumers) : Consistent s where
  inverse p c := (h.links c p).symm
  producers_alive id p hp := by
    obtain ⟨o, ho, -⟩ := (h.producers id p).mp hp
    simp [ho]
  producerConsumers_alive p cs hp := by
    obtain ⟨o, ho⟩ := h.producerConsumers.exists_right hp
    refine ⟨by simp [ho], fun c hc => ?_⟩
    obtain ⟨o, ho⟩ := h.consumers.exists_right ((h.links c p).mpr ⟨cs, hp, hc⟩)
    simp [ho]
  consumerProducer_alive c p hc := by
    obtain ⟨o, ho⟩ := h.consumers.exists_right hc
    obtain ⟨cs, hp, -⟩ := (h.links c p).mp hc
    obtain ⟨q, hq⟩ := h.producerConsumers.exists_right hp
    simp [ho, hq]
  producerRtpObservers_alive p rtpObservers hp := by
    obtain ⟨o, ho⟩ := h.producerRtpObservers.exists_right hp
    exact ⟨by simp [ho], fun o hmem => h.watchers p rtpObservers o hp hmem⟩
  rtpObservers_alive id o hfind := by
    obtain ⟨object, hobj, -⟩ := (h.rtpObservers id o).mp hfind
    simp [hobj]
  transports_alive id t hfind := by
    obtain ⟨object, hobj, -⟩ := (h.transports id t).mp hfind
    simp [hobj]

@[simp] theorem check_true (s : RouterGraph) (desc : String) : s.check true desc = .ok () := rfl

variable {p t : Pointer} {order : HashOrder} {now : ℕ}

theorem deref_of_find {α : Type} {heap : OrderedMap Pointer α} {o : α} (h : heap.find p = some o) :
    s.deref heap p = .ok o := by
  rw [deref, h]

variable {o : TransportObject}

theorem modifyTransport_of_find (h : s.transports.find t = some o) (f : TransportObject → TransportObject) :
    s.modifyTransport t f = .ok { s with transports := s.transports.insert t (f o) } := by
  rw [modifyTransport, deref_of_find h]
  rfl

variable {P : RouterGraph → Prop}

theorem modifyTransport_meets {f : TransportObject → TransportObject} {Q : Stop × RouterGraph → Prop}
    (h : s.transports.find t = some o) (hP : P { s with transports := s.transports.insert t (f o) }) :
    Meets P Q (s.modifyTransport t f) := by
  rw [modifyTransport_of_find h]
  exact hP

/-! ## Closing the consumers of a producer -/

def KeepsProducers (transports transports' : OrderedMap Pointer TransportObject) : Prop :=
  ∀ t, (transports'.find t).map TransportObject.mapProducers =
    (transports.find t).map TransportObject.mapProducers

theorem keepsProducers_insert {ts : OrderedMap Pointer TransportObject} {o' : TransportObject}
    (ht : ts.find t = some o) (ho : o'.mapProducers = o.mapProducers) :
    KeepsProducers ts (ts.insert t o') := by
  intro t'
  rw [find_insert]
  split
  · next heq => rw [heq, ht, Option.map_some, Option.map_some, ho]
  · rfl

/-- **One consumer is closed**: it is gone, from the heap, from its transport and from one of the two maps of the
router. -/
theorem producerClosed_ok {c : Pointer} {object : ConsumerObject} (h : Owned s leftProducers leftConsumers)
    (hc : s.consumers.find c = some object) : ∃ transports, s.producerClosed c = .ok { s with
        transports
        consumers := s.consumers.erase c
        mapConsumerProducer := s.mapConsumerProducer.erase c } ∧ KeepsProducers s.transports transports ∧
      Owned { s with
        transports
        consumers := s.consumers.erase c
        mapConsumerProducer := s.mapConsumerProducer.erase c } leftProducers leftConsumers := by
  obtain ⟨o, ho⟩ := Option.ne_none_iff_exists'.mp (h.housedConsumers c object hc)
  obtain ⟨p, hp⟩ := h.consumers.exists_left hc
  refine ⟨s.transports.insert object.transport { o with mapConsumers := o.mapConsumers.erase object.id },
    ?_, keepsProducers_insert ho rfl, ?_⟩
  · simp only [producerClosed, onConsumerProducerClosed, deref_of_find hc, ok_bind,
      modifyTransport_of_find ho, onTransportConsumerProducerClosed, hp, Option.isSome_some, check_true]
    rfl
  · exact {
      transports := h.transports.update ho rfl Iff.rfl
      ownsProducers := h.ownsProducers.update_of_eq ho rfl
      ownsConsumers := h.ownsConsumers.remove ho hc rfl
      housedProducers := h.housedProducers.insert_owner _ _
      housedConsumers := (h.housedConsumers.insert_owner _ _).erase c
      consumers := h.consumers.erase c }

theorem foldlM_producerClosed_ok (l : List Pointer) (hnd : l.Nodup) (h : Owned s leftProducers leftConsumers)
    (hl : ∀ c ∈ l, s.consumers.find c ≠ none) : ∃ ts consumers mapConsumerProducer,
      l.foldlM producerClosed s = .ok { s with transports := ts, consumers, mapConsumerProducer } ∧
      KeepsProducers s.transports ts ∧
      (∀ c, mapConsumerProducer.find c = if c ∈ l then none else s.mapConsumerProducer.find c) ∧
      Owned { s with transports := ts, consumers, mapConsumerProducer } leftProducers leftConsumers := by
  induction l generalizing s with
  | nil => exact ⟨s.transports, s.consumers, s.mapConsumerProducer, rfl, fun _ => rfl, by simp, h⟩
  | cons c l ih =>
    obtain ⟨hnot, hnd⟩ := nodup_cons.mp hnd
    obtain ⟨object, hc⟩ := Option.ne_none_iff_exists'.mp (hl c (by simp))
    obtain ⟨ts₁, hok₁, hkeep₁, howned₁⟩ := producerClosed_ok h hc
    obtain ⟨ts, consumers, mapConsumerProducer, hok, hkeep, hgone, howned⟩ := ih hnd howned₁ (by
      intro d hd
      rw [find_erase, if_neg (by rintro rfl; exact hnot hd)]
      exact hl d (mem_cons_of_mem c hd))
    refine ⟨ts, consumers, mapConsumerProducer, ?_, fun t => (hkeep t).trans (hkeep₁ t), ?_, howned⟩
    · rw [foldlM_cons, hok₁, ok_bind, hok]
    · intro d
      rw [hgone d, find_erase]
      by_cases hd : d = c
      · subst hd
        simp
      · simp [hd]

/-! ## Telling the observers -/

def Crashed (e : Stop × RouterGraph) : Prop := ∃ f, e.1 = .observer f

def Told (s s' : RouterGraph) : Prop :=
  ∃ rtpObservers, s' = { s with rtpObservers } ∧ SameKeys rtpObservers s.rtpObservers ∧
    Names ObserverObject.id (fun _ => True) s.mapRtpObservers rtpObservers

variable {obj : ProducerObject}

theorem removeProducerOf_meets {o : Pointer} (hp : s.producers.find p = some obj)
    (ho : s.rtpObservers.find o ≠ none)
    (hnames : Names ObserverObject.id (fun _ => True) s.mapRtpObservers s.rtpObservers) :
    Meets (Told s) Crashed (s.removeProducerOf order now p o) := by
  obtain ⟨watcher, hw⟩ := Option.ne_none_iff_exists'.mp ho
  rw [removeProducerOf, deref_of_find hp, ok_bind, deref_of_find hw, ok_bind]
  cases watcher.observer.removeProducer order now p obj with
  | error f => exact ⟨f, rfl⟩
  | ok obs =>
    refine ⟨_, rfl, ?_, hnames.update hw rfl Iff.rfl⟩
    exact SameKeys.update_left (fun _ => Iff.rfl) ho _

theorem foldlM_removeProducerOf_meets (l : List Pointer) (hp : s.producers.find p = some obj)
    (hl : ∀ o ∈ l, s.rtpObservers.find o ≠ none)
    (hnames : Names ObserverObject.id (fun _ => True) s.mapRtpObservers s.rtpObservers) :
    Meets (Told s) Crashed (l.foldlM (fun s o => s.removeProducerOf order now p o) s) := by
  induction l generalizing s with
  | nil => exact ⟨s.rtpObservers, rfl, fun _ => Iff.rfl, hnames⟩
  | cons o l ih =>
    rw [foldlM_cons]
    refine (removeProducerOf_meets hp (hl o (by simp)) hnames).bind ?_
    rintro _ ⟨obs, rfl, hkeys, hnames'⟩
    have hl' : ∀ o' ∈ l, obs.find o' ≠ none := fun o' ho' =>
      mt (hkeys o').mp (hl o' (mem_cons_of_mem o ho'))
    refine (ih (s := { s with rtpObservers := obs }) hp hl' hnames').mono ?_ fun _ hcrash => hcrash
    rintro _ ⟨obs', rfl, hkeys', hnames''⟩
    exact ⟨obs', rfl, fun k => (hkeys' k).trans (hkeys k), hnames''⟩

structure ProducerGone (s : RouterGraph) (p t : Pointer) (leftConsumers : Option Pointer) (s' : RouterGraph) :
    Prop where
  producers : s'.producers = s.producers
  transports : KeepsProducers s.transports s'.transports
  wired : Wired (s'.deleteProducer p) (some t) leftConsumers

/-- **A producer is closed**, with all that it calls back. -/
theorem onTransportProducerClosed_meets (h : Wired s (some obj.transport) leftConsumers)
    (hp : s.producers.find p = some obj) : Meets (ProducerGone s p obj.transport leftConsumers) Crashed
      (s.onTransportProducerClosed order now p) := by
  obtain ⟨cs, hcons⟩ := h.producerConsumers.exists_left hp
  obtain ⟨watchers, hws⟩ := h.producerRtpObservers.exists_left hp
  have hid := h.producers.find hp trivial
  have halive : ∀ c ∈ order.set cs, s.consumers.find c ≠ none := fun c hc =>
    (h.consistent.producerConsumers_alive p cs hcons).2 c ((order.mem_set _ _).mp hc)
  obtain ⟨transports, cs', mapConsumerProducer, hok, hkeep, hgone, howned⟩ :=
    foldlM_producerClosed_ok (order.set cs) (order.nodup_set _) h.toOwned halive
  simp only [order.mem_set] at hgone
  simp only [onTransportProducerClosed, deref_of_find hp, ok_bind, hcons, hid, hws, Option.isSome_some,
    check_true, Option.getD_some, hok]
  refine (foldlM_removeProducerOf_meets (s := { s with transports, consumers := cs', mapConsumerProducer })
    (order.set watchers) hp ?_ h.rtpObservers).bind ?_
  · intro o ho
    exact h.watchers p watchers o hws ((order.mem_set _ _).mp ho)
  rintro _ ⟨obs, rfl, hkeys, hnames⟩
  refine ⟨rfl, hkeep, ?_⟩
  exact {
    transports := howned.transports
    ownsProducers := howned.ownsProducers.erase hp
    ownsConsumers := howned.ownsConsumers
    housedProducers := howned.housedProducers.erase p
    housedConsumers := howned.housedConsumers
    consumers := howned.consumers
    producers := h.producers.erase hp trivial
    producerConsumers := h.producerConsumers.erase p
    producerRtpObservers := h.producerRtpObservers.erase p
    links := h.links.removeTarget hcons hgone
    rtpObservers := hnames
    watchers := by
      intro q os o hq ho
      exact mt (hkeys o).mp (h.watchers q os o (find_eq_some_of_erase hq).2 ho) }

/-! ## Requests that keep the objects wired -/

def Excused (e : Stop × RouterGraph) : Prop := Crashed e ∨ e.1.isException = true ∧ Wired e.2 none none

theorem Observer.isException_of_addProducer {o : Observer} {f : Fault}
    (h : o.addProducer now p obj = .error f) : (Stop.router f).isException = true := by
  cases o with
  | activeSpeaker o =>
    simp only [Observer.addProducer, ActiveSpeakerObserver.addProducer, throwTypeErrorIf, throwTypeError] at h
    split at h
    · cases h
      rfl
    · rw [ok_bind] at h
      split at h
      · cases h
        rfl
      · cases h
  | audioLevel o =>
    simp only [Observer.addProducer, AudioLevelObserver.addProducer, throwTypeErrorIf, throwTypeError] at h
    split at h
    · cases h
      rfl
    · cases h

section

variable (h : Wired s none none)

include h

theorem excused_fail {α : Type} {f : Fault} (hf : (Stop.router f).isException = true) {P : α → Prop} :
    Meets P Excused (s.fail f : Throwing α) :=
  .inr ⟨hf, h⟩

theorem get_meets (map : OrderedMap String Pointer) (id msg : String) :
    Meets (fun p => map.find id = some p) Excused (s.get map id msg) := by
  unfold get
  cases hfind : map.find id with
  | none => exact excused_fail h rfl
  | some p => rfl

theorem get_transport_meets {tid : String} {rest : Pointer → Throwing RouterGraph}
    (hrest : ∀ t o, s.transports.find t = some o → o.id = tid → Meets P Excused (rest t)) :
    Meets P Excused (s.get s.mapTransports tid "Transport not found" >>= rest) := by
  refine (get_meets h _ _ _).bind fun t ht => ?_
  obtain ⟨o, ho, -, hid⟩ := (h.transports _ _).mp ht
  exact hrest t o ho hid

theorem refuse_meets {found : Option Pointer} {refusal : Option String} {msg : String}
    {rest : Throwing RouterGraph} (hrest : found = none → Meets P Excused rest) :
    Meets P Excused (if found.isSome then s.fail (.error msg)
      else match refusal with
        | some msg => s.fail (.typeError msg)
        | none => rest) := by
  split
  · exact excused_fail h rfl
  · next hnew =>
    cases refusal with
    | some msg => exact excused_fail h rfl
    | none => exact hrest (by simpa using hnew)

/-- **An observer is told to watch other producers**, and stays where it is. -/
theorem watch {rtpObservers : OrderedMap Pointer ObserverObject} {os : Finset Pointer}
    (hp : s.producers.find p ≠ none) (htold : Told s { s with rtpObservers })
    (hos : ∀ o ∈ os, s.rtpObservers.find o ≠ none) :
    Wired { s with rtpObservers, mapProducerRtpObservers := s.mapProducerRtpObservers.insert p os } none none := by
  obtain ⟨_, hsame, hkeys, hnames⟩ := htold
  cases hsame
  exact {
    h with
    producerRtpObservers := h.producerRtpObservers.update_left hp _
    rtpObservers := hnames
    watchers := by
      intro q os' o hq ho
      rw [find_insert] at hq
      refine mt (hkeys o).mp ?_
      split at hq
      · cases hq
        exact hos o ho
      · exact h.watchers q os' o hq ho }

theorem alive_of_watches {o : Pointer} (ho : o ∈ (s.mapProducerRtpObservers.find p).getD ∅) :
    s.rtpObservers.find o ≠ none := by
  cases hos : s.mapProducerRtpObservers.find p with
  | none => simp [hos] at ho
  | some os => exact h.watchers p os o hos (by simpa [hos] using ho)

theorem createTransport_meets (tid : String) (addr : Pointer) (refusal : Option String) :
    Meets (Wired · none none) Excused (s.createTransport tid addr refusal) := by
  have hfree := find_newAddress s.transports addr
  refine refuse_meets h fun hnew => ?_
  exact {
    h with
    transports := h.transports.insert (o := { id := tid }) hfree trivial hnew
    ownsProducers := h.ownsProducers.addOwner h.housedProducers hfree rfl
    ownsConsumers := h.ownsConsumers.addOwner h.housedConsumers hfree rfl
    housedProducers := h.housedProducers.insert_owner _ _
    housedConsumers := h.housedConsumers.insert_owner _ _ }

theorem createRtpObserver_meets (oid : String) (obs : Observer) (addr : Pointer) (refusal : Option String) :
    Meets (Wired · none none) Excused (s.createRtpObserver oid obs addr refusal) := by
  have hfree := find_newAddress s.rtpObservers addr
  refine refuse_meets h fun hnew => ?_
  exact {
    h with
    rtpObservers := h.rtpObservers.insert (o := ⟨oid, obs⟩) hfree trivial hnew
    watchers := fun p os o hp ho => find_insert_ne_none _ _ _ (h.watchers p os o hp ho) }

theorem closeRtpObserver_meets (oid : String) :
    Meets (Wired · none none) Excused (s.closeRtpObserver oid) := by
  refine (get_meets h _ _ _).bind fun o ho => ?_
  obtain ⟨obj, hobj, -, hid⟩ := (h.rtpObservers _ _).mp ho
  rw [deref_of_find hobj, ok_bind]
  exact {
    h with
    producerRtpObservers := h.producerRtpObservers.mapValues _
    rtpObservers := h.rtpObservers.erase hobj trivial
    watchers := by
      intro p os o' hp ho'
      simp only [find_mapValues, Option.map_eq_some_iff] at hp
      obtain ⟨os, hp, rfl⟩ := hp
      obtain ⟨hne, ho'⟩ := Finset.mem_erase.mp ho'
      rw [find_erase, if_neg hne]
      exact h.watchers p os o' hp ho' }

theorem addProducer_meets (now : ℕ) (oid pid : String) :
    Meets (Wired · none none) Excused (s.addProducer now oid pid) := by
  refine (get_meets h _ _ _).bind fun o ho => (get_meets h _ _ _).bind fun p hp => ?_
  obtain ⟨watcher, hw, -, -⟩ := (h.rtpObservers _ _).mp ho
  obtain ⟨obj, hobj, -, -⟩ := (h.producers _ _).mp hp
  rw [deref_of_find hw, ok_bind, deref_of_find hobj, ok_bind]
  cases hadd : watcher.observer.addProducer now p obj with
  | error f => exact excused_fail h (Observer.isException_of_addProducer hadd)
  | ok obs =>
    have halive : s.rtpObservers.find o ≠ none := by simp [hw]
    refine watch h (by simp [hobj]) ⟨_, rfl, SameKeys.update_left (fun _ => Iff.rfl) halive _,
      h.rtpObservers.update hw rfl Iff.rfl⟩ fun o' ho' => ?_
    rcases Finset.mem_insert.mp ho' with rfl | ho'
    · exact halive
    · exact alive_of_watches h ho'

theorem removeProducer_meets (order : HashOrder) (now : ℕ) (oid pid : String) :
    Meets (Wired · none none) Excused (s.removeProducer order now oid pid) := by
  refine (get_meets h _ _ _).bind fun o ho => (get_meets h _ _ _).bind fun p hp => ?_
  obtain ⟨watcher, hw, -, -⟩ := (h.rtpObservers _ _).mp ho
  obtain ⟨obj, hobj, -, -⟩ := (h.producers _ _).mp hp
  have halive : s.rtpObservers.find o ≠ none := by simp [hw]
  refine ((removeProducerOf_meets hobj halive h.rtpObservers).mono (fun _ h => h)
    fun _ hcrash => .inl hcrash).bind ?_
  rintro _ ⟨obs, rfl, htold⟩
  exact watch h (by simp [hobj]) ⟨obs, rfl, htold⟩ fun o' ho' =>
    alive_of_watches h (Finset.mem_of_mem_erase ho')

/-- **A producer comes.** One whose id is taken is deleted again. -/
theorem produce_meets (tid pid : String) (kind : Media.Kind) (addr : Pointer) (refusal : Option String) :
    Meets (Wired · none none) Excused (s.produce tid pid kind addr refusal) := by
  refine get_transport_meets h fun t o ho hid => ?_
  rw [deref_of_find ho, ok_bind]
  refine refuse_meets h fun hnew => ?_
  have hfree := find_newAddress s.producers addr
  have hback := erase_insert_newAddress s.producers addr ⟨pid, kind, t⟩
  dsimp only
  generalize newAddress s.producers addr = p at hfree hback ⊢
  have hcons : s.mapProducerConsumers.find p = none := (h.producerConsumers p).mpr hfree
  have hws : s.mapProducerRtpObservers.find p = none := (h.producerRtpObservers p).mpr hfree
  simp only [onTransportNewProducer, hcons, Option.isNone_none, check_true, ok_bind, hws,
    deref_of_find (find_insert_self _ _ _), Option.getD_none]
  split
  · -- A producer of another transport has the id.
    refine .inr ⟨rfl, ?_⟩
    show Wired { s with producers := (s.producers.insert p ⟨pid, kind, t⟩).erase p } none none
    rw [hback]
    exact h
  · next hother =>
    have hother : s.mapProducers.find pid = none := by simpa using hother
    exact modifyTransport_meets (o := o) ho {
      transports := h.transports.update ho rfl Iff.rfl
      ownsProducers := h.ownsProducers.add (q := ⟨pid, kind, t⟩) ho hfree hnew rfl
      ownsConsumers := h.ownsConsumers.update_of_eq ho rfl
      housedProducers := (h.housedProducers.insert (by simp [ho]) p).insert_owner _ _
      housedConsumers := h.housedConsumers.insert_owner _ _
      consumers := h.consumers
      producers := h.producers.insert (o := ⟨pid, kind, t⟩) hfree trivial hother
      producerConsumers := h.producerConsumers.insert _ _ _
      producerRtpObservers := h.producerRtpObservers.insert _ _ _
      links := h.links.addTarget hcons
      rtpObservers := h.rtpObservers
      watchers := by
        intro q os o' hq ho'
        rw [find_insert] at hq
        split at hq
        · cases hq
          simp at ho'
        · exact h.watchers q os o' hq ho' }

/-- **A consumer comes.** One whose producer is not there is deleted again. -/
theorem consume_meets (tid pid cid : String) (addr : Pointer) (refusal : Option String) :
    Meets (Wired · none none) Excused (s.consume tid pid cid addr refusal) := by
  refine get_transport_meets h fun t o ho hid => ?_
  rw [deref_of_find ho, ok_bind]
  refine refuse_meets h fun hnew => ?_
  have hfree := find_newAddress s.consumers addr
  have hback := erase_insert_newAddress s.consumers addr ⟨cid, t⟩
  dsimp only
  generalize newAddress s.consumers addr = c at hfree hback ⊢
  have hlink : s.mapConsumerProducer.find c = none := (h.consumers c).mpr hfree
  simp only [onTransportNewConsumer, get]
  cases hp : s.mapProducers.find pid with
  | none =>
    refine .inr ⟨rfl, ?_⟩
    show Wired { s with consumers := (s.consumers.insert c ⟨cid, t⟩).erase c } none none
    rw [hback]
    exact h
  | some p =>
    obtain ⟨obj, hobj, -, -⟩ := (h.producers _ _).mp hp
    obtain ⟨cs, hcons⟩ := h.producerConsumers.exists_left hobj
    simp only [ok_bind, hcons, Option.isSome_some, check_true, hlink, Option.isNone_none,
      deref_of_find hobj, Option.getD_some]
    exact modifyTransport_meets (o := o) ho {
      h with
      transports := h.transports.update ho rfl Iff.rfl
      ownsProducers := h.ownsProducers.update_of_eq ho rfl
      ownsConsumers := h.ownsConsumers.add (q := ⟨cid, t⟩) ho hfree hnew rfl
      housedProducers := h.housedProducers.insert_owner _ _
      housedConsumers := (h.housedConsumers.insert (by simp [ho]) c).insert_owner _ _
      consumers := h.consumers.insert _ _ _
      producerConsumers := h.producerConsumers.update_left (by simp [hobj]) _
      links := h.links.link hlink hcons }

end

/-! ## Requests that close -/

theorem Wired.leaveOutProducers (h : Wired s none leftConsumers) (t : Pointer) :
    Wired s (some t) leftConsumers :=
  { h with ownsProducers := h.ownsProducers.leaveOut t }

theorem Wired.leaveOutConsumers (h : Wired s leftProducers none) (t : Pointer) :
    Wired s leftProducers (some t) :=
  { h with ownsConsumers := h.ownsConsumers.leaveOut t }

theorem Wired.setMapProducers (h : Wired s (some t) leftConsumers) (ho : s.transports.find t = some o)
    (m : OrderedMap String Pointer) :
    Wired { s with transports := s.transports.insert t { o with mapProducers := m } } (some t) leftConsumers :=
  { h with
    transports := h.transports.update ho rfl Iff.rfl
    ownsProducers := h.ownsProducers.update fun hout => absurd rfl hout
    ownsConsumers := h.ownsConsumers.update_of_eq ho rfl
    housedProducers := h.housedProducers.insert_owner _ _
    housedConsumers := h.housedConsumers.insert_owner _ _ }

theorem Wired.setMapConsumers (h : Wired s leftProducers (some t)) (ho : s.transports.find t = some o)
    (m : OrderedMap String Pointer) :
    Wired { s with transports := s.transports.insert t { o with mapConsumers := m } } leftProducers (some t) :=
  { h with
    transports := h.transports.update ho rfl Iff.rfl
    ownsProducers := h.ownsProducers.update_of_eq ho rfl
    ownsConsumers := h.ownsConsumers.update fun hout => absurd rfl hout
    housedProducers := h.housedProducers.insert_owner _ _
    housedConsumers := h.housedConsumers.insert_owner _ _ }

theorem Wired.restoreProducers (h : Wired s (some t) leftConsumers) (ht : ∀ o, s.transports.find t = some o →
      Names ProducerObject.id (ProducerObject.transport · = t) o.mapProducers s.producers) :
    Wired s none leftConsumers :=
  { h with ownsProducers := h.ownsProducers.restore ht }

theorem Wired.restoreConsumers (h : Wired s leftProducers (some t)) (ht : ∀ o, s.transports.find t = some o →
      Names ConsumerObject.id (ConsumerObject.transport · = t) o.mapConsumers s.consumers) :
    Wired s leftProducers none :=
  { h with ownsConsumers := h.ownsConsumers.restore ht }

theorem crashed_excused {x : Throwing RouterGraph} (h : Meets P Crashed x) : Meets P Excused x :=
  h.mono (fun _ h => h) fun _ hcrash => .inl hcrash

theorem closeProducer_meets (h : Wired s none none) (order : HashOrder) (now : ℕ) (tid pid : String) :
    Meets (Wired · none none) Excused (s.closeProducer order now tid pid) := by
  refine get_transport_meets h fun t o ho hid => ?_
  rw [deref_of_find ho, ok_bind]
  refine (get_meets h _ _ _).bind fun p hp => ?_
  have hnames := h.ownsProducers t o (by simp) ho
  obtain ⟨obj, hobj, rfl, rfl⟩ := (hnames _ _).mp hp
  rw [deref_of_find hobj, ok_bind, modifyTransport_of_find ho, ok_bind]
  have hleft := (h.leaveOutProducers obj.transport).setMapProducers ho (o.mapProducers.erase obj.id)
  refine (crashed_excused (onTransportProducerClosed_meets hleft hobj)).bind fun s' hs' => ?_
  refine hs'.wired.restoreProducers fun o' ho' => ?_
  -- The map of the transport is what it was made before the router was told.
  have hsame := hs'.transports obj.transport
  rw [show s'.transports.find obj.transport = some o' from ho', find_insert_self] at hsame
  have hmap : o'.mapProducers = o.mapProducers.erase obj.id := Option.some.inj hsame
  show Names _ _ o'.mapProducers (s'.producers.erase p)
  rw [hmap, hs'.producers]
  exact hnames.erase hobj rfl

structure ConsumerGone (s : RouterGraph) (c t : Pointer) (leftProducers : Option Pointer) (s' : RouterGraph) :
    Prop where
  producers : s'.producers = s.producers
  consumers : s'.consumers = s.consumers
  transports : s'.transports = s.transports
  wired : Wired (s'.deleteConsumer c) leftProducers (some t)

/-- **A consumer is closed**, and its producer stays. -/
theorem onTransportConsumerClosed_ok {c : Pointer} {obj : ConsumerObject}
    (h : Wired s leftProducers (some obj.transport)) (hc : s.consumers.find c = some obj) :
    ∃ s', s.onTransportConsumerClosed c = .ok s' ∧ ConsumerGone s c obj.transport leftProducers s' := by
  obtain ⟨p, hp⟩ := h.consumers.exists_left hc
  obtain ⟨cs, hcons, -⟩ := (h.links c p).mp hp
  obtain ⟨q, hq⟩ := h.producerConsumers.exists_right hcons
  simp only [onTransportConsumerClosed, hp, Option.isSome_some, check_true, ok_bind, Option.getD_some, hcons]
  refine ⟨_, rfl, rfl, rfl, rfl, ?_⟩
  exact {
    h with
    ownsConsumers := h.ownsConsumers.erase hc
    housedConsumers := h.housedConsumers.erase c
    consumers := h.consumers.erase c
    producerConsumers := h.producerConsumers.update_left (by simp [hq]) _
    links := h.links.unlink hp hcons }

theorem closeConsumer_meets (h : Wired s none none) (tid cid : String) :
    Meets (Wired · none none) Excused (s.closeConsumer tid cid) := by
  refine get_transport_meets h fun t o ho hid => ?_
  rw [deref_of_find ho, ok_bind]
  refine (get_meets h _ _ _).bind fun c hc => ?_
  have hnames := h.ownsConsumers t o (by simp) ho
  obtain ⟨obj, hobj, rfl, rfl⟩ := (hnames _ _).mp hc
  rw [deref_of_find hobj, ok_bind, modifyTransport_of_find ho, ok_bind]
  have hleft := (h.leaveOutConsumers obj.transport).setMapConsumers ho (o.mapConsumers.erase obj.id)
  obtain ⟨s', hok, hs'⟩ := onTransportConsumerClosed_ok hleft hobj
  rw [hok, ok_bind]
  refine hs'.wired.restoreConsumers fun o' ho' => ?_
  have hsame : s'.transports.find obj.transport = some o' := ho'
  rw [hs'.transports, find_insert_self] at hsame
  cases hsame
  show Names _ _ (o.mapConsumers.erase obj.id) (s'.consumers.erase c)
  rw [hs'.consumers]
  exact hnames.erase hobj rfl

theorem foldlM_closeOwnProducer_meets (l : List Pointer) (hnd : l.Nodup) (h : Wired s (some t) leftConsumers)
    (ht : s.transports.find t ≠ none)
    (hl : ∀ p, p ∈ l ↔ ∃ obj, s.producers.find p = some obj ∧ obj.transport = t) :
    Meets (fun s' => Wired s' (some t) leftConsumers ∧ s'.transports.find t ≠ none ∧
      ∀ p obj, s'.producers.find p = some obj → obj.transport ≠ t) Crashed
      (l.foldlM (fun s p => s.closeOwnProducer order now p) s) := by
  induction l generalizing s with
  | nil =>
    refine ⟨h, ht, fun p obj hp htr => ?_⟩
    exact absurd ((hl p).mpr ⟨obj, hp, htr⟩) not_mem_nil
  | cons p l ih =>
    obtain ⟨hnot, hnd⟩ := nodup_cons.mp hnd
    obtain ⟨obj, hp, rfl⟩ := (hl p).mp (by simp)
    rw [foldlM_cons, closeOwnProducer, bind_assoc]
    refine (onTransportProducerClosed_meets h hp).bind fun s' hs' => ?_
    refine ih hnd hs'.wired ?_ fun q => ?_
    · intro hnone
      have hsame := hs'.transports obj.transport
      rw [show s'.transports.find obj.transport = none from hnone] at hsame
      exact ht (Option.map_eq_none_iff.mp hsame.symm)
    · show q ∈ l ↔ ∃ o, (s'.producers.erase p).find q = some o ∧ _
      rw [hs'.producers]
      exact mem_iff_of_erase hnot hl q

theorem foldlM_closeOwnConsumer_ok (l : List Pointer) (hnd : l.Nodup) (h : Wired s leftProducers (some t))
    (hl : ∀ c, c ∈ l ↔ ∃ obj, s.consumers.find c = some obj ∧ obj.transport = t) :
    ∃ s', l.foldlM (fun s c => s.closeOwnConsumer c) s = .ok s' ∧ Wired s' leftProducers (some t) ∧
      s'.transports = s.transports ∧ s'.producers = s.producers ∧
      ∀ c obj, s'.consumers.find c = some obj → obj.transport ≠ t := by
  induction l generalizing s with
  | nil =>
    refine ⟨s, rfl, h, rfl, rfl, fun c obj hc htr => ?_⟩
    exact absurd ((hl c).mpr ⟨obj, hc, htr⟩) not_mem_nil
  | cons c l ih =>
    obtain ⟨hnot, hnd⟩ := nodup_cons.mp hnd
    obtain ⟨obj, hc, rfl⟩ := (hl c).mp (by simp)
    obtain ⟨s₁, hok₁, hs₁⟩ := onTransportConsumerClosed_ok h hc
    obtain ⟨s', hok, hwired, htransports, hprs, hnone⟩ := ih hnd hs₁.wired fun d => by
      show d ∈ l ↔ ∃ o, (s₁.consumers.erase c).find d = some o ∧ _
      rw [hs₁.consumers]
      exact mem_iff_of_erase hnot hl d
    refine ⟨s', ?_, hwired, htransports.trans hs₁.transports, hprs.trans hs₁.producers, hnone⟩
    rw [foldlM_cons, closeOwnConsumer, hok₁]
    exact hok

/-- **A transport closes everything** that it has. -/
theorem closeProducersAndConsumers_meets (h : Wired s none none) (ht : s.transports.find t ≠ none) :
    Meets (fun s' => Wired s' none none ∧ s'.transports.find t ≠ none ∧
      (∀ p obj, s'.producers.find p = some obj → obj.transport ≠ t) ∧
      ∀ c obj, s'.consumers.find c = some obj → obj.transport ≠ t) Crashed
      (s.closeProducersAndConsumers order now t) := by
  obtain ⟨o, ho⟩ := Option.ne_none_iff_exists'.mp ht
  have hnames := h.ownsProducers t o (by simp) ho
  have hperm := order.perm_map o.mapProducers
  rw [closeProducersAndConsumers, deref_of_find ho, ok_bind]
  refine (foldlM_closeOwnProducer_meets _ (hperm.nodup_iff.mpr hnames.nodup_values) (h.leaveOutProducers t) ht
    fun p => hperm.mem_iff.trans hnames.mem_values_iff).bind ?_
  rintro s₁ ⟨hwired₁, ht₁, hprs₁⟩
  obtain ⟨o₁, ho₁⟩ := Option.ne_none_iff_exists'.mp ht₁
  rw [modifyTransport_of_find ho₁, ok_bind, deref_of_find (find_insert_self _ _ _), ok_bind]
  -- All producers are gone, so that the map without entries is the right one.
  have hwired₂ := (hwired₁.setMapProducers ho₁ .empty).restoreProducers fun o' ho' => by
    rw [find_insert_self] at ho'
    cases ho'
    exact Names.of_empty hprs₁
  have hnames₂ := hwired₂.ownsConsumers t _ (by simp) (find_insert_self _ _ _)
  have hperm₂ := order.perm_map o₁.mapConsumers
  obtain ⟨s₂, hok₂, hs₂, htransports₂, hprs₂, hcons₂⟩ := foldlM_closeOwnConsumer_ok
    (order.map o₁.mapConsumers) (hperm₂.nodup_iff.mpr hnames₂.nodup_values) (hwired₂.leaveOutConsumers t)
    fun c => hperm₂.mem_iff.trans hnames₂.mem_values_iff
  rw [hok₂, ok_bind]
  have ho₂ : s₂.transports.find t = some { o₁ with mapProducers := .empty } := by
    rw [htransports₂, find_insert_self]
  refine modifyTransport_meets ho₂ ⟨?_, ?_, ?_, hcons₂⟩
  · refine (hs₂.setMapConsumers ho₂ .empty).restoreConsumers fun o' ho' => ?_
    rw [find_insert_self] at ho'
    cases ho'
    exact Names.of_empty hcons₂
  · rw [find_insert_self]
    simp
  · show ∀ p obj, s₂.producers.find p = some obj → obj.transport ≠ t
    rw [hprs₂]
    exact hprs₁

theorem closeTransport_meets (h : Wired s none none) (order : HashOrder) (now : ℕ) (tid : String) :
    Meets (Wired · none none) Excused (s.closeTransport order now tid) := by
  refine get_transport_meets h fun t o ho hid => ?_
  refine (crashed_excused (closeProducersAndConsumers_meets h (by simp [ho]))).bind ?_
  rintro s' ⟨hwired, ht, hprs, hcons⟩
  obtain ⟨o', ho'⟩ := Option.ne_none_iff_exists'.mp ht
  rw [deref_of_find ho', ok_bind]
  exact {
    hwired with
    transports := hwired.transports.erase ho' trivial
    ownsProducers := hwired.ownsProducers.removeOwner t
    ownsConsumers := hwired.ownsConsumers.removeOwner t
    housedProducers := hwired.housedProducers.removeOwner hprs
    housedConsumers := hwired.housedConsumers.removeOwner hcons }

/-! ## Runs -/

theorem handleRequest_meets (h : Wired s none none) (order : HashOrder) (now : ℕ) (req : Request) :
    Meets (Wired · none none) Excused (s.handleRequest order now req) := by
  cases req with
  | createTransport => exact createTransport_meets h _ _ _
  | closeTransport => exact closeTransport_meets h order now _
  | createRtpObserver => exact createRtpObserver_meets h _ _ _ _
  | closeRtpObserver => exact closeRtpObserver_meets h _
  | addProducer => exact addProducer_meets h now _ _
  | removeProducer => exact removeProducer_meets h order now _ _
  | produce => exact produce_meets h _ _ _ _ _
  | closeProducer => exact closeProducer_meets h order now _ _
  | consume => exact consume_meets h _ _ _ _ _
  | closeConsumer => exact closeConsumer_meets h _ _

theorem step_meets (h : Wired s none none) (order : HashOrder) (ev : ℕ × Request) :
    Meets (Wired · none none) (fun stop => ∃ f, stop = .observer f) (s.step order ev) := by
  have hreq := handleRequest_meets h order ev.1 ev.2
  unfold step
  cases hres : s.handleRequest order ev.1 ev.2 with
  | ok s' =>
    rw [hres] at hreq
    exact hreq
  | error e =>
    rw [hres] at hreq
    rcases hreq with ⟨f, hf⟩ | ⟨hexception, hwired⟩
    · rw [answer, hf]
      exact ⟨f, rfl⟩
    · rw [answer, if_pos hexception]
      exact hwired

end

theorem wired_empty : Wired {} none none where
  transports := Names.of_empty fun _ _ h => by cases h
  ownsProducers := fun _ _ _ h => by cases h
  ownsConsumers := fun _ _ _ h => by cases h
  housedProducers := fun _ _ h => by cases h
  housedConsumers := fun _ _ h => by cases h
  consumers := fun _ => ⟨fun _ => rfl, fun _ => rfl⟩
  producers := Names.of_empty fun _ _ h => by cases h
  producerConsumers := fun _ => ⟨fun _ => rfl, fun _ => rfl⟩
  producerRtpObservers := fun _ => ⟨fun _ => rfl, fun _ => rfl⟩
  links := Links.empty
  rtpObservers := Names.of_empty fun _ _ h => by cases h
  watchers := fun _ _ _ h => by cases h

/-- **The graph of a router stays consistent.** After any requests, in whatever order sets are
walked and at whatever addresses objects are put, the maps of consumers are inverse and no pointer
of the router dangles. A run that does not get there has ended in an observer. -/
theorem graph_consistent (order : HashOrder) (events : List (ℕ × Request)) :
    Meets Consistent (fun stop => ∃ f, stop = .observer f) (run (fun s => step s order) {} events) := by
  have hrun : Meets (Wired · none none) (fun stop => ∃ f, stop = .observer f)
      (run (fun s => step s order) {} events) :=
    run_meets_of_inv (fun s event h _ => step_meets h order event) wired_empty (runMeets_true _ _)
  exact hrun.mono (fun s h => h.consistent) fun _ h => h

/-- **Everything has its owner.** The maps of a transport have exactly its living producers and consumers. -/
theorem graph_owned (order : HashOrder) (events : List (ℕ × Request)) :
    Meets (Owned · none none) (fun stop => ∃ f, stop = .observer f) (run (fun s => step s order) {} events) := by
  have hrun : Meets (Wired · none none) _ (run (fun s => step s order) {} events) :=
    run_meets_of_inv (fun s event h _ => step_meets h order event) wired_empty (runMeets_true _ _)
  exact hrun.mono (fun s h => h.toOwned) fun _ h => h

end RouterGraph
end MediasoupWorker.RTC
