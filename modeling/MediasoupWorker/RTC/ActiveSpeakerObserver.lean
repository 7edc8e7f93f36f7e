import MediasoupWorker.Library.Runs
import MediasoupWorker.RTC.Producer
import Mathlib.Data.String.Basic

/-!
# The active speaker observer

`src/src/RTC/ActiveSpeakerObserver.cpp`. The observer feeds a speaker for each audio producer with the
levels of its packets, and elects the dominant speaker from time to time. The map of the speakers is a
`std::unordered_map`, so each event that walks it brings an order along.
-/

namespace MediasoupWorker.RTC

open Library OrderedMap List

namespace ActiveSpeakerObserver

/-! ## Activity scores -/

def C1 : ℕ := 3
def C2 : ℕ := 2
def C3 : ℕ := 0
def N1 : ℕ := 13
def N2 : ℕ := 5
def N3 : ℕ := 10
def longCount : ℕ := 1
def levelIdleTimeout : ℕ := 40
def speakerIdleTimeout : ℕ := 60 * 60 * 1000
def longThreashold : ℕ := 4
def maxLevel : ℕ := 127
def minLevel : ℕ := 0
def minLevelWindowLen : ℕ := 15 * 1000 / 20
def mediumThreshold : ℕ := 7
def subunitLengthN1 : ℕ := (maxLevel - minLevel + N1 - 1) / N1
def immediateBuffLen : ℕ := longCount * N3 * N2
def mediumsBuffLen : ℕ := longCount * N3
def longsBuffLen : ℕ := longCount
def levelsBuffLen : ℕ := longCount * N3 * N2
def minActivityScore : Float := 0.0000000001

def binomialLoop : (n : ℕ) → (i j t : ℕ) → ℕ
  | 0, _, _, t => t
  | n + 1, i, j, t => binomialLoop n (i - 1) (j + 1) (t * i / j)

def binomialCoefficient (n r : ℕ) : ℕ := binomialLoop (n - max r (n - r)) n 1 1

def computeActivityScore (vL nR : ℕ) (p lambda : Float) : Float :=
  let activityScore := (Float.ofNat (binomialCoefficient nR vL)).log + Float.ofNat vL * p.log +
    Float.ofNat (nR - vL) * (1 - p).log - lambda.log + lambda * Float.ofNat vL
  if activityScore < minActivityScore then minActivityScore else activityScore

def computeBigs (littles bigs : List ℕ) (threashold : ℕ) : List ℕ × Bool :=
  let littleLenPerBig := littles.length / bigs.length
  let new := (List.range bigs.length).map fun b =>
    ((littles.drop (b * littleLenPerBig)).take littleLenPerBig).countP
      (fun little => decide (threashold < little)) % 2 ^ 8
  (new, new != bigs)

structure Speaker where
  paused : Bool := false
  immediateActivityScore : Float := minActivityScore
  mediumActivityScore : Float := minActivityScore
  longActivityScore : Float := minActivityScore
  lastLevelChangeTime : ℕ
  minLevel : ℕ := ActiveSpeakerObserver.minLevel
  nextMinLevel : ℕ := ActiveSpeakerObserver.minLevel
  nextMinLevelWindowLen : ℕ := 0
  immediates : List ℕ := List.replicate immediateBuffLen 0
  mediums : List ℕ := List.replicate mediumsBuffLen 0
  longs : List ℕ := List.replicate longsBuffLen 0
  levels : List ℕ := List.replicate levelsBuffLen 0

namespace Speaker

def computeImmediates (s : Speaker) : List ℕ × Bool :=
  let minLevel : ℤ := ((s.minLevel + subunitLengthN1 : ℕ) : ℤ).bmod (2 ^ 8)
  let new := s.levels.map fun (level : ℕ) =>
    (if (level : ℤ) < minLevel then ActiveSpeakerObserver.minLevel else level) / subunitLengthN1
  (new, new != s.immediates)

def evalActivityScores (s : Speaker) : Speaker :=
  let (immediates, changed) := s.computeImmediates
  let s := { s with immediates }
  if !changed then s
  else
    let s := { s with
      immediateActivityScore := computeActivityScore (immediates.headD 0) N1 0.5 0.78 }
    let (mediums, changed) := computeBigs s.immediates s.mediums mediumThreshold
    let s := { s with mediums }
    if !changed then s
    else
      let s := { s with
        mediumActivityScore := computeActivityScore (mediums.headD 0) N2 0.5 24 }
      let (longs, changed) := computeBigs s.mediums s.longs longThreashold
      let s := { s with longs }
      if !changed then s
      else { s with longActivityScore := computeActivityScore (longs.headD 0) N3 0.5 47 }

def updateMinLevel (s : Speaker) (level : ℕ) : Speaker :=
  if level = ActiveSpeakerObserver.minLevel then s
  else if s.minLevel = ActiveSpeakerObserver.minLevel ∨ level < s.minLevel then
    { s with
      minLevel := level
      nextMinLevel := ActiveSpeakerObserver.minLevel
      nextMinLevelWindowLen := 0 }
  else if s.nextMinLevel = ActiveSpeakerObserver.minLevel then
    { s with nextMinLevel := level, nextMinLevelWindowLen := 1 }
  else
    let s := { s with
      nextMinLevel := min s.nextMinLevel level
      nextMinLevelWindowLen := s.nextMinLevelWindowLen + 1 }
    if minLevelWindowLen ≤ s.nextMinLevelWindowLen then
      let newMinLevel := (Float.ofNat (s.minLevel * s.nextMinLevel)).sqrt
      let newMinLevel := if Float.ofNat maxLevel < newMinLevel then Float.ofNat maxLevel
        else newMinLevel
      { s with
        minLevel := newMinLevel.toUInt8.toNat
        nextMinLevel := ActiveSpeakerObserver.minLevel
        nextMinLevelWindowLen := 0 }
    else s

def levelChanged (s : Speaker) (level time : ℕ) : Speaker :=
  if s.lastLevelChangeTime ≤ time then
    let b := min level maxLevel
    let s := { s with lastLevelChangeTime := time, levels := b :: s.levels.dropLast }
    { s.updateMinLevel b with paused := false }
  else s

def levelTimedOut (s : Speaker) : Speaker :=
  s.levelChanged ActiveSpeakerObserver.minLevel s.lastLevelChangeTime

end Speaker

structure ProducerRef where
  id : String
  kind : Media.Kind
  deriving DecidableEq, Repr

structure ProducerSpeaker where
  producer : Option ProducerRef := none
  speaker : Option Speaker := none

structure Iteration where
  order : List (String × ProducerSpeaker) → List (String × ProducerSpeaker)
  perm : ∀ entries, (order entries).Perm entries

end ActiveSpeakerObserver

open ActiveSpeakerObserver

/-! ## The observer -/

structure ActiveSpeakerObserver where
  paused : Bool := false
  dominantId : String := ""
  mapProducerSpeaker : OrderedMap String ProducerSpeaker := .empty
  lastLevelIdleTime : ℕ := 0

namespace ActiveSpeakerObserver

def evalDominant (map : OrderedMap String ProducerSpeaker) (id : String) :
    Except Fault (OrderedMap String ProducerSpeaker) :=
  match map.find id with
  | some { producer, speaker := some speaker } =>
    .ok (map.insert id { producer, speaker := some speaker.evalActivityScores })
  | _ => .error .nullPointer

structure Election where
  map : OrderedMap String ProducerSpeaker
  newDominantC2 : Float := Float.ofNat C2
  newDominantId : String

def Election.challenge (e : Election) (dominantSpeaker speaker : Speaker) (id : String) : Election :=
  let relative (score : Speaker → Float) := (score dominantSpeaker / score speaker).log
  let c1 := relative Speaker.immediateActivityScore
  let c2 := relative Speaker.mediumActivityScore
  let c3 := relative Speaker.longActivityScore
  if c1 > Float.ofNat C1 ∧ c2 > Float.ofNat C2 ∧ c3 > Float.ofNat C3 ∧ c2 > e.newDominantC2 then
    { e with newDominantC2 := c2, newDominantId := id }
  else e

def elect (dominantId dominantKey : String) :
    List (String × ProducerSpeaker) → Election → Except Fault Election
  | [], e => .ok e
  | (key, entry) :: entries, e =>
    match entry.producer with
    | none => .error .nullPointer
    | some producer =>
      if producer.id = dominantId then elect dominantId dominantKey entries e
      else
        match entry.speaker with
        | none => .error .nullPointer
        | some speaker =>
          if speaker.paused then elect dominantId dominantKey entries e
          else
            let speaker := speaker.evalActivityScores
            let map := e.map.insert key { entry with speaker := some speaker }
            match (map.find dominantKey).bind ProducerSpeaker.speaker with
            | none => .error .nullPointer
            | some dominantSpeaker =>
              elect dominantId dominantKey entries
                ({ e with map }.challenge dominantSpeaker speaker producer.id)

def mapWithDominant (o : ActiveSpeakerObserver) : OrderedMap String ProducerSpeaker :=
  if o.dominantId = "" ∨ (o.mapProducerSpeaker.find o.dominantId).isSome then o.mapProducerSpeaker
  else o.mapProducerSpeaker.insert o.dominantId {}

def dominantSpeaker (o : ActiveSpeakerObserver) : Option Speaker :=
  if o.dominantId = "" then none
  else (o.mapWithDominant.find o.dominantId).bind ProducerSpeaker.speaker

def electAmong (it : Iteration) (o : ActiveSpeakerObserver) : Except Fault Election :=
  match o.dominantSpeaker, it.order o.mapWithDominant.entries with
  | none, [] => .error .nullPointer
  | none, (key, _) :: _ => do
    let map ← evalDominant o.mapWithDominant key
    elect o.dominantId key (it.order map.entries) { map, newDominantId := key }
  | some _, _ => do
    let map ← evalDominant o.mapWithDominant o.dominantId
    elect o.dominantId o.dominantId (it.order map.entries) { map, newDominantId := "" }

def electDominant (it : Iteration) (o : ActiveSpeakerObserver) : Except Fault Election :=
  match o.mapProducerSpeaker.entries with
  | [] => .ok { map := o.mapProducerSpeaker, newDominantId := "" }
  | [(_, entry)] =>
    match entry.producer with
    | none => .error .nullPointer
    | some producer => .ok { map := o.mapProducerSpeaker, newDominantId := producer.id }
  | _ => o.electAmong it

def calculateActiveSpeaker (it : Iteration) (o : ActiveSpeakerObserver) :
    Except Fault (ActiveSpeakerObserver × Bool) := do
  let e ← o.electDominant it
  let o := { o with mapProducerSpeaker := e.map }
  if e.newDominantId ≠ "" ∧ e.newDominantId ≠ o.dominantId then
    return ({ o with dominantId := e.newDominantId }, true)
  else return (o, false)

def timeoutIdleLevel (o : ActiveSpeakerObserver) (now : ℕ) (id : String) (speaker : Speaker) :
    Speaker :=
  let idle := (now + 2 ^ 64 - speaker.lastLevelChangeTime) % 2 ^ 64
  if speakerIdleTimeout < idle ∧ (o.dominantId = "" ∨ id ≠ o.dominantId) then
    { speaker with paused := true }
  else if levelIdleTimeout < idle then speaker.levelTimedOut
  else speaker

def ProducerSpeaker.nonNull (entry : ProducerSpeaker) : Bool :=
  entry.producer.isSome && entry.speaker.isSome

def timeoutIdleLevels (o : ActiveSpeakerObserver) (now : ℕ) : Except Fault ActiveSpeakerObserver :=
  if o.mapProducerSpeaker.entries.all (·.2.nonNull) then
    .ok { o with
      mapProducerSpeaker := o.mapProducerSpeaker.mapValues fun _ entry => { entry with
        speaker := entry.speaker.map
          (o.timeoutIdleLevel now ((entry.producer.map ProducerRef.id).getD "")) } }
  else .error .nullPointer

def updateIdleLevels (now : ℕ) (o : ActiveSpeakerObserver) : Except Fault ActiveSpeakerObserver :=
  let timeout : ℤ := ((levelIdleTimeout : ℤ) - ((now : ℤ) - o.lastLevelIdleTime)).bmod (2 ^ 64)
  if timeout ≤ 0 then do
    let o ← if o.lastLevelIdleTime ≠ 0 then o.timeoutIdleLevels now else .ok o
    return { o with lastLevelIdleTime := now }
  else .ok o

def update (it : Iteration) (now : ℕ) (o : ActiveSpeakerObserver) :
    Except Fault (ActiveSpeakerObserver × Option String) := do
  let o ← o.updateIdleLevels now
  if o.mapProducerSpeaker.entries.isEmpty then return (o, none)
  else
    let (o, changed) ← o.calculateActiveSpeaker it
    return (o, if changed then some o.dominantId else none)

def addProducer (now : ℕ) (producer : ProducerRef) (o : ActiveSpeakerObserver) :
    Except Fault ActiveSpeakerObserver := do
  throwTypeErrorIf (producer.kind != .audio) "not an audio Producer"
  if (o.mapProducerSpeaker.find producer.id).isSome then
    .error (.error "Producer already in map")
  else
    return { o with
      mapProducerSpeaker := o.mapProducerSpeaker.insert producer.id
        { producer := some producer, speaker := some { lastLevelChangeTime := now } } }

def removeProducer (it : Iteration) (now : ℕ) (producer : ProducerRef)
    (o : ActiveSpeakerObserver) : Except Fault (ActiveSpeakerObserver × Option String) :=
  match o.mapProducerSpeaker.find producer.id with
  | none => .ok (o, none)
  | some _ =>
    let o := { o with mapProducerSpeaker := o.mapProducerSpeaker.erase producer.id }
    if producer.id = o.dominantId then o.update it now else .ok (o, none)

def changeSpeaker (producer : ProducerRef) (f : Speaker → Speaker) (o : ActiveSpeakerObserver) :
    Except Fault ActiveSpeakerObserver :=
  match o.mapProducerSpeaker.find producer.id with
  | none => .ok o
  | some entry =>
    match entry.speaker with
    | none => .error .nullPointer
    | some speaker =>
      .ok { o with
        mapProducerSpeaker :=
          o.mapProducerSpeaker.insert producer.id { entry with speaker := some (f speaker) } }

def producerResumed (producer : ProducerRef) (o : ActiveSpeakerObserver) :
    Except Fault ActiveSpeakerObserver :=
  o.changeSpeaker producer fun speaker => { speaker with paused := false }

def producerPaused (producer : ProducerRef) (o : ActiveSpeakerObserver) :
    Except Fault ActiveSpeakerObserver :=
  o.changeSpeaker producer fun speaker => { speaker with paused := true }

def receiveRtpPacket (now : ℕ) (producer : ProducerRef) (volume : Option ℕ)
    (o : ActiveSpeakerObserver) : Except Fault ActiveSpeakerObserver :=
  match volume with
  | none => .ok o
  | some volume =>
    if o.paused then .ok o
    else o.changeSpeaker producer fun speaker => speaker.levelChanged volume now

/-! ## The invariant -/

structure EntryOk (added : List ProducerRef) (id : String) (entry : ProducerSpeaker) : Prop where
  producer : ∃ producer ∈ added, producer.id = id ∧ entry.producer = some producer
  speaker : entry.speaker.isSome

def MapOk (added : List ProducerRef) (map : OrderedMap String ProducerSpeaker) : Prop :=
  ∀ id entry, map.find id = some entry → EntryOk added id entry

section Map

variable {added : List ProducerRef} {map : OrderedMap String ProducerSpeaker} {id : String}
  {e : ProducerSpeaker}

theorem MapOk.mono {added' : List ProducerRef} (h : MapOk added map) (hsub : ∀ prod ∈ added, prod ∈ added') :
    MapOk added' map := by
  intro id e hfind
  obtain ⟨⟨prod, hmem, hid, hpr⟩, hsp⟩ := h id e hfind
  exact ⟨⟨prod, hsub prod hmem, hid, hpr⟩, hsp⟩

theorem MapOk.insert (h : MapOk added map) (hentry : EntryOk added id e) : MapOk added (map.insert id e) := by
  intro id' e' hfind
  rw [find_insert] at hfind
  split_ifs at hfind with hid
  · cases hfind
    exact hid ▸ hentry
  · exact h id' e' hfind

theorem EntryOk.withSpeaker (h : EntryOk added id e) (sp : Speaker) :
    EntryOk added id { e with speaker := some sp } :=
  ⟨h.producer, rfl⟩

theorem MapOk.of_mem_entries (h : MapOk added map) {x : String × ProducerSpeaker} (hx : x ∈ map.entries) :
    EntryOk added x.1 x.2 :=
  h x.1 x.2 (map.mem_entries_iff.mp hx)

theorem isSome_find_insert (h : (map.find id).isSome) (id' : String) (e : ProducerSpeaker) :
    ((map.insert id' e).find id).isSome := by
  rw [find_insert]
  split_ifs
  · rfl
  · exact h

end Map

/-! ## The election -/

section Election

variable {added : List ProducerRef} {o : ActiveSpeakerObserver}

theorem evalDominant_ok {map : OrderedMap String ProducerSpeaker} (h : MapOk added map) {key : String}
    (hkey : (map.find key).isSome) :
    ∃ map', evalDominant map key = .ok map' ∧ MapOk added map' ∧ (map'.find key).isSome := by
  obtain ⟨ent, hentry⟩ := Option.isSome_iff_exists.mp hkey
  have hok := h key ent hentry
  obtain ⟨speaker, hsp⟩ := Option.isSome_iff_exists.mp hok.speaker
  obtain ⟨prod, speaker'⟩ := ent
  obtain rfl : speaker' = some speaker := hsp
  unfold evalDominant
  rw [hentry]
  exact ⟨_, rfl, h.insert (hok.withSpeaker _), isSome_find_insert hkey _ _⟩

@[simp] theorem Election.challenge_map (e : Election) (dom sp : Speaker) (id : String) :
    (e.challenge dom sp id).map = e.map := by
  unfold Election.challenge
  dsimp only
  split_ifs <;> rfl

variable {es : List (String × ProducerSpeaker)}

theorem elect_ok (dominantId dom : String) (hes : ∀ x ∈ es, EntryOk added x.1 x.2) {e : Election}
    (he : MapOk added e.map) (hkey : (e.map.find dom).isSome) :
    ∃ e', elect dominantId dom es e = .ok e' ∧ MapOk added e'.map := by
  induction es generalizing e with
  | nil => exact ⟨e, rfl, he⟩
  | cons x es ih =>
    obtain ⟨key, entry⟩ := x
    obtain ⟨hentry, hrest⟩ := forall_mem_cons.mp hes
    obtain ⟨prod, hadd, hid, hpr⟩ := hentry.producer
    obtain ⟨sp, hsp⟩ := Option.isSome_iff_exists.mp hentry.speaker
    rw [elect, hpr, hsp]
    dsimp only
    split_ifs
    · exact ih hrest he hkey
    · exact ih hrest he hkey
    · -- the speaker of the entry is evaluated, and the dominant one is still there
      set map := e.map.insert key
        { producer := some prod, speaker := some sp.evalActivityScores } with hmap
      have hmapOk : MapOk added map := he.insert ⟨⟨prod, hadd, hid, rfl⟩, rfl⟩
      have hmapKey : (map.find dom).isSome := isSome_find_insert hkey _ _
      obtain ⟨dominant, hdominant⟩ := Option.isSome_iff_exists.mp hmapKey
      obtain ⟨dominantSpeaker, hdom⟩ :=
        Option.isSome_iff_exists.mp (hmapOk dom dominant hdominant).speaker
      rw [hdominant, Option.bind_some, hdom]
      exact ih hrest (by rwa [Election.challenge_map]) (by rwa [Election.challenge_map])

theorem elect_of_null (dominantId dom : String) {x : String × ProducerSpeaker} (hx : x ∈ es)
    (hnull : x.2.producer = none) (e : Election) : elect dominantId dom es e = .error .nullPointer := by
  induction es generalizing e with
  | nil => exact absurd hx not_mem_nil
  | cons y es ih =>
    obtain ⟨key, ent⟩ := y
    unfold elect
    rcases mem_cons.mp hx with rfl | hrest
    · rw [hnull]
    · cases ent.producer with
      | none => rfl
      | some prod =>
        dsimp only
        split_ifs
        · exact ih hrest e
        · cases ent.speaker with
          | none => rfl
          | some sp =>
            dsimp only
            split_ifs
            · exact ih hrest e
            · split
              · rfl
              · exact ih hrest _

def DominantKnown (o : ActiveSpeakerObserver) : Prop :=
  o.dominantId = "" ∨ (o.mapProducerSpeaker.find o.dominantId).isSome

theorem mapWithDominant_of_known (hknown : o.DominantKnown) : o.mapWithDominant = o.mapProducerSpeaker :=
  if_pos hknown

theorem electAmong_ok (it : Iteration) (h : MapOk added o.mapProducerSpeaker)
    (hne : o.mapProducerSpeaker.entries ≠ []) (hknown : o.DominantKnown) :
    ∃ e, o.electAmong it = .ok e ∧ MapOk added e.map := by
  have hes (map : OrderedMap String ProducerSpeaker) (hmap : MapOk added map) :
      ∀ x ∈ it.order map.entries, EntryOk added x.1 x.2 :=
    fun x hx => hmap.of_mem_entries ((it.perm _).mem_iff.mp hx)
  unfold electAmong
  rw [mapWithDominant_of_known hknown]
  split
  · rename_i hnil
    have hperm := it.perm o.mapProducerSpeaker.entries
    rw [hnil] at hperm
    exact absurd hperm.nil_eq.symm hne
  · rename_i key ent rest hnone hord
    have hmem : (key, ent) ∈ o.mapProducerSpeaker.entries := by
      rw [← (it.perm _).mem_iff, hord]
      exact mem_cons_self ..
    obtain ⟨map, hmap, hmapOk, hkey⟩ := evalDominant_ok h
      (Option.isSome_iff_exists.mpr ⟨ent, o.mapProducerSpeaker.mem_entries_iff.mp hmem⟩)
    rw [hmap, ok_bind]
    exact elect_ok _ _ (hes map hmapOk) hmapOk hkey
  · rename_i sp hsp
    have hfound : (o.mapProducerSpeaker.find o.dominantId).isSome := by
      rcases hknown with hemp | hfound
      · rw [dominantSpeaker, if_pos hemp] at hsp
        cases hsp
      · exact hfound
    obtain ⟨map, hmap, hmapOk, hkey⟩ := evalDominant_ok h hfound
    rw [hmap, ok_bind]
    exact elect_ok _ _ (hes map hmapOk) hmapOk hkey

theorem electAmong_of_unknown (it : Iteration) (hunk : ¬ o.DominantKnown) :
    o.electAmong it = .error .nullPointer := by
  have hmap : o.mapWithDominant = o.mapProducerSpeaker.insert o.dominantId {} := if_neg hunk
  have hfind : o.mapWithDominant.find o.dominantId = some {} := by
    rw [hmap, find_insert_self]
  have hsp : o.dominantSpeaker = none := by
    rw [dominantSpeaker, if_neg (not_or.mp hunk).1, hfind]
    rfl
  unfold electAmong
  rw [hsp]
  split
  · rfl
  · rename_i key entry rest _ hord
    by_cases hkey : key = o.dominantId
    · rw [evalDominant, hkey, hfind]
      rfl
    · unfold evalDominant
      split
      · rw [ok_bind]
        refine elect_of_null _ _ (x := (o.dominantId, {})) ?_ rfl _
        rw [(it.perm _).mem_iff, mem_entries_iff, find_insert_of_ne _ _ (Ne.symm hkey), hfind]
      · rfl
  · rename_i hsome
    cases hsome

def ElectionSafe (o : ActiveSpeakerObserver) : Prop :=
  o.mapProducerSpeaker.size ≤ 1 ∨ o.DominantKnown

section

variable (it : Iteration)

theorem electDominant_of_safe (h : MapOk added o.mapProducerSpeaker)
    (hsafe : o.ElectionSafe) : ∃ e, o.electDominant it = .ok e ∧ MapOk added e.map := by
  unfold electDominant
  split
  · exact ⟨_, rfl, h⟩
  · rename_i key ent hes
    have hmem : (key, ent) ∈ o.mapProducerSpeaker.entries := by
      rw [hes]
      exact mem_cons_self ..
    obtain ⟨prod, -, -, hpr⟩ := (h.of_mem_entries hmem).producer
    change ent.producer = some prod at hpr
    rw [hpr]
    exact ⟨_, rfl, h⟩
  · rename_i hnotnil hnotone
    refine electAmong_ok it h hnotnil (hsafe.resolve_left fun hsize => ?_)
    unfold size at hsize
    match hes : o.mapProducerSpeaker.entries with
    | [] => exact hnotnil hes
    | [(key, ent)] => exact hnotone key ent hes
    | _ :: _ :: _ =>
      rw [hes, length_cons, length_cons] at hsize
      omega

theorem electDominant_of_not_safe (hfail : ¬ o.ElectionSafe) :
    o.electDominant it = .error .nullPointer := by
  obtain ⟨hsize, hunk⟩ := not_or.mp hfail
  unfold electDominant
  unfold size at hsize
  split
  · rename_i hes
    rw [hes] at hsize
    exact absurd (Nat.zero_le 1) hsize
  · rename_i hes
    rw [hes] at hsize
    exact absurd le_rfl hsize
  · exact electAmong_of_unknown it hunk

/-- **The election dereferences no null pointer exactly when it is safe.** -/
theorem calculateActiveSpeaker_of_safe (h : MapOk added o.mapProducerSpeaker)
    (hsafe : o.ElectionSafe) :
    ∃ r, o.calculateActiveSpeaker it = .ok r ∧ MapOk added r.1.mapProducerSpeaker := by
  obtain ⟨e, he, hok⟩ := electDominant_of_safe it h hsafe
  unfold calculateActiveSpeaker
  rw [he, ok_bind]
  dsimp only
  split_ifs
  · exact ⟨_, rfl, hok⟩
  · exact ⟨_, rfl, hok⟩

theorem calculateActiveSpeaker_of_not_safe (hfail : ¬ o.ElectionSafe) :
    o.calculateActiveSpeaker it = .error .nullPointer := by
  unfold calculateActiveSpeaker
  rw [electDominant_of_not_safe it hfail]
  rfl

end

theorem timeoutIdleLevels_ok (h : MapOk added o.mapProducerSpeaker) (now : ℕ) :
    ∃ o', o.timeoutIdleLevels now = .ok o' ∧ MapOk added o'.mapProducerSpeaker ∧
      (o'.ElectionSafe ↔ o.ElectionSafe) := by
  have hall : o.mapProducerSpeaker.entries.all (·.2.nonNull) = true := by
    rw [all_eq_true]
    intro x hx
    obtain ⟨⟨prod, -, -, hpr⟩, hsp⟩ := h.of_mem_entries hx
    rw [ProducerSpeaker.nonNull, hpr, hsp]
    rfl
  unfold timeoutIdleLevels
  rw [if_pos hall]
  refine ⟨_, rfl, ?_, ?_⟩
  · intro id entry hfind
    rw [find_mapValues, Option.map_eq_some_iff] at hfind
    obtain ⟨old, hold, rfl⟩ := hfind
    obtain ⟨hpr, hsp⟩ := h id old hold
    exact ⟨hpr, by rwa [Option.isSome_map]⟩
  · unfold ElectionSafe DominantKnown
    dsimp only
    rw [size_mapValues, find_mapValues, Option.isSome_map]

end Election

/-! ## Update -/

section Update

variable {added : List ProducerRef} {o : ActiveSpeakerObserver}

theorem updateIdleLevels_ok (h : MapOk added o.mapProducerSpeaker) (now : ℕ) :
    ∃ o', o.updateIdleLevels now = .ok o' ∧ MapOk added o'.mapProducerSpeaker ∧
      (o'.ElectionSafe ↔ o.ElectionSafe) := by
  obtain ⟨o', ho', hmap, hsafe⟩ := timeoutIdleLevels_ok h now
  unfold updateIdleLevels
  dsimp only
  split_ifs
  · rw [ho']
    exact ⟨_, rfl, hmap, hsafe⟩
  · exact ⟨_, rfl, h, Iff.rfl⟩
  · exact ⟨_, rfl, h, Iff.rfl⟩

section

variable (it : Iteration) (now : ℕ) (h : MapOk added o.mapProducerSpeaker)

include it now h

theorem update_of_safe (hsafe : o.ElectionSafe) :
    ∃ r, o.update it now = .ok r ∧ MapOk added r.1.mapProducerSpeaker := by
  obtain ⟨o', ho', hmap, hiff⟩ := updateIdleLevels_ok h now
  obtain ⟨r, hr, hrmap⟩ := calculateActiveSpeaker_of_safe it hmap (hiff.mpr hsafe)
  unfold update
  rw [ho', ok_bind]
  split_ifs
  · exact ⟨_, rfl, hmap⟩
  · rw [hr]
    exact ⟨_, rfl, hrmap⟩

theorem update_of_not_safe (hfail : ¬ o.ElectionSafe) : o.update it now = .error .nullPointer := by
  obtain ⟨o', ho', -, hiff⟩ := updateIdleLevels_ok h now
  have hfail' : ¬ o'.ElectionSafe := fun hsafe => hfail (hiff.mp hsafe)
  unfold update
  rw [ho', ok_bind, if_neg, calculateActiveSpeaker_of_not_safe it hfail']
  · rfl
  · intro hemp
    have hnil : o'.mapProducerSpeaker.entries = [] := isEmpty_iff.mp hemp
    refine hfail' (.inl ?_)
    unfold size
    rw [hnil]
    exact Nat.zero_le 1

end

def RemovalSafe (o : ActiveSpeakerObserver) (producer : ProducerRef) : Prop :=
  (o.mapProducerSpeaker.find producer.id).isSome → producer.id = o.dominantId →
    o.mapProducerSpeaker.size ≤ 2 ∨ o.dominantId = ""

theorem electionSafe_erase {id : String} {ent : ProducerSpeaker}
    (hfind : o.mapProducerSpeaker.find id = some ent) (hid : id = o.dominantId) :
    { o with mapProducerSpeaker := o.mapProducerSpeaker.erase id }.ElectionSafe ↔
      o.mapProducerSpeaker.size ≤ 2 ∨ o.dominantId = "" := by
  have hsize := size_erase hfind
  unfold ElectionSafe DominantKnown
  dsimp only
  rw [← hid, find_erase_self]
  constructor
  · rintro (hle | hnil | hsome)
    · exact .inl (by omega)
    · exact .inr hnil
    · cases hsome
  · rintro (hle | hnil)
    · exact .inl (by omega)
    · exact .inr (.inl hnil)

variable {map : OrderedMap String ProducerSpeaker}

theorem MapOk.erase (h : MapOk added map) (id : String) :
    MapOk (added.filter fun prod => decide (prod.id ≠ id)) (map.erase id) := by
  intro id' ent hfind
  obtain ⟨hne, hfind'⟩ := find_eq_some_of_erase hfind
  obtain ⟨⟨prod, hadd, hid, hpr⟩, hsp⟩ := h id' ent hfind'
  refine ⟨⟨prod, mem_filter.mpr ⟨hadd, decide_eq_true ?_⟩, hid, hpr⟩, hsp⟩
  rw [hid]
  exact hne

theorem MapOk.of_find_eq_none (h : MapOk added map) {id : String} (hnone : map.find id = none) :
    MapOk (added.filter fun prod => decide (prod.id ≠ id)) map := by
  intro id' ent hfind
  obtain ⟨⟨prod, hadd, hid, hpr⟩, hsp⟩ := h id' ent hfind
  refine ⟨⟨prod, mem_filter.mpr ⟨hadd, decide_eq_true ?_⟩, hid, hpr⟩, hsp⟩
  rintro rfl
  rw [hid, hfind] at hnone
  cases hnone

variable {pr : ProducerRef}

theorem addProducer_mapOk {o' : ActiveSpeakerObserver} {now : ℕ} (h : MapOk added o.mapProducerSpeaker)
    (hadd : o.addProducer now pr = .ok o') : MapOk (pr :: added) o'.mapProducerSpeaker := by
  have hmono : MapOk (pr :: added) o.mapProducerSpeaker :=
    h.mono fun _ hmem => mem_cons_of_mem _ hmem
  unfold addProducer at hadd
  obtain ⟨_, -, hadd⟩ := bind_eq_ok.mp hadd
  split_ifs at hadd
  cases hadd
  exact hmono.insert ⟨⟨pr, mem_cons_self, rfl, rfl⟩, rfl⟩

section

variable (it : Iteration) (now : ℕ) (h : MapOk added o.mapProducerSpeaker)

include it now h

theorem removeProducer_of_safe (hsafe : o.RemovalSafe pr) :
    ∃ r, o.removeProducer it now pr = .ok r ∧ MapOk (added.filter fun other => decide (other.id ≠ pr.id))
        r.1.mapProducerSpeaker := by
  unfold removeProducer
  cases hfind : o.mapProducerSpeaker.find pr.id with
  | none => exact ⟨_, rfl, h.of_find_eq_none hfind⟩
  | some ent =>
    have herase := h.erase pr.id
    dsimp only
    by_cases hid : pr.id = o.dominantId
    · rw [if_pos hid]
      have hsome : (o.mapProducerSpeaker.find pr.id).isSome :=
        Option.isSome_iff_exists.mpr ⟨ent, hfind⟩
      exact update_of_safe it now herase ((electionSafe_erase hfind hid).mpr (hsafe hsome hid))
    · rw [if_neg hid]
      exact ⟨_, rfl, herase⟩

theorem removeProducer_of_not_safe (hfail : ¬ o.RemovalSafe pr) :
    o.removeProducer it now pr = .error .nullPointer := by
  unfold RemovalSafe at hfail
  push Not at hfail
  obtain ⟨hsome, hid, hlarge, hdom⟩ := hfail
  obtain ⟨entry, hfind⟩ := Option.isSome_iff_exists.mp hsome
  unfold removeProducer
  rw [hfind]
  dsimp only
  rw [if_pos hid]
  refine update_of_not_safe it now (h.erase pr.id) ?_
  rw [electionSafe_erase hfind hid]
  rintro (hle | hnil)
  · exact absurd hle (not_le.mpr hlarge)
  · exact hdom hnil

end

theorem changeSpeaker_ok (h : MapOk added o.mapProducerSpeaker) (pr : ProducerRef) (f : Speaker → Speaker) :
    ∃ o', o.changeSpeaker pr f = .ok o' ∧ MapOk added o'.mapProducerSpeaker := by
  unfold changeSpeaker
  cases hfind : o.mapProducerSpeaker.find pr.id with
  | none => exact ⟨o, rfl, h⟩
  | some ent =>
    have hentry := h pr.id ent hfind
    obtain ⟨sp, hsp⟩ := Option.isSome_iff_exists.mp hentry.speaker
    dsimp only
    rw [hsp]
    exact ⟨_, rfl, h.insert (hentry.withSpeaker _)⟩

end Update

/-! ## Runs -/

inductive Event where
  | addProducer (producer : ProducerRef) (now : ℕ)
  | removeProducer (producer : ProducerRef) (it : Iteration) (now : ℕ)
  | producerPaused (producer : ProducerRef)
  | producerResumed (producer : ProducerRef)
  | receiveRtpPacket (producer : ProducerRef) (volume : Option ℕ) (now : ℕ)
  | timer (it : Iteration) (now : ℕ)
  | pause
  | resume

structure ObserverTrace where
  observer : ActiveSpeakerObserver := {}
  added : List ProducerRef := []
  notified : List String := []

namespace ObserverTrace

def updated (t : ObserverTrace) (r : ActiveSpeakerObserver × Option String) : ObserverTrace :=
  { t with observer := r.1, notified := t.notified ++ r.2.toList }

def step (t : ObserverTrace) : Event → Except Fault ObserverTrace
  | .addProducer producer now =>
    match t.observer.addProducer now producer with
    | .ok observer => .ok { t with observer, added := producer :: t.added }
    | .error _ => .ok t
  | .removeProducer producer it now => do
    let r ← t.observer.removeProducer it now producer
    return { t.updated r with
      added := t.added.filter fun other => decide (other.id ≠ producer.id) }
  | .producerPaused producer => do
    return { t with observer := ← t.observer.producerPaused producer }
  | .producerResumed producer => do
    return { t with observer := ← t.observer.producerResumed producer }
  | .receiveRtpPacket producer volume now => do
    return { t with observer := ← t.observer.receiveRtpPacket now producer volume }
  | .timer it now =>
    if t.observer.paused then .ok t else t.updated <$> t.observer.update it now
  | .pause => .ok { t with observer := { t.observer with paused := true } }
  | .resume => .ok { t with observer := { t.observer with paused := false } }

def StepSafe (t : ObserverTrace) : Event → Prop
  | .timer _ _ => t.observer.paused = true ∨ t.observer.ElectionSafe
  | .removeProducer producer _ _ => t.observer.RemovalSafe producer
  | _ => True

def Inv (t : ObserverTrace) : Prop := MapOk t.added t.observer.mapProducerSpeaker

variable {t : ObserverTrace}

theorem updated_inv {r : ActiveSpeakerObserver × Option String} (h : MapOk t.added r.1.mapProducerSpeaker) :
    (t.updated r).Inv := h

section

variable (h : t.Inv)

include h

section

variable (prod : ProducerRef)

theorem step_addProducer (now : ℕ) :
    ∃ t', t.step (.addProducer prod now) = .ok t' ∧ t'.Inv := by
  unfold step
  dsimp only
  split
  · rename_i obs hadd
    exact ⟨_, rfl, addProducer_mapOk h hadd⟩
  · exact ⟨t, rfl, h⟩

theorem step_changeSpeaker (f : Speaker → Speaker) : ∃ t' : ObserverTrace, (do
        let observer ← t.observer.changeSpeaker prod f
        return { t with observer }) = Except.ok t' ∧ t'.Inv := by
  obtain ⟨o, ho, hinv⟩ := changeSpeaker_ok h prod f
  rw [ho]
  exact ⟨_, rfl, hinv⟩

theorem step_receiveRtpPacket (volume : Option ℕ) (now : ℕ) :
    ∃ t', t.step (.receiveRtpPacket prod volume now) = .ok t' ∧ t'.Inv := by
  unfold step receiveRtpPacket
  cases volume with
  | none => exact ⟨t, rfl, h⟩
  | some volume =>
    by_cases hpau : t.observer.paused = true
    · dsimp only
      rw [if_pos hpau]
      exact ⟨t, rfl, h⟩
    · dsimp only
      rw [if_neg hpau]
      exact step_changeSpeaker h prod _

end

theorem step_timer (it : Iteration) (now : ℕ) (hsafe : t.StepSafe (.timer it now)) :
    ∃ t', t.step (.timer it now) = .ok t' ∧ t'.Inv := by
  unfold step
  by_cases hpau : t.observer.paused = true
  · dsimp only
    rw [if_pos hpau]
    exact ⟨t, rfl, h⟩
  · obtain ⟨r, hr, hmap⟩ := update_of_safe it now h (hsafe.resolve_left hpau)
    dsimp only
    rw [if_neg hpau, hr]
    exact ⟨_, rfl, updated_inv hmap⟩

theorem step_timer_fails (it : Iteration) (now : ℕ) (hfail : ¬ t.StepSafe (.timer it now)) :
    t.step (.timer it now) = .error .nullPointer := by
  have hpau : ¬ t.observer.paused = true := fun hpau => hfail (.inl hpau)
  have helection : ¬ t.observer.ElectionSafe := fun hsafe => hfail (.inr hsafe)
  unfold step
  dsimp only
  rw [if_neg hpau, update_of_not_safe it now h helection]
  rfl

section

variable (prod : ProducerRef) (it : Iteration) (now : ℕ)

theorem step_removeProducer
    (hsafe : t.StepSafe (.removeProducer prod it now)) :
    ∃ t', t.step (.removeProducer prod it now) = .ok t' ∧ t'.Inv := by
  obtain ⟨r, hr, hmap⟩ := removeProducer_of_safe it now h hsafe
  unfold step
  dsimp only
  rw [hr]
  exact ⟨_, rfl, hmap⟩

theorem step_removeProducer_fails
    (hfail : ¬ t.StepSafe (.removeProducer prod it now)) :
    t.step (.removeProducer prod it now) = .error .nullPointer := by
  unfold step
  dsimp only
  rw [removeProducer_of_not_safe it now h hfail]
  rfl

end

/-- **One event**: it goes well and keeps the invariant exactly if it is safe. -/
theorem step_of_safe : ∀ e, t.StepSafe e → ∃ t', t.step e = .ok t' ∧ t'.Inv
  | .addProducer prod now, _ => step_addProducer h prod now
  | .removeProducer prod it now, hsafe => step_removeProducer h prod it now hsafe
  | .producerPaused prod, _ => step_changeSpeaker h prod _
  | .producerResumed prod, _ => step_changeSpeaker h prod _
  | .receiveRtpPacket prod volume now, _ => step_receiveRtpPacket h prod volume now
  | .timer it now, hsafe => step_timer h it now hsafe
  | .pause, _ => ⟨_, rfl, h⟩
  | .resume, _ => ⟨_, rfl, h⟩

theorem step_fails : ∀ e, ¬ t.StepSafe e → t.step e = .error .nullPointer
  | .removeProducer prod it now, hfail => step_removeProducer_fails h prod it now hfail
  | .timer it now, hfail => step_timer_fails h it now hfail
  | .addProducer _ _, hfail => absurd trivial hfail
  | .producerPaused _, hfail => absurd trivial hfail
  | .producerResumed _, hfail => absurd trivial hfail
  | .receiveRtpPacket _ _ _, hfail => absurd trivial hfail
  | .pause, hfail => absurd trivial hfail
  | .resume, hfail => absurd trivial hfail

theorem stepSafe_iff (e : Event) : t.StepSafe e ↔ ∃ t', t.step e = .ok t' := by
  constructor
  · intro hsafe
    obtain ⟨t', ht', -⟩ := step_of_safe h e hsafe
    exact ⟨t', ht'⟩
  · rintro ⟨t', ht'⟩
    by_contra hfail
    rw [step_fails h e hfail] at ht'
    cases ht'

theorem inv_of_step {t' : ObserverTrace} (e : Event) (hstep : t.step e = .ok t') : t'.Inv := by
  obtain ⟨t'', ht'', hinv⟩ := step_of_safe h e ((stepSafe_iff h e).mpr ⟨t', hstep⟩)
  rw [hstep] at ht''
  cases ht''
  exact hinv

end

theorem inv_init : Inv {} := by
  intro id entry hfind
  cases hfind

end ObserverTrace

def ObserverTrace.Consistent (t : ObserverTrace) : Prop :=
  ∀ x ∈ t.observer.mapProducerSpeaker.entries,
    (∃ producer ∈ t.added, producer.id = x.1 ∧ x.2.producer = some producer) ∧ x.2.speaker.isSome

/-- **Runs of the observer** are safe exactly if no election among two or more speakers starts with
a dominant id that is in no entry. -/
theorem observer_run_safe_iff (events : List Event) :
    (∃ t, run ObserverTrace.step {} events = .ok t ∧ t.Consistent) ↔
      RunMeets ObserverTrace.step ObserverTrace.StepSafe {} events := by
  have hinv : ∀ t e t', ObserverTrace.Inv t → t.step e = .ok t' → t'.Inv := fun t e t' h =>
    ObserverTrace.inv_of_step h e
  rw [← run_ok_iff_runMeets (fun t e h => ObserverTrace.stepSafe_iff h e) hinv
    ObserverTrace.inv_init]
  constructor
  · rintro ⟨t, hrun, -⟩
    exact ⟨t, hrun⟩
  · rintro ⟨t, hrun⟩
    have h : t.Inv := inv_of_run_ok hinv ObserverTrace.inv_init hrun
    refine ⟨t, hrun, fun x hx => ?_⟩
    have hentry := MapOk.of_mem_entries h hx
    exact ⟨hentry.producer, hentry.speaker⟩

theorem removed_dominant_crashes :
    run ObserverTrace.step {}
      [.addProducer ⟨"a", .audio⟩ 1000, .timer ⟨id, fun _ => List.Perm.refl _⟩ 1300,
        .addProducer ⟨"b", .audio⟩ 1400, .addProducer ⟨"c", .audio⟩ 1500,
        .removeProducer ⟨"a", .audio⟩ ⟨id, fun _ => List.Perm.refl _⟩ 1600] = .error .nullPointer := by
  rfl

end ActiveSpeakerObserver
end MediasoupWorker.RTC
