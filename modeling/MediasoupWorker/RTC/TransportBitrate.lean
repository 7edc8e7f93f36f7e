import MediasoupWorker.Library.BoundedLoop
import MediasoupWorker.RTC.SimpleConsumer
import MediasoupWorker.RTC.SimulcastConsumerStreams
import MediasoupWorker.RTC.SvcConsumer
import Mathlib.Algebra.BigOperators.Group.List.Basic
import Mathlib.Data.Prod.Lex

/-!
# The distribution of the available bitrate

`Transport::DistributeAvailableOutgoingBitrate` of `src/src/RTC/Transport.cpp`. The transport asks its
consumers to increase their layers, in rounds, until nothing is left or nobody uses anything. The available
bitrate is the variant of all three loops. `Readings` has what a consumer reads at each call of
`IncreaseLayer`; the virtual bitrate is any number.
-/

namespace MediasoupWorker.RTC

open Library List

/-! ## Consumers -/

inductive ConsumerClass where
  | simple (params : SimpleParameters)
  | simulcast (h : Codecs.Handler) (n : ℕ) (params : SimulcastParameters n)
  | svc (params : SvcParameters)

namespace ConsumerClass

def State : ConsumerClass → Type
  | .simple _ => SimpleConsumer
  | .simulcast h n _ => SimulcastConsumer h n
  | .svc _ => SvcConsumer

def Env : ConsumerClass → Type
  | .simple _ => SimpleEnv
  | .simulcast _ n _ => RTC.Env n
  | .svc _ => SvcEnv

def externallyManagedBitrate : (c : ConsumerClass) → c.State → Bool
  | .simple _, s => (SimpleConsumer.toConsumer s).externallyManagedBitrate
  | .simulcast _ _ _, s => SimulcastConsumer.externallyManagedBitrate s
  | .svc _, s => (SvcConsumer.toConsumer s).externallyManagedBitrate

def wantsBitrate : (c : ConsumerClass) → c.Env → c.State → Bool
  | .simple params, env, s => decide (params.kind = .video) && SimpleConsumer.isActive env s
  | .simulcast _ _ _, env, s => SimulcastConsumer.isActive env s
  | .svc _, env, s => SvcConsumer.isActive env s

def getBitratePriority (c : ConsumerClass) (env : c.Env) (s : c.State) (priority : BitVec 8) :
    Except Fault (BitVec 8) := do
  msAssert (c.externallyManagedBitrate s) "bitrate is not externally managed"
  return if c.wantsBitrate env s then priority else 0

def increaseLayer : (c : ConsumerClass) → c.Env → c.State → (virtualBitrate bitrate : ℕ) →
    Except Fault (c.State × ℕ)
  | .simple params, env, s, _, bitrate => SimpleConsumer.increaseLayer params env s bitrate
  | .simulcast _ _ _, env, s, virtualBitrate, bitrate =>
    SimulcastConsumer.increaseLayerWithin env s virtualBitrate bitrate
  | .svc _, env, s, virtualBitrate, bitrate => SvcConsumer.increaseLayerWithin env s virtualBitrate bitrate

def applyLayers : (c : ConsumerClass) → c.Env → c.State → Except Fault c.State
  | .simple params, env, s => SimpleConsumer.applyLayers params env s
  | .simulcast _ _ params, env, s => SimulcastConsumer.applyLayers params env s
  | .svc params, env, s => SvcConsumer.applyLayers params env s

def provisionalLayers : (c : ConsumerClass) → c.State → ℤ ×ₗ ℤ
  | .simple _, _ => toLex (-1, -1)
  | .simulcast _ _ _, s => toLex (layerNumber (SimulcastConsumer.provisionalTargetSpatialLayer s),
      SimulcastConsumer.provisionalTargetTemporalLayer s)
  | .svc _, s => toLex (SvcConsumer.provisionalTargetSpatialLayer s, SvcConsumer.provisionalTargetTemporalLayer s)

end ConsumerClass

/-! ## The distribution -/

inductive BweType where
  | transportCc
  | remb
  deriving DecidableEq

namespace Transport

variable {ι : Type} [DecidableEq ι] {c : ι → ConsumerClass}

structure Readings (c : ι → ConsumerClass) where
  bweType : BweType
  env : ∀ i, ℕ → (c i).Env
  lossAdjusted : ℕ → ℕ

def Readings.virtualBitrate (r : Readings c) (call bitrate : ℕ) : ℕ :=
  match r.bweType with
  | .transportCc => bitrate
  | .remb => r.lossAdjusted call

structure Call (ι : Type) where
  consumer : ι
  bitrate : ℕ
  usedBitrate : ℕ
  layers : ι → ℤ ×ₗ ℤ

structure Distribution (c : ι → ConsumerClass) where
  consumers : ∀ i, (c i).State
  availableBitrate : ℕ
  calls : List (Call ι) := []

def Distribution.layers (d : Distribution c) : ι → ℤ ×ₗ ℤ := fun i => (c i).provisionalLayers (d.consumers i)

def Distribution.use (d : Distribution c) (i : ι) (s : (c i).State) (usedBitrate : ℕ) : Distribution c :=
  let consumers := Function.update d.consumers i s
  { consumers
    availableBitrate := d.availableBitrate - usedBitrate
    calls := d.calls ++
      [⟨i, d.availableBitrate, usedBitrate, fun j => (c j).provisionalLayers (consumers j)⟩] }

inductive Stop where
  | fault (fault : Fault)
  | outOfTurns
  deriving DecidableEq

def orStop {α : Type} : Except Fault α → Except Stop α
  | .error fault => .error (.fault fault)
  | .ok a => .ok a

section Members

variable (r : Readings c)

def increase (i : ι) (d : Distribution c) : Except Fault (Distribution c × ℕ) := do
  let (s, usedBitrate) ← (c i).increaseLayer (r.env i d.calls.length) (d.consumers i)
    (r.virtualBitrate d.calls.length d.availableBitrate) d.availableBitrate
  msAssert (decide (usedBitrate ≤ d.availableBitrate)) "Consumer used more layer bitrate than given"
  return (d.use i s usedBitrate, usedBitrate)

def increaseBody (priority : BitVec 8) (i : ι) (x : BitVec 8 × Distribution c) :
    Except Stop ((BitVec 8 × Distribution c) × Bool) :=
  if x.1 ≤ priority then do
    let (d, usedBitrate) ← orStop (increase r i x.2)
    if usedBitrate = 0 then return ((x.1, d), false) else return ((x.1 + 1, d), true)
  else return (x, false)

def round (turns : ℕ) : List (BitVec 8 × ι) → Distribution c → Except Stop (Distribution c)
  | [], d => .ok d
  | (priority, i) :: entries, d => do
    let (_, d) ← loop .outOfTurns (increaseBody r priority i) turns (1, d)
    round turns entries d

def roundBody (turns : ℕ) (entries : List (BitVec 8 × ι)) (d : Distribution c) :
    Except Stop (Distribution c × Bool) :=
  if d.availableBitrate > 0 then do
    let d' ← round r turns entries d
    return (d', d'.availableBitrate != d.availableBitrate)
  else return (d, false)

def applyAll : List (BitVec 8 × ι) → Distribution c → Except Fault (Distribution c)
  | [], d => .ok d
  | (_, i) :: entries, d => do
    let s ← (c i).applyLayers (r.env i d.calls.length) (d.consumers i)
    applyAll entries { d with consumers := Function.update d.consumers i s }

def emplace (priority : BitVec 8) (i : ι) : List (BitVec 8 × ι) → List (BitVec 8 × ι)
  | [] => [(priority, i)]
  | e :: entries => if priority < e.1 then (priority, i) :: e :: entries else e :: emplace priority i entries

def multimapPriorityConsumer (priority : ι → BitVec 8) (consumers : ∀ i, (c i).State) :
    List ι → List (BitVec 8 × ι) → Except Fault (List (BitVec 8 × ι))
  | [], entries => .ok entries
  | i :: order, entries => do
    let p ← (c i).getBitratePriority (r.env i 0) (consumers i) (priority i)
    multimapPriorityConsumer priority consumers order (if p > 0 then emplace p i entries else entries)

def distributeAvailableOutgoingBitrate (turns : ℕ) (order : List ι) (priority : ι → BitVec 8)
    (availableBitrate : ℕ) (consumers : ∀ i, (c i).State) : Except Stop (Distribution c) := do
  let entries ← orStop (multimapPriorityConsumer r priority consumers order [])
  if entries.isEmpty then return { consumers, availableBitrate }
  else
    let d ← loop .outOfTurns (roundBody r turns entries.reverse) turns { consumers, availableBitrate }
    orStop (applyAll r entries.reverse d)

end Members

end Transport

/-! ## A call of `IncreaseLayer` -/

namespace SimpleConsumer

variable {params : SimpleParameters} {env : SimpleEnv} {s : SimpleConsumer}

theorem isActive_congr {s' : SimpleConsumer} (hbase : s'.toConsumer = s.toConsumer)
    (hs : s'.producerRtpStream = s.producerRtpStream) : s'.isActive env = s.isActive env := by
  rw [isActive, isActive, hbase, hs]

section

variable (hman : s.externallyManagedBitrate = true) (hvideo : params.kind = .video)
  (hact : s.isActive env = true)

include hman hvideo hact

theorem increaseLayer_spec (rate : ℕ) :
    ∃ s' used, s.increaseLayer params env rate = .ok (s', used) ∧ used ≤ rate ∧
      s'.toConsumer = s.toConsumer ∧ s'.producerRtpStream = s.producerRtpStream := by
  unfold increaseLayer
  rw [hman, msAssert_true, ok_bind, decide_eq_true hvideo, msAssert_true, ok_bind, hact, msAssert_true,
    ok_bind]
  split_ifs
  · exact ⟨s, 0, rfl, Nat.zero_le _, rfl, rfl⟩
  · exact ⟨_, _, rfl, min_le_right _ _, rfl, rfl⟩

theorem applyLayers_ok : ∃ s', s.applyLayers params env = .ok s' := by
  unfold applyLayers
  rw [hman, msAssert_true, ok_bind, decide_eq_true hvideo, msAssert_true, ok_bind, hact, msAssert_true,
    ok_bind]
  exact ⟨_, rfl⟩

end

end SimpleConsumer

namespace SimulcastConsumer

variable {h : Codecs.Handler} {n : ℕ} {params : SimulcastParameters n} {env : Env n}
  {s : SimulcastConsumer h n}

theorem increaseLayerWithin_spec (hlink : s.selection.Linked) (hman : s.externallyManagedBitrate = true)
    (hact : s.isActive env = true) (virt rate : ℕ) :
    ∃ s' used, s.increaseLayerWithin env virt rate = .ok (s', used) ∧ used ≤ rate ∧ (s' = s ∨ ∃ l tl,
        s' = s.setProvisionalLayers (some l) (tl : ℕ) ∧ (s.producerRtpStreams l).isSome ∧ s.Above l tl) := by
  unfold increaseLayerWithin
  rw [hman, msAssert_true, ok_bind, hact, msAssert_true, ok_bind]
  split
  · exact ⟨s, 0, rfl, Nat.zero_le _, .inl rfl⟩
  have hmeets : Meets _ _ (s.searchLayers env (finRange n)) := searchLayers_meets hlink _
  obtain ⟨res, hsearch, hfound⟩ := hmeets.exists_ok
  rw [hsearch, ok_bind]
  cases res with
  | none => exact ⟨s, 0, rfl, Nat.zero_le _, .inl rfl⟩
  | some found =>
    dsimp only
    split
    · exact ⟨s, 0, rfl, Nat.zero_le _, .inl rfl⟩
    · obtain ⟨hswitchable, habove⟩ := hfound found rfl
      refine ⟨_, _, rfl, ?_, .inr ⟨found.2.1, found.2.2, rfl, hswitchable.stream, habove⟩⟩
      split_ifs with hfits
      · exact hfits
      · exact le_rfl

theorem applyLayers_ok (hman : s.externallyManagedBitrate = true) (hact : s.isActive env = true) :
    ∃ s', s.applyLayers params env = .ok s' := by
  unfold applyLayers
  rw [hman, msAssert_true, ok_bind, hact, msAssert_true, ok_bind]
  dsimp only
  split_ifs
  · exact ⟨_, rfl⟩
  · exact ⟨_, rfl⟩
  · exact ⟨_, rfl⟩

end SimulcastConsumer

namespace SvcConsumer

variable {params : SvcParameters} {env : SvcEnv} {s : SvcConsumer}

theorem searchTemporalLayer_above {l : ℕ} {tls : List ℕ} {found : ℕ × ℕ}
    (hfound : s.searchTemporalLayer env l tls = some found)
    (hsame : (l : ℤ) = s.provisionalTargetSpatialLayer) : s.provisionalTargetTemporalLayer < found.2 := by
  induction tls with
  | nil => cases hfound
  | cons tl tls ih =>
    unfold searchTemporalLayer at hfound
    split at hfound
    · exact ih hfound
    · rename_i hlow
      dsimp only at hfound
      split_ifs at hfound
      cases hfound
      exact not_le.mp fun hle => hlow ⟨hsame, hle⟩

/-- **What `IncreaseLayer` finds** is above the provisional layers. -/
theorem searchLayers_above {ls : List ℕ} {found : ℕ × ℕ × ℕ} (hfound : s.searchLayers env ls = some found) :
    s.provisionalTargetSpatialLayer ≤ found.2.1 ∧
      ((found.2.1 : ℤ) = s.provisionalTargetSpatialLayer → s.provisionalTargetTemporalLayer < found.2.2) := by
  induction ls with
  | nil => cases hfound
  | cons l ls ih =>
    unfold searchLayers at hfound
    split at hfound
    · cases hfound
    split at hfound
    · exact ih hfound
    rename_i hsl
    split at hfound
    · rename_i hsearch
      have htl := searchTemporalLayer_above hsearch
      cases hfound
      exact ⟨not_lt.mp hsl, htl⟩
    split at hfound
    · cases hfound
    · exact ih hfound

section

variable (hman : s.externallyManagedBitrate = true) (hact : s.isActive env = true)

include hman hact

theorem increaseLayerWithin_spec (virt rate : ℕ) :
    ∃ s' used, s.increaseLayerWithin env virt rate = .ok (s', used) ∧ used ≤ rate ∧ (s' = s ∨ ∃ l tl : ℕ,
        s' = s.setProvisionalLayers l tl ∧ s.provisionalTargetSpatialLayer ≤ l ∧
        ((l : ℤ) = s.provisionalTargetSpatialLayer → s.provisionalTargetTemporalLayer < tl)) := by
  unfold increaseLayerWithin
  rw [hman, msAssert_true, ok_bind, hact, msAssert_true, ok_bind]
  split
  · exact ⟨s, 0, rfl, Nat.zero_le _, .inl rfl⟩
  split
  · exact ⟨s, 0, rfl, Nat.zero_le _, .inl rfl⟩
  split
  · exact ⟨s, 0, rfl, Nat.zero_le _, .inl rfl⟩
  rename_i required l tl hsearch
  split
  · exact ⟨s, 0, rfl, Nat.zero_le _, .inl rfl⟩
  · refine ⟨_, _, rfl, ?_, .inr ⟨l, tl, rfl, searchLayers_above hsearch⟩⟩
    split_ifs with hfits
    · exact hfits
    · exact le_rfl

theorem applyLayers_ok : ∃ s', s.applyLayers params env = .ok s' := by
  unfold applyLayers
  rw [hman, msAssert_true, ok_bind, hact, msAssert_true, ok_bind]
  dsimp only
  split_ifs
  · exact ⟨_, rfl⟩
  · exact ⟨_, rfl⟩
  · exact ⟨_, rfl⟩

end

end SvcConsumer

namespace ConsumerClass

def Linked : (c : ConsumerClass) → c.State → Prop
  | .simple _, _ => True
  | .simulcast _ _ _, s => (SimulcastConsumer.selection s).Linked
  | .svc _, _ => True

structure TakesPart (c : ConsumerClass) (env : ℕ → c.Env) (s : c.State) : Prop where
  managed : c.externallyManagedBitrate s = true
  active : ∀ call, c.wantsBitrate (env call) s = true
  linked : c.Linked s

theorem layerNumber_inj {n : ℕ} {provisional : Option (Fin n)} {l : Fin n}
    (h : ((l : ℕ) : ℤ) = layerNumber provisional) : some l = provisional := by
  cases provisional with
  | none => exact absurd h (ne_of_gt ((neg_one_lt_zero : (-1 : ℤ) < 0).trans_le (Int.natCast_nonneg _)))
  | some provisional => exact congrArg some (Fin.ext (Int.ofNat_inj.mp h))

theorem toLex_le {a b : ℤ} {l tl : ℤ} (hsl : a ≤ l) (htl : l = a → b < tl) :
    toLex (a, b) ≤ toLex (l, tl) := by
  rw [Prod.Lex.toLex_le_toLex]
  rcases hsl.lt_or_eq with hlt | rfl
  · exact .inl hlt
  · exact .inr ⟨rfl, (htl rfl).le⟩

/-- **A call of `IncreaseLayer`**: the consumer uses no more than it is offered, and its provisional layers do
not decrease. -/
theorem increaseLayer_spec {c : ConsumerClass} {env : ℕ → c.Env} {s : c.State} (hs : c.TakesPart env s)
    (call virt rate : ℕ) : ∃ s' usedBitrate, c.increaseLayer (env call) s virt rate = .ok (s', usedBitrate) ∧
      usedBitrate ≤ rate ∧ c.provisionalLayers s ≤ c.provisionalLayers s' ∧ c.TakesPart env s' := by
  cases c with
  | simple params =>
    have hwants (k : ℕ) := (Bool.and_eq_true _ _).mp (hs.active k)
    obtain ⟨s', usedBitrate, hok, hused, hbase, hstr⟩ :=
      SimpleConsumer.increaseLayer_spec hs.managed (of_decide_eq_true (hwants call).1) (hwants call).2 rate
    refine ⟨s', usedBitrate, hok, hused, le_refl _, ⟨?_, fun k => ?_, trivial⟩⟩
    · exact (congrArg Consumer.externallyManagedBitrate hbase).trans hs.managed
    · exact (congrArg (decide (params.kind = .video) && ·)
        (SimpleConsumer.isActive_congr hbase hstr)).trans (hs.active k)
  | simulcast h n params =>
    obtain ⟨s', usedBitrate, hok, hused, hls⟩ := SimulcastConsumer.increaseLayerWithin_spec hs.linked
      hs.managed (hs.active call) virt rate
    refine ⟨s', usedBitrate, hok, hused, ?_⟩
    rcases hls with rfl | ⟨layer, tl, rfl, hstr, habove⟩
    · exact ⟨le_refl _, hs⟩
    · refine ⟨toLex_le habove.spatial fun heq => habove.temporal ?_, hs.managed, hs.active,
        SimulcastConsumer.linked_setProvisionalLayers hs.linked (fun i hi => ?_) _⟩
      · exact layerNumber_inj heq
      · cases hi
        exact hstr
  | svc params =>
    obtain ⟨s', usedBitrate, hok, hused, hls⟩ := SvcConsumer.increaseLayerWithin_spec
      hs.managed (hs.active call) virt rate
    refine ⟨s', usedBitrate, hok, hused, ?_⟩
    rcases hls with rfl | ⟨layer, tl, rfl, hspatial, htemporal⟩
    · exact ⟨le_refl _, hs⟩
    · exact ⟨toLex_le hspatial htemporal, hs.managed, hs.active, trivial⟩

theorem applyLayers_ok {c : ConsumerClass} {env : ℕ → c.Env} {s : c.State} (hs : c.TakesPart env s)
    (call : ℕ) : ∃ s', c.applyLayers (env call) s = .ok s' := by
  cases c with
  | simple params =>
    have hwants := (Bool.and_eq_true _ _).mp (hs.active call)
    exact SimpleConsumer.applyLayers_ok hs.managed (of_decide_eq_true hwants.1) hwants.2
  | simulcast h n params => exact SimulcastConsumer.applyLayers_ok hs.managed (hs.active call)
  | svc params => exact SvcConsumer.applyLayers_ok hs.managed (hs.active call)

end ConsumerClass

/-! ## The loops -/

namespace Transport

variable {ι : Type} [DecidableEq ι] {c : ι → ConsumerClass} {r : Readings c}

structure Fair (r : Readings c) (entries : List (BitVec 8 × ι)) (d₀ d : Distribution c) : Prop where
  takesPart : ∀ e ∈ entries, (c e.2).TakesPart (r.env e.2) (d.consumers e.2)
  sum_eq : (d.calls.map Call.usedBitrate).sum + d.availableBitrate = d₀.availableBitrate
  increasing : (d₀.layers :: d.calls.map Call.layers).Pairwise (· ≤ ·)
  le_layers : ∀ layers ∈ d₀.layers :: d.calls.map Call.layers, layers ≤ d.layers

variable {es : List (BitVec 8 × ι)} {d₀ d : Distribution c}

omit [DecidableEq ι] in
theorem Fair.availableBitrate_le (h : Fair r es d₀ d) : d.availableBitrate ≤ d₀.availableBitrate :=
  h.sum_eq ▸ Nat.le_add_left _ _

theorem layers_le_use {i : ι} {s : (c i).State} (used : ℕ)
    (hls : (c i).provisionalLayers (d.consumers i) ≤ (c i).provisionalLayers s) :
    d.layers ≤ (d.use i s used).layers := by
  intro j
  rcases eq_or_ne j i with rfl | hne
  · simpa [Distribution.layers, Distribution.use] using hls
  · simp [Distribution.layers, Distribution.use, Function.update_of_ne hne]

theorem Fair.use (h : Fair r es d₀ d) {i : ι} {s : (c i).State} {used : ℕ} (hused : used ≤ d.availableBitrate)
    (hls : (c i).provisionalLayers (d.consumers i) ≤ (c i).provisionalLayers s)
    (hs : (c i).TakesPart (r.env i) s) : Fair r es d₀ (d.use i s used) := by
  have hle := layers_le_use used hls
  have hcalls : d₀.layers :: (d.use i s used).calls.map Call.layers =
      (d₀.layers :: d.calls.map Call.layers) ++ [(d.use i s used).layers] := by
    rw [cons_append, Distribution.use, map_append]
    rfl
  refine ⟨fun e he => ?_, ?_, ?_, ?_⟩
  · obtain ⟨prio, j⟩ := e
    rcases eq_or_ne j i with rfl | hne
    · simpa [Distribution.use] using hs
    · simpa [Distribution.use, Function.update_of_ne hne] using h.takesPart _ he
  · have := h.sum_eq
    simp only [Distribution.use, map_append, sum_append, map_cons, map_nil, sum_singleton]
    omega
  · rw [hcalls]
    exact pairwise_append.mpr ⟨h.increasing, pairwise_singleton _ _, fun ls hls =>
      forall_mem_singleton.mpr ((h.le_layers ls hls).trans hle)⟩
  · rw [hcalls]
    exact forall_mem_append.mpr ⟨fun ls hls => (h.le_layers ls hls).trans hle,
      forall_mem_singleton.mpr le_rfl⟩

/-- **One call.** The assertion holds. -/
theorem increase_fair (h : Fair r es d₀ d) {e : BitVec 8 × ι} (he : e ∈ es) :
    ∃ d' used, increase r e.2 d = .ok (d', used) ∧ Fair r es d₀ d' ∧
      d'.availableBitrate + used = d.availableBitrate := by
  obtain ⟨s, used, hok, hused, hls, hs⟩ := ConsumerClass.increaseLayer_spec (h.takesPart e he)
    d.calls.length (r.virtualBitrate d.calls.length d.availableBitrate) d.availableBitrate
  unfold increase
  rw [hok, ok_bind]
  dsimp only
  rw [decide_eq_true hused, msAssert_true, ok_bind]
  exact ⟨_, used, rfl, h.use hused hls hs, Nat.sub_add_cancel hused⟩

variable {turns : ℕ}

/-- **The innermost loop** ends, whatever the priority is. -/
theorem increaseLoop_fair (hturns : d₀.availableBitrate < turns) (h : Fair r es d₀ d) {e : BitVec 8 × ι}
    (he : e ∈ es) : ∃ x, loop .outOfTurns (increaseBody r e.1 e.2) turns (1, d) = .ok x ∧ Fair r es d₀ x.2 ∧
      x.2.availableBitrate ≤ d.availableBitrate := by
  refine loop_ok_of_variant 
    (I := fun x : BitVec 8 × Distribution c =>
      Fair r es d₀ x.2 ∧ x.2.availableBitrate ≤ d.availableBitrate)
    (V := fun x => x.2.availableBitrate) (fun x hx => ?_) ⟨h, Nat.le_refl _⟩
    (lt_of_le_of_lt h.availableBitrate_le hturns)
  unfold increaseBody
  split
  · obtain ⟨d', used, hok, hfair, hsum⟩ := increase_fair hx.1 he
    have hle : d'.availableBitrate ≤ d.availableBitrate := by
      have := hx.2
      omega
    rw [hok]
    by_cases hzero : used = 0
    · subst hzero
      exact ⟨(x.1, d'), false, rfl, ⟨hfair, hle⟩, fun hfalse => (Bool.false_ne_true hfalse).elim⟩
    · have hlt : d'.availableBitrate < x.2.availableBitrate := by omega
      refine ⟨(x.1 + 1, d'), true, ?_, ⟨hfair, hle⟩, fun _ => hlt⟩
      rw [orStop, ok_bind]
      exact if_neg hzero
  · exact ⟨x, false, rfl, hx, fun hfalse => (Bool.false_ne_true hfalse).elim⟩

variable {rest : List (BitVec 8 × ι)}

section

variable (hturns : d₀.availableBitrate < turns) (h : Fair r es d₀ d)

include hturns h

theorem round_fair (hrest : ∀ e ∈ rest, e ∈ es) :
    ∃ d', round r turns rest d = .ok d' ∧ Fair r es d₀ d' ∧ d'.availableBitrate ≤ d.availableBitrate := by
  induction rest generalizing d with
  | nil => exact ⟨d, rfl, h, Nat.le_refl _⟩
  | cons e rest ih =>
    obtain ⟨he, hrest'⟩ := forall_mem_cons.mp hrest
    obtain ⟨x, hloop, hfair, hle⟩ := increaseLoop_fair hturns h he
    obtain ⟨d', hround, hfair', hle'⟩ := ih hfair hrest'
    refine ⟨d', ?_, hfair', hle'.trans hle⟩
    rw [round, hloop, ok_bind]
    exact hround

theorem roundLoop_fair :
    ∃ d', loop .outOfTurns (roundBody r turns es) turns d = .ok d' ∧ Fair r es d₀ d' := by
  refine loop_ok_of_variant (I := Fair r es d₀) (V := Distribution.availableBitrate) (fun d hd => ?_) h
    (lt_of_le_of_lt h.availableBitrate_le hturns)
  unfold roundBody
  split
  · obtain ⟨d', hround, hfair, hle⟩ := round_fair hturns hd fun e he => he
    refine ⟨d', d'.availableBitrate != d.availableBitrate, ?_, hfair, fun hne => ?_⟩
    · rw [hround]
      rfl
    · exact lt_of_le_of_ne hle (bne_iff_ne.mp hne)
  · exact ⟨d, false, rfl, hd, fun hfalse => (Bool.false_ne_true hfalse).elim⟩

end

theorem applyAll_ok (hnd : (rest.map Prod.snd).Nodup)
    (hrest : ∀ e ∈ rest, (c e.2).TakesPart (r.env e.2) (d.consumers e.2)) :
    ∃ d', applyAll r rest d = .ok d' ∧ d'.calls = d.calls ∧ d'.availableBitrate = d.availableBitrate := by
  induction rest generalizing d with
  | nil => exact ⟨d, rfl, rfl, rfl⟩
  | cons e rest ih =>
    obtain ⟨prio, i⟩ := e
    obtain ⟨he, hrest'⟩ := forall_mem_cons.mp hrest
    obtain ⟨hnotMem, hnd'⟩ := nodup_cons.mp hnd
    obtain ⟨s, hs⟩ := ConsumerClass.applyLayers_ok he d.calls.length
    obtain ⟨d', happly, hcalls, havailable⟩ := ih (d := { d with consumers := Function.update d.consumers i s })
      hnd' fun e' he' => by
        have hne : e'.2 ≠ i := fun heq => hnotMem (mem_map.mpr ⟨e', he', heq⟩)
        simpa [Function.update_of_ne hne] using hrest' e' he'
    refine ⟨d', ?_, hcalls, havailable⟩
    rw [applyAll, hs, ok_bind]
    exact happly

/-! ## The entries -/

omit [DecidableEq ι] in
theorem perm_emplace (prio : BitVec 8) (i : ι) (es : List (BitVec 8 × ι)) :
    (emplace prio i es).Perm ((prio, i) :: es) := by
  induction es with
  | nil => exact .refl _
  | cons e es ih =>
    unfold emplace
    split
    · exact .refl _
    · exact (ih.cons e).trans (.swap _ _ _)

def hasPriority (r : Readings c) (priority : ι → BitVec 8) (consumers : ∀ i, (c i).State) (i : ι) : Bool :=
  (c i).wantsBitrate (r.env i 0) (consumers i) && decide (0 < priority i)

variable (r) in
omit [DecidableEq ι] in
/-- **The entries** are those of the consumers with a priority. -/
theorem multimapPriorityConsumer_ok (prio : ι → BitVec 8) {cs : ∀ i, (c i).State} {order : List ι}
    (hman : ∀ i ∈ order, (c i).externallyManagedBitrate (cs i) = true) (es : List (BitVec 8 × ι)) :
    ∃ es', multimapPriorityConsumer r prio cs order es = .ok es' ∧ es'.Perm
        ((order.filter (hasPriority r prio cs)).map (fun i => (prio i, i)) ++ es) := by
  induction order generalizing es with
  | nil => exact ⟨es, rfl, .refl _⟩
  | cons i order ih =>
    obtain ⟨hi, hord⟩ := forall_mem_cons.mp hman
    unfold multimapPriorityConsumer ConsumerClass.getBitratePriority
    rw [hi, msAssert_true, ok_bind]
    show ∃ es', multimapPriorityConsumer r prio cs order _ = .ok es' ∧ _
    by_cases hprio : hasPriority r prio cs i = true
    · obtain ⟨hwants, hpositive⟩ := (Bool.and_eq_true _ _).mp hprio
      obtain ⟨es', hok, hperm⟩ := ih hord (emplace (prio i) i es)
      rw [hwants, if_pos rfl, if_pos (of_decide_eq_true hpositive), filter_cons_of_pos hprio]
      refine ⟨es', hok, hperm.trans ?_⟩
      exact ((perm_emplace (prio i) i es).append_left _).trans perm_middle
    · obtain ⟨es', hok, hperm⟩ := ih hord es
      rw [filter_cons_of_neg hprio]
      refine ⟨es', ?_, hperm⟩
      rw [if_neg ?_, hok]
      split
      · rename_i hwants
        rw [hasPriority, hwants, Bool.true_and, decide_eq_true_eq] at hprio
        exact hprio
      · decide

end Transport

/-! ## The distribution ends -/

def ConsumerClass.Arises : (c : ConsumerClass) → c.State → Prop
  | .simple _, _ => True
  | .simulcast h n params, s => ∃ (producerRtpStreams : Fin n → Option LastSenderReport)
      (preferredSpatialLayer preferredTemporalLayer : ℤ) (encodingContext : h.Context)
      (paused producerPaused : Bool) (events : List (SimulcastConsumer.Event h n)),
      run (SimulcastConsumer.step params) (.new producerRtpStreams preferredSpatialLayer preferredTemporalLayer
        encodingContext paused producerPaused) events = .ok s
  | .svc _, _ => True

theorem ConsumerClass.Arises.linked {c : ConsumerClass} {s : c.State} (h : c.Arises s) : c.Linked s := by
  cases c with
  | simple params => trivial
  | simulcast h' n params =>
    obtain ⟨streams, sl, tl, ctx, paused, producerPaused, events, hrun⟩ := h
    exact SimulcastConsumer.linked_of_run hrun
  | svc params => trivial

namespace Transport

/-- **The distribution ends, and it does not give out more than there is.** Provisional layers only
increase. -/
theorem distribution_ends {ι : Type} [DecidableEq ι] (c : ι → ConsumerClass) (r : Readings c)
    (order : List ι) (hnodup : order.Nodup) (priority : ι → BitVec 8) (availableBitrate : ℕ)
    (consumers : ∀ i, (c i).State)
    (hmanaged : ∀ i ∈ order, (c i).externallyManagedBitrate (consumers i) = true)
    (hsteady : ∀ i ∈ order, ∀ call, (c i).wantsBitrate (r.env i call) (consumers i) =
      (c i).wantsBitrate (r.env i 0) (consumers i))
    (harises : ∀ i ∈ order, (c i).Arises (consumers i)) {turns : ℕ}
    (hturns : availableBitrate < turns) :
    ∃ d, distributeAvailableOutgoingBitrate r turns order priority availableBitrate consumers = .ok d ∧
      (d.calls.map Call.usedBitrate).sum ≤ availableBitrate ∧
      ((fun i => (c i).provisionalLayers (consumers i)) :: d.calls.map Call.layers).Pairwise (· ≤ ·) := by
  obtain ⟨entries, hentries, hperm⟩ := multimapPriorityConsumer_ok r priority hmanaged []
  rw [List.append_nil] at hperm
  unfold distributeAvailableOutgoingBitrate
  rw [hentries, orStop, ok_bind]
  split
  · exact ⟨_, rfl, Nat.zero_le _, List.pairwise_singleton _ _⟩
  · have hmem (e : BitVec 8 × ι) (he : e ∈ entries.reverse) :
        e.2 ∈ order.filter (hasPriority r priority consumers) := by
      obtain ⟨i, hi, rfl⟩ := List.mem_map.mp (hperm.mem_iff.mp (List.mem_reverse.mp he))
      exact hi
    have hfair : Fair r entries.reverse { consumers, availableBitrate } { consumers, availableBitrate } := by
      refine ⟨fun e he => ?_, Nat.zero_add _, List.pairwise_singleton _ _, fun layers hlayers => ?_⟩
      · obtain ⟨horder, hpriority⟩ := List.mem_filter.mp (hmem e he)
        refine ⟨hmanaged _ horder, fun call => ?_, (harises _ horder).linked⟩
        rw [hsteady _ horder call]
        exact ((Bool.and_eq_true _ _).mp hpriority).1
      · rw [List.mem_singleton.mp hlayers]
    obtain ⟨d, hloop, hfair'⟩ := roundLoop_fair hturns hfair
    have hnodup' : (entries.reverse.map Prod.snd).Nodup := by
      have hsnd := hperm.map Prod.snd
      rw [List.map_map] at hsnd
      rw [List.map_reverse, List.nodup_reverse, hsnd.nodup_iff]
      exact (List.map_id _).symm ▸ hnodup.filter _
    obtain ⟨d', happly, hcalls, -⟩ := applyAll_ok hnodup' hfair'.takesPart
    refine ⟨d', ?_, ?_, ?_⟩
    · rw [hloop, ok_bind, happly]
      rfl
    · rw [hcalls]
      exact Nat.le.intro hfair'.sum_eq
    · rw [hcalls]
      exact hfair'.increasing

inductive Viewer where
  | simple
  | simulcast
  | svc
  deriving DecidableEq

namespace Viewer

def simpleParameters : SimpleParameters where
  keyFrameSupported := true
  consumableSsrc := 1
  ssrc := 11
  supportedCodecPayloadTypes := [96]

def simulcastParameters : SimulcastParameters 2 where
  consumableSsrcs layer := BitVec.ofNat 32 (layer + 2)
  ssrc := 12
  clockRate := 90000
  temporalLayers := 1
  supportedCodecPayloadTypes := [97]

def svcParameters : SvcParameters where
  consumableSsrc := 4
  ssrc := 13
  spatialLayers := 2
  temporalLayers := 1
  supportedCodecPayloadTypes := [98]

def consumerClass : Viewer → ConsumerClass
  | simple => .simple simpleParameters
  | simulcast => .simulcast Codecs.VP8.handler 2 simulcastParameters
  | svc => .svc svcParameters

def consumer : (v : Viewer) → v.consumerClass.State
  | simple => { SimpleConsumer.new true false false with
      transportConnected := true
      externallyManagedBitrate := true }
  | simulcast => { (SimulcastConsumer.new (fun _ => some {}) 1 0 {} false false :
        SimulcastConsumer Codecs.VP8.handler 2) with
      transportConnected := true
      externallyManagedBitrate := true
      syncRequired := true }
  | svc => { SvcConsumer.new svcParameters true 1 0 false false false with
      transportConnected := true
      externallyManagedBitrate := true }

def readings : Readings consumerClass where
  bweType := .remb
  env
    | simple, _ => { score := 10, bitrate := 300 }
    | simulcast, _ => { nowMs := 20000, reading := fun _ => { score := 10, layerBitrate := fun _ => 200 } }
    | svc, _ => { nowMs := 20000, score := 10, spatialLayers := 2, layerBitrate := fun _ _ => 400 }
  lossAdjusted := fun _ => 1000

end Viewer

open Viewer in
theorem distribution_ends_viewers :
    ∃ d, distributeAvailableOutgoingBitrate readings 1001 [simple, simulcast, svc] (fun _ => 255) 1000 consumer =
        .ok d ∧ (d.calls.map Call.usedBitrate).sum ≤ 1000 ∧
      ((fun v => v.consumerClass.provisionalLayers v.consumer) :: d.calls.map Call.layers).Pairwise (· ≤ ·) := by
  refine distribution_ends consumerClass readings [simple, simulcast, svc] (by decide) (fun _ => 255) 1000 consumer
    (fun v _ => ?_) (fun v _ call => ?_) (fun v _ => ?_) (by decide)
  · cases v <;> rfl
  · cases v <;> rfl
  · cases v with
    | simple => trivial
    | simulcast =>
      exact ⟨fun _ => some {}, 1, 0, {}, false, false, [.setExternallyManagedBitrate, .transportConnected {}], rfl⟩
    | svc => trivial

end Transport

end MediasoupWorker.RTC
