import MediasoupWorker.Library.Runs
import MediasoupWorker.RTC.SimulcastConsumer

/-!
# Switching layers needs sender reports

When a simulcast consumer synchronizes on a key frame it asserts that the reference stream and the target
stream have a sender report. That was checked when the target was selected, but the time 0 of a later
report counts as no report (`zero_report_aborts`).
-/

namespace MediasoupWorker.RTC

open Library Option

structure Selection (n : ℕ) where
  streams : Fin n → Option LastSenderReport
  reference : Option (Fin n)
  target : Option (Fin n)
  current : Option (Fin n)
  provisional : Option (Fin n)

namespace Selection

variable {n : ℕ} {v : Selection n}

def retarget (v : Selection n) : Option (Fin n) → Selection n
  | none => { v with target := none, current := none }
  | some layer =>
    { v with reference := v.reference.orElse fun _ => some layer, target := some layer }

def setStream (v : Selection n) (layer : Fin n) (report : LastSenderReport) : Selection n :=
  { v with streams := Function.update v.streams layer (some report) }

def complete (v : Selection n) : Selection n := { v with current := v.target }

def HasReport (v : Selection n) (layer : Fin n) : Prop :=
  ∃ report, v.streams layer = some report ∧ report.ntpMs ≠ 0

def Comparable (v : Selection n) (reference layer : Fin n) : Prop :=
  layer = reference ∨ (v.HasReport reference ∧ v.HasReport layer)

structure Switchable (v : Selection n) (layer : Fin n) : Prop where
  stream : (v.streams layer).isSome
  comparable : ∀ reference, v.reference = some reference → v.Comparable reference layer

structure Inv (v : Selection n) : Prop where
  reference : ∀ reference, v.reference = some reference → (v.streams reference).isSome
  target : ∀ target, v.target = some target →
    ∃ reference, v.reference = some reference ∧ v.Comparable reference target
  current : ∀ current, v.current = some current → v.target.isSome ∧
    ∃ reference, v.reference = some reference ∧ (current = reference ∨ v.HasReport reference)
  provisional : ∀ layer, v.provisional = some layer → v.Switchable layer

structure Linked (v : Selection n) : Prop where
  reference : ∀ layer, v.reference = some layer → (v.streams layer).isSome
  provisional : ∀ layer, v.provisional = some layer → (v.streams layer).isSome

theorem Inv.linked (h : v.Inv) : v.Linked :=
  ⟨h.reference, fun layer hl => (h.provisional layer hl).stream⟩

structure Settled (P : Selection n → Prop) (v : Selection n) : Prop where
  holds : P v
  noProvisional : v.provisional = none

structure Ready (v : Selection n) : Prop extends Inv v where
  noProvisional : v.provisional = none

def needsReport (v : Selection n) (layer : Fin n) : Bool :=
  match v.reference with
  | none => false
  | some reference =>
    (v.target == some layer && layer != reference) ||
      (layer == reference && (v.target.any (· != reference) || v.current.any (· != reference)))

theorem Settled.ready (h : v.Settled Inv) : v.Ready := ⟨h.holds, h.noProvisional⟩

theorem Ready.provisional_ne (h : v.Ready) {layer : Fin n} (hl : v.provisional = some layer) : False := by
  rw [h.noProvisional] at hl
  cases hl

theorem provisional_retarget (layer : Option (Fin n)) : (v.retarget layer).provisional = v.provisional := by
  cases layer <;> rfl

theorem Ready.retarget (h : v.Ready) {layer : Option (Fin n)} (hl : ∀ i, layer = some i → v.Switchable i) :
    (v.retarget layer).Ready := by
  cases layer with
  | none =>
    exact ⟨⟨h.reference, fun _ ht => (nomatch ht), fun _ hc => (nomatch hc),
      fun _ hp => (h.provisional_ne hp).elim⟩, h.noProvisional⟩
  | some i =>
    have hi := hl i rfl
    unfold Selection.retarget
    cases href : v.reference with
    | none =>
      refine ⟨⟨?_, ?_, ?_, fun _ hp => (h.provisional_ne hp).elim⟩, h.noProvisional⟩
      · rintro r hr
        cases hr
        exact hi.stream
      · rintro t ht
        cases ht
        exact ⟨i, rfl, .inl rfl⟩
      · rintro c hc
        obtain ⟨-, r, hr, -⟩ := h.current c hc
        rw [href] at hr
        cases hr
    | some r =>
      refine ⟨⟨?_, ?_, ?_, fun _ hp => (h.provisional_ne hp).elim⟩, h.noProvisional⟩
      · rintro r' hr'
        cases hr'
        exact h.reference r href
      · rintro t ht
        cases ht
        exact ⟨r, rfl, hi.comparable r href⟩
      · rintro c hc
        obtain ⟨-, r', hr', hor⟩ := h.current c hc
        rw [href] at hr'
        cases hr'
        exact ⟨rfl, r, rfl, hor⟩

theorem Inv.complete (h : v.Inv) : v.complete.Inv := by
  refine ⟨h.reference, h.target, fun c hc => ?_, fun p hp =>
    ⟨(h.provisional p hp).stream, (h.provisional p hp).comparable⟩⟩
  obtain ⟨r, hr, hcomp⟩ := h.target c hc
  refine ⟨isSome_iff_exists.mpr ⟨c, hc⟩, r, hr, ?_⟩
  exact hcomp.imp id And.left

theorem isSome_setStream {j : Fin n} (hj : (v.streams j).isSome) (i : Fin n) (r : LastSenderReport) :
    ((v.setStream i r).streams j).isSome := by
  show (Function.update v.streams i (some r) j).isSome
  by_cases hij : j = i
  · rw [hij, Function.update_self]
    rfl
  · rw [Function.update_of_ne hij]
    exact hj

variable {rep : LastSenderReport}

theorem HasReport.setStream {i j : Fin n} (h : v.HasReport j) (hrep : i = j → rep.ntpMs ≠ 0) :
    (v.setStream i rep).HasReport j := by
  by_cases hij : i = j
  · subst hij
    exact ⟨rep, Function.update_self .., hrep rfl⟩
  · obtain ⟨r', hrep', hne⟩ := h
    refine ⟨r', ?_, hne⟩
    show Function.update v.streams i (some rep) j = some r'
    rw [Function.update_of_ne (Ne.symm hij)]
    exact hrep'

theorem Ready.setStream (h : v.Ready) {i : Fin n} (hsafe : rep.ntpMs ≠ 0 ∨ v.needsReport i = false) :
    (v.setStream i rep).Ready := by
  -- A needed report is only replaced by one with a time.
  have hneeded : v.needsReport i = true → rep.ntpMs ≠ 0 := fun hneeds =>
    hsafe.resolve_right fun hfalse => by
      rw [hneeds] at hfalse
      cases hfalse
  refine ⟨⟨fun r hr => isSome_setStream (h.reference r hr) i rep, fun t ht => ?_, fun c hc => ?_,
    fun _ hp => (h.provisional_ne hp).elim⟩, h.noProvisional⟩
  · change v.target = some t at ht
    obtain ⟨r, hr, hcomp⟩ := h.target t ht
    refine ⟨r, hr, ?_⟩
    by_cases htr : t = r
    · exact .inl htr
    · obtain ⟨href, htgt⟩ := hcomp.resolve_left htr
      refine .inr ⟨href.setStream fun hir => hneeded ?_, htgt.setStream fun hit => hneeded ?_⟩
      · simp [needsReport, hr, ht, hir, htr]
      · simp [needsReport, hr, ht, hit, htr]
  · change v.current = some c at hc
    obtain ⟨htgt, r, hr, hor⟩ := h.current c hc
    refine ⟨htgt, r, hr, ?_⟩
    by_cases hcr : c = r
    · exact .inl hcr
    · refine .inr ((hor.resolve_left hcr).setStream fun hir => hneeded ?_)
      simp [needsReport, hr, hc, hir, hcr]

end Selection

namespace SimulcastConsumer

variable {h : Codecs.Handler} {n : ℕ} {params : SimulcastParameters n} {env : Env n}
  {s : SimulcastConsumer h n}

def selection (s : SimulcastConsumer h n) : Selection n where
  streams := s.producerRtpStreams
  reference := s.tsReferenceSpatialLayer
  target := s.targetSpatialLayer
  current := s.currentSpatialLayer
  provisional := s.provisionalTargetSpatialLayer

/-! ## What leaves the selection alone -/

@[simp] theorem selection_requestKeyFrameFor (layer : Option (Fin n)) :
    (s.requestKeyFrameFor params layer).selection = s.selection := by
  unfold requestKeyFrameFor
  split
  · rfl
  · split_ifs <;> rfl

@[simp] theorem selection_transmit (p : SimulcastPacket h) :
    (s.transmit params env p).selection = s.selection := by
  unfold transmit
  dsimp only
  split_ifs <;> rfl

@[simp] theorem selection_updateTargetLayers (layer : Option (Fin n)) (tl : ℤ) :
    (s.updateTargetLayers params layer tl).selection = s.selection.retarget layer := by
  cases layer with
  | none => rfl
  | some layer =>
    unfold updateTargetLayers setTargetLayers
    dsimp only
    split_ifs
    · rfl
    · unfold requestKeyFrameForTargetSpatialLayer
      rw [selection_requestKeyFrameFor]
      rfl

/-! ## The selection of layers -/

variable {layer : Fin n}

theorem canSwitchToSpatialLayer_meets (hlinked : s.selection.Linked)
    (hstr : (s.producerRtpStreams layer).isSome) :
    Meets (fun accepted => accepted = true → s.selection.Switchable layer) (fun _ => False)
      (s.canSwitchToSpatialLayer layer) := by
  obtain ⟨st, hsome⟩ := isSome_iff_exists.mp hstr
  unfold canSwitchToSpatialLayer
  rw [hsome]
  dsimp only
  cases href : s.tsReferenceSpatialLayer with
  | none =>
    intro _
    refine ⟨hstr, fun reference hreference => ?_⟩
    have hnone : s.tsReferenceSpatialLayer = some reference := hreference
    rw [href] at hnone
    cases hnone
  | some reference =>
    have hreference (r : Fin n) (hr : s.selection.reference = some r) : r = reference := by
      have hsome' : s.tsReferenceSpatialLayer = some r := hr
      rw [href] at hsome'
      exact (some.inj hsome').symm
    dsimp only
    split_ifs with heq
    · intro _
      refine ⟨hstr, fun r hr => .inl ?_⟩
      rw [hreference r hr]
      exact heq
    · obtain ⟨referenceStream, hrstr⟩ :=
        isSome_iff_exists.mp (hlinked.reference reference href)
      have hrstr' : s.producerRtpStreams reference = some referenceStream :=
        hrstr
      rw [hrstr']
      intro hacc
      have hne : referenceStream.ntpMs ≠ 0 ∧ st.ntpMs ≠ 0 := by simpa using hacc
      refine ⟨hstr, fun r hr => .inr ?_⟩
      rw [hreference r hr]
      exact ⟨⟨referenceStream, hrstr', hne.1⟩, ⟨st, hsome, hne.2⟩⟩

theorem isSome_of_not_passesOver {sel : Option (Fin n)} (hpass : ¬ s.passesOver env sel layer = true) :
    (s.producerRtpStreams layer).isSome := by
  by_contra hnone
  rw [not_isSome_iff_eq_none] at hnone
  refine hpass ?_
  simp [passesOver, producerScore, hnone]

theorem recalculateLoop_meets (hlink : s.selection.Linked) (ls : List (Fin n)) (sel : Option (Fin n))
    (top : ℕ) (hsel : ∀ i, sel = some i → s.selection.Switchable i) :
    Meets (fun r => ∀ i, r = some i → s.selection.Switchable i) (fun _ => False)
      (s.recalculateLoop env ls sel top) := by
  induction ls generalizing sel top with
  | nil => exact hsel
  | cons layer ls ih =>
    unfold recalculateLoop
    by_cases hpass : s.passesOver env sel layer = true
    · rw [if_pos hpass]
      exact ih sel top hsel
    rw [if_neg hpass]
    refine (canSwitchToSpatialLayer_meets hlink (isSome_of_not_passesOver hpass)).bind
      fun accepted hacc => ?_
    cases accepted with
    | false => exact ih sel top hsel
    | true =>
      have hl (i : Fin n) (hi : some layer = some i) : s.selection.Switchable i := by
        cases hi
        exact hacc rfl
      simp only [Bool.not_true, Bool.false_eq_true, if_false]
      split_ifs
      · exact ih sel top hsel
      · exact hl
      · exact ih (some layer) _ hl

theorem recalculateTargetLayers_meets (hlink : s.selection.Linked) :
    Meets (fun ls => ∀ i, ls.1 = some i → s.selection.Switchable i) (fun _ => False)
      (s.recalculateTargetLayers params env) := by
  unfold recalculateTargetLayers
  refine (recalculateLoop_meets hlink _ none 0 fun i hi => ?_).bind fun sel hsel => ?_
  · cases hi
  · exact hsel

/-! ## The selection by available bitrate -/

section

variable (hlink : s.selection.Linked)

include hlink

theorem exists_provisional_stream {prov : Fin n} (hprov : s.provisionalTargetSpatialLayer = some prov) :
    ∃ stream, s.producerRtpStreams prov = some stream :=
  isSome_iff_exists.mp (hlink.provisional prov hprov)

theorem isTooYoung_meets (layer : Fin n) :
    Meets (fun _ => True) (fun _ => False) (s.isTooYoung env layer) := by
  unfold isTooYoung
  cases hprov : s.provisionalTargetSpatialLayer with
  | none => trivial
  | some provisional =>
    obtain ⟨st, hstr⟩ := exists_provisional_stream hlink hprov
    dsimp only
    rw [hstr]
    split_ifs <;> trivial

theorem requiredBitrate_meets (layer : Fin n) (tl : ℕ) :
    Meets (fun _ => True) (fun _ => False) (s.requiredBitrate env layer tl) := by
  unfold requiredBitrate
  dsimp only
  cases hprov : s.provisionalTargetSpatialLayer with
  | none => trivial
  | some prov =>
    obtain ⟨stream, hstr⟩ := exists_provisional_stream hlink hprov
    dsimp only
    rw [hstr]
    by_cases hhigher : (env.reading layer).layerBitrate tl ≠ 0 ∧ tl = 0 ∧ prov < layer
    · rw [if_pos hhigher]
      trivial
    · rw [if_neg hhigher]
      trivial

theorem searchTemporalLayer_meets (layer : Fin n) (tls : List ℕ) : Meets (fun r => ∀ found, r = some found →
        some layer = s.provisionalTargetSpatialLayer → s.provisionalTargetTemporalLayer < found.2)
      (fun _ => False) (s.searchTemporalLayer env layer tls) := by
  induction tls with
  | nil =>
    intro found hfound
    cases hfound
  | cons tl tls ih =>
    unfold searchTemporalLayer
    split_ifs with hlow
    · exact ih
    · refine (requiredBitrate_meets hlink layer tl).bind fun required _ => ?_
      intro found hfound hsame
      split_ifs at hfound
      cases hfound
      exact not_le.mp fun hle => hlow ⟨hsame, hle⟩

end

structure Above (s : SimulcastConsumer h n) (layer : Fin n) (temporalLayer : ℕ) : Prop where
  spatial : layerNumber s.provisionalTargetSpatialLayer ≤ (layer : ℕ)
  temporal : some layer = s.provisionalTargetSpatialLayer → s.provisionalTargetTemporalLayer < temporalLayer

/-- **What `IncreaseLayer` finds** may become the target and is above the provisional layers. -/
theorem searchLayers_meets (hlink : s.selection.Linked) (ls : List (Fin n)) :
    Meets (fun r => ∀ found, r = some found → s.selection.Switchable found.2.1 ∧ s.Above found.2.1 found.2.2)
      (fun _ => False) (s.searchLayers env ls) := by
  have hnone (found : ℕ × Fin n × ℕ) (hfound : none = some found) :
      s.selection.Switchable found.2.1 ∧ s.Above found.2.1 found.2.2 := by cases hfound
  induction ls with
  | nil => exact hnone
  | cons layer ls ih =>
    unfold searchLayers
    split
    · exact hnone
    split
    · exact ih
    rename_i hsl
    split
    · exact ih
    rename_i hbad
    have hs : (s.producerRtpStreams layer).isSome :=
      isSome_iff_ne_none.mpr fun hnull => hbad (.inl (by rw [hnull]; rfl))
    refine (isTooYoung_meets hlink layer).bind fun young _ => ?_
    split
    · exact ih
    refine (canSwitchToSpatialLayer_meets hlink hs).bind fun accepted hacc => ?_
    cases accepted with
    | false => exact ih
    | true =>
      refine (searchTemporalLayer_meets hlink layer _).bind fun r htl => ?_
      cases r with
      | some found =>
        intro found' hfound'
        cases hfound'
        exact ⟨hacc rfl, not_lt.mp hsl, htl found rfl⟩
      | none =>
        dsimp only
        split
        · exact hnone
        · exact ih

def Tolerated (fault : Fault) : Prop :=
  fault = .exception "std::out_of_range" ∨ fault = .assertion "unknown mappedSsrc" ∨
    fault = Codecs.noTargetTemporalLayer

structure Preserved (h : Codecs.Handler) (params : SimulcastParameters n) (P : Selection n → Prop)
    (Q : Fault → Prop) : Prop where
  linked : ∀ v, P v → v.Linked
  propose : ∀ v layer, P v → v.Switchable layer → P { v with provisional := some layer }
  giveUp : ∀ v, P v → P { v with provisional := none }
  apply : ∀ v, P v → P ({ v with provisional := none }.retarget v.provisional)
  retarget : ∀ (v : Selection n) layer, v.Settled P → (∀ i, layer = some i → v.Switchable i) →
    P (v.retarget layer)
  complete : ∀ v, P v → P v.complete
  sync : ∀ (s : SimulcastConsumer h n) layer, P s.selection →
    (s.targetSpatialLayer = some layer ∨ s.currentSpatialLayer = some layer) →
    Meets (fun _ => True) Q (s.syncTsOffset params layer)
  tolerated : ∀ fault, Tolerated fault → Q fault

structure Distributing (P : Selection n → Prop) (env : Env n) (s : SimulcastConsumer h n) : Prop where
  holds : P s.selection
  managed : s.externallyManagedBitrate = true
  active : s.isActive env = true

section Preserved

variable {P : Selection n → Prop} {Q : Fault → Prop}

theorem Distributing.msAssert_managed (hs : s.Distributing P env) (desc : String) :
    msAssert s.externallyManagedBitrate desc = .ok () := by
  rw [hs.managed]
  rfl

theorem Distributing.msAssert_active (hs : s.Distributing P env) (desc : String) :
    msAssert (s.isActive env) desc = .ok () := by
  rw [hs.active]
  rfl

variable (k : Preserved h params P Q)
include k

section

variable (hs : s.Distributing P env)

include hs

theorem increaseLayer_meets (rate : ℕ) (loss : Bool) :
    Meets (fun r => r.1.Distributing P env) (fun _ => False)
      (s.increaseLayer env rate loss) := by
  unfold increaseLayer
  rw [hs.msAssert_managed, ok_bind, hs.msAssert_active, ok_bind]
  split_ifs
  · exact hs
  refine (searchLayers_meets (k.linked _ hs.holds) _).bind fun r hres => ?_
  cases r with
  | none => exact hs
  | some found =>
    dsimp only
    by_cases hluck : virtualBitrate env rate loss < found.1
    · rw [if_pos hluck]
      exact hs
    · rw [if_neg hluck]
      exact ⟨k.propose _ _ hs.holds (hres found rfl).1, hs.managed, hs.active⟩

theorem increaseLayers_meets (calls : List (ℕ × Bool)) :
    Meets (fun s' => s'.Distributing P env) (fun _ => False) (increaseLayers env calls s) := by
  induction calls generalizing s with
  | nil => exact hs
  | cons call calls ih =>
    unfold increaseLayers
    exact (increaseLayer_meets k hs call.1 call.2).bind fun r hres => ih hres

theorem applyLayers_meets :
    Meets (fun s' => s'.selection.Settled P) (fun _ => False) (s.applyLayers params env) := by
  -- The provisional layer is given up before it becomes the target.
  have hset : (s.setProvisionalLayers none (-1)).selection.Settled P := ⟨k.giveUp _ hs.holds, rfl⟩
  have hretarget : ((s.setProvisionalLayers none (-1)).updateTargetLayers params
      s.provisionalTargetSpatialLayer s.provisionalTargetTemporalLayer).selection.Settled P := by
    rw [selection_updateTargetLayers]
    exact ⟨k.apply _ hs.holds, Selection.provisional_retarget _⟩
  unfold applyLayers
  rw [hs.msAssert_managed, ok_bind, hs.msAssert_active, ok_bind]
  dsimp only
  split_ifs
  · exact hset
  · exact hretarget
  · exact hretarget

end

section

variable (hs : s.selection.Settled P)

include hs

theorem distribute_meets (hman : s.externallyManagedBitrate = true) :
    Meets (fun s' => s'.selection.Settled P) (fun _ => False) (s.distribute params env) := by
  unfold distribute
  rw [hman, msAssert_true, ok_bind]
  split_ifs with hact
  · exact (increaseLayers_meets k ⟨hs.holds, hman, hact⟩ env.increases).bind fun s' hs' =>
      applyLayers_meets k hs'
  · exact hs

theorem Preserved.retargeted {layer : Option (Fin n)} (hl : ∀ i, layer = some i → s.selection.Switchable i) :
    (s.selection.retarget layer).Settled P :=
  ⟨k.retarget _ _ hs hl, (Selection.provisional_retarget _).trans hs.noProvisional⟩

theorem mayChangeLayers_meets (force : Bool) : Meets (fun s' => s'.selection.Settled P) (fun _ => False)
      (s.mayChangeLayers params env force) := by
  unfold mayChangeLayers
  refine (recalculateTargetLayers_meets (k.linked _ hs.holds)).bind fun ls hls => ?_
  split_ifs with hsame hman hchg
  · exact hs
  · exact distribute_meets k hs hman
  · exact hs
  · show (s.updateTargetLayers params ls.1 ls.2).selection.Settled P
    rw [selection_updateTargetLayers]
    exact k.retargeted hs hls

end

end Preserved

/-! ## The forwarding of packets -/

section

variable (hs : s.selection.Inv)
  (hlayer : s.targetSpatialLayer = some layer ∨ s.currentSpatialLayer = some layer)

include hs hlayer

theorem exists_reports (hreference : some layer ≠ s.tsReferenceSpatialLayer) :
    ∃ reference target, s.tsReferenceSpatialLayer = some reference ∧ s.targetSpatialLayer = some target ∧
      s.selection.HasReport reference ∧ s.selection.HasReport target := by
  rcases hlayer with htgt | hcurrent
  · obtain ⟨reference, hr, hcomp⟩ := hs.target layer htgt
    have hne : layer ≠ reference := fun heq => hreference (heq ▸ hr.symm)
    obtain ⟨href, htr⟩ := hcomp.resolve_left hne
    exact ⟨reference, layer, hr, htgt, href, htr⟩
  · obtain ⟨hsome, reference, hr, hor⟩ := hs.current layer hcurrent
    obtain ⟨target, htgt⟩ := isSome_iff_exists.mp hsome
    have hne : layer ≠ reference := fun heq => hreference (heq ▸ hr.symm)
    have href := hor.resolve_left hne
    obtain ⟨reference', hr', hcomp⟩ := hs.target target htgt
    obtain rfl : reference' = reference := some.inj (hr'.symm.trans hr)
    refine ⟨reference', target, hr, htgt, href, ?_⟩
    -- The target is the reference or has a report of its own.
    rcases hcomp with rfl | ⟨-, htr⟩
    · exact href
    · exact htr

theorem syncTsOffset_meets : Meets (fun _ => True) (fun _ => False) (s.syncTsOffset params layer) := by
  unfold syncTsOffset
  by_cases href : some layer = s.tsReferenceSpatialLayer
  · rw [if_pos href]
    trivial
  rw [if_neg href]
  obtain ⟨ref, target, hreferenceLayer, htargetLayer, hreps⟩ :
      ∃ ref target, s.tsReferenceSpatialLayer = some ref ∧ s.targetSpatialLayer = some target ∧
        s.selection.HasReport ref ∧ s.selection.HasReport target :=
    exists_reports hs hlayer href
  obtain ⟨⟨referenceReport, hreferenceReport, hreferenceMs⟩, targetReport, htr, htargetMs⟩ :=
    hreps
  have hgetReference : s.getProducerTsReferenceRtpStream = some referenceReport := by
    unfold getProducerTsReferenceRtpStream
    rw [hreferenceLayer]
    exact hreferenceReport
  have hgetTarget : s.getProducerTargetRtpStream = some targetReport := by
    unfold getProducerTargetRtpStream
    rw [htargetLayer]
    exact htr
  rw [hgetReference]
  dsimp only
  rw [bne_iff_ne.mpr hreferenceMs, msAssert_true, ok_bind, hgetTarget]
  dsimp only
  rw [bne_iff_ne.mpr htargetMs, msAssert_true, ok_bind]
  trivial

end

section

variable (p : SimulcastPacket h)

theorem processPayload_meets (c : h.Context) :
    Meets (fun _ => True) Tolerated (p.processPayload c) := by
  unfold SimulcastPacket.processPayload
  cases p.descriptor with
  | none => trivial
  | some desc =>
    have hproc : Meets (fun _ => True) Tolerated
        (h.process c desc p.payload) := by
      cases hres : h.process c desc p.payload with
      | error f => exact .inr (.inr (h.process_fault _ _ _ _ hres))
      | ok r => trivial
    refine hproc.bind fun r _ => ?_
    obtain ⟨c', r⟩ := r
    cases r <;> trivial

theorem switchAndTransmit_meets :
    Meets (fun s' => s'.selection = s.selection.complete) Tolerated
      (s.switchAndTransmit params env p) := by
  unfold switchAndTransmit
  refine (processPayload_meets p _).bind fun r _ => ?_
  show (transmit params env _ r.2.1).selection = s.selection.complete
  rw [selection_transmit]
  rfl

theorem filterAndTransmit_meets :
    Meets (fun s' => s'.selection = s.selection) Tolerated
      (s.filterAndTransmit params env p) := by
  unfold filterAndTransmit
  refine (processPayload_meets p _).bind fun r _ => ?_
  obtain ⟨c, p', done⟩ := r
  dsimp only
  split_ifs
  · rfl
  · show (transmit params env _ p').selection = s.selection
    rw [selection_transmit]
    rfl
  · show (transmit params env _ p').selection = s.selection
    rw [selection_transmit]
    rfl

end

section Preserved

variable {P : Selection n → Prop} {Q : Fault → Prop} (k : Preserved h params P Q)
include k

theorem synchronize_meets (hs : P s.selection)
    (hl : s.targetSpatialLayer = some layer ∨ s.currentSpatialLayer = some layer) (p : SimulcastPacket h)
    (sw : Bool) : Meets (fun r => r.1.selection = s.selection) Q
      (s.synchronize params p layer sw) := by
  unfold synchronize
  refine (k.sync s layer hs hl).bind fun off _ => ?_
  split
  · show (s.requestKeyFrameForTargetSpatialLayer params).selection = s.selection
    exact selection_requestKeyFrameFor _
  · rfl

section

variable (hs : s.selection.Settled P)

include hs

theorem forward_meets (p : SimulcastPacket h) (sw : Bool) :
    Meets (fun s' => s'.selection.Settled P) Q (s.forward params env p sw) := by
  unfold forward
  split_ifs
  · refine (switchAndTransmit_meets p).mono (fun s' hs' => ?_) k.tolerated
    rw [hs']
    exact ⟨k.complete _ hs.holds, hs.noProvisional⟩
  · refine (filterAndTransmit_meets p).mono (fun s' hs' => ?_) k.tolerated
    rw [hs']
    exact hs

theorem syncAndForward_meets (hl : s.targetSpatialLayer = some layer ∨ s.currentSpatialLayer = some layer)
    (p : SimulcastPacket h) (sw : Bool) : Meets (fun s' => s'.selection.Settled P) Q
      (s.syncAndForward params env p layer sw) := by
  unfold syncAndForward
  split_ifs
  · exact forward_meets k hs p sw
  · exact hs
  · refine (synchronize_meets k hs.holds hl p sw).bind fun r hres => ?_
    obtain ⟨s', synced⟩ := r
    have hs' : s'.selection.Settled P := by
      rw [hres]
      exact hs
    dsimp only
    split_ifs
    · exact forward_meets k hs' p sw
    · exact hs'

theorem sendLayerPacket_meets (p : SimulcastPacket h) (layer : Fin n) :
    Meets (fun s' => s'.selection.Settled P) Q (s.sendLayerPacket params env p layer) := by
  unfold sendLayerPacket
  dsimp only
  generalize hswitching : decide (s.currentSpatialLayer ≠ s.targetSpatialLayer ∧
    some layer = s.targetSpatialLayer) = switching
  split_ifs with hignored hother
  · exact hs
  · exact hs
  · have hl : s.targetSpatialLayer = some layer ∨ s.currentSpatialLayer = some layer := by
      cases switching with
      | true => exact .inl (of_decide_eq_true hswitching).2.symm
      | false =>
        have hcur : ¬ some layer ≠ s.currentSpatialLayer := fun hne =>
          hother (decide_eq_true hne)
        exact .inr (not_not.mp hcur).symm
    exact syncAndForward_meets k (s := s.requireSync switching) hs hl p switching

theorem sendRtpPacket_meets (p : SimulcastPacket h) :
    Meets (fun s' => s'.selection.Settled P) Q (s.sendRtpPacket params env p) := by
  unfold sendRtpPacket
  split_ifs
  · exact hs
  · exact hs
  · cases params.spatialLayerOf p.ssrc with
    | none => exact k.tolerated _ (.inl rfl)
    | some layer => exact sendLayerPacket_meets k hs p layer
  · exact hs

end

end Preserved

/-! ## Events -/

def StepKeepsReports (params : SimulcastParameters n) (s : SimulcastConsumer h n) :
    Event h n → Prop
  | .senderReport layer report _ _ =>
    ntp2TimeMs report.ntp ≠ 0 ∨ s.selection.needsReport layer = false
  | .newRtpStream mappedSsrc _ =>
    ∀ layer, params.spatialLayerOf mappedSsrc = some layer → s.selection.needsReport layer = false
  | _ => True

theorem view_selection : View (selection (h := h) (n := n)) :=
  ⟨fun _ _ _ _ _ _ _ _ _ _ _ => rfl, fun _ _ _ => rfl⟩

theorem Preserved.keeps {P : Selection n → Prop} {Q : Fault → Prop} (k : Preserved h params P Q) :
    Keeps params (selection (h := h)) (Selection.Settled P) Q where
  toView := view_selection
  mayChangeLayers _ _ force hs := (mayChangeLayers_meets k hs force).weaken fun _ => id
  distribute _ _ hs hmanaged := (distribute_meets k hs hmanaged).weaken fun _ => id
  unsetLayers s hs := by
    show (s.selection.retarget none).Settled P
    exact k.retargeted hs fun i hi => by cases hi
  unknownSsrc := k.tolerated _ (.inr (.inl rfl))

/-- **The assertions hold**: the sender reports are there for the target and the current layer. -/
theorem preserved_inv : Preserved h params Selection.Inv Tolerated where
  linked _ hv := hv.linked
  propose v layer hv hlayer := ⟨hv.reference, hv.target, hv.current, fun p hp => by
    cases hp
    exact ⟨hlayer.stream, hlayer.comparable⟩⟩
  giveUp v hv := ⟨hv.reference, hv.target, hv.current, fun p hp => by cases hp⟩
  apply v hv := by
    have hready : Selection.Ready { v with provisional := none } :=
      ⟨⟨hv.reference, hv.target, hv.current, fun p hp => by cases hp⟩, rfl⟩
    refine (hready.retarget fun layer hlayer => ?_).toInv
    have hprov := hv.provisional layer hlayer
    exact ⟨hprov.stream, hprov.comparable⟩
  retarget _ _ hv hlayer := (hv.ready.retarget hlayer).toInv
  complete _ hv := hv.complete
  sync _ _ hs hlayer := (syncTsOffset_meets hs hlayer).weaken fun _ => id
  tolerated _ := id

/-- **One event**: the selection stays ready, and no assertion about sender reports fails. -/
theorem step_ready (hs : s.selection.Ready) (e : Event h n) (he : s.StepKeepsReports params e) :
    Meets (fun s' => s'.selection.Ready) Tolerated (s.step params e) := by
  have hset (v : Selection n) (hv : v.Ready) : v.Settled Selection.Inv :=
    ⟨hv.toInv, hv.noProvisional⟩
  refine (preserved_inv.keeps.step (hset _ hs) e (fun p env _ =>
    sendRtpPacket_meets preserved_inv (hset _ hs) p) ?_ ?_).mono
      (fun s' hs' => hs'.ready) fun _ => id
  · rintro layer r scoreChange env rfl
    exact hset _ (hs.setStream he)
  · rintro mapped env layer rfl hl
    exact hset _ (hs.setStream (.inr (he layer hl)))

/-! ## Runs -/

theorem ready_new (streams : Fin n → Option LastSenderReport) (sl tl : ℤ) (ctx : h.Context)
    (paused producerPaused : Bool) : (new streams sl tl ctx paused
      producerPaused).selection.Ready :=
  ⟨⟨fun _ hr => (nomatch hr), fun _ ht => (nomatch ht), fun _ hc => (nomatch hc),
    fun _ hp => (nomatch hp)⟩, rfl⟩

/-- **Synchronizing on a key frame never aborts** in a run whose events take away no sender report
that is needed. -/
theorem synchronization_never_asserts (params : SimulcastParameters n)
    (producerRtpStreams : Fin n → Option LastSenderReport)
    (preferredSpatialLayer preferredTemporalLayer : ℤ) (encodingContext : h.Context)
    (paused producerPaused : Bool) (events : List (Event h n))
    (hmeet : RunMeets (step params) (StepKeepsReports params)
      (new producerRtpStreams preferredSpatialLayer preferredTemporalLayer encodingContext paused
        producerPaused) events) :
    run (step params) (new producerRtpStreams preferredSpatialLayer preferredTemporalLayer
        encodingContext paused producerPaused) events ≠
      .error (.assertion "no Sender Report for TS reference RTP stream") ∧
    run (step params) (new producerRtpStreams preferredSpatialLayer preferredTemporalLayer
        encodingContext paused producerPaused) events ≠
      .error (.assertion "no Sender Report for current RTP stream") := by
  have hmeets := run_meets_of_inv (fun s e hs he => step_ready hs e he)
    (ready_new producerRtpStreams preferredSpatialLayer preferredTemporalLayer encodingContext
      paused producerPaused) hmeet
  have hfault (description : String) (hunknown : description ≠ "unknown mappedSsrc")
      (htemporal : description ≠ "target temporal layer cannot be -1") :
      run (step params) (new producerRtpStreams preferredSpatialLayer preferredTemporalLayer
        encodingContext paused producerPaused) events ≠ .error (.assertion description) := by
    intro hrun
    rw [hrun] at hmeets
    rcases hmeets with hexception | hassertion | hassertion
    · cases hexception
    · exact hunknown (Fault.assertion.inj hassertion)
    · exact htemporal (Fault.assertion.inj hassertion)
  exact ⟨hfault _ (by decide) (by decide), hfault _ (by decide) (by decide)⟩

def twoLayers : SimulcastConsumer Codecs.VP8.handler 2 :=
  new (fun _ => some { ntpMs := 1000, ts := 90000 }) 1 0 {} false false

def twoLayersParameters : SimulcastParameters 2 where
  consumableSsrcs layer := BitVec.ofNat 32 (layer + 1)
  ssrc := 7
  clockRate := 90000
  temporalLayers := 1
  supportedCodecPayloadTypes := [96]

def switchToHigherLayer (ntp : Ntp) : List (Event Codecs.VP8.handler 2) :=
  let lower : Env 2 := { reading := fun layer => { score := if layer = 0 then 10 else 0 } }
  let both : Env 2 := { nowMs := 20000, reading := fun _ => { score := 10 } }
  [.transportConnected lower, .score 10 0 both, .senderReport 1 ⟨ntp, 180000⟩ none both, .rtpPacket {
      ssrc := 2
      payloadType := 96
      sequenceNumber := 100
      timestamp := 180000
      descriptor := some { isKeyFrame := true } } both]

theorem synchronization_never_asserts_switch :
    (∃ s, run (step twoLayersParameters) twoLayers (switchToHigherLayer ⟨2, 0⟩) = .ok s ∧
      s.currentSpatialLayer = some 1) ∧
    run (step twoLayersParameters) twoLayers (switchToHigherLayer ⟨2, 0⟩) ≠
      .error (.assertion "no Sender Report for TS reference RTP stream") ∧
    run (step twoLayersParameters) twoLayers (switchToHigherLayer ⟨2, 0⟩) ≠
      .error (.assertion "no Sender Report for current RTP stream") :=
  ⟨⟨_, rfl, rfl⟩, synchronization_never_asserts twoLayersParameters _ 1 0 _ false false _
    ⟨trivial, fun _ _ => ⟨trivial, fun _ _ => ⟨Or.inl (by decide), fun _ _ =>
      ⟨trivial, fun _ _ => trivial⟩⟩⟩⟩⟩

theorem zero_report_aborts :
    run (step twoLayersParameters) twoLayers (switchToHigherLayer ⟨0, 0⟩) =
      .error (.assertion "no Sender Report for current RTP stream") := by
  rfl

end SimulcastConsumer

end MediasoupWorker.RTC
