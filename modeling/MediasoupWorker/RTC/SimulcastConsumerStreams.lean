import MediasoupWorker.RTC.SimulcastConsumerSync

/-!
# The layers that a simulcast consumer refers to have streams

A simulcast consumer takes the streams of its reference layer and of its provisional layer without asking
whether they exist. They do: a layer is selected only if it has a stream, and a stream is never taken away.
-/

namespace MediasoupWorker.RTC

open Library

namespace Selection

variable {n : ℕ} {v : Selection n}

theorem Linked.retarget (hv : v.Linked) {l : Option (Fin n)} (hl : ∀ i, l = some i → (v.streams i).isSome) :
    (v.retarget l).Linked := by
  cases l with
  | none => exact ⟨hv.reference, hv.provisional⟩
  | some i =>
    refine ⟨fun r hr => ?_, hv.provisional⟩
    change v.reference.orElse (fun _ => some i) = some r at hr
    cases href : v.reference with
    | none =>
      rw [href] at hr
      cases hr
      exact hl i rfl
    | some r' =>
      rw [href] at hr
      cases hr
      exact hv.reference r href

theorem Linked.complete (hv : v.Linked) : v.complete.Linked := ⟨hv.reference, hv.provisional⟩

theorem Linked.setStream (hv : v.Linked) (i : Fin n) (rep : LastSenderReport) : (v.setStream i rep).Linked :=
  ⟨fun r hr => isSome_setStream (hv.reference r hr) i rep,
    fun p hp => isSome_setStream (hv.provisional p hp) i rep⟩

end Selection

namespace SimulcastConsumer

variable {h : Codecs.Handler} {n : ℕ} {params : SimulcastParameters n} {env : Env n}
  {s : SimulcastConsumer h n}

theorem linked_setProvisionalLayers (hs : s.selection.Linked) {l : Option (Fin n)}
    (hl : ∀ i, l = some i → (s.producerRtpStreams i).isSome) (tl : ℤ) :
    (s.setProvisionalLayers l tl).selection.Linked := ⟨hs.reference, hl⟩

theorem preserved_linked : Preserved h params Selection.Linked fun _ => True where
  linked _ := id
  propose _ _ hv hlayer := ⟨hv.reference, fun p hp => by
    cases hp
    exact hlayer.stream⟩
  giveUp _ hv := ⟨hv.reference, fun p hp => by cases hp⟩
  apply v hv := Selection.Linked.retarget (v := { v with provisional := none })
    ⟨hv.reference, fun p hp => by cases hp⟩ hv.provisional
  retarget _ _ hv hlayer := hv.holds.retarget fun i hi => (hlayer i hi).stream
  complete _ hv := hv.complete
  sync _ _ _ _ := Meets.any
  tolerated _ _ := trivial

theorem step_linked (hs : s.selection.Settled Selection.Linked) (e : Event h n) :
    Meets (fun s' => s'.selection.Settled Selection.Linked) (fun _ => True) (s.step params e) :=
  preserved_linked.keeps.step hs e (fun p _ _ => sendRtpPacket_meets preserved_linked hs p)
    (fun l r _ _ _ => ⟨hs.holds.setStream l r.last, hs.noProvisional⟩)
    (fun _ _ l _ _ => ⟨hs.holds.setStream l {}, hs.noProvisional⟩)

/-- **Whatever has happened to a consumer**, the layers that it refers to have streams. -/
theorem linked_of_run {streams : Fin n → Option LastSenderReport} {sl tl : ℤ} {ctx : h.Context}
    {paused producerPaused : Bool} {es : List (Event h n)} (hrun : run (step params) (new streams sl tl
      ctx paused producerPaused) es = .ok s) : s.selection.Linked := by
  have hset : s.selection.Settled Selection.Linked := by
    refine inv_of_run_ok (I := fun s => s.selection.Settled Selection.Linked)
      (fun s e s' hs hok => ?_) ?_ hrun
    · have hstep : Meets _ _ (s.step params e) := step_linked hs e
      rw [hok] at hstep
      exact hstep
    · exact ⟨⟨fun _ hr => (nomatch hr), fun _ hp => (nomatch hp)⟩, rfl⟩
  exact hset.holds

end SimulcastConsumer

end MediasoupWorker.RTC
