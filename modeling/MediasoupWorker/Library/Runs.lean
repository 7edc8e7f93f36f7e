import MediasoupWorker.Library.Fallible
import Mathlib.Data.List.Induction

/-!
# Runs of a step function, and conditions on their steps

A run applies a step function to a state for each event of a list. A result about runs often
needs a condition on the steps, stated on the state before the step and its event; `StepsMeet`
says that every step of a run meets it.
-/

namespace MediasoupWorker.Library

open List

variable {σ ε φ : Type*}

/-! ## Total steps -/

section Total

variable (step : σ → ε → σ) (C : σ → ε → Prop)

def StepsMeet : σ → List ε → Prop
  | _, [] => True
  | s, e :: es => C s e ∧ StepsMeet (step s e) es

instance instDecidableStepsMeet [∀ s e, Decidable (C s e)] :
    (s : σ) → (es : List ε) → Decidable (StepsMeet step C s es)
  | _, [] => isTrue trivial
  | s, e :: es =>
    have := instDecidableStepsMeet (step s e) es
    inferInstanceAs (Decidable (C s e ∧ StepsMeet step C (step s e) es))

variable {step C}

variable {s : σ} {es : List ε}

theorem stepsMeet_append {fs : List ε} :
    StepsMeet step C s (es ++ fs) ↔ StepsMeet step C s es ∧ StepsMeet step C (es.foldl step s) fs := by
  induction es generalizing s with
  | nil => simp [StepsMeet]
  | cons e es ih => simp [StepsMeet, ih, and_assoc]

theorem StepsMeet.and {D : σ → ε → Prop} (hC : StepsMeet step C s es) (hD : StepsMeet step D s es) :
    StepsMeet step (fun s e => C s e ∧ D s e) s es := by
  induction es generalizing s with
  | nil => trivial
  | cons e es ih => exact ⟨⟨hC.1, hD.1⟩, ih hC.2 hD.2⟩

theorem foldl_inv {I : List ε → σ → Prop} (hinit : I [] s)
    (hstep : ∀ pre e s', pre ++ [e] <+: es → I pre s' → C s' e →
      I (pre ++ [e]) (step s' e)) (hmeet : StepsMeet step C s es) : I es (es.foldl step s) := by
  induction es using reverseRecOn with
  | nil => exact hinit
  | append_singleton es e ih =>
    obtain ⟨hes, he, -⟩ := stepsMeet_append.mp hmeet
    rw [foldl_append]
    refine hstep es e _ (prefix_refl _) (ih ?_ hes) he
    intro pre e' s' hpre
    exact hstep pre e' s' (hpre.trans (prefix_append es [e]))

end Total

/-! ## Steps that may fail -/

section Fallible

variable (step : σ → ε → Except φ σ) (C : σ → ε → Prop)

def run : σ → List ε → Except φ σ
  | s, [] => .ok s
  | s, e :: es => (step s e).bind fun s' => run s' es

def RunMeets : σ → List ε → Prop
  | _, [] => True
  | s, e :: es => C s e ∧ ∀ s', step s e = .ok s' → RunMeets s' es

instance instDecidableRunMeets [∀ s e, Decidable (C s e)] :
    (s : σ) → (es : List ε) → Decidable (RunMeets step C s es)
  | _, [] => isTrue trivial
  | s, e :: es =>
    match h : step s e with
    | .ok s' =>
      have := instDecidableRunMeets s' es
      decidable_of_iff (C s e ∧ RunMeets step C s' es) (by simp [RunMeets, h])
    | .error _ => decidable_of_iff (C s e) (by simp [RunMeets, h])

variable {step C}

@[simp] theorem run_nil (s : σ) : run step s [] = .ok s := rfl

variable {s s' : σ} {e : ε} {es : List ε} {D : σ → ε → Prop}

theorem run_cons_of_ok (h : step s e = .ok s') : run step s (e :: es) = run step s' es := by
  rw [run, h]
  rfl

theorem run_cons_of_error {f : φ} (h : step s e = .error f) : run step s (e :: es) = .error f := by
  rw [run, h]
  rfl

theorem run_singleton (s : σ) (e : ε) : run step s [e] = step s e := by
  cases h : step s e with
  | error f => exact run_cons_of_error h
  | ok s' => exact run_cons_of_ok h

theorem runMeets_cons_of_run (h : run step s [e] = .ok s') (hC : C s e) (hes : RunMeets step C s' es) :
    RunMeets step C s (e :: es) := by
  refine ⟨hC, fun t ht => ?_⟩
  rw [run_singleton, ht] at h
  cases h
  exact hes

theorem run_append {fs : List ε} : run step s (es ++ fs) = (run step s es).bind fun s' => run step s' fs := by
  induction es generalizing s with
  | nil => rfl
  | cons e es ih =>
    cases he : step s e with
    | error f =>
      rw [cons_append, run_cons_of_error he, run_cons_of_error he]
      rfl
    | ok s' =>
      rw [cons_append, run_cons_of_ok he, run_cons_of_ok he]
      exact ih

theorem run_ok_of_history_inv {I : List ε → σ → Prop} (hinit : I [] s)
    (hstep : ∀ pre e s', pre ++ [e] <+: es → I pre s' → ∃ s'', step s' e = .ok s'' ∧ I (pre ++ [e]) s'') :
    ∃ s', run step s es = .ok s' ∧ I es s' := by
  induction es using reverseRecOn with
  | nil => exact ⟨s, rfl, hinit⟩
  | append_singleton es e ih =>
    obtain ⟨s₁, hs₁, hI₁⟩ := ih fun pre e' s' hpre =>
      hstep pre e' s' (hpre.trans (prefix_append es [e]))
    obtain ⟨s₂, hs₂, hI₂⟩ := hstep es e s₁ (prefix_refl _) hI₁
    refine ⟨s₂, ?_, hI₂⟩
    rw [run_append, hs₁]
    show run step s₁ [e] = .ok s₂
    rw [run_cons_of_ok hs₂, run_nil]

theorem run_meets_of_history_inv {I : List ε → σ → Prop} {Q : φ → Prop} (hinit : I [] s)
    (hstep : ∀ pre e s', I pre s' → Meets (I (pre ++ [e])) Q (step s' e)) (es : List ε) :
    Meets (I es) Q (run step s es) := by
  induction es using reverseRecOn with
  | nil => exact hinit
  | append_singleton es e ih =>
    rw [run_append]
    refine Meets.bind ih fun s₁ hs₁ => ?_
    have hlast := hstep es e s₁ hs₁
    cases he : step s₁ e with
    | error f =>
      rw [he] at hlast
      rw [run_cons_of_error he]
      exact hlast
    | ok s₂ =>
      rw [he] at hlast
      rw [run_cons_of_ok he]
      exact hlast

theorem RunMeets.imp_of_inv {J : σ → Prop} (himp : ∀ s e, J s → C s e → D s e)
    (hinv : ∀ s e s', J s → C s e → step s e = .ok s' → J s') (hs : J s) (hmeet : RunMeets step C s es) :
    RunMeets step D s es := by
  induction es generalizing s with
  | nil => trivial
  | cons e es ih =>
    refine ⟨himp s e hs hmeet.1, fun s' hs' => ?_⟩
    exact ih (hinv s e s' hs hmeet.1 hs') (hmeet.2 s' hs')

theorem RunMeets.imp_of_history_inv {I : List ε → σ → Prop} (hinit : I [] s)
    (hstep : ∀ pre e s', pre ++ [e] <+: es → I pre s' → C s' e →
      D s' e ∧ ∀ s'', step s' e = .ok s'' → I (pre ++ [e]) s'') (hmeet : RunMeets step C s es) :
    RunMeets step D s es := by
  -- the induction is on the events that are still to come
  have hrest : ∀ rest pre t, pre ++ rest = es → I pre t → RunMeets step C t rest →
      RunMeets step D t rest := by
    intro rest
    induction rest with
    | nil =>
      intro pre t hes hI hmeet
      trivial
    | cons e rest ih =>
      intro pre t hes hI hmeet
      have hsplit : pre ++ [e] ++ rest = es := by simpa using hes
      obtain ⟨hD, hI'⟩ := hstep pre e t ⟨rest, hsplit⟩ hI hmeet.1
      exact ⟨hD, fun t' ht' => ih (pre ++ [e]) t' hsplit (hI' t' ht') (hmeet.2 t' ht')⟩
  exact hrest es [] s rfl hinit hmeet

theorem runMeets_congr_of_inv {J : σ → Prop} {P : ε → Prop} (hiff : ∀ s e, J s → P e → (C s e ↔ D s e))
    (hinv : ∀ s e s', J s → P e → C s e → step s e = .ok s' → J s') (hs : J s) (hP : ∀ e ∈ es, P e) :
    RunMeets step C s es ↔ RunMeets step D s es := by
  induction es generalizing s with
  | nil => exact Iff.rfl
  | cons e es ih =>
    obtain ⟨he, hes⟩ := forall_mem_cons.mp hP
    rw [RunMeets, RunMeets, ← hiff s e hs he]
    refine and_congr_right fun hC => forall₂_congr fun s' hs' => ?_
    exact ih (hinv s e s' hs he hC hs') hes

theorem RunMeets.and (hC : RunMeets step C s es) (hD : RunMeets step D s es) :
    RunMeets step (fun s e => C s e ∧ D s e) s es := by
  induction es generalizing s with
  | nil => trivial
  | cons e es ih => exact ⟨⟨hC.1, hD.1⟩, fun s' hs' => ih (hC.2 s' hs') (hD.2 s' hs')⟩

theorem RunMeets.and_forall {P : ε → Prop} (hP : ∀ e ∈ es, P e) (hmeet : RunMeets step C s es) :
    RunMeets step (fun s e => P e ∧ C s e) s es := by
  induction es generalizing s with
  | nil => trivial
  | cons e es ih =>
    obtain ⟨he, hes⟩ := forall_mem_cons.mp hP
    exact ⟨⟨he, hmeet.1⟩, fun s' hs' => ih hes (hmeet.2 s' hs')⟩

theorem run_filter {keep : ε → Bool}
    (hidle : RunMeets step (fun s e => keep e = false → ∀ s', step s e = .ok s' → s' = s) s es)
    (hrun : run step s es = .ok s') : run step s (es.filter keep) = .ok s' := by
  induction es generalizing s with
  | nil => exact hrun
  | cons e es ih =>
    obtain ⟨s₁, he, hrest⟩ := bind_eq_ok.mp hrun
    cases hkeep : keep e with
    | true =>
      rw [filter_cons_of_pos hkeep, run_cons_of_ok he]
      exact ih (hidle.2 s₁ he) hrest
    | false =>
      obtain rfl := hidle.1 hkeep s₁ he
      rw [filter_cons_of_neg (by rw [hkeep]; exact Bool.false_ne_true)]
      exact ih (hidle.2 s₁ he) hrest

variable {I : σ → Prop}

theorem run_meets_of_inv {Q : φ → Prop} (hstep : ∀ s e, I s → C s e → Meets I Q (step s e)) (hs : I s)
    (hmeet : RunMeets step C s es) : Meets I Q (run step s es) := by
  induction es generalizing s with
  | nil => exact hs
  | cons e es ih =>
    obtain ⟨he, hes⟩ := hmeet
    have hmeets := hstep s e hs he
    cases hres : step s e with
    | error f =>
      rw [hres] at hmeets
      rw [run_cons_of_error hres]
      exact hmeets
    | ok s' =>
      rw [hres] at hmeets
      rw [run_cons_of_ok hres]
      exact ih hmeets (hes s' hres)

theorem run_ok_of_inv (hstep : ∀ s e, I s → C s e → ∃ s', step s e = .ok s' ∧ I s') (hs : I s)
    (hmeet : RunMeets step C s es) : ∃ s', run step s es = .ok s' ∧ I s' := by
  induction es generalizing s with
  | nil => exact ⟨s, rfl, hs⟩
  | cons e es ih =>
    obtain ⟨he, hes⟩ := hmeet
    obtain ⟨s', hok, hs'⟩ := hstep s e hs he
    obtain ⟨t, hrun, ht⟩ := ih hs' (hes s' hok)
    exact ⟨t, (run_cons_of_ok hok).trans hrun, ht⟩

variable {τ : Type*} {C' : τ → ε → Prop} {R : σ → τ → Prop}

/-- **Refinement.** If a step succeeds and keeps the relation to the total step of another system, whenever
that step meets the condition, then so does a run. -/
theorem run_ok_of_simulation {step' : τ → ε → τ}
    (hstep : ∀ s t e, R s t → C' t e → ∃ s', step s e = .ok s' ∧ R s' (step' t e)) {t : τ} (hst : R s t)
    (hmeet : StepsMeet step' C' t es) : ∃ s', run step s es = .ok s' ∧ R s' (es.foldl step' t) := by
  induction es generalizing s t with
  | nil => exact ⟨s, rfl, hst⟩
  | cons e es ih =>
    obtain ⟨s₁, hok, hst₁⟩ := hstep s t e hst hmeet.1
    obtain ⟨s', hrun, hst'⟩ := ih hst₁ hmeet.2
    exact ⟨s', (run_cons_of_ok hok).trans hrun, hst'⟩

theorem run_ok_iff_runMeets (hstep : ∀ s e, I s → (C s e ↔ ∃ s', step s e = .ok s'))
    (hinv : ∀ s e s', I s → step s e = .ok s' → I s') (hs : I s) :
    (∃ s', run step s es = .ok s') ↔ RunMeets step C s es := by
  induction es generalizing s with
  | nil => simp [RunMeets]
  | cons e es ih =>
    constructor
    · rintro ⟨t, ht⟩
      cases he : step s e with
      | error f =>
        rw [run_cons_of_error he] at ht
        cases ht
      | ok s₁ =>
        rw [run_cons_of_ok he] at ht
        refine ⟨(hstep s e hs).mpr ⟨s₁, he⟩, fun s₂ hs₂ => ?_⟩
        obtain rfl : s₁ = s₂ := by simpa [he] using hs₂
        exact (ih (hinv s e s₁ hs he)).mp ⟨t, ht⟩
    · rintro ⟨he, hes⟩
      obtain ⟨s₁, hs₁⟩ := (hstep s e hs).mp he
      rw [run_cons_of_ok hs₁]
      exact (ih (hinv s e s₁ hs hs₁)).mpr (hes s₁ hs₁)

variable {step' : τ → ε → Except φ τ}

theorem run_map {f : σ → τ} (hstep : ∀ s e, I s → (step s e).map f = step' (f s) e)
    (hinv : ∀ s e s', I s → step s e = .ok s' → I s') (hs : I s) :
    (run step s es).map f = run step' (f s) es := by
  induction es generalizing s with
  | nil => rfl
  | cons e es ih =>
    have hcomm := hstep s e hs
    cases he : step s e with
    | error x =>
      rw [he] at hcomm
      rw [run_cons_of_error he, run_cons_of_error hcomm.symm]
      rfl
    | ok s₁ =>
      rw [he] at hcomm
      rw [run_cons_of_ok he, run_cons_of_ok hcomm.symm]
      exact ih (hinv s e s₁ hs he)

theorem inv_of_run_ok (hinv : ∀ s e s', I s → step s e = .ok s' → I s') {t : σ} (hs : I s)
    (hrun : run step s es = .ok t) : I t := by
  induction es generalizing s with
  | nil =>
    obtain rfl : s = t := by simpa using hrun
    exact hs
  | cons e es ih =>
    cases he : step s e with
    | error f =>
      rw [run_cons_of_error he] at hrun
      cases hrun
    | ok s₁ =>
      rw [run_cons_of_ok he] at hrun
      exact ih (hinv s e s₁ hs he) hrun

theorem run_related
    (hstep : ∀ s t e s' t', R s t → C s e → C' t e → step s e = .ok s' → step' t e = .ok t' → R s' t')
    {t t' : τ} (hst : R s t) (hs : RunMeets step C s es) (ht : RunMeets step' C' t es)
    (hrun : run step s es = .ok s') (hrun' : run step' t es = .ok t') : R s' t' := by
  induction es generalizing s t with
  | nil =>
    obtain rfl : s = s' := by simpa using hrun
    obtain rfl : t = t' := by simpa using hrun'
    exact hst
  | cons e es ih =>
    cases he : step s e with
    | error f =>
      rw [run_cons_of_error he] at hrun
      cases hrun
    | ok s₁ =>
      cases he' : step' t e with
      | error f =>
        rw [run_cons_of_error he'] at hrun'
        cases hrun'
      | ok t₁ =>
        rw [run_cons_of_ok he] at hrun
        rw [run_cons_of_ok he'] at hrun'
        exact ih (hstep s t e s₁ t₁ hst hs.1 ht.1 he he') (hs.2 s₁ he) (ht.2 t₁ he') hrun hrun'

theorem runMeets_true (s : σ) (es : List ε) : RunMeets step (fun _ _ => True) s es := by
  induction es generalizing s with
  | nil => trivial
  | cons e es ih => exact ⟨trivial, fun s' _ => ih s'⟩

end Fallible

end MediasoupWorker.Library
