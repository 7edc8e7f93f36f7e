import Mathlib.Tactic.Common

/-!
# Loops with a number of turns

A loop of a program is a body that says whether there is another turn. It is run with a number of turns that
it may take, and the rules say that there are enough of them if every turn that is followed by another one
makes a number smaller.
-/

namespace MediasoupWorker.Library

variable {σ φ : Type*}

def loop (outOfTurns : φ) (body : σ → Except φ (σ × Bool)) : (turns : ℕ) → σ → Except φ σ
  | 0, _ => .error outOfTurns
  | turns + 1, s =>
    match body s with
    | .error f => .error f
    | .ok (s', true) => loop outOfTurns body turns s'
    | .ok (s', false) => .ok s'

variable {body : σ → Except φ (σ × Bool)}

/-- **A loop ends** if every turn that is followed by another one leads into an earlier stage of the invariant.
`P` holds where it ends. -/
theorem loop_ok_of_stages {outOfTurns : φ} {I : ℕ → σ → Prop} {P : σ → Prop}
    (hbody : ∀ k s, I k s → ∃ s' again, body s = .ok (s', again) ∧
      (again = true → ∃ k' < k, I k' s') ∧ (again = false → P s')) {turns k : ℕ} {s : σ} (hs : I k s)
    (hturns : k < turns) : ∃ s', loop outOfTurns body turns s = .ok s' ∧ P s' := by
  induction turns generalizing s k with
  | zero => exact absurd hturns (Nat.not_lt_zero _)
  | succ turns ih =>
    obtain ⟨s', again, hok, hmore, hlast⟩ := hbody k s hs
    rw [loop, hok]
    cases again with
    | false => exact ⟨s', rfl, hlast rfl⟩
    | true =>
      obtain ⟨k', hless, hs'⟩ := hmore rfl
      exact ih hs' (by omega)

/-- **A loop ends** if its body does not fail under the invariant, keeps it, and makes the variant smaller
before it asks for another turn. -/
theorem loop_ok_of_variant {outOfTurns : φ} {I : σ → Prop} {V : σ → ℕ}
    (hbody : ∀ s, I s → ∃ s' again, body s = .ok (s', again) ∧ I s' ∧ (again = true → V s' < V s)) {turns : ℕ}
    {s : σ} (hs : I s) (hturns : V s < turns) : ∃ s', loop outOfTurns body turns s = .ok s' ∧ I s' := by
  refine loop_ok_of_stages (I := fun k s => I s ∧ V s = k) ?_ ⟨hs, rfl⟩ hturns
  rintro k s ⟨hs, rfl⟩
  obtain ⟨s', again, hok, hs', hless⟩ := hbody s hs
  exact ⟨s', again, hok, fun hagain => ⟨V s', hless hagain, hs', rfl⟩, fun _ => hs'⟩

end MediasoupWorker.Library
