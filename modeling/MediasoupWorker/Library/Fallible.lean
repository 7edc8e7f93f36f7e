import Mathlib.Data.List.Basic

/-!
# Computations in `Except`

Inversion rules: what is known when a composed computation has returned a value.
-/

namespace MediasoupWorker.Library

open List

universe u

variable {φ : Type*} {α β : Type u}

variable {f : α → Except φ β} {b : β}

theorem bind_eq_ok {x : Except φ α} : (x >>= f) = .ok b ↔ ∃ a, x = .ok a ∧ f a = .ok b := by
  cases x with
  | error e =>
    constructor
    · intro h
      cases h
    · rintro ⟨a, h, -⟩
      cases h
  | ok a =>
    constructor
    · intro h
      exact ⟨a, rfl, h⟩
    · rintro ⟨a', h, hf⟩
      cases h
      exact hf

@[simp] theorem ok_bind (a : α) (f : α → Except φ β) : (Except.ok a >>= f) = f a := rfl

@[simp] theorem map_ok (f : α → β) (a : α) : f <$> (Except.ok a : Except φ α) = .ok (f a) := rfl

theorem map_eq_ok {x : Except φ α} {f : α → β} : f <$> x = .ok b ↔ ∃ a, x = .ok a ∧ f a = b := by
  cases x with
  | error e =>
    constructor
    · intro h
      cases h
    · rintro ⟨a, h, -⟩
      cases h
  | ok a =>
    constructor
    · intro h
      exact ⟨a, rfl, Except.ok.inj h⟩
    · rintro ⟨a', h, rfl⟩
      cases h
      rfl

theorem exists_of_mem_mapM {l : List α} {r : List β} (h : l.mapM f = .ok r) (hb : b ∈ r) :
    ∃ a ∈ l, f a = .ok b := by
  induction l generalizing r with
  | nil =>
    cases h
    exact absurd hb not_mem_nil
  | cons a l ih =>
    rw [mapM_cons] at h
    obtain ⟨b₀, hb₀, h⟩ := bind_eq_ok.mp h
    obtain ⟨bs, hbs, h⟩ := bind_eq_ok.mp h
    cases h
    rcases mem_cons.mp hb with rfl | hb'
    · exact ⟨a, mem_cons_self .., hb₀⟩
    · obtain ⟨a', ha', hfa'⟩ := ih hbs hb'
      exact ⟨a', mem_cons_of_mem _ ha', hfa'⟩

/-! ## Conditions on values and failures -/

def Meets (P : α → Prop) (Q : φ → Prop) : Except φ α → Prop
  | .ok a => P a
  | .error e => Q e

section Meets

variable {P P' : α → Prop} {Q Q' : φ → Prop} {R : β → Prop} {x : Except φ α}

theorem Meets.bind (hx : Meets P Q x) (hf : ∀ a, P a → Meets R Q (f a)) :
    Meets R Q (x >>= f) := by
  cases x with
  | error e => exact hx
  | ok a => exact hf a hx

theorem Meets.mono (hx : Meets P Q x) (hP : ∀ a, P a → P' a) (hQ : ∀ e, Q e → Q' e) : Meets P' Q' x := by
  cases x with
  | error e => exact hQ e hx
  | ok a => exact hP a hx

theorem Meets.of_ok (hx : ∀ a, x = .ok a → P a) : Meets P (fun _ => True) x := by
  cases x with
  | error e => trivial
  | ok a => exact hx a rfl

theorem Meets.any : Meets (fun _ => True) (fun _ => True) x := Meets.of_ok fun _ _ => trivial

theorem Meets.foldlM {γ : Type*} {f : α → γ → Except φ α} (hf : ∀ a c, P a → Meets P Q (f a c)) {a : α}
    (ha : P a) (l : List γ) : Meets P Q (l.foldlM f a) := by
  induction l generalizing a with
  | nil => exact ha
  | cons c l ih =>
    rw [foldlM_cons]
    exact (hf a c ha).bind fun a' ha' => ih ha'

theorem Meets.weaken (hx : Meets P (fun _ => False) x) (hP : ∀ a, P a → P' a) : Meets P' Q x :=
  hx.mono hP fun _ hfalse => hfalse.elim

theorem Meets.exists_ok (hx : Meets P (fun _ => False) x) : ∃ a, x = .ok a ∧ P a := by
  cases x with
  | error e => exact hx.elim
  | ok a => exact ⟨a, rfl, hx⟩

end Meets

end MediasoupWorker.Library
