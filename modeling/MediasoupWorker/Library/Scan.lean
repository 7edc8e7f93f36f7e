import Mathlib.Data.List.Basic

/-!
# Scanning a list up to a first match

A loop over a list that returns at the first match looks at the elements up to that one.
`UpToFirst stop Q l` says that `Q` holds of every element that such a loop looks at.
-/

namespace MediasoupWorker.Library

variable {α : Type*}

def UpToFirst (stop Q : α → Prop) : List α → Prop
  | [] => True
  | a :: l => Q a ∧ (¬ stop a → UpToFirst stop Q l)

theorem upToFirst_cons_of_stop {stop Q : α → Prop} {a : α} {l : List α} (h : stop a) :
    UpToFirst stop Q (a :: l) ↔ Q a := by
  constructor
  · exact fun hQ => hQ.1
  · exact fun hQ => ⟨hQ, fun hno => absurd h hno⟩

theorem upToFirst_cons_of_not_stop {stop Q : α → Prop} {a : α} {l : List α} (h : ¬ stop a) :
    UpToFirst stop Q (a :: l) ↔ Q a ∧ UpToFirst stop Q l := by
  constructor
  · exact fun hQ => ⟨hQ.1, hQ.2 h⟩
  · exact fun hQ => ⟨hQ.1, fun _ => hQ.2⟩

end MediasoupWorker.Library
