import Mathlib.Data.List.Basic

/-!
# Linked nodes

Nodes are kept in the order of their making, and a pointer is the position of a node. A node has a pointer
to the next one.
-/

namespace MediasoupWorker.Library

open List

structure Node (α : Type*) where
  value : α
  next : Option ℕ := none
  deriving DecidableEq, Repr

variable {α : Type*}

def setNext (nodes : List (Node α)) (i : ℕ) (next : Option ℕ) : List (Node α) :=
  nodes.modify i fun node => { node with next }

inductive Reads (nodes : List (Node α)) : Option ℕ → List α → Prop
  | null : Reads nodes none []
  | node {i : ℕ} {node : Node α} {values : List α} :
    nodes[i]? = some node → Reads nodes node.next values → Reads nodes (some i) (node.value :: values)

def chain (base : ℕ) : List α → List (Node α)
  | [] => []
  | value :: values =>
    ⟨value, if values.isEmpty then none else some (base + 1)⟩ :: chain (base + 1) values

@[simp] theorem length_chain (base : ℕ) (vs : List α) : (chain base vs).length = vs.length := by
  induction vs generalizing base with
  | nil => rfl
  | cons v vs ih => rw [chain, length_cons, ih, length_cons]

/-- **A chain is read from its first node.** -/
theorem reads_chain (pre : List (Node α)) (values : List α) : Reads (pre ++ chain pre.length values)
      (if values.isEmpty then none else some pre.length) values := by
  induction values generalizing pre with
  | nil => exact .null
  | cons v values ih =>
    have hrest := ih (pre ++ [⟨v, if values.isEmpty then none else some (pre.length + 1)⟩])
    rw [length_append, length_singleton, append_assoc] at hrest
    have hfirst : (pre ++ chain pre.length (v :: values))[pre.length]? =
        some ⟨v, if values.isEmpty then none else some (pre.length + 1)⟩ := by
      rw [getElem?_append_right (Nat.le_refl _), Nat.sub_self]
      rfl
    exact .node hfirst hrest

/-- **Setting the pointer of its last node** puts another chain behind a chain. -/
theorem setNext_chain {vs more : List α} (hvalues : vs ≠ []) (hmore : more ≠ []) (base : ℕ) :
    setNext (chain base vs ++ chain (base + vs.length) more) (vs.length - 1)
      (some (base + vs.length)) = chain base (vs ++ more) := by
  induction vs generalizing base with
  | nil => exact absurd rfl hvalues
  | cons v vs ih =>
    cases vs with
    | nil =>
      have hnil : more.isEmpty = false := by simpa using hmore
      simp [chain, setNext, hnil]
    | cons v' vs =>
      have hbase : base + (v :: v' :: vs).length = base + 1 + (v' :: vs).length :=
        Nat.add_right_comm base _ 1
      have htail := ih (cons_ne_nil v' vs) (base + 1)
      rw [hbase]
      exact congrArg (_ :: ·) htail

end MediasoupWorker.Library
