import Mathlib.Algebra.BigOperators.Group.List.Basic
import Mathlib.Algebra.Ring.Nat

/-!
# Loops that parse one element after the other

A parser of a list of elements looks at what is left of its input, parses an element there, and goes
on behind it. It ends when nothing is left, when there is no element, or when it has as many
elements as were announced.
-/

namespace MediasoupWorker.Library

open List

variable {α β : Type*} (parse : List β → Option α) (size : α → ℕ)

def parseLoop : ℕ → List β → List α
  | 0, _ => []
  | count + 1, data =>
    if data.isEmpty then []
    else
      match parse data with
      | none => []
      | some a => a :: parseLoop count (data.drop (size a))

def parseWhile (data : List β) : List α := parseLoop parse size data.length data

variable {parse size}

@[simp] theorem parseLoop_nil (n : ℕ) : parseLoop parse size n [] = [] := by
  cases n <;> rfl

variable {data : List β}

theorem parseLoop_of_none (h : parse data = none) (n : ℕ) : parseLoop parse size n data = [] := by
  cases n with
  | zero => rfl
  | succ n =>
    rw [parseLoop, h]
    exact ite_self _

theorem parseLoop_of_some {a : α} (hne : data ≠ []) (h : parse data = some a) (n : ℕ) :
    parseLoop parse size (n + 1) data = a :: parseLoop parse size n (data.drop (size a)) := by
  have hnil : ¬ data.isEmpty = true := by simpa using hne
  rw [parseLoop, if_neg hnil, h]

variable (parse size) in
theorem parseLoop_length_le (count : ℕ) (data : List β) :
    (parseLoop parse size count data).length ≤ count := by
  induction count generalizing data with
  | zero => exact le_rfl
  | succ count ih =>
    by_cases hne : data = []
    · rw [hne, parseLoop_nil]
      exact Nat.zero_le _
    · cases h : parse data with
      | none =>
        rw [parseLoop_of_none h]
        exact Nat.zero_le _
      | some a =>
        rw [parseLoop_of_some hne h, length_cons]
        exact Nat.succ_le_succ (ih _)

theorem parseLoop_congr_count (hsize : ∀ a, 0 < size a) {m n : ℕ} (hm : data.length ≤ m)
    (hn : data.length ≤ n) : parseLoop parse size m data = parseLoop parse size n data := by
  induction m generalizing n data with
  | zero =>
    rw [eq_nil_of_length_eq_zero (Nat.le_zero.mp hm), parseLoop_nil, parseLoop_nil]
  | succ m ih =>
    by_cases hne : data = []
    · rw [hne, parseLoop_nil, parseLoop_nil]
    · cases h : parse data with
      | none => rw [parseLoop_of_none h, parseLoop_of_none h]
      | some a =>
        have hpos : 0 < data.length := length_pos_iff.mpr hne
        have hdrop : (data.drop (size a)).length < data.length := by
          rw [length_drop]
          exact Nat.sub_lt hpos (hsize a)
        cases n with
        | zero => exact absurd hpos (not_lt.mpr hn)
        | succ n =>
          have hm' : (data.drop (size a)).length ≤ m := by omega
          have hn' : (data.drop (size a)).length ≤ n := by omega
          rw [parseLoop_of_some hne h, parseLoop_of_some hne h, ih hm' hn']

/-- **The loop without an announced number**, by its exits: the end of the input, a failure, or
another turn. -/
theorem parseWhile_eq (hsize : ∀ a, 0 < size a) (data : List β) : parseWhile parse size data =
      if data = [] then []
      else
        match parse data with
        | none => []
        | some a => a :: parseWhile parse size (data.drop (size a)) := by
  by_cases hne : data = []
  · rw [if_pos hne, hne]
    rfl
  · rw [if_neg hne]
    cases h : parse data with
    | none => exact parseLoop_of_none h _
    | some a =>
      have hdrop : (data.drop (size a)).length ≤ data.length := by
        rw [length_drop]
        exact Nat.sub_le _ _
      show parseLoop parse size data.length data =
        a :: parseLoop parse size (data.drop (size a)).length (data.drop (size a))
      rw [parseLoop_congr_count hsize le_rfl (Nat.le_succ _), parseLoop_of_some hne h,
        parseLoop_congr_count hsize hdrop le_rfl]

theorem parseWhile_of_none (h : parse data = none) : parseWhile parse size data = [] :=
  parseLoop_of_none h _

theorem parseWhile_of_some (hsize : ∀ a, 0 < size a) {a : α} (hne : data ≠ []) (h : parse data = some a) :
    parseWhile parse size data = a :: parseWhile parse size (data.drop (size a)) := by
  rw [parseWhile_eq hsize, if_neg hne, h]

theorem parseWhile_exit (hsize : ∀ a, 0 < size a) (data : List β) :
    data.drop ((parseWhile parse size data).map size).sum = [] ∨
      parse (data.drop ((parseWhile parse size data).map size).sum) = none := by
  induction hn : data.length using Nat.strongRecOn generalizing data with
  | _ n ih =>
    by_cases hne : data = []
    · left
      rw [hne, drop_nil]
    · cases hparse : parse data with
      | none =>
        right
        rw [parseWhile_of_none hparse]
        exact hparse
      | some a =>
        have hpos : 0 < data.length := length_pos_iff.mpr hne
        have hdrop : (data.drop (size a)).length < n := by
          rw [length_drop, ← hn]
          exact Nat.sub_lt hpos (hsize a)
        rw [parseWhile_of_some hsize hne hparse, map_cons, sum_cons, ← drop_drop]
        exact ih _ hdrop _ rfl

/-! ## Reading back what was written -/

section RoundTrip

variable {write : α → List β} {P : α → Prop}

structure ReadsBack (parse : List β → Option α) (size : α → ℕ) (write : α → List β) (P : α → Prop) :
    Prop where
  length_write : ∀ a, (write a).length = size a
  size_pos : ∀ a, 0 < size a
  parse_write : ∀ a, P a → ∀ rest, parse (write a ++ rest) = some a

theorem append_ne_nil (hlength : ∀ a, (write a).length = size a) (hsize : ∀ a, 0 < size a) (a : α)
    (rest : List β) : write a ++ rest ≠ [] := by
  intro heq
  have hlen := congrArg length heq
  rw [length_append, hlength, length_nil] at hlen
  have hpos := hsize a
  omega

theorem ReadsBack.drop_write (h : ReadsBack parse size write P) (a : α) (rest : List β) :
    (write a ++ rest).drop (size a) = rest := by
  rw [← h.length_write, drop_left]

variable {as : List α}

section

variable (h : ReadsBack parse size write P) (has : ∀ a ∈ as, P a)

include h has

theorem parseLoop_flatMap (n : ℕ) (rest : List β) :
    parseLoop parse size (as.length + n) (as.flatMap write ++ rest) = as ++ parseLoop parse size n rest := by
  induction as with
  | nil => rw [length_nil, zero_add, flatMap_nil, nil_append, nil_append]
  | cons a as ih =>
    rw [flatMap_cons, append_assoc, length_cons, add_right_comm,
      parseLoop_of_some (append_ne_nil h.length_write h.size_pos _ _) (h.parse_write a (has a (mem_cons_self ..)) _),
      h.drop_write, ih fun b hb => has b (mem_cons_of_mem _ hb), cons_append]

theorem parseWhile_flatMap (rest : List β) :
    parseWhile parse size (as.flatMap write ++ rest) = as ++ parseWhile parse size rest := by
  induction as with
  | nil => rw [flatMap_nil, nil_append, nil_append]
  | cons a as ih =>
    rw [flatMap_cons, append_assoc,
      parseWhile_of_some h.size_pos (append_ne_nil h.length_write h.size_pos _ _)
        (h.parse_write a (has a (mem_cons_self ..)) _),
      h.drop_write, ih fun b hb => has b (mem_cons_of_mem _ hb), cons_append]

end

/-! ## Elements whose parser looks at what follows -/

def EachBefore (C : α → List α → Prop) : List α → Prop
  | [] => True
  | a :: as => C a as ∧ EachBefore C as

instance instDecidableEachBefore {C : α → List α → Prop} [∀ a as, Decidable (C a as)] :
    (as : List α) → Decidable (EachBefore C as)
  | [] => .isTrue trivial
  | a :: as =>
    have := instDecidableEachBefore (C := C) as
    inferInstanceAs (Decidable (C a as ∧ EachBefore C as))

variable {C : α → List α → Prop}

theorem eachBefore_of_forall (h : ∀ a ∈ as, ∀ behind, C a behind) : EachBefore C as := by
  induction as with
  | nil => trivial
  | cons a as ih =>
    exact ⟨h a (mem_cons_self ..) as, ih fun b hb => h b (mem_cons_of_mem _ hb)⟩

theorem eachBefore_congr {D : α → List α → Prop} (h : ∀ a ∈ as, ∀ behind, C a behind ↔ D a behind) :
    EachBefore C as ↔ EachBefore D as := by
  induction as with
  | nil => rfl
  | cons a as ih =>
    exact and_congr (h a (mem_cons_self ..) as) (ih fun b hb => h b (mem_cons_of_mem _ hb))

section

variable (hlen : ∀ a, (write a).length = size a)

include hlen

theorem parse_cons_eq_iff {next : List β → List α} {a : α} {rest : List β} {r : List α}
    (hsome : ∀ b, parse (write a ++ rest) = some b → r = b :: next ((write a ++ rest).drop (size b)))
    (hnone : parse (write a ++ rest) = none → r = []) :
    r = a :: as ↔ parse (write a ++ rest) = some a ∧ next rest = as := by
  cases hparse : parse (write a ++ rest) with
  | none =>
    rw [hnone hparse]
    simp
  | some b =>
    rw [hsome b hparse]
    constructor
    · intro h
      obtain ⟨rfl, htail⟩ := cons.inj h
      rw [← hlen, drop_left] at htail
      exact ⟨rfl, htail⟩
    · rintro ⟨hb, htail⟩
      obtain rfl := Option.some.inj hb
      rw [← hlen, drop_left, htail]

theorem parseLoop_flatMap_iff (hsize : ∀ a, 0 < size a) (as : List α) :
    parseLoop parse size as.length (as.flatMap write) = as ↔
      EachBefore (fun a as => parse (write a ++ as.flatMap write) = some a) as := by
  induction as with
  | nil => exact ⟨fun _ => trivial, fun _ => rfl⟩
  | cons a as ih =>
    have hne : write a ++ as.flatMap write ≠ [] := append_ne_nil hlen hsize a _
    rw [flatMap_cons, EachBefore, ← ih]
    exact parse_cons_eq_iff hlen (fun b hb => parseLoop_of_some hne hb _)
      fun hnone => parseLoop_of_none hnone _

theorem parseWhile_flatMap_iff (hsize : ∀ a, 0 < size a) (as : List α) :
    parseWhile parse size (as.flatMap write) = as ↔
      EachBefore (fun a as => parse (write a ++ as.flatMap write) = some a) as := by
  induction as with
  | nil => exact ⟨fun _ => trivial, fun _ => rfl⟩
  | cons a as ih =>
    have hne : write a ++ as.flatMap write ≠ [] := append_ne_nil hlen hsize a _
    rw [flatMap_cons, EachBefore, ← ih]
    exact parse_cons_eq_iff hlen (fun b hb => parseWhile_of_some hsize hne hb)
      parseWhile_of_none

end

theorem length_flatMap_write (h : ∀ a, (write a).length = size a) (as : List α) :
    (as.flatMap write).length = (as.map size).sum := by
  rw [length_flatMap]
  exact congrArg sum (map_congr_left fun a _ => h a)

end RoundTrip

end MediasoupWorker.Library
