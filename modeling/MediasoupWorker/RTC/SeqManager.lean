import MediasoupWorker.Library.CircularOrder
import MediasoupWorker.Library.OrderedSet

/-!
# `SeqManager`: renumbering a stream of circular counters

`src/src/RTC/SeqManager.cpp`. `Sync` restarts the mapping right after the highest output given so far,
`Drop` announces that an input will not be sent, and `Input` returns the input plus a running base, less one
for each dropped input below it. The width `w` of the template is a parameter.
-/

namespace MediasoupWorker.RTC

open Library BitVec List

def maxValue (w : ℕ) : ℕ := 2 ^ w - 1

def isSeqLowerThan {w : ℕ} (lhs rhs : BitVec w) : Bool :=
  (decide (lhs < rhs) && decide (rhs.toNat - lhs.toNat ≤ maxValue w / 2)) ||
    (decide (rhs < lhs) && decide (lhs.toNat - rhs.toNat > maxValue w / 2))

def isSeqHigherThan {w : ℕ} (lhs rhs : BitVec w) : Bool :=
  (decide (rhs < lhs) && decide (lhs.toNat - rhs.toNat ≤ maxValue w / 2)) ||
    (decide (lhs < rhs) && decide (rhs.toNat - lhs.toNat > maxValue w / 2))

structure SeqManager (w : ℕ) where
  base : BitVec w := 0
  maxOutput : BitVec w := 0
  maxInput : BitVec w := 0
  dropped : List (BitVec w) := []
  deriving DecidableEq, Repr, Inhabited

namespace SeqManager

variable {w : ℕ}

def sync (s : SeqManager w) (input : BitVec w) : SeqManager w :=
  { s with base := s.maxOutput - input, maxInput := input, dropped := [] }

def drop (s : SeqManager w) (input : BitVec w) : SeqManager w :=
  if isSeqHigherThan input s.maxInput then
    { s with dropped := insertOrdered isSeqLowerThan input s.dropped }
  else s

def offset (s : SeqManager w) (offset : BitVec w) : SeqManager w :=
  { s with base := s.base + offset }

def accept (s : SeqManager w) (base input : BitVec w) : SeqManager w × Option (BitVec w) :=
  let output := input + base
  let idelta := input - s.maxInput
  let odelta := output - s.maxOutput
  ({ s with
      maxInput := if idelta.toNat < maxValue w / 2 then input else s.maxInput
      maxOutput := if odelta.toNat < maxValue w / 2 then output else s.maxOutput }, some output)

def eraseKey (input : BitVec w) : BitVec w := input - BitVec.ofNat w (maxValue w / 2)

def erase (s : SeqManager w) (input : BitVec w) : SeqManager w :=
  let it := lowerBound isSeqLowerThan s.dropped (eraseKey input)
  let dropped := s.dropped.drop it
  { s with
    dropped := dropped
    base := s.base - BitVec.ofNat w (s.dropped.length - dropped.length) }

def input (s : SeqManager w) (input : BitVec w) : SeqManager w × Option (BitVec w) :=
  if s.dropped.isEmpty then s.accept s.base input
  else
    let s := s.erase input
    let it := lowerBound isSeqLowerThan s.dropped input
    -- `droppedCount -= std::distance(it, this->dropped.end())`
    let droppedCount := s.dropped.length - (s.dropped.length - it)
    if s.dropped[it]? = some input then (s, none)
    else s.accept (s.base - BitVec.ofNat w droppedCount) input

end SeqManager

/-! ## The circular comparisons -/

section Compare

variable {w : ℕ}

@[simp] theorem isSeqLowerThan_self (a : BitVec w) : isSeqLowerThan a a = false := by
  simp [isSeqLowerThan]

theorem maxValue_div_two (hw : 0 < w) : maxValue w / 2 + 1 = 2 ^ (w - 1) := by
  obtain ⟨n, rfl⟩ : ∃ n, w = n + 1 := ⟨w - 1, by omega⟩
  have hpow : 0 < 2 ^ n := Nat.two_pow_pos n
  rw [maxValue, pow_succ, Nat.add_sub_cancel]
  omega

theorem two_pow_eq_double (hw : 0 < w) : 2 ^ w = 2 * (maxValue w / 2 + 1) := by
  rw [maxValue_div_two hw, ← Nat.pow_succ']
  congr 1
  omega

theorem isSeqLowerThan_iff_cdist_self (hw : 0 < w) (a b : BitVec w) :
    isSeqLowerThan a b = true ↔ 0 < cdist a b ∧ (cdist a b ≤ maxValue w / 2 ∨
        (cdist a b = maxValue w / 2 + 1 ∧ b < a)) := by
  have hdbl := two_pow_eq_double hw
  have ha := a.isLt
  have hb := b.isLt
  simp only [isSeqLowerThan, Bool.or_eq_true, Bool.and_eq_true, decide_eq_true_eq, lt_def]
  unfold cdist
  rw [toNat_sub]
  generalize a.toNat = m at *
  generalize b.toNat = n at *
  generalize maxValue w / 2 = h at *
  rw [hdbl] at ha hb ⊢
  rcases lt_or_ge n m with hlt | hge
  · rw [Nat.mod_eq_of_lt (by omega)]
    omega
  · have e : 2 * (h + 1) - m + n = (n - m) + 2 * (h + 1) := by omega
    rw [e, Nat.add_mod_right, Nat.mod_eq_of_lt (by omega)]
    omega

theorem isSeqHigherThan_eq (a b : BitVec w) : isSeqHigherThan a b = isSeqLowerThan b a := rfl

/-- **Within half a circle of a reference point, the comparison is the order of the positions.** -/
theorem isSeqLowerThan_iff_cdist (hw : 0 < w) {p a b : BitVec w} (ha : cdist p a ≤ maxValue w / 2)
    (hb : cdist p b ≤ maxValue w / 2) : isSeqLowerThan a b = true ↔ cdist p a < cdist p b := by
  have hdbl := two_pow_eq_double hw
  rw [isSeqLowerThan_iff_cdist_self hw]
  rcases lt_or_ge (cdist p b) (cdist p a) with hlt | hge
  · have e : cdist a b = 2 ^ w - (cdist p a - cdist p b) := toNat_sub_of_cdist_lt hlt
    rw [e, hdbl]
    omega
  · have e : cdist a b = cdist p b - cdist p a := toNat_sub_of_cdist_le hge
    rw [e]
    omega

theorem isSeqLowerThan_iff_cdist_to (hw : 0 < w) {a b v : BitVec w} (hb : cdist b v ≤ maxValue w / 2)
    (ha : cdist a v ≤ cdist b v + maxValue w / 2) : isSeqLowerThan a b = true ↔ cdist b v < cdist a v := by
  have hdbl := two_pow_eq_double hw
  -- the way from `a` to `b` goes forward to `v` and then back
  have hdist : cdist a b = (2 ^ w - cdist b v + cdist a v) % 2 ^ w := by
    have hsplit : b - a = (v - a) - (v - b) := by ring
    rw [cdist, hsplit, toNat_sub]
    rfl
  rw [isSeqLowerThan_iff_cdist_self hw, hdist]
  rcases lt_or_ge (cdist a v) (cdist b v) with hlt | hge
  · rw [Nat.mod_eq_of_lt (by omega)]
    omega
  · have hround : 2 ^ w - cdist b v + cdist a v = (cdist a v - cdist b v) + 2 ^ w := by omega
    rw [hround, Nat.add_mod_right, Nat.mod_eq_of_lt (by omega)]
    omega

theorem not_lower_of_le {a b : BitVec 16} (ha : a.toNat < 2 ^ 15) (hba : b.toNat ≤ a.toNat) :
    isSeqLowerThan a b = false := by
  have hhalf : maxValue 16 / 2 = 32767 := rfl
  simp only [isSeqLowerThan, hhalf, lt_def, Bool.or_eq_false_iff, Bool.and_eq_false_iff,
    decide_eq_false_iff_not]
  omega

theorem not_lower_sub_one {a b : BitVec 16} (ha : a.toNat < 2 ^ 15) (hba : b.toNat ≤ a.toNat + 1) :
    isSeqLowerThan a (b - 1) = false := by
  have hhalf : maxValue 16 / 2 = 32767 := rfl
  have hone : (1 : BitVec 16).toNat = 1 := rfl
  simp only [isSeqLowerThan, hhalf, lt_def, Bool.or_eq_false_iff, Bool.and_eq_false_iff,
    decide_eq_false_iff_not, toNat_sub, hone]
  omega

end Compare

/-! ## What the operations do -/

namespace SeqManager

variable {w : ℕ}

section

variable (s : SeqManager w) (x : BitVec w)

@[simp] theorem sync_dropped : (s.sync x).dropped = [] := rfl

@[simp] theorem sync_base : (s.sync x).base = s.maxOutput - x := rfl

@[simp] theorem sync_maxInput : (s.sync x).maxInput = x := rfl

@[simp] theorem sync_maxOutput : (s.sync x).maxOutput = s.maxOutput := rfl

end

variable {s : SeqManager w} {v : BitVec w}

theorem drop_of_higher (h : isSeqLowerThan s.maxInput v = true) :
    s.drop v = { s with dropped := insertOrdered isSeqLowerThan v s.dropped } := by
  rw [drop, isSeqHigherThan_eq, if_pos h]

theorem drop_of_not_higher (h : ¬ isSeqLowerThan s.maxInput v = true) : s.drop v = s := by
  rw [drop, isSeqHigherThan_eq, if_neg h]

@[simp] theorem drop_maxInput (s : SeqManager w) (v : BitVec w) : (s.drop v).maxInput = s.maxInput := by
  rw [drop]
  split_ifs <;> rfl

section

variable (s : SeqManager w) (b v : BitVec w)

@[simp] theorem accept_dropped : (s.accept b v).1.dropped = s.dropped := rfl

@[simp] theorem accept_base : (s.accept b v).1.base = s.base := rfl

@[simp] theorem accept_snd : (s.accept b v).2 = some (v + b) := rfl

theorem accept_maxInput : (s.accept b v).1.maxInput =
      if cdist s.maxInput v < maxValue w / 2 then v else s.maxInput := rfl

end

theorem input_isSome (hv : v ∉ s.dropped) : (s.input v).2.isSome = true := by
  rw [input]
  dsimp only
  split_ifs with hnil hdrop
  · rfl
  · have hmem : v ∈ (s.erase v).dropped := mem_of_getElem? hdrop
    exact absurd (mem_of_mem_drop hmem) hv
  · rfl

theorem input_maxInput_of_refused (h : (s.input v).2 = none) : (s.input v).1.maxInput = s.maxInput := by
  rw [input] at h ⊢
  dsimp only at h ⊢
  split_ifs at h ⊢
  · cases h
  · rfl
  · cases h

theorem mem_dropped_of_mem_input {x : BitVec w} (h : x ∈ (s.input v).1.dropped) : x ∈ s.dropped := by
  rw [input] at h
  dsimp only at h
  split_ifs at h
  · exact h
  · exact mem_of_mem_drop h
  · exact mem_of_mem_drop h

theorem mem_drop_dropped {x : BitVec w} (h : x ∈ (s.drop v).dropped) : x = v ∨ x ∈ s.dropped := by
  rw [drop] at h
  split_ifs at h
  · exact mem_of_mem_insertOrdered h
  · exact .inr h

theorem input_maxInput (s : SeqManager w) (v : BitVec w) :
    (s.input v).1.maxInput = s.maxInput ∨ (s.input v).1.maxInput = v := by
  have hacc : ∀ (t : SeqManager w) (b : BitVec w), t.maxInput = s.maxInput →
      (t.accept b v).1.maxInput = s.maxInput ∨ (t.accept b v).1.maxInput = v := by
    intro t b ht
    rw [accept_maxInput]
    split_ifs
    · exact .inr rfl
    · exact .inl ht
  rw [input]
  split_ifs
  · exact hacc s _ rfl
  · dsimp only
    split_ifs
    · exact .inl rfl
    · exact hacc (s.erase v) _ rfl

def NothingErased (s : SeqManager w) (v : BitVec w) : Prop :=
  ∀ d ∈ s.dropped, isSeqLowerThan d (eraseKey v) = false

-- over the list: instance search would find the enumeration of all bit vectors
instance (s : SeqManager w) (v : BitVec w) : Decidable (s.NothingErased v) :=
  List.decidableBAll _ s.dropped

theorem erase_of_nothing_erased (h : s.NothingErased v) : s.erase v = s := by
  rw [erase, lowerBound_eq_zero h]
  simp

/-- **What `Input` does when its first search erases nothing**: a shift by the base less the dropped
inputs below, or a refusal. -/
theorem input_of_nothing_erased (h : s.NothingErased v) : s.input v =
      if s.dropped[lowerBound isSeqLowerThan s.dropped v]? = some v then (s, none)
      else s.accept (s.base - BitVec.ofNat w (lowerBound isSeqLowerThan s.dropped v)) v := by
  have hle : lowerBound isSeqLowerThan s.dropped v ≤ s.dropped.length := findIdx_le_length
  rw [input, erase_of_nothing_erased h]
  by_cases hnil : s.dropped = []
  · simp [hnil]
  · rw [if_neg (by simpa using hnil)]
    have e : s.dropped.length - (s.dropped.length - lowerBound isSeqLowerThan s.dropped v) =
        lowerBound isSeqLowerThan s.dropped v := by omega
    simp only [e]

end SeqManager

end MediasoupWorker.RTC
