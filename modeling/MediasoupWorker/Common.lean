import MediasoupWorker.Library.Fallible
import Mathlib.Data.BitVec
import Mathlib.Data.Int.ModEq

/-!
# What the modules of the worker share
-/

namespace MediasoupWorker

open Library

inductive Fault where
  | typeError (message : String)
  | error (message : String)
  | assertion (description : String)
  | abort (description : String)
  | exception (what : String)
  | nullPointer
  | outOfBounds
  deriving DecidableEq, Repr

def msAssert (condition : Bool) (description : String) : Except Fault Unit :=
  if condition then .ok () else .error (.assertion description)

@[simp] theorem msAssert_true (desc : String) : msAssert true desc = .ok () := rfl

def throwTypeError {α : Type} (message : String) : Except Fault α := .error (.typeError message)

def throwTypeErrorIf (condition : Bool) (message : String) : Except Fault Unit :=
  if condition then throwTypeError message else .ok ()

theorem throwTypeErrorIf_eq_ok {cond : Bool} {msg : String} {u : Unit} :
    throwTypeErrorIf cond msg = .ok u ↔ cond = false := by
  cases cond <;> simp [throwTypeErrorIf, throwTypeError]

abbrev Byte := BitVec 8

def Byte.bit (byte : Byte) (n : ℕ) : Bool := ((byte >>> n) &&& 0x01) == 0x01

def get1Byte (data : List Byte) (i : ℕ) : Except Fault Byte :=
  match data[i]? with
  | some byte => .ok byte
  | none => .error .outOfBounds

def get2Bytes (data : List Byte) (i : ℕ) : Except Fault (BitVec 16) := do
  let high ← get1Byte data i
  let low ← get1Byte data (i + 1)
  return high ++ low

def get3Bytes (data : List Byte) (i : ℕ) : Except Fault (BitVec 24) := do
  let high ← get2Bytes data i
  let low ← get1Byte data (i + 2)
  return high ++ low

theorem get1Byte_eq_ok {data : List Byte} {i : ℕ} {byte : Byte} (h : get1Byte data i = .ok byte) :
    data.getD i 0 = byte := by
  unfold get1Byte at h
  rw [List.getD_eq_getElem?_getD]
  cases hbyte : data[i]? with
  | none =>
    rw [hbyte] at h
    cases h
  | some byte' =>
    rw [hbyte] at h
    cases h
    rfl

theorem get2Bytes_eq_ok {data : List Byte} {i : ℕ} {word : BitVec 16} (h : get2Bytes data i = .ok word) :
    (data.getD i 0 ++ data.getD (i + 1) 0 : BitVec 16) = word := by
  obtain ⟨high, hhigh, h⟩ := bind_eq_ok.mp h
  obtain ⟨low, hlow, h⟩ := bind_eq_ok.mp h
  rw [get1Byte_eq_ok hhigh, get1Byte_eq_ok hlow]
  exact Except.ok.inj h

inductive Json where
  | null
  | boolean (value : Bool)
  | integer (value : ℤ)
  | float (value : Float)
  | string (value : String)
  | array (entries : List Json)
  | object (fields : List (String × Json))
  deriving Inhabited

namespace Json

def find (data : Json) (key : String) : Option Json :=
  match data with
  | .object fields => fields.lookup key
  | _ => none

def isObject : Json → Bool
  | .object _ => true
  | _ => false

def isInteger : Json → Bool
  | .integer _ => true
  | _ => false

def unsigned (w : ℕ) : Json → Option ℕ
  | .integer n => if 0 ≤ n then some (n.toNat % 2 ^ w) else none
  | _ => none

def wrapped (w : ℕ) : Json → Option ℕ
  | .integer n => some (n % 2 ^ w).toNat
  | _ => none

def int32 : Json → ℤ
  | .integer n => n.bmod (2 ^ 32)
  | _ => 0

def asBoolean : Json → Option Bool
  | .boolean b => some b
  | _ => none

def asString : Json → Option String
  | .string s => some s
  | _ => none

def asDouble : Json → Option Float
  | .integer n => some (Float.ofInt n)
  | .float x => some x
  | _ => none

def asArray : Json → Option (List Json)
  | .array entries => some entries
  | _ => none

def asObject : Json → Option (List (String × Json))
  | .object fields => some fields
  | _ => none

end Json

def toLowerCase (str : String) : String := String.ofList (str.toList.map Char.toLower)

end MediasoupWorker
