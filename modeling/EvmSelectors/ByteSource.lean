import EvmSelectors.Bytes
import EvmSelectors.Json.Basic

/-!
This module contains the values that a caller may hand over where a byte string is wanted, and their
conversion to one. How many bytes there is memory for is up to the machine.
-/

namespace EvmSelectors

/--
A value that stands for a byte string. Among `octets`, an item that is no number is `none`; `zeros`
gives a number of zero bytes; `other` stands for no byte string at all.
-/
inductive ByteSource where
  | bytes (b : Bytes)
  | octets (items : List (Option Int))
  | zeros (count : Int)
  | other
  deriving DecidableEq

namespace ByteSource

inductive Error where
  | octetRange
  /-- A count is no signed number of 64 bits. -/
  | countRange
  | negativeCount
  /-- A count leaves no room for the header of a byte string in 64 bits. -/
  | tooLarge
  /-- A count is greater than the number of bytes that memory holds. -/
  | noMemory
  | notBytes
  deriving DecidableEq

def Error.message : Error → String
  | octetRange => "bytes must be in range(0, 256)"
  | countRange => "cannot fit 'int' into an index-sized integer"
  | negativeCount => "negative count"
  | tooLarge => "byte string is too large"
  | noMemory => ""
  | notBytes => "no byte string"

def octet : Option Int → Except Error UInt8
  | some n => if 0 ≤ n ∧ n < 256 then .ok (UInt8.ofNat n.toNat) else .error .octetRange
  | none => .error .notBytes

def maxIndex : Int := 0x7fffffffffffffff

/--
The number of bytes that a byte string takes besides its own.
-/
def headerSize : Int := 33

def zeroCount (memory : Nat) (count : Int) : Except Error Nat :=
  if count < -maxIndex - 1 ∨ maxIndex < count then .error .countRange
  else if count < 0 then .error .negativeCount
  else if maxIndex - headerSize < count then .error .tooLarge
  else if memory ≤ count then .error .noMemory
  else .ok count.toNat

/--
The byte string that a value stands for. Of several bad octets the first is reported.
-/
def toBytes (memory : Nat) : ByteSource → Except Error Bytes
  | bytes b => .ok b
  | octets items => items.mapM octet
  | zeros count =>
    match zeroCount memory count with
    | .error e => .error e
    | .ok n => .ok (List.replicate n 0)
  | other => .error .notBytes

/--
The length of the byte string that a value stands for. The zero bytes of a count are not made.
-/
def size (memory : Nat) : ByteSource → Except Error Nat
  | zeros count => zeroCount memory count
  | value => (value.toBytes memory).map List.length

theorem size_eq_map_toBytes (memory : Nat) (value : ByteSource) :
    value.size memory = (value.toBytes memory).map List.length := by
  cases value with
  | zeros count =>
    simp only [size, toBytes]
    cases zeroCount memory count <;> simp [Except.map]
  | bytes b => rfl
  | octets items => rfl
  | other => rfl

/--
The first bytes of the byte string that a value stands for, one more than `limit` of them. They tell it
from any byte string of at most `limit` bytes. The other zero bytes of a count are not made.
-/
def leading (memory limit : Nat) : ByteSource → Except Error Bytes
  | zeros count => (zeroCount memory count).map (fun n => List.replicate (min (limit + 1) n) 0)
  | value => (value.toBytes memory).map (List.take (limit + 1))

theorem leading_eq (memory limit : Nat) (value : ByteSource) :
    value.leading memory limit = (value.toBytes memory).map (List.take (limit + 1)) := by
  cases value with
  | zeros count =>
    simp only [leading, toBytes]
    cases zeroCount memory count <;> simp [Except.map, List.take_replicate]
  | bytes b => rfl
  | octets items => rfl
  | other => rfl

/--
The byte strings of several values. Of several bad values the first is reported.
-/
def allToBytes (memory : Nat) (values : List ByteSource) : Except Error (List Bytes) :=
  values.mapM (toBytes memory)

theorem allToBytes_cons_eq_ok_iff {memory : Nat} {value : ByteSource} {rest : List ByteSource}
    {bs : List Bytes} :
    allToBytes memory (value :: rest) = .ok bs ↔
      ∃ b tail, value.toBytes memory = .ok b ∧ allToBytes memory rest = .ok tail ∧ bs = b :: tail := by
  unfold allToBytes
  rw [List.mapM_cons]
  cases value.toBytes memory with
  | error e => simp [bind, Except.bind]
  | ok b =>
    cases List.mapM (toBytes memory) rest with
    | error e => simp [bind, Except.bind]
    | ok tail => simp [bind, Except.bind, pure, Except.pure, eq_comm]

theorem allToBytes_map_bytes (memory : Nat) (bs : List Bytes) :
    allToBytes memory (bs.map bytes) = .ok bs := by
  induction bs with
  | nil => rfl
  | cons b bs ih =>
    rw [List.map_cons, allToBytes_cons_eq_ok_iff]
    exact ⟨b, bs, rfl, ih, rfl⟩

def allLeading (memory limit : Nat) (values : List ByteSource) : Except Error (List Bytes) :=
  values.mapM (leading memory limit)

theorem allLeading_eq (memory limit : Nat) (values : List ByteSource) :
    allLeading memory limit values
      = (allToBytes memory values).map (List.map (List.take (limit + 1))) := by
  unfold allLeading allToBytes
  induction values with
  | nil => rfl
  | cons value rest ih =>
    rw [List.mapM_cons, List.mapM_cons, ih, leading_eq]
    cases value.toBytes memory with
    | error e => rfl
    | ok b =>
      cases List.mapM (toBytes memory) rest with
      | error e => rfl
      | ok bs => rfl

/--
A number, or a truth value read as one.
-/
def numberOfJson? : Json → Option Int
  | .int n => some n
  | .bool b => some (if b then 1 else 0)
  | _ => none

/--
The reading of a JSON value as a byte string. A text stands for none, as it has no encoding.
-/
def ofJson : Json → ByteSource
  | .array items => octets (items.map numberOfJson?)
  | .object fields => octets (fields.map (fun _ => none))
  | .int n => zeros n
  | .bool b => zeros (if b then 1 else 0)
  | _ => other

end ByteSource

end EvmSelectors
