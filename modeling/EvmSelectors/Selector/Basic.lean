import EvmSelectors.Hex

/-!
This module contains function selectors, numbers of 32 bits that are written as four bytes.
-/

namespace EvmSelectors

structure Selector where
  value : Nat
  value_lt : value < 0x100000000
  deriving DecidableEq

namespace Selector

def size : Nat := 4

/--
The four bytes of a selector, the most significant one first.
-/
def bytes (x : Selector) : Bytes :=
  [UInt8.ofNat (x.value / 0x1000000), UInt8.ofNat (x.value / 0x10000), UInt8.ofNat (x.value / 0x100),
   UInt8.ofNat x.value]

theorem length_bytes (x : Selector) : x.bytes.length = size := rfl

theorem value_bytes (x : Selector) : x.bytes.value = x.value := by
  have h := x.value_lt
  simp only [bytes, Bytes.value, List.foldl_cons, List.foldl_nil, UInt8.toNat_ofNat']
  omega

theorem value_injective {x y : Selector} (h : x.value = y.value) : x = y := by
  cases x
  cases y
  subst h
  rfl

theorem bytes_injective {x y : Selector} (h : x.bytes = y.bytes) : x = y := by
  apply value_injective
  rw [← value_bytes, ← value_bytes, h]

theorem value_lt_of_length {b : Bytes} (h : b.length = 4) : b.value < 0x100000000 := by
  match b, h with
  | [x, y, z, w], _ =>
    have hx := x.toNat_lt
    have hy := y.toNat_lt
    have hz := z.toNat_lt
    have hw := w.toNat_lt
    simp only [Bytes.value, List.foldl_cons, List.foldl_nil]
    omega

/--
The selector that consists of the given bytes, or their number if there are not four of them.
-/
def ofBytes (b : Bytes) : Except Nat Selector :=
  if h : b.length = 4 then .ok ⟨b.value, value_lt_of_length h⟩ else .error b.length

theorem bytes_of_length {b : Bytes} (h : b.length = 4) : bytes ⟨b.value, value_lt_of_length h⟩ = b := by
  match b, h with
  | [x, y, z, w], _ =>
    have hx := x.toNat_lt
    have hy := y.toNat_lt
    have hz := z.toNat_lt
    have hw := w.toNat_lt
    simp only [bytes, Bytes.value, List.foldl_cons, List.foldl_nil, List.cons.injEq, ← UInt8.toNat_inj,
      UInt8.toNat_ofNat']
    refine ⟨?_, ?_, ?_, ?_, trivial⟩ <;> omega

theorem ofBytes_eq_ok_iff {b : Bytes} {x : Selector} : ofBytes b = .ok x ↔ b = x.bytes := by
  unfold ofBytes
  constructor
  · intro h
    split at h
    · next hb =>
      cases h
      exact (bytes_of_length hb).symm
    · cases h
  · rintro rfl
    have hx : x.bytes.length = 4 := x.length_bytes
    rw [dif_pos hx]
    congr 1
    apply bytes_injective
    rw [bytes_of_length hx]

theorem ofBytes_eq_error_iff {b : Bytes} {n : Nat} :
    ofBytes b = .error n ↔ b.length ≠ 4 ∧ n = b.length := by
  unfold ofBytes
  split
  · next h => simp [h]
  · next h => simp [h, eq_comm]

def wrongSize (bytes : Nat) : String :=
  "selector must be " ++ toString size ++ " bytes, got " ++ toString bytes

/--
A pushed literal as a selector has it: compilers leave out zero bytes in front.
-/
def padLiteral (b : Bytes) : Bytes :=
  b.pad size

end Selector

def markedHex (b : Bytes) : List Char :=
  '0' :: 'x' :: Hex.encode b

end EvmSelectors
