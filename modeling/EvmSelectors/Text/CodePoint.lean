/-!
This module contains code points. A text from outside is a list of them, as it may hold code points that
are no characters.
-/

namespace EvmSelectors

/--
A character, or one of the surrogates, of which only two together stand for a character.
-/
inductive CodePoint where
  | char (c : Char)
  | surrogate (index : Fin 2048)
  deriving DecidableEq

namespace CodePoint

def toNat : CodePoint → Nat
  | char c => c.toNat
  | surrogate index => 0xd800 + index

def char? : CodePoint → Option Char
  | char c => some c
  | surrogate _ => none

/--
The code point of a number below `0x10000`.
-/
def ofUnit (n : Nat) : CodePoint :=
  if h : 0xd800 ≤ n ∧ n < 0xe000 then .surrogate ⟨n - 0xd800, by omega⟩ else .char (Char.ofNat n)

theorem toNat_ofUnit {n : Nat} (h : n < 0x10000) : (ofUnit n).toNat = n := by
  unfold ofUnit
  split
  · simp only [toNat]
    omega
  · next hn =>
    have hv : n.isValidChar := by
      unfold Nat.isValidChar
      omega
    rw [toNat, Char.ofNat, dif_pos hv]
    rfl

def ofString (s : String) : List CodePoint :=
  s.toList.map char

end CodePoint

end EvmSelectors
