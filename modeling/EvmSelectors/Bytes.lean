/-!
This module contains byte strings, read as numbers and padded to a width.
-/

namespace EvmSelectors

abbrev Bytes := List UInt8

namespace Bytes

/--
The number that a byte string spells, the most significant byte first.
-/
def value (b : Bytes) : Nat :=
  b.foldl (fun n x => 256 * n + x.toNat) 0

/--
Zero bytes in front, up to a width. A byte string that is as wide or wider stays as it is.
-/
def pad (width : Nat) (b : Bytes) : Bytes :=
  b.leftpad width 0

theorem length_pad (width : Nat) (b : Bytes) : (b.pad width).length = max width b.length := by
  simp only [pad, List.leftpad, List.length_append, List.length_replicate]
  omega

/--
One byte more than a byte string has is enough to tell others from it.
-/
theorem take_eq_iff {n : Nat} {b c : Bytes} (h : c.length ≤ n) : b.take (n + 1) = c ↔ b = c := by
  constructor
  · intro hb
    have hl : (b.take (n + 1)).length ≤ n := by
      rw [hb]
      exact h
    rw [List.length_take] at hl
    rw [← hb, List.take_of_length_le (by omega)]
  · intro hb
    rw [hb, List.take_of_length_le (by omega)]

def ofAscii (text : List Char) : Bytes :=
  text.map (fun c => UInt8.ofNat c.toNat)

def toAscii (b : Bytes) : List Char :=
  b.map (fun x => Char.ofNat x.toNat)

def isAscii (b : Bytes) : Bool :=
  b.all (fun x => x < 0x80)

end Bytes

end EvmSelectors
