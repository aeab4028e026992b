import EvmSelectors.Text.CodePoint

/-!
This module contains the characters that count as white space, and the trimming of a text at both ends.
-/

namespace EvmSelectors
namespace Text

def blankRanges : List (Nat × Nat) :=
  [(0x0009, 0x000d), (0x001c, 0x0020), (0x0085, 0x0085), (0x00a0, 0x00a0), (0x1680, 0x1680),
   (0x2000, 0x200a), (0x2028, 0x2029), (0x202f, 0x202f), (0x205f, 0x205f), (0x3000, 0x3000)]

def isBlank (c : Char) : Bool :=
  blankRanges.any (fun r => r.1 ≤ c.toNat && c.toNat ≤ r.2)

/--
A list without the elements at its two ends that satisfy `p`.
-/
def trimBy {α : Type} (p : α → Bool) (s : List α) : List α :=
  ((s.dropWhile p).reverse.dropWhile p).reverse

def trim (s : List CodePoint) : List CodePoint :=
  trimBy (fun p => p.char?.any isBlank) s

end Text
end EvmSelectors
