import EvmSelectors.Text.CodePoint
import EvmSelectors.Text.Unassigned

/-!
This module contains the form in which a text is shown: as it is, with a number in the place of a code
point that is no character, or in quotes, on one line and without invisible characters.
-/

namespace EvmSelectors
namespace Text

/--
The ranges of code points without a glyph of their own: controls, format characters, the separators
other than the space, and private use.
-/
def invisibleRanges : List (Nat × Nat) :=
  [(0x0000, 0x001f), (0x007f, 0x00a0), (0x00ad, 0x00ad), (0x0600, 0x0605), (0x061c, 0x061c),
   (0x06dd, 0x06dd), (0x070f, 0x070f), (0x0890, 0x0891), (0x08e2, 0x08e2), (0x1680, 0x1680),
   (0x180e, 0x180e), (0x2000, 0x200f), (0x2028, 0x202f), (0x205f, 0x2064), (0x2066, 0x206f),
   (0x3000, 0x3000), (0xe000, 0xf8ff), (0xfeff, 0xfeff), (0xfff9, 0xfffb), (0x110bd, 0x110bd),
   (0x110cd, 0x110cd), (0x13430, 0x13438), (0x1bca0, 0x1bca3), (0x1d173, 0x1d17a),
   (0xe0001, 0xe0001), (0xe0020, 0xe007f), (0xf0000, 0xffffd), (0x100000, 0x10fffd)]

def within (n : Nat) : List (Nat × Nat) → Bool
  | [] => false
  | (lo, hi) :: rest => if n < lo then false else n ≤ hi || within n rest

def isVisible (c : Char) : Bool :=
  !(within c.toNat invisibleRanges || within c.toNat unassignedRanges)

/--
A number in lowercase hexadecimal, with zeros in front up to a width.
-/
def hexNumber (width n : Nat) : List Char :=
  (Nat.toDigits 16 n).leftpad width '0'

def singleQuote : Char := '\x27'

def doubleQuote : Char := '\x22'

def backslash : Char := '\x5c'

/--
The mark that encloses a text: the single quote, unless the text holds one and no double quote.
-/
def quoteMark (s : List CodePoint) : Char :=
  if s.contains (.char singleQuote) && !s.contains (.char doubleQuote) then doubleQuote
  else singleQuote

def escapeNumber (n : Nat) : List Char :=
  if n < 0x100 then backslash :: 'x' :: hexNumber 2 n
  else if n < 0x10000 then backslash :: 'u' :: hexNumber 4 n
  else backslash :: 'U' :: hexNumber 8 n

def escape (mark : Char) : CodePoint → List Char
  | .char c =>
    if c = backslash ∨ c = mark then [backslash, c]
    else if c = '\n' then [backslash, 'n']
    else if c = '\r' then [backslash, 'r']
    else if c = '\t' then [backslash, 't']
    else if isVisible c then [c]
    else escapeNumber c.toNat
  | .surrogate index => escapeNumber (CodePoint.surrogate index).toNat

def shown (s : List CodePoint) : String :=
  String.ofList (s.flatMap point)
where
  point : CodePoint → List Char
    | .char c => [c]
    | .surrogate index => escapeNumber (CodePoint.surrogate index).toNat

def quotedPoints (s : List CodePoint) : String :=
  let mark := quoteMark s
  String.ofList (mark :: (s.flatMap (escape mark) ++ [mark]))

def quoted (s : String) : String :=
  quotedPoints (CodePoint.ofString s)

end Text
end EvmSelectors
