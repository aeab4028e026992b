import EvmSelectors.Number.Binary64
import EvmSelectors.Text.Blank
import EvmSelectors.Text.Digit

/-!
This module contains the reading of integers and of floating point numbers from a text. Digits of every
script count, single underscores may stand between digits, and white space may surround the number.
-/

namespace EvmSelectors
namespace Number

/--
White space and digits outside of ASCII in their ASCII form.
-/
def plainChar (c : Char) : Char :=
  if c.toNat < 127 then c
  else if Text.isBlank c then ' '
  else
    match Text.digit? c with
    | some d => Nat.digitChar d
    | none => c

def isSpace (c : Char) : Bool :=
  (9 ≤ c.toNat && c.toNat ≤ 13) || c == ' '

def plain (s : String) : List Char :=
  Text.trimBy isSpace (s.toList.map plainChar)

/--
A text without its underscores, if each of them stands between two digits.
-/
def ungroup (s : List Char) : Option (List Char) :=
  go false false s
where
  go (afterDigit afterMark : Bool) : List Char → Option (List Char)
    | [] => if afterMark then none else some []
    | c :: rest =>
      if c = '_' then
        if afterDigit then go false true rest else none
      else if afterMark && !Text.isAsciiDigit c then none
      else (go (Text.isAsciiDigit c) false rest).map (c :: ·)

/--
Whether a sign in front is a minus, and the text behind the sign.
-/
def sign : List Char → Bool × List Char
  | '-' :: rest => (true, rest)
  | '+' :: rest => (false, rest)
  | s => (false, s)

def digitsValue (digits : List Char) : Nat :=
  digits.foldl (fun n c => 10 * n + (Text.asciiDigit? c).getD 0) 0

def maxDigits : Nat := 4300

def signed (negative : Bool) (n : Nat) : Int :=
  if negative then -n else n

def readInt? (s : String) : Option Int :=
  match ungroup (plain s) with
  | none => none
  | some s =>
    let (negative, digits) := sign s
    if digits.all Text.isAsciiDigit && !digits.isEmpty && decide (digits.length ≤ maxDigits) then
      some (signed negative (digitsValue digits))
    else
      none

def readExponent? : List Char → Option Int
  | [] => some 0
  | c :: rest =>
    let (negative, digits) := sign rest
    if (c == 'e' || c == 'E') && digits.all Text.isAsciiDigit && !digits.isEmpty then
      some (signed negative (digitsValue digits))
    else
      none

def readDecimal? (negative : Bool) (s : List Char) : Option Binary64 :=
  let whole := s.takeWhile Text.isAsciiDigit
  let rest := s.dropWhile Text.isAsciiDigit
  let (part, rest) :=
    match rest with
    | '.' :: rest => (rest.takeWhile Text.isAsciiDigit, rest.dropWhile Text.isAsciiDigit)
    | rest => ([], rest)
  if whole.isEmpty && part.isEmpty then
    none
  else
    match readExponent? rest with
    | none => none
    | some e => some (.ofDecimal negative (digitsValue (whole ++ part)) (e - part.length))

/--
Reads a floating point number, or a word for infinity or for no number in any letter case.
-/
def readReal? (s : String) : Option Binary64 :=
  match ungroup (plain s) with
  | none => none
  | some s =>
    let (negative, s) := sign s
    let word := String.ofList (s.map Char.toLower)
    if word = "inf" ∨ word = "infinity" then some (.infinite negative)
    else if word = "nan" then some .nan
    else readDecimal? negative s

end Number
end EvmSelectors
