import EvmSelectors.Number.Binary64

/-!
This module contains the decimal text of a binary floating point number: the fewest digits that read
back as the number, and of those the nearest to it.
-/

namespace EvmSelectors
namespace Binary64

/--
The positions at which the digits of a number in decimal are found. The magnitude is `value / unit`,
and the numbers between `low / unit` and `high / unit` are nearer to it than to any other.
-/
structure Interval where
  low : Nat
  value : Nat
  high : Nat
  unit : Nat
  /-- Whether the two ends are rounded to the number as well. -/
  closed : Bool

/--
The interval around `m * 2 ^ e`. Below a power of two the gap to the next number is half as wide.
-/
def interval (m : Nat) (e : Int) : Interval :=
  let step := if 0 ≤ e then Nat.pow 2 e.natAbs else 1
  let unit := if 0 ≤ e then 4 else 4 * Nat.pow 2 e.natAbs
  let below := if 2 * m = mantissaBound ∧ minExponent < e then step else 2 * step
  {
    low := 4 * m * step - below
    value := 4 * m * step
    high := 4 * m * step + 2 * step
    unit := unit
    closed := m % 2 == 0
  }

/--
The position of the decimal point in front of the first digit: the magnitude is below `10 ^ p`, and
`p` is the least such number.
-/
def pointPosition (i : Interval) : Int :=
  if i.unit ≤ i.value then
    (Nat.toDigits 10 (i.value / i.unit)).length
  else
    1 - ((List.range 400).find? (fun k => i.unit ≤ i.value * Nat.pow 10 k)).getD 0

/--
The nearest number of `n` digits behind a decimal point at `p` that reads back, as a natural number.
-/
def ofLength? (i : Interval) (p : Int) (n : Nat) : Option Nat :=
  let shift : Int := n - p
  let up := if 0 ≤ shift then Nat.pow 10 shift.natAbs else 1
  let down := if 0 ≤ shift then 1 else Nat.pow 10 shift.natAbs
  let unit := i.unit * down
  let value := i.value * up
  let reads (c : Nat) : Bool :=
    if i.closed then i.low * up ≤ c * unit && c * unit ≤ i.high * up
    else i.low * up < c * unit && c * unit < i.high * up
  let c := value / unit
  let r := value % unit
  let next := decide (unit < 2 * r) || (decide (unit = 2 * r) && c % 2 == 1)
  if reads c && reads (c + 1) then some (if next then c + 1 else c)
  else if reads c then some c
  else if reads (c + 1) then some (c + 1)
  else none

/--
The shortest digits of `m * 2 ^ e` for a positive `m`, and the position of the decimal point.
-/
def shortest (m : Nat) (e : Int) : List Char × Int :=
  let i := interval m e
  let p := pointPosition i
  let found := (List.range' 1 17).findSome? (fun n => (ofLength? i p n).map (fun c => (n, c)))
  let (n, c) := found.getD (1, 0)
  let digits := Nat.toDigits 10 c
  if n < digits.length then (digits.take n, p + 1) else (digits, p)

/--
Digits with a decimal point at `p`, which is written out from `-3` to `16` and is a power of ten
with at least two digits otherwise. At least one digit stands behind the point.
-/
def layout (digits : List Char) (p : Int) : List Char :=
  if -4 < p ∧ p ≤ 0 then
    '0' :: '.' :: List.replicate p.natAbs '0' ++ digits
  else if 0 < p ∧ p ≤ 16 then
    let whole := digits.take p.natAbs ++ List.replicate (p.natAbs - digits.length) '0'
    let part := digits.drop p.natAbs
    whole ++ '.' :: if part.isEmpty then ['0'] else part
  else
    let part := digits.drop 1
    let power := (Nat.toDigits 10 (p - 1).natAbs).leftpad 2 '0'
    digits.take 1 ++ (if part.isEmpty then [] else '.' :: part) ++
      'e' :: (if p - 1 < 0 then '-' else '+') :: power

def signText (negative : Bool) : List Char :=
  if negative then ['-'] else []

def text : Binary64 → String
  | nan => "nan"
  | infinite negative => String.ofList (signText negative ++ "inf".toList)
  | finite negative 0 _ => String.ofList (signText negative ++ "0.0".toList)
  | finite negative m e =>
    let (digits, p) := shortest m e
    String.ofList (signText negative ++ layout digits p)

end Binary64
end EvmSelectors
