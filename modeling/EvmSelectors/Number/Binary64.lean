/-!
This module contains binary floating point numbers of 64 bits and the rounding of an exact quotient to
the nearest of them. All arithmetic is exact, on natural numbers.
-/

namespace EvmSelectors

/--
A number of 64 bits. `finite negative m e` has the magnitude `m * 2 ^ e`, where `m` has at most 53
bits, `e` is at least `-1074`, and `m` has exactly 53 bits unless `e` is `-1074`.
-/
inductive Binary64 where
  | nan
  | infinite (negative : Bool)
  | finite (negative : Bool) (mantissa : Nat) (exponent : Int)
  deriving DecidableEq

namespace Binary64

/--
The least number with more than 53 bits.
-/
def mantissaBound : Nat := Nat.pow 2 53

def minExponent : Int := -1074

def maxExponent : Int := 971

/--
A quotient rounded to the nearest natural number, a half to the even one.
-/
def roundDiv (num den : Nat) : Nat :=
  let q := num / den
  let r := num % den
  if 2 * r < den then q
  else if den < 2 * r then q + 1
  else q + q % 2

/--
The numerator and the denominator of `num / den / 2 ^ e`.
-/
def scale (num den : Nat) (e : Int) : Nat × Nat :=
  if 0 ≤ e then (num, den * Nat.pow 2 e.natAbs) else (num * Nat.pow 2 e.natAbs, den)

/--
The number nearest to a quotient. The first exponent tried gives the quotient at least 53 bits, and at
most one bit more than that.
-/
def ofRatio (negative : Bool) (num den : Nat) : Binary64 :=
  if num = 0 then
    .finite negative 0 minExponent
  else
    let guess : Int := num.log2 - den.log2 - 53
    let guess := if guess < minExponent then minExponent else guess
    let (n, d) := scale num den guess
    let e := if mantissaBound ≤ n / d then guess + 1 else guess
    let (n, d) := scale num den e
    let m := roundDiv n d
    let (m, e) := if m = mantissaBound then (m / 2, e + 1) else (m, e)
    if maxExponent < e then .infinite negative else .finite negative m e

/--
The number nearest to `digits * 10 ^ exponent`. A magnitude far outside of the range is decided by
the number of its digits alone.
-/
def ofDecimal (negative : Bool) (digits : Nat) (exponent : Int) : Binary64 :=
  let point : Int := (Nat.toDigits 10 digits).length + exponent
  if digits = 0 ∨ point < -400 then .finite negative 0 minExponent
  else if 400 < point then .infinite negative
  else if 0 ≤ exponent then ofRatio negative (digits * Nat.pow 10 exponent.natAbs) 1
  else ofRatio negative digits (Nat.pow 10 exponent.natAbs)

end Binary64

end EvmSelectors
