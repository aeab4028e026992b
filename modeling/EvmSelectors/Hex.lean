import EvmSelectors.Bytes
import EvmSelectors.Text.Blank
import EvmSelectors.Text.Quoted

/-!
This module contains the hexadecimal form of byte strings: writing it, and reading it from a text that
may be marked with `0x` and surrounded by white space.
-/

namespace EvmSelectors
namespace Hex

def encodeByte (b : UInt8) : List Char :=
  [Nat.digitChar (b.toNat / 16), Nat.digitChar (b.toNat % 16)]

/--
Two lowercase digits for each byte.
-/
def encode (b : Bytes) : List Char :=
  b.flatMap encodeByte

theorem encode_nil : encode [] = [] := rfl

theorem encode_cons (x : UInt8) (b : Bytes) : encode (x :: b) = encodeByte x ++ encode b := by
  simp [encode]

theorem length_encode (b : Bytes) : (encode b).length = 2 * b.length := by
  induction b with
  | nil => rfl
  | cons x b ih =>
    rw [encode_cons, List.length_append, ih]
    simp only [encodeByte, List.length_cons, List.length_nil]
    omega

def encodeString (b : Bytes) : String :=
  String.ofList (encode b)

/--
The value of a digit in either letter case.
-/
def digit? (c : Char) : Option Nat :=
  if 0x30 ≤ c.toNat ∧ c.toNat ≤ 0x39 then some (c.toNat - 0x30)
  else if 0x61 ≤ c.toNat ∧ c.toNat ≤ 0x66 then some (c.toNat - 0x57)
  else if 0x41 ≤ c.toNat ∧ c.toNat ≤ 0x46 then some (c.toNat - 0x37)
  else none

def isDigit (p : CodePoint) : Bool :=
  (p.char?.bind digit?).isSome

def pair (hi lo : Char) : UInt8 :=
  UInt8.ofNat (16 * (digit? hi).getD 0 + (digit? lo).getD 0)

/--
The bytes of an even number of digits.
-/
def decode (digits : List Char) : Bytes :=
  go digits []
where
  go : List Char → Bytes → Bytes
    | hi :: lo :: rest, acc => go rest (pair hi lo :: acc)
    | _, acc => acc.reverse

theorem decode.go_eq_append (digits : List Char) (acc : Bytes) :
    go digits acc = acc.reverse ++ go digits [] := by
  match digits with
  | [] => simp [go]
  | [_] => simp [go]
  | hi :: lo :: rest =>
    rw [go, go, go_eq_append rest (_ :: acc), go_eq_append rest [_]]
    simp

theorem decode_cons_cons (hi lo : Char) (rest : List Char) :
    decode (hi :: lo :: rest) = pair hi lo :: decode rest := by
  unfold decode
  rw [decode.go, decode.go_eq_append]
  simp

inductive Error where
  | oddLength (digits : Nat)
  | badDigit (p : CodePoint)
  deriving DecidableEq

def Error.message : Error → String
  | oddLength n => "odd number of hex digits (" ++ toString n ++ ")"
  | badDigit p => "invalid hex character " ++ Text.quotedPoints [p]

def isMarked : List CodePoint → Bool
  | .char '0' :: .char 'x' :: _ => true
  | .char '0' :: .char 'X' :: _ => true
  | _ => false

def unmarked (s : List CodePoint) : List CodePoint :=
  if isMarked s then s.drop 2 else s

/--
Reads digits without white space or mark. An odd length is reported before a bad digit, and of
several bad digits the first.
-/
def readDigits (digits : List CodePoint) : Except Error Bytes :=
  if digits.length % 2 = 1 then
    .error (.oddLength digits.length)
  else
    match digits.find? (fun p => !isDigit p) with
    | some p => .error (.badDigit p)
    | none => .ok (decode (digits.filterMap CodePoint.char?))

/--
Reads a text that may be marked and surrounded by white space.
-/
def parse (s : List CodePoint) : Except Error Bytes :=
  readDigits (unmarked (Text.trim s))

end Hex
end EvmSelectors
