import EvmSelectors.Hex
import EvmSelectors.Number.Reader

/-!
This module contains the devices of a store: what is read from them, and what becomes of them when
something is written. A setting holds a number. It takes the text of one twelve bytes at a time, so that
the front of a text may be taken and the rest refused.
-/

namespace EvmSelectors
namespace Store

/--
Why nothing more is taken of what is written.
-/
inductive Refusal where
  | noSpace
  | quota
  | tooLarge
  | inputOutput
  | invalid
  | outOfRange
  deriving DecidableEq

def Refusal.message : Refusal → String
  | noSpace => "[Errno 28] No space left on device"
  | quota => "[Errno 122] Disk quota exceeded"
  | tooLarge => "[Errno 27] File too large"
  | inputOutput => "[Errno 5] Input/output error"
  | invalid => "[Errno 22] Invalid argument"
  | outOfRange => "[Errno 34] Numerical result out of range"

inductive Device where
  | sink
  | zeros
  | full
  | setting (value : Int)
  deriving DecidableEq

namespace Device

-- What is read from `zeros` and from `full` has no end.
def content? : Device → Option Bytes
  | sink => some []
  | zeros => none
  | full => none
  | setting value => some (Bytes.ofAscii (toString value ++ "\n").toList)

def splitBase : List Char → Nat × List Char
  | '0' :: 'x' :: digits => (16, digits)
  | '0' :: 'X' :: digits => (16, digits)
  | '0' :: digits => (8, '0' :: digits)
  | digits => (10, digits)

def digitsValue? (base : Nat) (digits : List Char) : Option Nat :=
  if digits.isEmpty then none else digits.foldlM step 0
where
  step (n : Nat) (c : Char) : Option Nat :=
    match Hex.digit? c with
    | none => none
    | some d => if d < base then some (base * n + d) else none

def readSetting (piece : Bytes) : Except Refusal Int :=
  let (negative, digits) := Number.sign (Text.trimBy Number.isSpace piece.toAscii)
  let (base, digits) := splitBase digits
  match digitsValue? base digits with
  | none => .error .invalid
  | some n =>
    let value := Number.signed negative n
    -- Beyond 32 bits no number is read, and beyond a thousand none is taken.
    if value < -0x80000000 ∨ 0x7fffffff < value then .error .outOfRange
    else if value < -1000 ∨ 1000 < value then .error .invalid
    else .ok value

def pieces (content : Bytes) : List Bytes :=
  (List.range ((content.length + 11) / 12)).map (fun i => (content.drop (12 * i)).take 12)

def set (value : Int) : List Bytes → Int × Option Refusal
  | [] => (value, none)
  | piece :: rest =>
    match readSetting piece with
    | .error refusal => (value, some refusal)
    | .ok value => set value rest

/--
What a device becomes when something is written to it, and why not all of it was taken.
-/
def take (content : Bytes) : Device → Device × Option Refusal
  | sink => (sink, none)
  | zeros => (zeros, none)
  | full => (full, if content.isEmpty then none else some .noSpace)
  | setting value =>
    let (value, refusal) := set value (pieces content)
    (setting value, refusal)

end Device
end Store
end EvmSelectors
