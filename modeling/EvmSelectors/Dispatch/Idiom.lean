import EvmSelectors.Instruction.Basic
import EvmSelectors.Selector.Basic

/-!
This module contains the idioms with which compilers compare the selector of a call with a literal, and
the matching of a window of instructions against them.
-/

namespace EvmSelectors

inductive Slot where
  | opcode (op : Opcode)
  | selectorPush
  | literalPush
  | zeroPush
  deriving DecidableEq

/--
Whether an instruction fits a place. `zeroPush` is `PUSH1` with the operand `00`.
-/
def Slot.accepts : Slot → Instruction → Bool
  | opcode op, i => i.opcode == op
  | selectorPush, i => i.opcode.isSelectorPush
  | literalPush, i => i.opcode.isLiteralPush
  | zeroPush, i => i.opcode == .push 1 && i.operand == some [0]

/--
The places of an idiom from left to right, the name under which it is reported and the position of
the push of the selector, counted from the end of the window if negative.
-/
structure Idiom where
  name : String
  shape : List Slot
  position : Int
  deriving DecidableEq

namespace Idiom

/--
`DUP1 PUSHn selector EQ PUSHn target JUMPI`
-/
def dupEq : Idiom where
  name := "solc-dup1-eq"
  shape := [.opcode (.dup 0), .selectorPush, .opcode .eq, .literalPush, .opcode .jumpi]
  position := 1

/--
`PUSHn selector DUP2 XOR PUSHn target JUMPI`
-/
def dupXor : Idiom where
  name := "vyper-dup2-xor"
  shape := [.selectorPush, .opcode (.dup 1), .opcode .xor, .literalPush, .opcode .jumpi]
  position := 0

/--
`PUSHn selector PUSH1 00 MLOAD EQ ISZERO`, for a selector of the call kept in memory.
-/
def loadEq : Idiom where
  name := "vyper-mload-eq"
  shape := [.selectorPush, .zeroPush, .opcode .mload, .opcode .eq, .opcode .iszero]
  position := 0

def known : List Idiom := [dupEq, dupXor, loadEq]

def ofName? (name : String) : Option Idiom :=
  known.find? (fun idiom => idiom.name == name)

end Idiom

inductive ScanError where
  /-- The window ends before a place of the idiom is decided. -/
  | windowEnd
  /-- The idiom takes its selector from outside of the window. -/
  | position
  /-- The instruction from which the idiom takes its selector has no operand. -/
  | noOperand
  /-- The selector is longer than four bytes. -/
  | selectorSize (bytes : Nat)
  deriving DecidableEq

structure Match where
  idiom : String
  selector : Bytes
  deriving DecidableEq

/--
Whether a window fits the places of an idiom, tested from left to right up to the first that does not fit.
-/
def fits : List Slot → List Instruction → Except ScanError Bool
  | [], _ => .ok true
  | _ :: _, [] => .error .windowEnd
  | slot :: slots, i :: rest => if slot.accepts i then fits slots rest else .ok false

/--
The element at a position, counted from the end if negative.
-/
def elementAt? {α : Type} (l : List α) (position : Int) : Option α :=
  if 0 ≤ position then l[position.toNat]?
  else if position.natAbs ≤ l.length then l[l.length - position.natAbs]?
  else none

def selectorAt (window : List Instruction) (position : Int) : Except ScanError Bytes :=
  match elementAt? window position with
  | none => .error .position
  | some i =>
    match i.operand with
    | none => .error .noOperand
    | some literal => .ok (Selector.padLiteral literal)

def matchWindow (idioms : List Idiom) (window : List Instruction) : Except ScanError (Option Match) :=
  match idioms with
  | [] => .ok none
  | idiom :: rest =>
    match fits idiom.shape window with
    | .error e => .error e
    | .ok false => matchWindow rest window
    | .ok true =>
      match selectorAt window idiom.position with
      | .error e => .error e
      | .ok selector => .ok (some { idiom := idiom.name, selector })

end EvmSelectors
