import EvmSelectors.Opcode

/-!
This module contains instructions, the linear disassembly of a byte string into them and the assembly
of instructions back into bytes.
-/

namespace EvmSelectors

/--
An instruction at an offset of the code. A `PUSH` that the end of the code cuts short has an operand
that is shorter than its opcode asks for, which is not the same as no operand.
-/
structure Instruction where
  opcode : Opcode
  offset : Int
  operand : Option Bytes
  deriving DecidableEq

namespace Instruction

def operandValue (i : Instruction) : Option Nat :=
  i.operand.map Bytes.value

/--
The offset behind the instruction, had it all the operand bytes that its opcode asks for.
-/
def next (i : Instruction) : Int :=
  i.offset + 1 + i.opcode.immediateLength

/--
The instruction that starts with the byte `b` at an offset, given the bytes behind `b`.
-/
def ofBytes (offset : Int) (b : UInt8) (rest : Bytes) : Instruction :=
  let opcode := Opcode.ofByte b
  let n := opcode.immediateLength
  { opcode, offset, operand := if n = 0 then none else some (rest.take n) }

def toBytes (i : Instruction) : Bytes :=
  i.opcode.toByte :: i.operand.getD []

end Instruction

/--
Splits code into instructions from its start to its end.
-/
def disassemble (code : Bytes) : List Instruction :=
  go code 0 0 []
where
  /--
  Leaves out the operand bytes of the last instruction, `skip` in number, before the next one.
  -/
  go (code : Bytes) (skip : Nat) (offset : Int) (acc : List Instruction) : List Instruction :=
    match code, skip with
    | [], _ => acc.reverse
    | _ :: rest, skip + 1 => go rest skip offset acc
    | b :: rest, 0 =>
      let i := Instruction.ofBytes offset b rest
      go rest i.opcode.immediateLength i.next (i :: acc)

def assemble (instructions : List Instruction) : Bytes :=
  instructions.flatMap Instruction.toBytes

namespace disassemble

theorem go_eq_append (code : Bytes) (skip : Nat) (offset : Int) (acc : List Instruction) :
    go code skip offset acc = acc.reverse ++ go code skip offset [] := by
  induction code generalizing skip offset acc with
  | nil => simp [go]
  | cons b rest ih =>
    cases skip with
    | zero =>
      simp only [go]
      rw [ih, ih _ _ [_]]
      simp
    | succ skip => simp only [go]; exact ih skip offset acc

theorem go_drop (code : Bytes) (skip : Nat) (offset : Int) (acc : List Instruction) :
    go code skip offset acc = go (code.drop skip) 0 offset acc := by
  induction code generalizing skip with
  | nil => simp [go]
  | cons b rest ih =>
    cases skip with
    | zero => rfl
    | succ skip => simp only [go, List.drop_succ_cons]; exact ih skip

theorem go_nil (offset : Int) : go [] 0 offset [] = [] := rfl

/--
The first instruction, and then the disassembly of the bytes behind its operand.
-/
theorem go_cons (b : UInt8) (rest : Bytes) (offset : Int) :
    go (b :: rest) 0 offset [] =
      let i := Instruction.ofBytes offset b rest
      i :: go (rest.drop i.opcode.immediateLength) 0 i.next [] := by
  simp only [go]
  rw [go_eq_append, go_drop]
  simp

end disassemble

end EvmSelectors
