import EvmSelectors.Hex
import EvmSelectors.Instruction.Basic

/-!
This module contains the text form of instructions: a line for each of them, with its offset in front.
-/

namespace EvmSelectors

namespace Instruction

/--
An offset in hexadecimal, at least four characters wide with its sign.
-/
def offsetText (offset : Int) : List Char :=
  if offset < 0 then
    '-' :: Text.hexNumber 3 offset.natAbs
  else
    Text.hexNumber 4 offset.natAbs

/--
The mnemonic, and behind a space the operand if there is one.
-/
def text (i : Instruction) : List Char :=
  match i.operand with
  | some operand => i.opcode.mnemonic.toList ++ ' ' :: Hex.encode operand
  | none => i.opcode.mnemonic.toList

def line (i : Instruction) : List Char :=
  offsetText i.offset ++ ':' :: ' ' :: i.text

end Instruction

/--
The first `limit` elements; a negative limit leaves out that many at the end.
-/
def upTo {α : Type} (limit : Int) (l : List α) : List α :=
  if limit < 0 then l.take (l.length - limit.natAbs) else l.take limit.natAbs

/--
The lines of instructions, without a line break at the end. Without a limit all of them are listed.
-/
def listing (instructions : List Instruction) (limit : Option Int) : List Char :=
  let shown :=
    match limit with
    | some limit => upTo limit instructions
    | none => instructions
  List.intercalate ['\n'] (shown.map Instruction.line)

end EvmSelectors
