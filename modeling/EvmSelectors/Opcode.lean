import EvmSelectors.Bytes
import EvmSelectors.Text.Quoted

/-!
This module contains the instruction set: its opcodes, their mnemonics, the byte that encodes each of
them and the number of immediate bytes that follow it.
-/

namespace EvmSelectors

/--
The identity of an instruction. `push n` is `PUSH0` to `PUSH32`, `dup n` and `swap n` count from zero,
so that `dup 0` is `DUP1`. `invalid` also stands for every byte without an assigned instruction.
-/
inductive Opcode where
  | stop | add | mul | sub | div | sdiv | mod | smod | addmod | mulmod | exp | signextend | lt
  | gt | slt | sgt | eq | iszero | and | or | xor | not | byte | shl | shr | sar | sha3
  | address | balance | origin | caller | callvalue | calldataload | calldatasize
  | calldatacopy | codesize | codecopy | gasprice | extcodesize | extcodecopy | returndatasize
  | returndatacopy | extcodehash | blockhash | coinbase | timestamp | number | difficulty
  | prevrandao | gaslimit | chainid | selfbalance | basefee | blobhash | blobbasefee | pop
  | mload | mstore | mstore8 | sload | sstore | jump | jumpi | pc | msize | gas | jumpdest
  | tload | tstore | mcopy
  | push (n : Fin 33)
  | dup (n : Fin 16)
  | swap (n : Fin 16)
  | log (n : Fin 5)
  | create | call | callcode | ret | delegatecall | create2 | staticcall | revert | invalid
  | selfdestruct
  deriving DecidableEq

namespace Opcode

def mnemonic : Opcode → String
  | stop => "STOP"
  | add => "ADD"
  | mul => "MUL"
  | sub => "SUB"
  | div => "DIV"
  | sdiv => "SDIV"
  | mod => "MOD"
  | smod => "SMOD"
  | addmod => "ADDMOD"
  | mulmod => "MULMOD"
  | exp => "EXP"
  | signextend => "SIGNEXTEND"
  | lt => "LT"
  | gt => "GT"
  | slt => "SLT"
  | sgt => "SGT"
  | eq => "EQ"
  | iszero => "ISZERO"
  | and => "AND"
  | or => "OR"
  | xor => "XOR"
  | not => "NOT"
  | byte => "BYTE"
  | shl => "SHL"
  | shr => "SHR"
  | sar => "SAR"
  | sha3 => "SHA3"
  | address => "ADDRESS"
  | balance => "BALANCE"
  | origin => "ORIGIN"
  | caller => "CALLER"
  | callvalue => "CALLVALUE"
  | calldataload => "CALLDATALOAD"
  | calldatasize => "CALLDATASIZE"
  | calldatacopy => "CALLDATACOPY"
  | codesize => "CODESIZE"
  | codecopy => "CODECOPY"
  | gasprice => "GASPRICE"
  | extcodesize => "EXTCODESIZE"
  | extcodecopy => "EXTCODECOPY"
  | returndatasize => "RETURNDATASIZE"
  | returndatacopy => "RETURNDATACOPY"
  | extcodehash => "EXTCODEHASH"
  | blockhash => "BLOCKHASH"
  | coinbase => "COINBASE"
  | timestamp => "TIMESTAMP"
  | number => "NUMBER"
  | difficulty => "DIFFICULTY"
  | prevrandao => "PREVRANDAO"
  | gaslimit => "GASLIMIT"
  | chainid => "CHAINID"
  | selfbalance => "SELFBALANCE"
  | basefee => "BASEFEE"
  | blobhash => "BLOBHASH"
  | blobbasefee => "BLOBBASEFEE"
  | pop => "POP"
  | mload => "MLOAD"
  | mstore => "MSTORE"
  | mstore8 => "MSTORE8"
  | sload => "SLOAD"
  | sstore => "SSTORE"
  | jump => "JUMP"
  | jumpi => "JUMPI"
  | pc => "PC"
  | msize => "MSIZE"
  | gas => "GAS"
  | jumpdest => "JUMPDEST"
  | tload => "TLOAD"
  | tstore => "TSTORE"
  | mcopy => "MCOPY"
  | push n => "PUSH" ++ toString n.val
  | dup n => "DUP" ++ toString (n.val + 1)
  | swap n => "SWAP" ++ toString (n.val + 1)
  | log n => "LOG" ++ toString n.val
  | create => "CREATE"
  | call => "CALL"
  | callcode => "CALLCODE"
  | ret => "RETURN"
  | delegatecall => "DELEGATECALL"
  | create2 => "CREATE2"
  | staticcall => "STATICCALL"
  | revert => "REVERT"
  | invalid => "INVALID"
  | selfdestruct => "SELFDESTRUCT"

/--
The byte that encodes an opcode. `difficulty` is an older name of the byte of `prevrandao`; no other
two opcodes share a byte.
-/
def toByte : Opcode → UInt8
  | stop => 0x00
  | add => 0x01
  | mul => 0x02
  | sub => 0x03
  | div => 0x04
  | sdiv => 0x05
  | mod => 0x06
  | smod => 0x07
  | addmod => 0x08
  | mulmod => 0x09
  | exp => 0x0a
  | signextend => 0x0b
  | lt => 0x10
  | gt => 0x11
  | slt => 0x12
  | sgt => 0x13
  | eq => 0x14
  | iszero => 0x15
  | and => 0x16
  | or => 0x17
  | xor => 0x18
  | not => 0x19
  | byte => 0x1a
  | shl => 0x1b
  | shr => 0x1c
  | sar => 0x1d
  | sha3 => 0x20
  | address => 0x30
  | balance => 0x31
  | origin => 0x32
  | caller => 0x33
  | callvalue => 0x34
  | calldataload => 0x35
  | calldatasize => 0x36
  | calldatacopy => 0x37
  | codesize => 0x38
  | codecopy => 0x39
  | gasprice => 0x3a
  | extcodesize => 0x3b
  | extcodecopy => 0x3c
  | returndatasize => 0x3d
  | returndatacopy => 0x3e
  | extcodehash => 0x3f
  | blockhash => 0x40
  | coinbase => 0x41
  | timestamp => 0x42
  | number => 0x43
  | difficulty => 0x44
  | prevrandao => 0x44
  | gaslimit => 0x45
  | chainid => 0x46
  | selfbalance => 0x47
  | basefee => 0x48
  | blobhash => 0x49
  | blobbasefee => 0x4a
  | pop => 0x50
  | mload => 0x51
  | mstore => 0x52
  | mstore8 => 0x53
  | sload => 0x54
  | sstore => 0x55
  | jump => 0x56
  | jumpi => 0x57
  | pc => 0x58
  | msize => 0x59
  | gas => 0x5a
  | jumpdest => 0x5b
  | tload => 0x5c
  | tstore => 0x5d
  | mcopy => 0x5e
  | push n => 0x5f + UInt8.ofNat n.val
  | dup n => 0x80 + UInt8.ofNat n.val
  | swap n => 0x90 + UInt8.ofNat n.val
  | log n => 0xa0 + UInt8.ofNat n.val
  | create => 0xf0
  | call => 0xf1
  | callcode => 0xf2
  | ret => 0xf3
  | delegatecall => 0xf4
  | create2 => 0xf5
  | staticcall => 0xfa
  | revert => 0xfd
  | invalid => 0xfe
  | selfdestruct => 0xff

def all : List Opcode :=
  List.flatten
    [[.stop, .add, .mul, .sub, .div, .sdiv, .mod, .smod, .addmod, .mulmod, .exp, .signextend,
      .lt, .gt, .slt, .sgt, .eq, .iszero, .and, .or, .xor, .not, .byte, .shl, .shr, .sar,
      .sha3, .address, .balance, .origin, .caller, .callvalue, .calldataload, .calldatasize,
      .calldatacopy, .codesize, .codecopy, .gasprice, .extcodesize, .extcodecopy,
      .returndatasize, .returndatacopy, .extcodehash, .blockhash, .coinbase, .timestamp,
      .number, .difficulty, .prevrandao, .gaslimit, .chainid, .selfbalance, .basefee,
      .blobhash, .blobbasefee, .pop, .mload, .mstore, .mstore8, .sload, .sstore, .jump, .jumpi,
      .pc, .msize, .gas, .jumpdest, .tload, .tstore, .mcopy],
     (List.finRange 33).map push, (List.finRange 16).map dup, (List.finRange 16).map swap,
     (List.finRange 5).map log,
     [.create, .call, .callcode, .ret, .delegatecall, .create2, .staticcall, .revert, .invalid,
      .selfdestruct]]

/--
The opcodes that only encode: decoding their byte gives another opcode.
-/
def historical : List Opcode := [.difficulty]

def current : List Opcode :=
  all.filter (fun op => !historical.contains op)

def ofByte (b : UInt8) : Opcode :=
  (current.find? (fun op => op.toByte == b)).getD .invalid

/--
The opcode of an integer, of which only the lowest eight bits count.
-/
def ofInt (n : Int) : Opcode :=
  ofByte (UInt8.ofInt n)

def isAssigned (b : UInt8) : Bool :=
  current.any (fun op => op.toByte == b)

def ofMnemonic? (name : String) : Option Opcode :=
  all.find? (fun op => op.mnemonic == name)

def unknownMnemonic (name : String) : String :=
  Text.quoted name ++ " is not a valid Opcode"

def immediateLength : Opcode → Nat
  | push n => n.val
  | _ => 0

/--
Whether the opcode pushes immediate bytes, as `PUSH1` to `PUSH32` do.
-/
def isLiteralPush (op : Opcode) : Bool :=
  decide (0 < op.immediateLength)

/--
Whether the opcode is one of `PUSH1` to `PUSH4`, with which a selector is pushed.
-/
def isSelectorPush (op : Opcode) : Bool :=
  decide (1 ≤ op.immediateLength ∧ op.immediateLength ≤ 4)

end Opcode

end EvmSelectors
