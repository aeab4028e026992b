import EvmSelectors.Log
import EvmSelectors.Store

/-!
This module contains the files that hold code, as hexadecimal text or as the bytes themselves.
-/

namespace EvmSelectors
namespace CodeFile

inductive ReadError where
  | store (e : Store.Error)
  | hex (e : Hex.Error)
  deriving DecidableEq

def isBlank (b : UInt8) : Bool :=
  (0x09 ≤ b && b ≤ 0x0d) || (0x1c ≤ b && b ≤ 0x20)

def compact (content : Bytes) : List CodePoint :=
  (Bytes.toAscii (content.filter (fun b => !isBlank b))).map .char

/--
The code in the content of a file, or `none` if the content itself is the code because it is ASCII
but not hexadecimal text.
-/
def decodeText (content : Bytes) : Except Hex.Error (Option Bytes) :=
  let text := compact content
  match Hex.parse text with
  | .ok code => .ok (some code)
  | .error e => if Hex.isMarked text then .error e else .ok none

def binaryEntry (path : String) : Log.Entry where
  level := .debug
  origin := .code
  text := path ++ " is not hex text, reading as binary"

/--
The code in the content of a file. Text that is marked as hexadecimal has to be, and any other
content that is not hexadecimal is the code itself.
-/
def decode (path : String) (content : Bytes) : Except Hex.Error Bytes × List Log.Entry :=
  if content.isAscii then
    match decodeText content with
    | .error e => (.error e, [])
    | .ok (some code) => (.ok code, [])
    | .ok none => (.ok content, [binaryEntry path])
  else
    (.ok content, [])

def read (s : Store) (path : String) : Except ReadError Bytes × List Log.Entry :=
  match s.read path with
  | .error e => (.error (.store e), [])
  | .ok content =>
    match decode path content with
    | (.error e, log) => (.error (.hex e), log)
    | (.ok code, log) => (.ok code, log)

inductive SaveError where
  | store (e : Store.Error)
  | bytes (e : ByteSource.Error)
  /-- A count of zero bytes has no length of its own to report. -/
  | noLength
  deriving DecidableEq

structure Saved where
  store : Store
  result : Except SaveError Unit
  log : List Log.Entry

def savedEntry (path : String) (size : Nat) : Log.Entry where
  level := .info
  origin := .code
  text := "saved " ++ toString size ++ " bytes of code to " ++ path

def encode (code : Bytes) : Bytes :=
  Bytes.ofAscii (Hex.encode code)

/--
Saves the code that a value stands for. The file is emptied before the value is looked at.
-/
def save (memory : Nat) (s : Store) (path : String) (value : ByteSource) : Saved :=
  match s.openToWrite path with
  | .error e => { store := s, result := .error (.store e), log := [] }
  | .ok (target, s) =>
    match value.toBytes memory with
    | .error e => { store := s, result := .error (.bytes e), log := [] }
    | .ok code =>
      match s.fill (encode code) target with
      | (s, some r) =>
        { store := s, result := .error (.store { cause := .refused r, path }), log := [] }
      | (s, none) =>
        match value with
        | .zeros _ => { store := s, result := .error .noLength, log := [] }
        | _ => { store := s, result := .ok (), log := [savedEntry path code.length] }

end CodeFile
end EvmSelectors
