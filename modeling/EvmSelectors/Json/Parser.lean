import EvmSelectors.Hex
import EvmSelectors.Json.Basic
import EvmSelectors.Json.Error

/-!
This module contains the reading of JSON values. Besides the standard grammar, the words for infinity
and for no number are read. Every reader gives the value that it found and the text behind it, or an
error with the text from the place of the fault on.
-/

namespace EvmSelectors
namespace Json

abbrev Read (α : Type) := Except (Error (List Char)) (α × List Char)

def fault {α : Type} (cause : Cause) (rest : List Char) : Read α :=
  .error (.malformed cause rest)

def isSpace (c : Char) : Bool :=
  c == ' ' || c == '\t' || c == '\n' || c == '\r'

def skipSpace (s : List Char) : List Char :=
  s.dropWhile isSpace

-- The text has to go on behind the digits.
def readUnit? : List Char → Option (Nat × List Char)
  | a :: b :: c :: d :: e :: rest =>
    match Hex.digit? a, Hex.digit? b, Hex.digit? c, Hex.digit? d with
    | some a, some b, some c, some d => some (((a * 16 + b) * 16 + c) * 16 + d, e :: rest)
    | _, _, _, _ => none
  | _ => none

def simpleEscape? (c : Char) : Option Char :=
  if c = '\x22' ∨ c = '\x5c' ∨ c = '/' then some c
  else if c = 'b' then some '\x08'
  else if c = 'f' then some '\x0c'
  else if c = 'n' then some '\n'
  else if c = 'r' then some '\r'
  else if c = 't' then some '\t'
  else none

def isPair (hi lo : Nat) : Bool :=
  0xd800 ≤ hi && hi < 0xdc00 && 0xdc00 ≤ lo && lo < 0xe000

def readPair? (hi : Nat) : List Char → Option (Char × List Char)
  | '\x5c' :: 'u' :: rest =>
    match readUnit? rest with
    | none => none
    | some (lo, rest) =>
      if isPair hi lo then
        some (Char.ofNat (0x10000 + (hi - 0xd800) * 0x400 + (lo - 0xdc00)), rest)
      else
        none
  | _ => none

def readEscape (start s : List Char) : Read CodePoint :=
  match s.drop 1 with
  | [] => fault .openText start
  | 'u' :: rest =>
    match readUnit? rest with
    | none => fault .badUnit ('u' :: rest)
    | some (unit, rest) =>
      match readPair? unit rest with
      | some (c, rest) => .ok (.char c, rest)
      | none => .ok (.ofUnit unit, rest)
  | c :: rest =>
    match simpleEscape? c with
    | some c => .ok (.char c, rest)
    | none => fault .badEscape s

def readText (start : List Char) (fuel : Nat) (s : List Char) (acc : List CodePoint) :
    Read (List CodePoint) :=
  match fuel with
  | 0 => fault .openText start
  | fuel + 1 =>
    match s with
    | [] => fault .openText start
    | c :: rest =>
      if c = '\x22' then .ok (acc.reverse, rest)
      else if c = '\x5c' then
        match readEscape start s with
        | .error e => .error e
        | .ok (p, rest) => readText start fuel rest (p :: acc)
      else if c.toNat < 0x20 then fault .controlCharacter s
      else readText start fuel rest (.char c :: acc)

def readWhole? (s : List Char) : Option (List Char × List Char) :=
  match s with
  | '0' :: rest => some (['0'], rest)
  | _ =>
    let digits := s.takeWhile Text.isAsciiDigit
    if digits.isEmpty then none else some (digits, s.dropWhile Text.isAsciiDigit)

def readPart (s : List Char) : List Char × List Char :=
  match s with
  | '.' :: rest =>
    let digits := rest.takeWhile Text.isAsciiDigit
    if digits.isEmpty then ([], s) else (digits, rest.dropWhile Text.isAsciiDigit)
  | _ => ([], s)

def readPower (s : List Char) : Option Int × List Char :=
  match s with
  | c :: rest =>
    let (negative, rest) := Number.sign rest
    let digits := rest.takeWhile Text.isAsciiDigit
    if (c == 'e' || c == 'E') && !digits.isEmpty then
      (some (Number.signed negative (Number.digitsValue digits)), rest.dropWhile Text.isAsciiDigit)
    else
      (none, s)
  | [] => (none, s)

-- Only the digits of an integer are limited.
def readNumber (s : List Char) : Read Json :=
  let (negative, digits) :=
    match s with
    | '-' :: rest => (true, rest)
    | _ => (false, s)
  match readWhole? digits with
  | none => fault .noValue s
  | some (whole, rest) =>
    let (part, rest) := readPart rest
    let (power, rest) := readPower rest
    if part.isEmpty && power.isNone then
      if whole.length ≤ Number.maxDigits then
        .ok (.int (Number.signed negative (Number.digitsValue whole)), rest)
      else
        .error (.tooLong whole.length)
    else
      let digits := Number.digitsValue (whole ++ part)
      .ok (.real (.ofDecimal negative digits (power.getD 0 - part.length)), rest)

def words : List (List Char × Json) :=
  [("null".toList, .null), ("true".toList, .bool true), ("false".toList, .bool false),
   ("NaN".toList, .real .nan), ("Infinity".toList, .real (.infinite false)),
   ("-Infinity".toList, .real (.infinite true))]

def readScalar (s : List Char) : Read Json :=
  match words.find? (fun w => w.1.isPrefixOf s) with
  | some (word, value) => .ok (value, s.drop word.length)
  | none => readNumber s

-- A field of the same name keeps its place and takes the new value.
def setField (fields : List (List CodePoint × Json)) (name : List CodePoint) (value : Json) :
    List (List CodePoint × Json) :=
  if fields.any (fun f => f.1 == name) then
    fields.map (fun f => if f.1 == name then (name, value) else f)
  else
    fields ++ [(name, value)]

mutual

def readValue (fuel depth : Nat) (s : List Char) : Read Json :=
  match fuel with
  | 0 => fault .noValue s
  | fuel + 1 =>
    match s with
    | '\x22' :: rest =>
      match readText s (rest.length + 1) rest [] with
      | .error e => .error e
      | .ok (t, rest) => .ok (.text t, rest)
    | '[' :: rest =>
      match depth with
      | 0 => .error (.tooDeep .array)
      | depth + 1 =>
        match skipSpace rest with
        | ']' :: rest => .ok (.array [], rest)
        | rest => readItems fuel depth rest []
    | '\x7b' :: rest =>
      match depth with
      | 0 => .error (.tooDeep .object)
      | depth + 1 =>
        match skipSpace rest with
        | '\x7d' :: rest => .ok (.object [], rest)
        | rest => readFields fuel depth rest []
    | _ => readScalar s

def readItems (fuel depth : Nat) (s : List Char) (acc : List Json) : Read Json :=
  match fuel with
  | 0 => fault .noValue s
  | fuel + 1 =>
    match readValue fuel depth s with
    | .error e => .error e
    | .ok (item, rest) =>
      match skipSpace rest with
      | ']' :: rest => .ok (.array (item :: acc).reverse, rest)
      | ',' :: rest => readItems fuel depth (skipSpace rest) (item :: acc)
      | rest => fault .noComma rest

def readFields (fuel depth : Nat) (s : List Char) (acc : List (List CodePoint × Json)) : Read Json :=
  match fuel with
  | 0 => fault .noName s
  | fuel + 1 =>
    match s with
    | '\x22' :: rest =>
      match readText s (rest.length + 1) rest [] with
      | .error e => .error e
      | .ok (name, rest) =>
        match skipSpace rest with
        | ':' :: rest =>
          match readValue fuel depth (skipSpace rest) with
          | .error e => .error e
          | .ok (value, rest) =>
            match skipSpace rest with
            | '\x7d' :: rest => .ok (.object (setField acc name value), rest)
            | ',' :: rest => readFields fuel depth (skipSpace rest) (setField acc name value)
            | rest => fault .noComma rest
        | rest => fault .noColon rest
    | _ => fault .noName s

end

/--
The value that a whole text spells, in which at most `depth` arrays and objects stand one inside the
other. At most two readers are entered for each character, which bounds the fuel.
-/
def read (depth : Nat) (s : List Char) : Except (Error (List Char)) Json :=
  if s.head? = some '\ufeff' then
    .error (.malformed .byteOrderMark s)
  else
    match readValue (2 * s.length + 2) depth (skipSpace s) with
    | .error e => .error e
    | .ok (value, rest) =>
      let rest := skipSpace rest
      if rest.isEmpty then .ok value else .error (.malformed .trailing rest)

def parse (depth : Nat) (s : String) : Except (Error Place) Json :=
  match read depth s.toList with
  | .ok value => .ok value
  | .error (.malformed cause rest) =>
    .error (.malformed cause (.behind (s.toList.take (s.toList.length - rest.length))))
  | .error (.tooLong digits) => .error (.tooLong digits)
  | .error (.tooDeep container) => .error (.tooDeep container)

end Json
end EvmSelectors
