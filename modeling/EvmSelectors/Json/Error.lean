import EvmSelectors.Number.Reader

/-!
This module contains the errors in the text of a JSON value, and what is told of them.
-/

namespace EvmSelectors
namespace Json

inductive Cause where
  | byteOrderMark
  | noValue
  | noName
  | noColon
  | noComma
  | openText
  | controlCharacter
  | badEscape
  | badUnit
  | trailing
  deriving DecidableEq

def Cause.text : Cause → String
  | byteOrderMark => "Unexpected UTF-8 BOM (decode using utf-8-sig)"
  | noValue => "Expecting value"
  | noName => "Expecting property name enclosed in double quotes"
  | noColon => "Expecting ':' delimiter"
  | noComma => "Expecting ',' delimiter"
  | openText => "Unterminated string starting at"
  | controlCharacter => "Invalid control character at"
  | badEscape => "Invalid \x5cescape"
  | badUnit => "Invalid \x5cuXXXX escape"
  | trailing => "Extra data"

/--
A place in a text. Lines and columns are counted from one.
-/
structure Place where
  line : Nat
  column : Nat
  offset : Nat
  deriving DecidableEq

def Place.behind (s : List Char) : Place where
  line := s.count '\n' + 1
  column := (s.reverse.takeWhile (· != '\n')).length + 1
  offset := s.length

def Place.text (p : Place) : String :=
  "line " ++ toString p.line ++ " column " ++ toString p.column ++ " (char " ++ toString p.offset ++ ")"

inductive Container where
  | array
  | object
  deriving DecidableEq

def Container.text : Container → String
  | array => "array"
  | object => "object"

/--
Why a text is not read. The place of a fault in its form is an `α`.
-/
inductive Error (α : Type) where
  | malformed (cause : Cause) (place : α)
  /-- An integer has too many digits. -/
  | tooLong (digits : Nat)
  /-- An array or an object stands too deep inside of others. -/
  | tooDeep (container : Container)
  deriving DecidableEq

def Error.message : Error Place → String
  | malformed cause place => cause.text ++ ": " ++ place.text
  | tooLong digits =>
    "Exceeds the limit (" ++ toString Number.maxDigits ++ " digits) for integer string conversion: " ++
      "value has " ++ toString digits ++ " digits; use sys.set_int_max_str_digits() to increase the limit"
  | tooDeep container =>
    "maximum recursion depth exceeded while decoding a JSON " ++ container.text ++
      " from a unicode string"

end Json
end EvmSelectors
