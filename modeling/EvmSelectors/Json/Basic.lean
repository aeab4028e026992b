import EvmSelectors.Number.Shortest
import EvmSelectors.Text.Quoted

/-!
This module contains JSON values and their form in messages.
-/

namespace EvmSelectors

/--
A JSON value. The fields of an object keep their order, and no two of them have the same name.
-/
inductive Json where
  | null
  | bool (b : Bool)
  | int (n : Int)
  | real (x : Binary64)
  | text (s : List CodePoint)
  | array (items : List Json)
  | object (fields : List (List CodePoint × Json))

instance : Inhabited Json where
  default := .null

namespace Json

def ofString (s : String) : Json :=
  .text (CodePoint.ofString s)

def field? (name : String) (fields : List (List CodePoint × Json)) : Option Json :=
  (fields.find? (fun f => f.1 == CodePoint.ofString name)).map Prod.snd

mutual

/--
A value as it stands inside of another one, with texts in quotes.
-/
def literal : Json → String
  | null => "None"
  | bool b => if b then "True" else "False"
  | int n => toString n
  | real x => x.text
  | text s => Text.quotedPoints s
  | array items => "[" ++ String.intercalate ", " (literals items) ++ "]"
  | object fields => "\x7b" ++ String.intercalate ", " (fieldLiterals fields) ++ "\x7d"

def literals : List Json → List String
  | [] => []
  | item :: rest => literal item :: literals rest

def fieldLiterals : List (List CodePoint × Json) → List String
  | [] => []
  | (name, value) :: rest => (Text.quotedPoints name ++ ": " ++ literal value) :: fieldLiterals rest

end

/--
A value as a message shows it: a text as it is, and anything else as a literal.
-/
def display : Json → String
  | text s => Text.shown s
  | value => literal value

def isText (s : String) : Json → Bool
  | text t => t == CodePoint.ofString s
  | _ => false

end Json

end EvmSelectors
