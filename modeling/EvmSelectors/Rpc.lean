import EvmSelectors.Json.Parser
import EvmSelectors.Log

/-!
This module contains the request for the code of a contract over JSON-RPC, and what its reply means.
-/

namespace EvmSelectors
namespace Rpc

inductive Timeout where
  | unlimited
  | seconds (n : Int)
  | real (x : Binary64)
  | blank
  deriving DecidableEq

def Timeout.text : Timeout → String
  | unlimited => "None"
  | seconds n => toString n
  | real x => x.text
  | blank => "[]"

def defaultTimeout : Timeout := .seconds 30

/--
The URL that requests go to unless they name another, which the surroundings may set.
-/
def defaultUrl (setUrl : Option String) : String :=
  setUrl.getD "https://ethereum-rpc.publicnode.com"

def defaultAddress : String := "0x5af0d9827e0c53e4799bb226655a1de152a425a5"

def defaultBlock : Json := .ofString "latest"

structure Request where
  url : String
  address : String
  block : Json
  timeout : Timeout

-- An empty text is no URL.
def request (fallback address : String) (url : Option String) (block : Json) (timeout : Timeout) :
    Request where
  url :=
    match url with
    | some "" => fallback
    | some url => url
    | none => fallback
  address := address
  block := block
  timeout := timeout

def Request.body (r : Request) : Json :=
  .object
    [(CodePoint.ofString "jsonrpc", .ofString "2.0"),
     (CodePoint.ofString "method", .ofString "eth_getCode"),
     (CodePoint.ofString "params", .array [.ofString r.address, r.block]),
     (CodePoint.ofString "id", .int 1)]

inductive Fault where
  | connection
  | timeout
  | readTimeout
  | connectTimeout
  | http
  | redirects
  | request
  deriving DecidableEq

structure Response where
  status : Int
  reason : String
  body : String
  deriving DecidableEq

inductive Reply where
  | fault (kind : Fault) (message : String)
  | response (r : Response)
  deriving DecidableEq

inductive Error where
  | fault (kind : Fault) (message : String)
  | status (code : Int) (reason : String) (url : String)
  | body (e : Json.Error Json.Place)
  | shape
  | refused (message : String)
  | noResult
  | resultKind
  | hex (e : Hex.Error)
  deriving DecidableEq

/--
What an error tells the user. A reply of the wrong form, or with a value beyond the limits of a JSON
value, is a fault of the node and is not reported.
-/
def Error.report? : Error → Option String
  | fault _ message => some message
  | status code reason url =>
    let side := if code < 500 then " Client Error: " else " Server Error: "
    some (toString code ++ side ++ reason ++ " for url: " ++ url)
  | body (.malformed cause place) => some (Json.Error.malformed cause place).message
  | body _ => none
  | refused message => some ("eth_getCode failed: " ++ message)
  | noResult => some "eth_getCode returned no result"
  | hex e => some e.message
  | shape => none
  | resultKind => none

def refusal : Json → String
  | .object fields => ((Json.field? "message" fields).getD (.object fields)).display
  | value => value.display

def holds (part s : List CodePoint) : Bool :=
  match s with
  | [] => part.isEmpty
  | _ :: rest => part.isPrefixOf s || holds part rest

def mentions (name : String) : Json → Bool
  | .array items => items.any (Json.isText name)
  | .text s => holds (CodePoint.ofString name) s
  | _ => false

def codeOfResult : Option Json → Except Error Bytes
  | none => .error .noResult
  | some .null => .error .noResult
  | some (.text s) =>
    match Hex.parse s with
    | .error e => .error (.hex e)
    | .ok code => .ok code
  | some _ => .error .resultKind

/--
The code in the value of a response. An object that reports an error has no code, whatever its
result. An array or a text that mentions one of the two names fails on looking the name up.
-/
def codeOfJson : Json → Except Error Bytes
  | .object fields =>
    match Json.field? "error" fields with
    | some e => .error (.refused (refusal e))
    | none => codeOfResult (Json.field? "result" fields)
  | .array items =>
    let mentioned := mentions "error" (.array items) || mentions "result" (.array items)
    .error (if mentioned then .shape else .noResult)
  | .text s =>
    let mentioned := mentions "error" (.text s) || mentions "result" (.text s)
    .error (if mentioned then .shape else .noResult)
  | _ => .error .shape

-- The status of a response is looked at before its body.
def codeOfReply (depth : Nat) (url : String) : Reply → Except Error Bytes
  | .fault kind message => .error (.fault kind message)
  | .response r =>
    if 400 ≤ r.status ∧ r.status < 600 then
      .error (.status r.status r.reason url)
    else
      match Json.parse depth r.body with
      | .error e => .error (.body e)
      | .ok value => codeOfJson value

def requestEntry (r : Request) : Log.Entry where
  level := .info
  origin := .code
  text := "eth_getCode " ++ r.address ++ " from " ++ r.url

def emptyEntry (r : Request) : Log.Entry where
  level := .warning
  origin := .code
  text := "no code at " ++ r.address ++ " (not a contract?)"

structure Fetch where
  result : Except Error Bytes
  log : List Log.Entry
  requests : List Request

/--
Fetches code with a request that is answered with the given reply. How deep arrays and objects may stand
one inside the other in its body is up to the caller, with whose calls they share the stack.
-/
def getCode (depth : Nat) (r : Request) (reply : Reply) : Fetch :=
  match codeOfReply depth r.url reply with
  | .error e => { result := .error e, log := [requestEntry r], requests := [r] }
  | .ok [] => { result := .ok [], log := [requestEntry r, emptyEntry r], requests := [r] }
  | .ok code => { result := .ok code, log := [requestEntry r], requests := [r] }

theorem result_getCode (depth : Nat) (r : Request) (reply : Reply) :
    (getCode depth r reply).result = codeOfReply depth r.url reply := by
  unfold getCode
  split <;> simp_all

theorem requests_getCode (depth : Nat) (r : Request) (reply : Reply) :
    (getCode depth r reply).requests = [r] := by
  unfold getCode
  split <;> rfl

end Rpc
end EvmSelectors
