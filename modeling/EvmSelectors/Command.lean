import EvmSelectors.CodeFile
import EvmSelectors.Instruction.Listing
import EvmSelectors.Interface
import EvmSelectors.Options.Parser

/-!
This module contains a run of the command line as a function of its environment, its arguments, the files
that are there and the reply to a request.
-/

namespace EvmSelectors
namespace Command

inductive LoadError where
  | read (e : CodeFile.ReadError)
  | fetch (e : Rpc.Error)
  | save (e : CodeFile.SaveError)
  deriving DecidableEq

structure Load where
  result : Except LoadError Bytes
  store : Store
  log : List Log.Entry
  requests : List Rpc.Request

/--
What a run finds around it besides the files and the reply: the URL that is set for requests, the depth
that its calls leave for the body of a reply, and the memory.
-/
structure Environment where
  url : Option String
  depth : Nat
  memory : Nat

def Environment.defaultUrl (env : Environment) : String :=
  Rpc.defaultUrl env.url

def Environment.usual : Environment where
  url := none
  depth := 991
  memory := 0x1000000000

def readingEntry (path : String) : Log.Entry where
  level := .info
  origin := .command
  text := "reading bytecode from " ++ path

/--
A setting that is there, and is neither blank nor the empty text.
-/
def given : Option (Options.Argument String) → Option String
  | some (.value s) => if s = "" then none else some s
  | _ => none

def request (env : Environment) (o : Options) : Rpc.Request :=
  Rpc.request env.defaultUrl ((given o.address).getD Rpc.defaultAddress) (given (some o.rpcUrl))
    Rpc.defaultBlock o.timeout

def readInput (path : String) (s : Store) : Load :=
  match CodeFile.read s path with
  | (.error e, log) =>
    { result := .error (.read e), store := s, log := readingEntry path :: log, requests := [] }
  | (.ok code, log) =>
    { result := .ok code, store := s, log := readingEntry path :: log, requests := [] }

def fetch (env : Environment) (o : Options) (s : Store) (reply : Rpc.Reply) : Load :=
  let fetched := Rpc.getCode env.depth (request env o) reply
  match fetched.result with
  | .error e =>
    {
      result := .error (.fetch e), store := s
      log := fetched.log, requests := fetched.requests
    }
  | .ok code =>
    match given o.save with
    | none => { result := .ok code, store := s, log := fetched.log, requests := fetched.requests }
    | some path =>
      let saved := CodeFile.save env.memory s path (.bytes code)
      let result :=
        match saved.result with
        | .error e => .error (.save e)
        | .ok () => .ok code
      {
        result, store := saved.store
        log := fetched.log ++ saved.log, requests := fetched.requests
      }

def load (env : Environment) (o : Options) (s : Store) (reply : Rpc.Reply) : Load :=
  match o.input with
  | some path => readInput path s
  | none => fetch env o s reply

/--
What is told of a path. One that is not found is reported under the name of the input file. One that is
no path at all, or from which reading would not end, is not reported.
-/
def pathReport? (input : Option String) (e : Store.Error) : Option String :=
  match e.cause with
  | .notFound => some ("file " ++ input.getD "None" ++ " not found.")
  | .nulCharacter => none
  | .endless => none
  | _ => some e.message

def LoadError.report? (input : Option String) : LoadError → Option String
  | read (.store e) => pathReport? input e
  | read (.hex e) => some e.message
  | fetch e => e.report?
  | save (.store e) => pathReport? input e
  | save _ => none

/--
An error that ends a run without an exit status.
-/
inductive Failure where
  | load (e : LoadError)
  | limit
  | scan (e : ScanError)
  | output (e : Store.Error)
  deriving DecidableEq

/--
What a run leaves behind: an exit status or a failure, what it prints, the requests that it makes and
the files.
-/
structure Run where
  outcome : Except Failure Nat
  stdout : String
  stderr : String
  requests : List Rpc.Request
  store : Store

def codeEntry (code : Bytes) (instructions : List Instruction) : Log.Entry where
  level := .info
  origin := .command
  text := toString code.length ++ " bytes, " ++ toString instructions.length ++ " instructions"

def logLines (verbose : Bool) (log : List Log.Entry) : List String :=
  (log.filter (Log.Entry.isShown verbose)).map Log.Entry.line

def listingLines (o : Options) (instructions : List Instruction) : Except Failure (List String) :=
  if o.disasm then
    match o.limit with
    | none => .ok [String.ofList (listing instructions none)]
    | some (.value limit) => .ok [String.ofList (listing instructions (some limit))]
    | some .blank => .error .limit
  else
    .ok []

def selectorLines (selectors : SelectorSet) : List String :=
  if selectors.isEmpty then
    ["No function dispatch patterns detected."]
  else
    selectors.hexStrings.map (fun s => " Function selector: " ++ s)

def typeLines (o : Options) (selectors : SelectorSet) : List String :=
  if o.contractType then ["Contract type: " ++ selectors.classify.text] else []

def report (o : Options) (listed : List String) (selectors : SelectorSet) : String :=
  Options.unlines (listed ++ selectorLines selectors ++ typeLines o selectors)

def outputContent (selectors : SelectorSet) : Bytes :=
  Bytes.ofAscii (selectors.bytes.flatMap (fun b => markedHex b ++ ['\n']))

def writeOutput (o : Options) (s : Store) (selectors : SelectorSet) : Store.Written :=
  match given o.output with
  | none => { store := s, result := .ok () }
  | some path => s.write path (outputContent selectors)

def analyse (o : Options) (loaded : Load) (code : Bytes) : Run :=
  let instructions := disassemble code
  let log := loaded.log ++ [codeEntry code instructions]
  match listingLines o instructions with
  | .error e =>
    {
      outcome := .error e
      stdout := ""
      stderr := Options.unlines (logLines o.verbose log)
      requests := loaded.requests
      store := loaded.store
    }
  | .ok listed =>
    match scan Idiom.known instructions with
    | .error e =>
      {
        outcome := .error (.scan e)
        stdout := Options.unlines listed
        stderr := Options.unlines (logLines o.verbose log)
        requests := loaded.requests
        store := loaded.store
      }
    | .ok found =>
      let written := writeOutput o loaded.store found.selectors
      let outcome :=
        match written.result with
        | .error e => .error (.output e)
        | .ok () => .ok 0
      {
        outcome
        stdout := report o listed found.selectors
        stderr := Options.unlines (logLines o.verbose (log ++ found.log))
        requests := loaded.requests
        store := written.store
      }

def runWith (env : Environment) (o : Options) (s : Store) (reply : Rpc.Reply) : Run :=
  let loaded := load env o s reply
  match loaded.result with
  | .ok code => analyse o loaded code
  | .error e =>
    let lines := logLines o.verbose loaded.log
    match e.report? o.input with
    | some text =>
      {
        outcome := .ok 1
        stdout := ""
        stderr := Options.unlines (lines ++ ["Error: " ++ text])
        requests := loaded.requests
        store := loaded.store
      }
    | none =>
      {
        outcome := .error (.load e)
        stdout := ""
        stderr := Options.unlines lines
        requests := loaded.requests
        store := loaded.store
      }

/--
A run with a command line. Help is printed and errors in the command line are reported without looking
at any file.
-/
def run (env : Environment) (args : List String) (s : Store) (reply : Rpc.Reply) : Run :=
  match Options.parse env.defaultUrl args with
  | .run o => runWith env o s reply
  | .help =>
    {
      outcome := .ok 0, stdout := Options.help env.defaultUrl, stderr := ""
      requests := [], store := s
    }
  | .refused e =>
    { outcome := .ok 2, stdout := "", stderr := Options.refusal e, requests := [], store := s }

end Command
end EvmSelectors
