import EvmSelectors.Dispatch.Scan

/-!
This module contains the entries of the log.
-/

namespace EvmSelectors
namespace Log

inductive Level where
  | debug
  | info
  | warning
  deriving DecidableEq

def Level.text : Level → String
  | debug => "DEBUG"
  | info => "INFO"
  | warning => "WARNING"

inductive Origin where
  | selectors
  | code
  | command
  deriving DecidableEq

def Origin.text : Origin → String
  | selectors => "function_selectors"
  | code => "get_bytecode"
  | command => "pull_signatures"

structure Entry where
  level : Level
  origin : Origin
  text : String
  deriving DecidableEq

def Entry.line (e : Entry) : String :=
  e.level.text ++ " " ++ e.origin.text ++ ": " ++ e.text

/--
Whether an entry is shown. Only a verbose log shows the entries for debugging.
-/
def Entry.isShown (verbose : Bool) (e : Entry) : Bool :=
  verbose || e.level != .debug

end Log

def Finding.entry (f : Finding) : Log.Entry where
  level := .debug
  origin := .selectors
  text :=
    "selector " ++ String.ofList (markedHex f.selector.bytes) ++ " via " ++ f.idiom ++ " at offset " ++
      toString f.offset

def Scan.log (s : Scan) : List Log.Entry :=
  s.findings.map Finding.entry

end EvmSelectors
