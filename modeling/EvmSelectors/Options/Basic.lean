import EvmSelectors.Rpc

/-!
This module contains the options of the command line, how they are spelled, and the texts that explain
them.
-/

namespace EvmSelectors

/--
The value given to a flag. A value that is written like the divider `--` is dropped as one, and the flag
is left blank.
-/
inductive Options.Argument (α : Type) where
  | blank
  | value (a : α)
  deriving DecidableEq

/--
The settings of a run. Without an input file the code at an address is fetched.
-/
structure Options where
  input : Option String
  address : Option (Options.Argument String)
  rpcUrl : Options.Argument String
  timeout : Rpc.Timeout
  save : Option (Options.Argument String)
  disasm : Bool
  limit : Option (Options.Argument Int)
  contractType : Bool
  output : Option (Options.Argument String)
  verbose : Bool

namespace Options

def default (url : String) : Options where
  input := none
  address := none
  rpcUrl := .value url
  timeout := Rpc.defaultTimeout
  save := none
  disasm := false
  limit := none
  contractType := false
  output := none
  verbose := false

inductive Flag where
  | help
  | address
  | rpcUrl
  | timeout
  | save
  | disasm
  | limit
  | contractType
  | output
  | verbose
  deriving DecidableEq

namespace Flag

def all : List Flag :=
  [help, address, rpcUrl, timeout, save, disasm, limit, contractType, output, verbose]

def spellings : Flag → List String
  | help => ["-h", "--help"]
  | address => ["--address"]
  | rpcUrl => ["--rpc-url"]
  | timeout => ["--timeout"]
  | save => ["--save"]
  | disasm => ["--disasm"]
  | limit => ["--limit"]
  | contractType => ["--contract-type"]
  | output => ["-o", "--output"]
  | verbose => ["-v", "--verbose"]

def takesValue : Flag → Bool
  | help | disasm | contractType | verbose => false
  | address | rpcUrl | timeout | save | limit | output => true

def label (f : Flag) : String :=
  String.intercalate "/" f.spellings

def table : List (String × Flag) :=
  all.flatMap (fun f => f.spellings.map (fun spelling => (spelling, f)))

def ofSpelling? (spelling : String) : Option Flag :=
  (table.find? (fun e => e.1 == spelling)).map Prod.snd

end Flag

inductive Error where
  | ambiguous (word : String) (spellings : List String)
  | noValue (flag : Flag)
  | unwantedValue (flag : Flag) (value : String)
  | badInteger (flag : Flag) (value : String)
  | badReal (flag : Flag) (value : String)
  | unrecognized (words : List String)
  deriving DecidableEq

def Error.message : Error → String
  | ambiguous word spellings =>
    "ambiguous option: " ++ word ++ " could match " ++ String.intercalate ", " spellings
  | noValue flag => "argument " ++ flag.label ++ ": expected one argument"
  | unwantedValue flag value =>
    "argument " ++ flag.label ++ ": ignored explicit argument " ++ Text.quoted value
  | badInteger flag value => "argument " ++ flag.label ++ ": invalid int value: " ++ Text.quoted value
  | badReal flag value => "argument " ++ flag.label ++ ": invalid float value: " ++ Text.quoted value
  | unrecognized words => "unrecognized arguments: " ++ String.intercalate " " words

def unlines (lines : List String) : String :=
  String.join (lines.map (fun line => line ++ "\n"))

def usage : String :=
  unlines
    ["usage: pull-signatures [-h] [--address ADDRESS] [--rpc-url RPC_URL]",
     "                       [--timeout TIMEOUT] [--save SAVE] [--disasm]",
     "                       [--limit LIMIT] [--contract-type] [-o OUTPUT] [-v]",
     "                       [input]"]

def help (url : String) : String :=
  usage ++
  unlines
    ["",
     "List the function selectors dispatched by a deployed contract.",
     "",
     "positional arguments:",
     "  input                 Bytecode file (hex text or raw binary). Fetched over",
     "                        RPC when omitted.",
     "",
     "options:",
     "  -h, --help            show this help message and exit",
     "  --address ADDRESS     Contract address to fetch (default:",
     "                        0x5af0d9827e0c53e4799bb226655a1de152a425a5)",
     "  --rpc-url RPC_URL     JSON-RPC endpoint (default: $ETH_RPC_URL or",
     "                        " ++ url ++ ")",
     "  --timeout TIMEOUT",
     "  --save SAVE           Write the fetched bytecode to this file as hex",
     "  --disasm              Print the disassembly listing",
     "  --limit LIMIT         Only list the first N instructions",
     "  --contract-type       Guess ERC20/ERC721 from the selectors",
     "  -o OUTPUT, --output OUTPUT",
     "                        Write selectors to this file, one per line",
     "  -v, --verbose"]

def refusal (e : Error) : String :=
  usage ++ "pull-signatures: error: " ++ e.message ++ "\n"

end Options

end EvmSelectors
