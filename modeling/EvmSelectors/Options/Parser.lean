import EvmSelectors.Number.Reader
import EvmSelectors.Options.Basic

/-!
This module contains the reading of a command line. Its words are first told apart by their form, and
then read from left to right. Three conventions are the older ones of those in use: a value that is
spelled like the divider is dropped as one also where it is attached, so that `--save=--` leaves the flag
blank; the equals sign in `-vo=out` is a part of the value; and the `x` in `-vx` is refused as a value of
`-v` and not as a flag of its own.
-/

namespace EvmSelectors
namespace Options

inductive Word where
  | plain (text : String)
  | flag (f : Flag) (short : Bool) (attached : Option String)
  | unknown (text : String)
  | divider
  deriving DecidableEq

-- A line break may follow the digits.
def isNegativeNumber (word : List Char) : Bool :=
  match word with
  | '-' :: rest =>
    let rest := if rest.getLast? == some '\n' then rest.dropLast else rest
    let part := rest.dropWhile Text.isDigit
    match part with
    | [] => !rest.isEmpty
    | '.' :: digits => !digits.isEmpty && digits.all Text.isDigit
    | _ => false
  | _ => false

def splitValue (word : List Char) : List Char × Option String :=
  match word.dropWhile (· != '=') with
  | [] => (word, none)
  | _ :: value => (word.takeWhile (· != '='), some (String.ofList value))

def otherWord (word : String) : Word :=
  if isNegativeNumber word.toList || word.toList.contains ' ' then .plain word else .unknown word

-- A long flag may be shortened to any text that starts no other one.
def longWord (word : String) : Except Error Word :=
  let (name, value) := splitValue word.toList
  match Flag.table.filter (fun e => name.isPrefixOf e.1.toList) with
  | [] => .ok (otherWord word)
  | [(_, f)] => .ok (.flag f false value)
  | candidates => .error (.ambiguous word (candidates.map Prod.fst))

def shortWord (word : String) : Word :=
  match Flag.ofSpelling? (String.ofList (word.toList.take 2)) with
  | some f => .flag f true (some (String.ofList (word.toList.drop 2)))
  | none => otherWord word

def isShort (spelling : List Char) : Bool :=
  match spelling with
  | '-' :: '-' :: _ => false
  | _ => true

def classify (word : String) : Except Error Word :=
  match word.toList with
  | '-' :: rest =>
    match Flag.ofSpelling? word with
    | some f => .ok (.flag f (isShort word.toList) none)
    | none =>
      if rest.isEmpty then
        .ok (.plain word)
      else
        let (name, value) := splitValue word.toList
        match value.isSome, Flag.ofSpelling? (String.ofList name) with
        | true, some f => .ok (.flag f (isShort name) value)
        | _, _ => if isShort word.toList then .ok (shortWord word) else longWord word
  | _ => .ok (.plain word)

def classifyAll : List String → Except Error (List Word)
  | [] => .ok []
  | word :: rest =>
    if word = "--" then
      .ok (.divider :: rest.map .plain)
    else
      match classify word, classifyAll rest with
      | .error e, _ => .error e
      | .ok _, .error e => .error e
      | .ok w, .ok ws => .ok (w :: ws)

structure Cluster where
  plain : List Flag
  last : Option (Flag × Option String)

def unwanted (f : Flag) (value : List Char) : Except Error Cluster :=
  .error (.unwantedValue f (String.ofList value))

/--
Splits a word into flags. A flag of one letter that takes no value may be followed by others, up to one
that takes the rest of the word as its value. What is attached to a flag without a value, and is not
such a flag, is refused.
-/
def cluster (f : Flag) (short : Bool) (attached : Option (List Char)) : Except Error Cluster :=
  if f.takesValue then
    .ok { plain := [], last := some (f, attached.map String.ofList) }
  else
    match attached with
    | none => .ok { plain := [f], last := none }
    | some letters =>
      if short && !letters.isEmpty then go f [] letters else unwanted f letters
where
  go (f : Flag) (acc : List Flag) : List Char → Except Error Cluster
    | [] => .ok { plain := (f :: acc).reverse, last := none }
    | c :: rest =>
      match Flag.ofSpelling? (String.ofList ['-', c]) with
      | none => unwanted f (c :: rest)
      | some g =>
        if g.takesValue then
          let value := if rest.isEmpty then none else some (String.ofList rest)
          .ok { plain := (f :: acc).reverse, last := some (g, value) }
        else
          go g (f :: acc) rest

def set (o : Options) : Flag → Options
  | .disasm => { o with disasm := true }
  | .contractType => { o with contractType := true }
  | .verbose => { o with verbose := true }
  | _ => o

def setBlank (o : Options) : Flag → Options
  | .address => { o with address := some .blank }
  | .rpcUrl => { o with rpcUrl := .blank }
  | .save => { o with save := some .blank }
  | .output => { o with output := some .blank }
  | .timeout => { o with timeout := .blank }
  | .limit => { o with limit := some .blank }
  | _ => o

def setValue (o : Options) (f : Flag) (value : String) : Except Error Options :=
  if value = "--" then
    .ok (setBlank o f)
  else
    match f with
    | .address => .ok { o with address := some (.value value) }
    | .rpcUrl => .ok { o with rpcUrl := .value value }
    | .save => .ok { o with save := some (.value value) }
    | .output => .ok { o with output := some (.value value) }
    | .timeout =>
      match Number.readReal? value with
      | some x => .ok { o with timeout := .real x }
      | none => .error (.badReal f value)
    | .limit =>
      match Number.readInt? value with
      | some n => .ok { o with limit := some (.value n) }
      | none => .error (.badInteger f value)
    | _ => .ok o

inductive Outcome where
  | run (o : Options)
  | help
  | refused (e : Error)

-- Help is given before the value is looked at.
def apply (o : Options) (flags : List Flag) (value : Option (Flag × String)) : Outcome :=
  if flags.contains .help then
    .help
  else
    let o := flags.foldl set o
    match value with
    | none => .run o
    | some (f, text) =>
      match setValue o f text with
      | .error e => .refused e
      | .ok o => .run o

/--
Reads words from left to right. The first plain word that is not the value of a flag is the name of the
input file, and the divider before or behind it is left out. All flags of a word are told apart before
the first of them is set. The words that could not be used are collected in `extra`, the last first,
and refused at the end.
-/
def readWords (o : Options) (extra : List String) : List Word → Outcome
  | [] => if extra.isEmpty then .run o else .refused (.unrecognized extra.reverse)
  | .unknown text :: rest => readWords o (text :: extra) rest
  | .divider :: rest => readWords o (if o.input.isSome then "--" :: extra else extra) rest
  | .plain text :: rest =>
    if o.input.isSome then
      readWords o (text :: extra) rest
    else
      match rest with
      | .divider :: rest => readWords { o with input := some text } extra rest
      | rest => readWords { o with input := some text } extra rest
  | .flag f short attached :: rest =>
    match cluster f short (attached.map String.toList) with
    | .error e => .refused e
    | .ok c =>
      match c.last, rest with
      | none, rest =>
        match apply o c.plain none with
        | .run o => readWords o extra rest
        | stop => stop
      | some (g, some value), rest =>
        match apply o c.plain (some (g, value)) with
        | .run o => readWords o extra rest
        | stop => stop
      | some (g, none), .plain value :: rest =>
        match apply o c.plain (some (g, value)) with
        | .run o => readWords o extra rest
        | stop => stop
      | some (g, none), _ => .refused (.noValue g)

def parse (url : String) (args : List String) : Outcome :=
  match classifyAll args with
  | .error e => .refused e
  | .ok words => readWords (default url) [] words

end Options
end EvmSelectors
