import EvmSelectors.Dispatch.Idiom
import EvmSelectors.Selector.Set

/-!
This module contains the scan of instructions for selectors: a window slides over them, and every
selector that an idiom compares with is put into a set.
-/

namespace EvmSelectors

/--
The first match of a selector: the idiom and the offset at which it starts.
-/
structure Finding where
  selector : Selector
  idiom : String
  offset : Int
  deriving DecidableEq

/--
The selectors found, and for each of them, in the same order, where it was found first.
-/
structure Scan where
  selectors : SelectorSet
  findings : List Finding

def windowSize : Nat := 5

/--
Matches every window against idioms from left to right. The first window without a result ends the
scan with its error.
-/
def scan (idioms : List Idiom) (instructions : List Instruction) : Except ScanError Scan :=
  go instructions .empty []
where
  go (instructions : List Instruction) (selectors : SelectorSet) (acc : List Finding) :
      Except ScanError Scan :=
    match instructions with
    | [] => .ok { selectors, findings := acc.reverse }
    | i :: rest =>
      let window := (i :: rest).take windowSize
      if window.length < windowSize then
        .ok { selectors, findings := acc.reverse }
      else
        match matchWindow idioms window with
        | .error e => .error e
        | .ok none => go rest selectors acc
        | .ok (some m) =>
          match Selector.ofBytes m.selector with
          | .error n => .error (.selectorSize n)
          | .ok x =>
            if selectors.contains x then
              go rest selectors acc
            else
              go rest (selectors.insert x) ({ selector := x, idiom := m.idiom, offset := i.offset } :: acc)

def scanCode (code : Bytes) : Except ScanError Scan :=
  scan Idiom.known (disassemble code)

end EvmSelectors
