import EvmSelectors.Command
import EvmSelectors.Selector.Action
import EvmSelectors.Store.Layout

/-!
This module contains the command line program. It hands the files that a run can read to the run, and
writes those that the run has changed. Requests are answered with a fault, as there is no network.
-/

namespace EvmSelectors
namespace Main

def paths (o : Options) : List String :=
  [o.input, Command.given o.save, Command.given o.output].filterMap id

def addUnreadable (s : Store) (path : String) : Store :=
  match s.targetAt path with
  | .error _ => s
  | .ok target => { s.put target.loc (.file []) with denied := (target.loc, .read) :: s.denied }

def addEntry (s : Store) (path : String) : IO Store := do
  match s.read path with
  | .error { cause := .notFound, .. } =>
    try
      let content ← IO.FS.readBinFile path
      return (s.write path content.toList).store
    catch
      | .noFileOrDirectory .. => return s
      | .permissionDenied .. => return addUnreadable s path
      | .inappropriateType .. => return s.makeDirectory path
      | e => throw e
  | _ => return s

/--
The paths of the directories on the way to a path, and then the path itself.
-/
def stages (path : String) : List String :=
  let names := Store.names path
  let initial (n : Nat) := String.intercalate "/" (names.take (n + 1))
  ((List.range names.length).map initial).filter (fun p => p != "")

def addPath (s : Store) (path : String) : IO Store :=
  (stages path).foldlM addEntry s

def writeBack (before after : Store) (path : String) : IO Unit := do
  match before.read path, after.read path with
  | .ok old, .ok new => if old != new then IO.FS.writeBinFile path ⟨new.toArray⟩
  | .error _, .ok new => IO.FS.writeBinFile path ⟨new.toArray⟩
  | _, _ => return ()

def run (args : List String) : IO UInt32 := do
  let env := { Command.Environment.usual with url := ← IO.getEnv "ETH_RPC_URL" }
  let paths :=
    match Options.parse env.defaultUrl args with
    | .run o => paths o
    | _ => []
  let current ← IO.currentDir
  let home := (Store.names current.toString).filter (fun name => !Store.isHere name)
  let before ← paths.foldlM addPath (Store.system home)
  let r := Command.run env args before (.fault .connection "no network")
  IO.print r.stdout
  IO.eprint r.stderr
  paths.forM (writeBack before r.store)
  match r.outcome with
  | .ok status => return status.toUInt32
  | .error _ => return 1

end Main
end EvmSelectors

def main (args : List String) : IO UInt32 :=
  EvmSelectors.Main.run args
