import EvmSelectors.Store

/-!
This module contains what a run finds in the store besides the files that it is about.
-/

namespace EvmSelectors
namespace Store

def usualDirectories : List Location :=
  [["bin"], ["boot"], ["dev"], ["dev", "shm"], ["etc"], ["home"], ["lib"], ["media"], ["mnt"], ["opt"],
   ["proc"], ["proc", "self"], ["root"], ["run"], ["sbin"], ["srv"], ["sys"], ["tmp"], ["usr"],
   ["usr", "bin"], ["usr", "lib"], ["usr", "local"], ["usr", "share"], ["var"], ["var", "lib"],
   ["var", "log"], ["var", "tmp"]]

def usualDevices : List (Location × Device) :=
  [(["dev", "null"], .sink), (["dev", "zero"], .zeros), (["dev", "full"], .full),
   (["proc", "self", "oom_score_adj"], .setting 0)]

def system (home : Location) : Store :=
  makeDirectory.go { home, entries := directories ++ devices } [] home
where
  directories : List (Location × Entry) :=
    usualDirectories.map (fun loc => (loc, .directory))
  devices : List (Location × Entry) :=
    usualDevices.map (fun (loc, d) => (loc, .device d))

/--
A store with a working directory that is made for a single run.
-/
def fresh : Store :=
  system ["tmp", "selectors"]

end Store
end EvmSelectors
