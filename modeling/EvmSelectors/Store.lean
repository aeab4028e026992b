import EvmSelectors.Store.Device
import EvmSelectors.Text.Quoted

/-!
This module contains a store of files in directories, and the reading and writing of what is at a path. A
run may lack the right to read, to write or to search what stands at a location, and a file may take only
so many bytes. What has been taken of a content when the rest is refused stays in the store.
-/

namespace EvmSelectors

/--
The names of the directories on the way from the root, and then of the entry itself.
-/
abbrev Location := List String

namespace Store

inductive Entry where
  | directory
  | file (content : Bytes)
  | device (d : Device)
  deriving DecidableEq

inductive Right where
  | read
  | write
  | search
  deriving DecidableEq

structure Limit where
  room : Nat
  refusal : Refusal
  deriving DecidableEq

inductive Cause where
  | nulCharacter
  | notFound
  | notDirectory
  | isDirectory
  | nameTooLong
  | denied
  | endless
  | refused (r : Refusal)
  deriving DecidableEq

structure Error where
  cause : Cause
  path : String
  deriving DecidableEq

def Error.message (e : Error) : String :=
  match e.cause with
  | .nulCharacter => "embedded null byte"
  | .notFound => "[Errno 2] No such file or directory: " ++ Text.quoted e.path
  | .notDirectory => "[Errno 20] Not a directory: " ++ Text.quoted e.path
  | .isDirectory => "[Errno 21] Is a directory: " ++ Text.quoted e.path
  | .nameTooLong => "[Errno 36] File name too long: " ++ Text.quoted e.path
  | .denied => "[Errno 13] Permission denied: " ++ Text.quoted e.path
  | .endless => ""
  | .refused r => r.message

end Store

/--
The entries below the root, which is a directory and its own parent. Paths start at `home`, the working
directory, unless they start with a slash. Rights and limits are those of a location, also before there
is anything at it.
-/
structure Store where
  home : Location
  entries : List (Location × Store.Entry)
  denied : List (Location × Store.Right) := []
  limits : List (Location × Store.Limit) := []
  deriving DecidableEq

namespace Store

def lookup? (s : Store) (loc : Location) : Option Entry :=
  if loc.isEmpty then some .directory
  else (s.entries.find? (fun e => e.1 == loc)).map Prod.snd

def put (s : Store) (loc : Location) (entry : Entry) : Store :=
  { s with entries := (loc, entry) :: s.entries.filter (fun e => e.1 != loc) }

theorem lookup?_put_self {s : Store} {loc : Location} {entry : Entry} (h : loc ≠ []) :
    (s.put loc entry).lookup? loc = some entry := by
  simp [lookup?, put, h]

theorem lookup?_put_of_ne {s : Store} {loc other : Location} {entry : Entry} (h : other ≠ loc) :
    (s.put loc entry).lookup? other = s.lookup? other := by
  unfold lookup? put
  split
  · rfl
  · rw [List.find?_cons_of_neg (by simpa using Ne.symm h), List.find?_filter]
    congr 2
    funext e
    by_cases he : e.1 = other
    · simp [he, h]
    · simp [he]

def permits (s : Store) (right : Right) (loc : Location) : Bool :=
  !s.denied.contains (loc, right)

def limit? (s : Store) (loc : Location) : Option Limit :=
  (s.limits.find? (fun e => e.1 == loc)).map Prod.snd

def names (path : String) : List String :=
  (path.toList.splitOn '/').map String.ofList

def isHere (name : String) : Bool :=
  name == "" || name == "."

def maxName : Nat := 255

def maxPath : Nat := 4095

def enter (s : Store) (loc : Location) (name : String) : Except Cause Location :=
  if name = "" then .ok loc
  else if !s.permits .search loc then .error .denied
  else if name = "." then .ok loc
  else if name = ".." then .ok loc.dropLast
  else if maxName < name.utf8ByteSize then .error .nameTooLong
  else
    match s.lookup? (loc ++ [name]) with
    | some .directory => .ok (loc ++ [name])
    | some _ => .error .notDirectory
    | none => .error .notFound

def walk (s : Store) (loc : Location) : List String → Except Cause Location
  | [] => .ok loc
  | name :: rest =>
    match s.enter loc name with
    | .error e => .error e
    | .ok loc => s.walk loc rest

def start (s : Store) (path : String) : Location :=
  if path.toList.head? = some '/' then [] else s.home

/--
The directory in which the last of the names is looked up, and that name. One that is the name of a
directory by its form is followed instead.
-/
def lastName (s : Store) (loc : Location) (names : List String) :
    Except Cause (Location × Option String) :=
  match s.walk loc names.dropLast with
  | .error e => .error e
  | .ok loc =>
    match names.getLast? with
    | none => .ok (loc, none)
    | some name =>
      if isHere name ∨ name = ".." then
        match s.enter loc name with
        | .error e => .error e
        | .ok loc => .ok (loc, none)
      else if s.permits .search loc then .ok (loc, some name)
      else .error .denied

def openable (path : String) : Except Cause (List String) :=
  if path.toList.contains '\x00' then .error .nulCharacter
  else if path = "" then .error .notFound
  else if maxPath < path.utf8ByteSize then .error .nameTooLong
  else .ok (names path)

def Entry.content : Entry → Except Cause Bytes
  | directory => .error .isDirectory
  | file content => .ok content
  | device d =>
    match d.content? with
    | none => .error .endless
    | some content => .ok content

def contentOf (s : Store) (loc : Location) : Except Cause Bytes :=
  match s.lookup? loc with
  | none => .error .notFound
  | some entry => if s.permits .read loc then entry.content else .error .denied

def contentAt (s : Store) (path : String) : Except Cause Bytes :=
  match openable path with
  | .error e => .error e
  | .ok names =>
    match s.lastName (s.start path) names with
    | .error e => .error e
    | .ok (dir, none) => if s.permits .read dir then .error .isDirectory else .error .denied
    | .ok (dir, some name) =>
      if maxName < name.utf8ByteSize then .error .nameTooLong else s.contentOf (dir ++ [name])

def withoutLast (p : String → Bool) (names : List String) : List String :=
  (names.reverse.dropWhile p).reverse

/--
What can be written to. The file at a location may still have to be made.
-/
inductive Target where
  | file (loc : Location)
  | device (loc : Location) (d : Device)
  deriving DecidableEq

def Target.loc : Target → Location
  | file loc => loc
  | device loc _ => loc

-- To make a file takes the right to write to its directory.
def targetOf (s : Store) (loc : Location) : Except Cause Target :=
  match s.lookup? loc with
  | some .directory => .error .isDirectory
  | some (.device d) => if s.permits .write loc then .ok (.device loc d) else .error .denied
  | some (.file _) => if s.permits .write loc then .ok (.file loc) else .error .denied
  | none => if s.permits .write loc.dropLast then .ok (.file loc) else .error .denied

/--
What can be written to at a path. A slash at the end makes the path that of a directory.
-/
def targetAt (s : Store) (path : String) : Except Cause Target :=
  match openable path with
  | .error e => .error e
  | .ok names =>
    let proper := withoutLast (· == "") names
    match s.lastName (s.start path) proper with
    | .error e => .error e
    | .ok (_, none) => .error .isDirectory
    | .ok (dir, some name) =>
      if proper.length < names.length then .error .isDirectory
      else if maxName < name.utf8ByteSize then .error .nameTooLong
      else s.targetOf (dir ++ [name])

def read (s : Store) (path : String) : Except Error Bytes :=
  match s.contentAt path with
  | .error cause => .error { cause, path }
  | .ok content => .ok content

/--
Opens what is at a path for writing, which leaves a file empty.
-/
def openToWrite (s : Store) (path : String) : Except Error (Target × Store) :=
  match s.targetAt path with
  | .error cause => .error { cause, path }
  | .ok (.file loc) => .ok (.file loc, s.put loc (.file []))
  | .ok (.device loc d) => .ok (.device loc d, s)

/--
The front of a content that a file takes, and why it does not take the rest.
-/
def accept (s : Store) (loc : Location) (content : Bytes) : Bytes × Option Refusal :=
  match s.limit? loc with
  | none => (content, none)
  | some limit =>
    if content.length ≤ limit.room then (content, none)
    else (content.take limit.room, some limit.refusal)

def fill (s : Store) (content : Bytes) : Target → Store × Option Refusal
  | .file loc =>
    let (taken, refusal) := s.accept loc content
    (s.put loc (.file taken), refusal)
  | .device loc d =>
    let (after, refusal) := d.take content
    (if after = d then s else s.put loc (.device after), refusal)

structure Written where
  store : Store
  result : Except Error Unit

def write (s : Store) (path : String) (content : Bytes) : Written :=
  match s.openToWrite path with
  | .error e => { store := s, result := .error e }
  | .ok (target, s) =>
    match s.fill content target with
    | (s, none) => { store := s, result := .ok () }
    | (s, some r) => { store := s, result := .error { cause := .refused r, path } }

def makeDirectory (s : Store) (path : String) : Store :=
  go s (s.start path) (names path)
where
  go (s : Store) (loc : Location) : List String → Store
    | [] => s
    | name :: rest =>
      if isHere name then go s loc rest
      else if name = ".." then go s loc.dropLast rest
      else
        match s.lookup? (loc ++ [name]) with
        | some _ => go s (loc ++ [name]) rest
        | none => go (s.put (loc ++ [name]) .directory) (loc ++ [name]) rest

def files (s : Store) : List (String × Bytes) :=
  s.entries.filterMap fun (loc, entry) =>
    match entry with
    | .file content =>
      if s.home.isPrefixOf loc then
        some (String.intercalate "/" (loc.drop s.home.length), content)
      else
        none
    | _ => none

end Store

end EvmSelectors
