import EvmSelectors.Command
import EvmSelectors.Proofs.CodeFile
import EvmSelectors.Proofs.Composition

/-!
This module contains the laws of a run of the command line: all that loading code can do to the store,
and all the courses that a run can take.
-/

namespace EvmSelectors

theorem exists_scanCode_eq_ok (code : Bytes) : ∃ found, scanCode code = .ok found := by
  obtain ⟨found, hfound⟩ := exists_findings_disassemble code
  exact ⟨Scan.ofFindings found, scanCode_of_findings_eq_ok hfound⟩

namespace Command

/--
The code in the reply to the request of a run.
-/
def fetched (env : Environment) (o : Options) (reply : Rpc.Reply) : Except Rpc.Error Bytes :=
  (Rpc.getCode env.depth (request env o) reply).result

theorem fetched_eq (env : Environment) (o : Options) (reply : Rpc.Reply) :
    fetched env o reply = Rpc.codeOfReply env.depth (request env o).url reply := by
  rw [fetched, Rpc.result_getCode]

/--
The result of loading code, and the store that it leaves behind.
-/
inductive Loading (env : Environment) (o : Options) (s : Store) (reply : Rpc.Reply) :
    Except LoadError Bytes → Store → Prop where
  | unread {path : String} {e : CodeFile.ReadError} (hinput : o.input = some path)
      (hread : (CodeFile.read s path).1 = .error e) : Loading env o s reply (.error (.read e)) s
  | read {path : String} {code : Bytes} (hinput : o.input = some path)
      (hread : (CodeFile.read s path).1 = .ok code) : Loading env o s reply (.ok code) s
  | unfetched {e : Rpc.Error} (hinput : o.input = none) (hfetched : fetched env o reply = .error e) :
      Loading env o s reply (.error (.fetch e)) s
  | fetched {code : Bytes} (hinput : o.input = none) (hfetched : fetched env o reply = .ok code)
      (hsave : given o.save = none) : Loading env o s reply (.ok code) s
  | unsaved {code : Bytes} {path : String} {e : Store.Error} (hinput : o.input = none)
      (hfetched : Command.fetched env o reply = .ok code) (hsave : given o.save = some path)
      (hwrite : (s.write path (CodeFile.encode code)).result = .error e) :
      Loading env o s reply (.error (.save (.store e))) (s.write path (CodeFile.encode code)).store
  | saved {code : Bytes} {path : String} (hinput : o.input = none)
      (hfetched : Command.fetched env o reply = .ok code) (hsave : given o.save = some path)
      (hwrite : (s.write path (CodeFile.encode code)).result = .ok ()) :
      Loading env o s reply (.ok code) (s.write path (CodeFile.encode code)).store

section Loading

variable (env : Environment) {o : Options} (s : Store) (reply : Rpc.Reply)

theorem loading_readInput {path : String} (h : o.input = some path) :
    Loading env o s reply (readInput path s).result (readInput path s).store := by
  unfold readInput
  split
  · next hread =>
    apply Loading.unread h
    rw [hread]
  · next hread =>
    apply Loading.read h
    rw [hread]

theorem loading_fetch (h : o.input = none) :
    Loading env o s reply (fetch env o s reply).result (fetch env o s reply).store := by
  unfold fetch
  dsimp only
  split
  · next hfetched => exact .unfetched h hfetched
  · next code hfetched =>
    split
    · next hsave => exact .fetched h hfetched hsave
    · next path hsave =>
      dsimp only
      rw [CodeFile.save_bytes_eq]
      cases hwrite : (s.write path (CodeFile.encode code)).result with
      | error e => exact .unsaved h hfetched hsave hwrite
      | ok => exact .saved h hfetched hsave hwrite

theorem loading_load (o : Options) :
    Loading env o s reply (load env o s reply).result (load env o s reply).store := by
  unfold load
  cases h : o.input with
  | some path => exact loading_readInput env s reply h
  | none => exact loading_fetch env s reply h

theorem requests_load (o : Options) :
    (load env o s reply).requests = if o.input.isSome then [] else [request env o] := by
  have hread : ∀ path, (readInput path s).requests = [] := by
    intro path
    unfold readInput
    split <;> rfl
  have hfetch : (fetch env o s reply).requests = [request env o] := by
    rw [← Rpc.requests_getCode env.depth (request env o) reply]
    unfold fetch
    dsimp only
    split
    · rfl
    · split <;> rfl
  unfold load
  cases o.input with
  | some path => apply hread
  | none => exact hfetch

end Loading

/--
What a run leaves behind, case by case.
-/
inductive Course (env : Environment) (o : Options) (s : Store) (reply : Rpc.Reply) : Run → Prop where
  | reported {e : LoadError} {text : String} (hload : (load env o s reply).result = .error e)
      (hreport : e.report? o.input = some text) :
      Course env o s reply
        {
          outcome := .ok 1
          stdout := ""
          stderr :=
            Options.unlines (logLines o.verbose (load env o s reply).log ++ ["Error: " ++ text])
          requests := (load env o s reply).requests
          store := (load env o s reply).store
        }
  | unreported {e : LoadError} (hload : (load env o s reply).result = .error e)
      (hreport : e.report? o.input = none) :
      Course env o s reply
        {
          outcome := .error (.load e)
          stdout := ""
          stderr := Options.unlines (logLines o.verbose (load env o s reply).log)
          requests := (load env o s reply).requests
          store := (load env o s reply).store
        }
  | unlisted {code : Bytes} {e : Failure} (hload : (load env o s reply).result = .ok code)
      (hlisted : listingLines o (disassemble code) = .error e) {stderr : String} :
      Course env o s reply
        {
          outcome := .error e
          stdout := ""
          stderr := stderr
          requests := (load env o s reply).requests
          store := (load env o s reply).store
        }
  | unwritten {code : Bytes} {found : Scan} {listed : List String} {e : Store.Error}
      (hload : (load env o s reply).result = .ok code) (hfound : scanCode code = .ok found)
      (hlisted : listingLines o (disassemble code) = .ok listed)
      (houtput : (writeOutput o (load env o s reply).store found.selectors).result = .error e)
      {stderr : String} :
      Course env o s reply
        {
          outcome := .error (.output e)
          stdout := report o listed found.selectors
          stderr := stderr
          requests := (load env o s reply).requests
          store := (writeOutput o (load env o s reply).store found.selectors).store
        }
  | finished {code : Bytes} {found : Scan} {listed : List String}
      (hload : (load env o s reply).result = .ok code) (hfound : scanCode code = .ok found)
      (hlisted : listingLines o (disassemble code) = .ok listed)
      (houtput : (writeOutput o (load env o s reply).store found.selectors).result = .ok ())
      {stderr : String} :
      Course env o s reply
        {
          outcome := .ok 0
          stdout := report o listed found.selectors
          stderr := stderr
          requests := (load env o s reply).requests
          store := (writeOutput o (load env o s reply).store found.selectors).store
        }

section Course

variable {env : Environment} {o : Options} {s : Store} {reply : Rpc.Reply}

theorem course_analyse {code : Bytes} (h : (load env o s reply).result = .ok code) :
    Course env o s reply (analyse o (load env o s reply) code) := by
  obtain ⟨found, hfound⟩ := exists_scanCode_eq_ok code
  have hscan : scan Idiom.known (disassemble code) = .ok found := hfound
  unfold analyse
  dsimp only
  split
  · next hlisted => exact .unlisted h hlisted
  · next listed hlisted =>
    rw [hscan]
    dsimp only
    cases houtput : (writeOutput o (load env o s reply).store found.selectors).result with
    | error e => exact .unwritten h hfound hlisted houtput
    | ok => exact .finished h hfound hlisted houtput

theorem course_runWith : Course env o s reply (runWith env o s reply) := by
  unfold runWith
  dsimp only
  split
  · next code hload => exact course_analyse hload
  · next e hload =>
    split
    · next hreport => exact .reported hload hreport
    · next hreport => exact .unreported hload hreport

theorem course_run {args : List String} (h : Options.parse env.defaultUrl args = .run o) (s : Store)
    (reply : Rpc.Reply) : Course env o s reply (run env args s reply) := by
  unfold run
  rw [h]
  apply course_runWith

end Course

end Command
end EvmSelectors
