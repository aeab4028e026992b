import EvmSelectors.Proofs.Command

/-!
This module contains the effects of a run. A run that reports an error has none, unless the error is that
of a save which breaks off, and any other run changes at most what it is asked to write.
-/

namespace EvmSelectors
namespace Command

/--
Whether code is saved at a location, which takes a reply with code.
-/
def Saves (env : Environment) (o : Options) (s : Store) (reply : Rpc.Reply) (loc : Location) : Prop :=
  o.input = none
    ∧ (∃ code, fetched env o reply = .ok code)
    ∧ ∃ path target,
        given o.save = some path
          ∧ s.targetAt path = .ok target
          ∧ loc = target.loc

def Outputs (o : Options) (s : Store) (loc : Location) : Prop :=
  ∃ path target,
    given o.output = some path
      ∧ s.targetAt path = .ok target
      ∧ loc = target.loc

/--
Whether the save of the code in a reply breaks off: what its path leads to has been opened, and then
refuses some of the text.
-/
structure BreaksOff (env : Environment) (o : Options) (s : Store) (reply : Rpc.Reply)
    (target : Store.Target) (code : Bytes) : Prop where
  input : o.input = none
  fetched : fetched env o reply = .ok code
  opened : ∃ path, given o.save = some path ∧ s.targetAt path = .ok target
  refused : ∃ r, (s.fill (CodeFile.encode code) target).2 = some r

section Load

variable {env : Environment} {o : Options} {s after : Store} {reply : Rpc.Reply}
  {result : Except LoadError Bytes}

theorem Loading.sameTree (h : Loading env o s reply result after) : s.SameTree after := by
  cases h with
  | unsaved | saved => apply Store.sameTree_write
  | unread | read | unfetched | fetched => exact .refl s

theorem Loading.lookup?_eq {loc : Location} (h : Loading env o s reply result after)
    (hloc : ¬Saves env o s reply loc) : after.lookup? loc = s.lookup? loc := by
  cases h with
  | unsaved hinput hfetched hsave | saved hinput hfetched hsave =>
    apply Store.lookup?_write
    intro target htarget hne
    exact hloc ⟨hinput, ⟨_, hfetched⟩, _, target, hsave, htarget, hne⟩
  | unread | read | unfetched | fetched => rfl

/--
What can be written to after code has been loaded could be before.
-/
theorem Loading.exists_targetAt {path : String} {target : Store.Target}
    (h : Loading env o s reply result after) (htarget : after.targetAt path = .ok target) :
    ∃ target', s.targetAt path = .ok target' ∧ target'.loc = target.loc := by
  cases h with
  | unsaved | saved => exact Store.exists_targetAt_of_write htarget
  | unread | read | unfetched | fetched => exact ⟨target, htarget, rfl⟩

theorem Loading.store_eq_of_error {e : LoadError} (h : Loading env o s reply (.error e) after)
    (hbreaks : ∀ target code, ¬BreaksOff env o s reply target code) : after = s := by
  cases h with
  | unread | unfetched => rfl
  | unsaved hinput hfetched hsave hwrite =>
    rcases Store.result_write_eq_error_iff.1 hwrite with
      ⟨cause, htarget, -⟩ | ⟨target, r, htarget, hfill, -⟩
    · exact Store.store_write_of_targetAt_eq_error htarget _
    · exact absurd ⟨hinput, hfetched, ⟨_, hsave, htarget⟩, r, hfill⟩ (hbreaks target _)

theorem Loading.of_breaksOff {target : Store.Target} {code : Bytes}
    (h : Loading env o s reply result after) (hbreaks : BreaksOff env o s reply target code) :
    (∃ path r, result = .error (.save (.store { cause := .refused r, path })))
      ∧ after = (s.fill (CodeFile.encode code) target).1 := by
  obtain ⟨hinput, hfetched, ⟨path, hsave, htarget⟩, r, hfill⟩ := hbreaks
  cases h with
  | unread hinput' | read hinput' => simp [hinput] at hinput'
  | unfetched _ hfetched' => simp [hfetched] at hfetched'
  | fetched _ _ hsave' => simp [hsave] at hsave'
  | unsaved _ hfetched' hsave' hwrite =>
    rw [hfetched] at hfetched'
    rw [hsave] at hsave'
    cases hfetched'
    cases hsave'
    rw [Store.result_write_eq_error_iff] at hwrite
    simp only [htarget, reduceCtorEq, false_and, exists_false, false_or, Except.ok.injEq,
      exists_and_left, exists_eq_left', hfill, Option.some.injEq] at hwrite
    exact ⟨⟨path, r, by rw [hwrite]⟩, Store.store_write_of_targetAt_eq_ok htarget _⟩
  | saved _ hfetched' hsave' hwrite =>
    rw [hfetched] at hfetched'
    rw [hsave] at hsave'
    cases hfetched'
    cases hsave'
    simp [Store.result_write_eq_ok_iff, htarget, hfill] at hwrite

end Load

theorem sameTree_writeOutput (o : Options) (s : Store) (selectors : SelectorSet) :
    s.SameTree (writeOutput o s selectors).store := by
  unfold writeOutput
  cases given o.output with
  | none => apply Store.SameTree.refl
  | some path => apply Store.sameTree_write

theorem lookup?_writeOutput {o : Options} {s : Store} {loc : Location} (h : ¬Outputs o s loc)
    (selectors : SelectorSet) : (writeOutput o s selectors).store.lookup? loc = s.lookup? loc := by
  unfold writeOutput
  cases houtput : given o.output with
  | none => rfl
  | some path =>
    apply Store.lookup?_write
    intro target htarget hne
    exact h ⟨path, target, houtput, htarget, hne⟩

section Course

variable {env : Environment} {o : Options} {s : Store} {reply : Rpc.Reply} {r : Run}

theorem Course.sameTree (h : Course env o s reply r) : s.SameTree r.store := by
  have hloading := (loading_load env s reply o).sameTree
  cases h with
  | reported | unreported | unlisted => exact hloading
  | unwritten | finished => exact hloading.trans (sameTree_writeOutput o _ _)

theorem Course.lookup?_eq {loc : Location} (h : Course env o s reply r)
    (hsaves : ¬Saves env o s reply loc) (houtputs : ¬Outputs o s loc) :
    r.store.lookup? loc = s.lookup? loc := by
  have hloading := loading_load env s reply o
  cases h with
  | reported | unreported | unlisted => exact hloading.lookup?_eq hsaves
  | unwritten | finished =>
    have houtputs' : ¬Outputs o (load env o s reply).store loc := by
      rintro ⟨path, target, houtput, htarget, rfl⟩
      obtain ⟨target', htarget', hloc⟩ := hloading.exists_targetAt htarget
      exact houtputs ⟨path, target', houtput, htarget', hloc.symm⟩
    rw [lookup?_writeOutput houtputs', hloading.lookup?_eq hsaves]

theorem Course.requests_eq (h : Course env o s reply r) :
    r.requests = if o.input.isSome then [] else [request env o] := by
  rw [← requests_load env s reply]
  cases h <;> rfl

theorem Course.of_breaksOff {target : Store.Target} {code : Bytes} (h : Course env o s reply r)
    (hbreaks : BreaksOff env o s reply target code) :
    r.outcome = .ok 1 ∧ r.store = (s.fill (CodeFile.encode code) target).1 := by
  obtain ⟨⟨path, refusal, hresult⟩, hstore⟩ := (loading_load env s reply o).of_breaksOff hbreaks
  cases h with
  | reported => exact ⟨rfl, hstore⟩
  | unreported hload hreport =>
    rw [hresult] at hload
    cases hload
    cases hreport
  | unlisted hload | unwritten hload | finished hload => simp [hresult] at hload

end Course

theorem BreaksOff.lookup?_file {env : Environment} {o : Options} {s : Store} {reply : Rpc.Reply}
    {loc : Location} {code : Bytes} (h : BreaksOff env o s reply (.file loc) code) :
    ∃ n,
      n < (CodeFile.encode code).length
        ∧ (s.fill (CodeFile.encode code) (.file loc)).1.lookup? loc
            =
          some (.file ((CodeFile.encode code).take n)) := by
  obtain ⟨-, -, ⟨path, -, htarget⟩, r, hrefused⟩ := h
  obtain ⟨limit, -, hroom, haccept⟩ := Store.accept_of_refused hrefused
  refine ⟨limit.room, hroom, ?_⟩
  rw [Store.fst_fill_file, haccept]
  exact Store.lookup?_put_self (Store.targetAt_eq_ok_iff.1 htarget).1.ne_nil

theorem run_effects {env : Environment} {args : List String} {o : Options}
    (h : Options.parse env.defaultUrl args = .run o) (s : Store) (reply : Rpc.Reply) :
    ((run env args s reply).outcome = .ok 1 →
      (run env args s reply).stdout = ""
        ∧ (∃ lines text,
            (run env args s reply).stderr = Options.unlines (lines ++ ["Error: " ++ text]))
        ∧ ((∀ target code, ¬BreaksOff env o s reply target code) → (run env args s reply).store = s))
      ∧ (∀ target code,
          BreaksOff env o s reply target code →
            (run env args s reply).outcome = .ok 1
              ∧ (run env args s reply).store = (s.fill (CodeFile.encode code) target).1
              ∧ ∀ loc,
                  target = .file loc →
                    ∃ n,
                      n < (CodeFile.encode code).length
                        ∧ (run env args s reply).store.lookup? loc
                            =
                          some (.file ((CodeFile.encode code).take n)))
      ∧ s.SameTree (run env args s reply).store
      ∧ (∀ loc,
          (run env args s reply).store.lookup? loc ≠ s.lookup? loc →
            Saves env o s reply loc ∨ Outputs o s loc)
      ∧ (run env args s reply).requests = if o.input.isSome then [] else [request env o] := by
  have hcourse := course_run h s reply
  refine ⟨?_, ?_, hcourse.sameTree, ?_, hcourse.requests_eq⟩
  · intro houtcome
    have hloading := loading_load env s reply o
    generalize run env args s reply = r at hcourse houtcome
    cases hcourse with
    | reported hload hreport =>
      rw [hload] at hloading
      exact ⟨rfl, ⟨_, _, rfl⟩, hloading.store_eq_of_error⟩
    | unreported | unlisted | unwritten | finished => cases houtcome
  · intro target code hbreaks
    obtain ⟨houtcome, hstore⟩ := hcourse.of_breaksOff hbreaks
    refine ⟨houtcome, hstore, ?_⟩
    rintro loc rfl
    rw [hstore]
    exact hbreaks.lookup?_file
  · intro loc hne
    by_contra hnot
    rw [not_or] at hnot
    exact hne (hcourse.lookup?_eq hnot.1 hnot.2)

-- The code is fetched, but the path to save it at leads into a file.
theorem run_effects_unsaved :
    let env := Environment.usual
    let args := ["--save", "a/b", "-o", "out"]
    let o :=
      { Options.default env.defaultUrl with
        save := some (.value "a/b"), output := some (.value "out") }
    let s : Store := { home := [], entries := [(["a"], .file [0x60])] }
    let reply : Rpc.Reply :=
      .response { status := 200, reason := "OK", body := "\x7b\"result\": \"0x60\"\x7d" }
    Options.parse env.defaultUrl args = .run o
      ∧ (run env args s reply).outcome = .ok 1
      ∧ fetched env o reply = .ok [0x60]
      ∧ (run env args s reply).stdout = ""
      ∧ (run env args s reply).store = s
      ∧ (run env args s reply).requests = [request env o] := by
  intro env args o s reply
  have hargs : Options.parse env.defaultUrl args = .run o := by rfl
  have houtcome : (run env args s reply).outcome = .ok 1 := by decide +kernel
  have hfetched : fetched env o reply = .ok [0x60] := by decide +kernel
  have htarget : s.targetAt "a/b" = .error .notDirectory := by decide +kernel
  obtain ⟨hfailed, -, -, -, hrequests⟩ := run_effects hargs s reply
  obtain ⟨hstdout, -, hstore⟩ := hfailed houtcome
  refine ⟨hargs, houtcome, hfetched, hstdout, hstore ?_, hrequests⟩
  rintro target code ⟨-, -, ⟨path, hsave, hopened⟩, -⟩
  have hpath : given o.save = some "a/b" := rfl
  rw [hpath, Option.some.injEq] at hsave
  simp [← hsave, htarget] at hopened

-- There is no space for the whole code, or a part of it is a number and the rest is not.
theorem run_effects_of_breaksOff :
    let env := Environment.usual
    let s : Store :=
      {
        home := []
        entries := [(["a"], .file [0x36, 0x30, 0x38, 0x30]), (["n"], .device (.setting 999))]
        limits := [(["a"], { room := 3, refusal := .noSpace })]
      }
    let reply (result : String) : Rpc.Reply :=
      .response { status := 200, reason := "OK", body := "\x7b\"result\": \"" ++ result ++ "\"\x7d" }
    let full := run env ["--save", "a"] s (reply "0x11223344")
    let set := run env ["--save", "n"] s (reply "0x000000001750ffffffffffff")
    full.outcome = .ok 1
      ∧ s.read "a" = .ok [0x36, 0x30, 0x38, 0x30]
      ∧ full.store.read "a" = .ok [0x31, 0x31, 0x32]
      ∧ set.outcome = .ok 1
      ∧ s.lookup? ["n"] = some (.device (.setting 999))
      ∧ set.store.lookup? ["n"] = some (.device (.setting 1000)) := by
  decide +kernel

end Command
end EvmSelectors
