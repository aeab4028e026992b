import EvmSelectors.Proofs.Command.Effects
import EvmSelectors.Proofs.Rpc

/-!
This module contains the outcome of a run: exactly when it ends without an exit status, and that it exits
with zero or one otherwise.
-/

namespace EvmSelectors
namespace Command

/--
Whether loading fails in a way that is not reported: the path of the input or of the file to save to is
no path, what is read from the input has no end, or the reply has not the form of one.
-/
def LoadEscapes (env : Environment) (o : Options) (s : Store) (reply : Rpc.Reply) : Prop :=
  match o.input with
  | some path => '\x00' ∈ path.toList ∨ s.contentAt path = .error .endless
  | none =>
    Rpc.Unfit env.depth reply
      ∨ ∃ code path,
          fetched env o reply = .ok code ∧ given o.save = some path ∧ '\x00' ∈ path.toList

/--
Whether selectors cannot be written: the output cannot be opened, or does not take all of them.
-/
def OutputEscapes (o : Options) (s : Store) (selectors : SelectorSet) : Prop :=
  ∃ path,
    given o.output = some path
      ∧ ((∃ cause, s.targetAt path = .error cause)
        ∨ (∃ loc, s.targetAt path = .ok (.file loc) ∧ ¬s.Takes loc (outputContent selectors))
        ∨ (∃ loc d r,
            s.targetAt path = .ok (.device loc d)
              ∧ (d.take (outputContent selectors)).2 = some r))

/--
Whether a run ends without an exit status.
-/
def Escapes (env : Environment) (o : Options) (s : Store) (reply : Rpc.Reply) : Prop :=
  LoadEscapes env o s reply
    ∨ ∃ code found,
        (load env o s reply).result = .ok code
          ∧ scanCode code = .ok found
          ∧ ((o.disasm ∧ o.limit = some .blank)
            ∨ OutputEscapes o (load env o s reply).store found.selectors)

theorem pathReport?_eq_none_iff {input : Option String} {e : Store.Error} :
    pathReport? input e = none ↔ e.cause = .nulCharacter ∨ e.cause = .endless := by
  unfold pathReport?
  split <;> simp_all

theorem report?_read_eq_none_iff {input : Option String} {s : Store} {path : String}
    {e : CodeFile.ReadError} (h : (CodeFile.read s path).1 = .error e) :
    (LoadError.read e).report? input = none
      ↔
    '\x00' ∈ path.toList ∨ s.contentAt path = .error .endless := by
  rw [← Store.contentAt_eq_nul_iff (s := s)]
  rcases CodeFile.of_read_eq_error h with ⟨cause, hcontent, rfl⟩ | ⟨content, e, hcontent, rfl⟩
  · simp [LoadError.report?, pathReport?_eq_none_iff, hcontent]
  · simp [LoadError.report?, hcontent]

theorem contentAt_of_read_eq_ok {s : Store} {path : String} {code : Bytes}
    (h : (CodeFile.read s path).1 = .ok code) :
    ¬('\x00' ∈ path.toList ∨ s.contentAt path = .error .endless) := by
  obtain ⟨content, hcontent⟩ := CodeFile.exists_contentAt_of_read_eq_ok h
  rw [← Store.contentAt_eq_nul_iff (s := s), hcontent]
  simp

theorem report?_save_eq_none_iff {input : Option String} {s : Store} {path : String}
    {content : Bytes} {e : Store.Error} (h : (s.write path content).result = .error e) :
    (LoadError.save (.store e)).report? input = none ↔ '\x00' ∈ path.toList := by
  rw [LoadError.report?, pathReport?_eq_none_iff, ← Store.targetAt_eq_nul_iff (s := s)]
  rcases Store.result_write_eq_error_iff.1 h with ⟨cause, htarget, rfl⟩ | ⟨target, r, htarget, -, rfl⟩
  · have hendless := Store.targetAt_ne_endless s path
    rw [htarget, ne_eq, Except.error.injEq] at hendless
    simp [htarget, hendless]
  · simp [htarget]

theorem not_mem_of_write_eq_ok {s : Store} {path : String} {content : Bytes}
    (h : (s.write path content).result = .ok ()) : '\x00' ∉ path.toList := by
  rw [← Store.targetAt_eq_nul_iff (s := s)]
  obtain ⟨target, htarget, -⟩ := Store.result_write_eq_ok_iff.1 h
  simp [htarget]

theorem unfit_iff (env : Environment) (o : Options) {reply : Rpc.Reply} :
    Rpc.Unfit env.depth reply ↔ ∃ e, fetched env o reply = .error e ∧ e.report? = none := by
  rw [fetched_eq]
  exact Rpc.unreported_codeOfReply_iff.symm

theorem Loading.loadEscapes_iff {env : Environment} {o : Options} {s after : Store}
    {reply : Rpc.Reply} {result : Except LoadError Bytes} (h : Loading env o s reply result after) :
    LoadEscapes env o s reply ↔ ∃ e, result = .error e ∧ e.report? o.input = none := by
  cases h with
  | unread hinput hread =>
    simp [LoadEscapes, hinput, report?_read_eq_none_iff hread]
  | read hinput hread =>
    simpa [LoadEscapes, hinput] using contentAt_of_read_eq_ok hread
  | unfetched hinput hfetched =>
    simp [LoadEscapes, hinput, unfit_iff env o, hfetched, LoadError.report?]
  | fetched hinput hfetched hsave =>
    simp [LoadEscapes, hinput, unfit_iff env o, hfetched, hsave]
  | unsaved hinput hfetched hsave hwrite =>
    simp [LoadEscapes, hinput, unfit_iff env o, hfetched, hsave, report?_save_eq_none_iff hwrite]
  | saved hinput hfetched hsave hwrite =>
    simp [LoadEscapes, hinput, unfit_iff env o, hfetched, hsave, not_mem_of_write_eq_ok hwrite]

theorem listingLines_eq_error_iff {o : Options} {instructions : List Instruction} {e : Failure} :
    listingLines o instructions = .error e ↔ o.disasm ∧ o.limit = some .blank ∧ e = .limit := by
  unfold listingLines
  split
  · next hdisasm =>
    split
    · next hlimit => simp [hlimit]
    · next hlimit => simp [hlimit]
    · next hlimit => simp [hdisasm, hlimit, eq_comm]
  · next hdisasm => simp [hdisasm]

theorem outputEscapes_iff {o : Options} {s : Store} {selectors : SelectorSet} :
    OutputEscapes o s selectors ↔ ∃ e, (writeOutput o s selectors).result = .error e := by
  unfold OutputEscapes writeOutput
  cases given o.output with
  | none => simp
  | some path =>
    simp only [Store.result_write_eq_error_iff, Option.some.injEq, exists_eq_left']
    cases htarget : s.targetAt path with
    | error cause => simp
    | ok target =>
      cases target with
      | file loc =>
        simp [Store.snd_fill_file, ← Store.accept_eq_none_iff, Option.ne_none_iff_exists', ← ne_eq]
      | device loc d => simp [Store.fill]

theorem Course.escapes_iff {env : Environment} {o : Options} {s : Store} {reply : Rpc.Reply} {r : Run}
    (h : Course env o s reply r) : Escapes env o s reply ↔ ∃ e, r.outcome = .error e := by
  have hloading := loading_load env s reply o
  unfold Escapes
  simp only [hloading.loadEscapes_iff, outputEscapes_iff]
  cases h with
  | reported hload hreport => simp [hload, hreport]
  | unreported hload hreport => simp [hload, hreport]
  | @unlisted code e hload hlisted =>
    obtain ⟨found, hfound⟩ := exists_scanCode_eq_ok code
    obtain ⟨hdisasm, hlimit, -⟩ := listingLines_eq_error_iff.1 hlisted
    simp [hload, hfound, hdisasm, hlimit]
  | unwritten hload hfound hlisted houtput => simp [hload, hfound, houtput]
  | finished hload hfound hlisted houtput =>
    have hlimit : ¬(o.disasm ∧ o.limit = some .blank) := by
      rintro ⟨hdisasm, hblank⟩
      rw [listingLines_eq_error_iff.2 ⟨hdisasm, hblank, rfl⟩] at hlisted
      cases hlisted
    simp [hload, hfound, houtput, hlimit]

theorem run_outcome_iff_not_escapes {env : Environment} {args : List String} {o : Options}
    (h : Options.parse env.defaultUrl args = .run o) (s : Store) (reply : Rpc.Reply) :
    (((run env args s reply).outcome = .ok 0 ∨ (run env args s reply).outcome = .ok 1)
        ↔
      ¬Escapes env o s reply)
      ∧ ((run env args s reply).outcome = .ok 1 →
        ∃ lines text,
          (run env args s reply).stderr = Options.unlines (lines ++ ["Error: " ++ text])) := by
  have hcourse := course_run h s reply
  rw [hcourse.escapes_iff]
  generalize run env args s reply = r at hcourse
  cases hcourse with
  | reported => exact ⟨by simp, fun _ => ⟨_, _, rfl⟩⟩
  | unreported | unlisted | unwritten | finished => simp

-- The reply is a whole number and not an object, and the output is not opened.
theorem run_outcome_of_escapes :
    let s : Store := { home := [], entries := [(["a"], .file [0x60, 0x80])] }
    let reply : Rpc.Reply := .response { status := 200, reason := "OK", body := "5" }
    (run .usual [] s reply).outcome = .error (.load (.fetch .shape))
      ∧ (run .usual ["a", "-o", "b/c"] s reply).outcome
          =
        .error (.output { cause := .notFound, path := "b/c" }) := by
  decide +kernel

theorem run_outcome_iff_not_escapes_at_file :
    let env := Environment.usual
    let s : Store := { home := [], entries := [(["a"], .file [0x60, 0x80])] }
    let o :=
      { Options.default env.defaultUrl with input := some "a", output := some (.value "b") }
    let reply : Rpc.Reply := .response { status := 200, reason := "OK", body := "5" }
    Options.parse env.defaultUrl ["a", "-o", "b"] = .run o
      ∧ ¬Escapes env o s reply
      ∧ (run env ["a", "-o", "b"] s reply).outcome = .ok 0 := by
  intro env s o reply
  have hargs : Options.parse env.defaultUrl ["a", "-o", "b"] = .run o := by rfl
  have houtcome : (run env ["a", "-o", "b"] s reply).outcome = .ok 0 := by decide +kernel
  exact ⟨hargs, (run_outcome_iff_not_escapes hargs s reply).1.1 (.inl houtcome), houtcome⟩

end Command
end EvmSelectors
