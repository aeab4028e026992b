import EvmSelectors.Proofs.Command.Report
import EvmSelectors.Proofs.Rpc.Outcome

/-!
This module contains the reports of files that are not found. All of them name the input. Where it is the
file to save to that is not found, there is no input, and the report names no file.
-/

namespace EvmSelectors

theorem Options.unlines_append_singleton_inj {lines : List String} {line line' : String} :
    unlines (lines ++ [line]) = unlines (lines ++ [line']) ↔ line = line' := by
  rw [unlines_append, unlines_append, String.append_right_inj]
  simp [unlines]

namespace Command

/--
What is told of a file that is not found.
-/
def notFoundText (name : String) : String :=
  "file " ++ name ++ " not found."

/--
Whether a text starts with another letter than what is told of a file that is not found.
-/
def startsApart (text : String) : Bool :=
  text.toList.head?.any (· != 'f')

section NotFoundText

variable {text : String} (name : String)

theorem notFoundText_inj {name' : String} : notFoundText name' = notFoundText name ↔ name' = name := by
  unfold notFoundText
  rw [String.append_left_inj, String.append_right_inj]

theorem ne_notFoundText (h : startsApart text) : text ≠ notFoundText name := by
  rintro rfl
  unfold startsApart notFoundText at h
  rw [String.append_assoc, String.toList_append, List.head?_append] at h
  cases h

theorem append_ne_notFoundText (h : startsApart text) (rest : String) :
    text ++ rest ≠ notFoundText name := by
  apply ne_notFoundText
  unfold startsApart at h ⊢
  rw [String.toList_append, List.head?_append]
  cases hc : text.toList.head? with
  | none => simp [hc] at h
  | some c => simpa [hc] using h

theorem storeMessage_ne_notFoundText (e : Store.Error) : e.message ≠ notFoundText name := by
  unfold Store.Error.message
  split
  · exact ne_notFoundText name rfl
  · exact append_ne_notFoundText name rfl _
  · exact append_ne_notFoundText name rfl _
  · exact append_ne_notFoundText name rfl _
  · exact append_ne_notFoundText name rfl _
  · exact append_ne_notFoundText name rfl _
  · simp [← String.toList_inj, notFoundText]
  · next refusal _ => cases refusal <;> exact ne_notFoundText name rfl

theorem hexMessage_ne_notFoundText (e : Hex.Error) : e.message ≠ notFoundText name := by
  unfold Hex.Error.message
  split
  · rw [String.append_assoc]
    exact append_ne_notFoundText name rfl _
  · exact append_ne_notFoundText name rfl _

theorem jsonMessage_ne_notFoundText (cause : Json.Cause) (place : Json.Place) :
    (Json.Error.malformed cause place).message ≠ notFoundText name := by
  unfold Json.Error.message
  dsimp only
  rw [String.append_assoc]
  apply append_ne_notFoundText
  cases cause <;> rfl

theorem startsApart_repr (n : Nat) : startsApart n.repr := by
  rw [startsApart, Nat.toList_repr]
  cases hn : Nat.toDigits 10 n with
  | nil => exact absurd hn Nat.toDigits_ne_nil
  | cons c rest =>
    have hc : c.isDigit := by
      apply Nat.isDigit_of_mem_toDigits (b := 10) (n := n) (by omega) (by omega)
      simp [hn]
    simp only [List.head?_cons, Option.any_some, bne_iff_ne]
    rintro rfl
    revert hc
    decide

theorem statusMessage_ne_notFoundText (code : Int) (rest : String) :
    toString code ++ rest ≠ notFoundText name := by
  cases code with
  | ofNat n => exact append_ne_notFoundText name (startsApart_repr n) rest
  | negSucc n =>
    change "-" ++ (n + 1).repr ++ rest ≠ notFoundText name
    rw [String.append_assoc]
    exact append_ne_notFoundText name rfl _

theorem report?_fetch_eq_notFound_iff {e : Rpc.Error} :
    e.report? = some (notFoundText name) ↔ ∃ kind, e = .fault kind (notFoundText name) := by
  cases e with
  | fault kind message => simp [Rpc.Error.report?]
  | status code reason url =>
    simp only [Rpc.Error.report?, String.append_assoc, Option.some.injEq,
      statusMessage_ne_notFoundText, reduceCtorEq, exists_false]
  | body e =>
    cases e with
    | malformed cause place => simp [Rpc.Error.report?, jsonMessage_ne_notFoundText]
    | tooLong | tooDeep => simp [Rpc.Error.report?]
  | refused message =>
    have hne : "eth_getCode failed: " ++ message ≠ notFoundText name := append_ne_notFoundText name rfl _
    simp [Rpc.Error.report?, hne]
  | noResult =>
    have hne : "eth_getCode returned no result" ≠ notFoundText name := ne_notFoundText name rfl
    simp [Rpc.Error.report?, hne]
  | hex e => simp [Rpc.Error.report?, hexMessage_ne_notFoundText]
  | shape | resultKind => simp [Rpc.Error.report?]

theorem pathReport?_eq_notFound_iff {input : Option String} {e : Store.Error} :
    pathReport? input e = some (notFoundText name) ↔ e.cause = .notFound ∧ name = input.getD "None" := by
  unfold pathReport?
  split
  · next hcause =>
    change some (notFoundText (input.getD "None")) = some (notFoundText name) ↔ _
    rw [Option.some.injEq, notFoundText_inj]
    simp [hcause, eq_comm]
  · next hcause => simp [hcause]
  · next hcause => simp [hcause]
  · next hcause _ _ =>
    have hne : e.cause ≠ .notFound := hcause
    simp [hne, storeMessage_ne_notFoundText]

end NotFoundText

theorem report?_read_eq_notFound_iff {input : Option String} {s : Store} {path name : String}
    {e : CodeFile.ReadError} (h : (CodeFile.read s path).1 = .error e) :
    (LoadError.read e).report? input = some (notFoundText name)
      ↔
    s.read path = .error { cause := .notFound, path } ∧ name = input.getD "None" := by
  rw [Store.read_eq_error_iff]
  rcases CodeFile.of_read_eq_error h with ⟨cause, hcontent, rfl⟩ | ⟨content, e, hcontent, rfl⟩
  · rw [LoadError.report?, pathReport?_eq_notFound_iff]
    simp [hcontent, eq_comm]
  · simp [LoadError.report?, hexMessage_ne_notFoundText, hcontent]

theorem read_ne_error_of_read_eq_ok {s : Store} {path : String} {code : Bytes}
    (h : (CodeFile.read s path).1 = .ok code) (e : Store.Error) : s.read path ≠ .error e := by
  obtain ⟨content, hcontent⟩ := CodeFile.exists_contentAt_of_read_eq_ok h
  simp [Store.read, hcontent]

theorem report?_save_eq_notFound_iff {input : Option String} {s : Store} {path name : String}
    {content : Bytes} {e : Store.Error} (h : (s.write path content).result = .error e) :
    (LoadError.save (.store e)).report? input = some (notFoundText name)
      ↔
    s.openToWrite path = .error { cause := .notFound, path } ∧ name = input.getD "None" := by
  rw [LoadError.report?, pathReport?_eq_notFound_iff, Store.openToWrite_eq_error_iff]
  rcases Store.result_write_eq_error_iff.1 h with ⟨cause, htarget, rfl⟩ | ⟨target, r, htarget, -, rfl⟩
  · simp [htarget, eq_comm]
  · simp [htarget]

theorem openToWrite_ne_error_of_write_eq_ok {s : Store} {path : String} {content : Bytes}
    (h : (s.write path content).result = .ok ()) (e : Store.Error) :
    s.openToWrite path ≠ .error e := by
  obtain ⟨target, htarget, -⟩ := Store.result_write_eq_ok_iff.1 h
  simp [Store.openToWrite_eq_error_iff, htarget]

/--
Whether the file that a run opens to load code is not found at a path: the input, or else the file to save
the code of the reply to.
-/
def Misses (env : Environment) (o : Options) (s : Store) (reply : Rpc.Reply) (path : String) : Prop :=
  match o.input with
  | some input => path = input ∧ s.read input = .error { cause := .notFound, path := input }
  | none =>
    (∃ code, fetched env o reply = .ok code)
      ∧ given o.save = some path
      ∧ s.openToWrite path = .error { cause := .notFound, path }

section NotFound

variable {env : Environment} {o : Options} {s : Store} {reply : Rpc.Reply}

theorem not_misses_none (h : o.input = none) : ¬Misses env o s reply "None" := by
  unfold Misses
  rw [h]
  rintro ⟨-, -, hopen⟩
  obtain ⟨cause, htarget, hcause⟩ := Store.openToWrite_eq_error_iff.1 hopen
  cases hcause
  exact Store.targetAt_ne_notFound (by decide) (by decide) s htarget

theorem exists_fault_iff (env : Environment) (o : Options) {message : String} :
    (∃ kind, reply = .fault kind message)
      ↔
    ∃ kind, fetched env o reply = .error (.fault kind message) := by
  simp only [fetched, Rpc.getCode_eq_fault_iff]

/--
Loading code fails with the report of a file not found if a file is missed, or if the request fails with
such a report as its message.
-/
theorem Loading.reports_notFound_iff {after : Store} {result : Except LoadError Bytes}
    (h : Loading env o s reply result after) (name : String) :
    (∃ e, result = .error e ∧ e.report? o.input = some (notFoundText name))
      ↔
    (o.input = some name ∧ Misses env o s reply name)
      ∨ (o.input = none ∧ name = "None" ∧ ∃ path, Misses env o s reply path)
      ∨ (o.input = none ∧ ∃ kind, reply = .fault kind (notFoundText name)) := by
  rw [exists_fault_iff env o]
  cases h with
  | unread hinput hread =>
    simp only [Misses, hinput, Except.error.injEq, exists_eq_left', Option.some.injEq,
      report?_read_eq_notFound_iff hread, Option.getD_some, reduceCtorEq, false_and, or_false]
    grind
  | read hinput hread =>
    simp [Misses, hinput, read_ne_error_of_read_eq_ok hread]
  | unfetched hinput hfetched =>
    simp [Misses, hinput, hfetched, LoadError.report?, report?_fetch_eq_notFound_iff]
  | fetched hinput hfetched hsave =>
    simp [Misses, hinput, hfetched, hsave]
  | unsaved hinput hfetched hsave hwrite =>
    simp [Misses, hinput, hfetched, hsave, report?_save_eq_notFound_iff hwrite, and_comm]
  | saved hinput hfetched hsave hwrite =>
    simp [Misses, hinput, hfetched, hsave, openToWrite_ne_error_of_write_eq_ok hwrite]

theorem Course.reports_iff {r : Run} (h : Course env o s reply r) (text : String) :
    (r.outcome = .ok 1
      ∧ r.stderr
          =
        Options.unlines (logLines o.verbose (load env o s reply).log ++ ["Error: " ++ text]))
      ↔
    ∃ e, (load env o s reply).result = .error e ∧ e.report? o.input = some text := by
  cases h with
  | reported hload hreport =>
    simp [Options.unlines_append_singleton_inj, String.append_right_inj, hload, hreport]
  | unreported hload hreport => simp [hload, hreport]
  | unlisted hload | unwritten hload | finished hload => simp [hload]

end NotFound

theorem run_reports_notFound_iff {env : Environment} {args : List String} {o : Options}
    (h : Options.parse env.defaultUrl args = .run o) (s : Store) (reply : Rpc.Reply) (name : String) :
    ((run env args s reply).outcome = .ok 1
      ∧ (run env args s reply).stderr
          =
        Options.unlines
          (logLines o.verbose (load env o s reply).log ++ ["Error: file " ++ name ++ " not found."]))
      ↔
    (o.input = some name ∧ Misses env o s reply name)
      ∨ (o.input = none
          ∧ name = "None"
          ∧ ¬Misses env o s reply name
          ∧ ∃ path, Misses env o s reply path)
      ∨ (o.input = none ∧ ∃ kind, reply = .fault kind ("file " ++ name ++ " not found.")) := by
  have htext : "Error: file " ++ name ++ " not found." = "Error: " ++ notFoundText name := by
    rw [← String.toList_inj]
    simp [notFoundText]
  rw [htext, (course_run h s reply).reports_iff, (loading_load env s reply o).reports_notFound_iff]
  unfold notFoundText
  apply or_congr_right
  apply or_congr_left
  apply and_congr_right
  intro hinput
  apply and_congr_right
  rintro rfl
  simp [not_misses_none hinput]

theorem run_reports_notFound_iff_input :
    let env := Environment.usual
    let s : Store := { home := [], entries := [(["a"], .file [0x60, 0x80])] }
    let o := { Options.default env.defaultUrl with input := some "b" }
    let reply : Rpc.Reply := .fault .connection "no network"
    Options.parse env.defaultUrl ["b"] = .run o
      ∧ Misses env o s reply "b"
      ∧ (run env ["b"] s reply).outcome = .ok 1
      ∧ (run env ["b"] s reply).stderr
          =
        Options.unlines
          ["INFO pull_signatures: reading bytecode from b", "Error: file b not found."] := by
  intro env s o reply
  have hargs : Options.parse env.defaultUrl ["b"] = .run o := by rfl
  have hread : s.read "b" = .error { cause := .notFound, path := "b" } := by decide +kernel
  have hmisses : Misses env o s reply "b" := ⟨rfl, hread⟩
  have hlog : logLines o.verbose (load env o s reply).log
      = ["INFO pull_signatures: reading bytecode from b"] := by decide +kernel
  obtain ⟨houtcome, hstderr⟩ :=
    (run_reports_notFound_iff hargs s reply "b").2 (.inl ⟨rfl, hmisses⟩)
  rw [hlog] at hstderr
  exact ⟨hargs, hmisses, houtcome, hstderr⟩

-- The code is fetched, but there is no directory for the file to save it to.
theorem run_reports_notFound_of_save :
    let env := Environment.usual
    let s : Store := { home := [], entries := [(["a"], .file [0x60, 0x80])] }
    let o := { Options.default env.defaultUrl with save := some (.value "b/c") }
    let reply : Rpc.Reply :=
      .response { status := 200, reason := "OK", body := "\x7b\"result\": \"0x6080\"\x7d" }
    Options.parse env.defaultUrl ["--save", "b/c"] = .run o
      ∧ (run env ["--save", "b/c"] s reply).outcome = .ok 1
      ∧ (run env ["--save", "b/c"] s reply).stderr
          =
        Options.unlines
          [(Rpc.requestEntry (request env o)).line, "Error: file None not found."]
      ∧ Misses env o s reply "b/c"
      ∧ ¬Misses env o s reply "None" := by
  intro env s o reply
  have hargs : Options.parse env.defaultUrl ["--save", "b/c"] = .run o := by rfl
  have houtcome : (run env ["--save", "b/c"] s reply).outcome = .ok 1 := by decide +kernel
  have hstderr : (run env ["--save", "b/c"] s reply).stderr
      = Options.unlines [(Rpc.requestEntry (request env o)).line, "Error: file None not found."] := by
    decide +kernel
  have hfetched : fetched env o reply = .ok [0x60, 0x80] := by decide +kernel
  have hopen : s.openToWrite "b/c" = .error { cause := .notFound, path := "b/c" } := by decide +kernel
  exact ⟨hargs, houtcome, hstderr, ⟨⟨_, hfetched⟩, rfl, hopen⟩, not_misses_none rfl⟩

end Command
end EvmSelectors
