import Mathlib.Data.List.Forall2
import Mathlib.Data.Nat.Find
import EvmSelectors.Log
import EvmSelectors.Proofs.Scan

/-!
This module contains the outcome of the scan for any list of instructions and for the known idioms under
any names and positions: the leftmost window at fault ends it, and without one it reports every selector
where a window matches it first.
-/

namespace EvmSelectors

/--
What the window at a start gives.
-/
def matchAt (idioms : List Idiom) (l : List Instruction) (start : Nat) :
    Except ScanError (Option Match) :=
  matchWindow idioms ((l.drop start).take windowSize)

/--
Why the scan ends at a window, by what the window gives.
-/
def fault? : Except ScanError (Option Match) → Option ScanError
  | .error e => some e
  | .ok none => none
  | .ok (some m) =>
    if Selector.size < m.selector.length then some (.selectorSize m.selector.length) else none

/--
The idiom by which a window is matched.
-/
def FirstFit (idioms : List Idiom) (window : List Instruction) (idiom : Idiom) : Prop :=
  ∃ before after,
    idioms = before ++ idiom :: after
      ∧ fits idiom.shape window = .ok true
      ∧ ∀ other ∈ before, fits other.shape window = .ok false

variable {idioms : List Idiom} {window l : List Instruction}

theorem find?_eq_some_iff_firstFit {idiom : Idiom}
    (h : ∀ idiom ∈ idioms, idiom.shape.length ≤ window.length) :
    idioms.find? (fun idiom => idiom.fitsWindow window) = some idiom
      ↔
    FirstFit idioms window idiom := by
  rw [List.find?_eq_some_iff_append]
  unfold FirstFit
  constructor
  · rintro ⟨hfits, before, after, rfl, hbefore⟩
    refine ⟨before, after, rfl, ?_, ?_⟩
    · rw [fits_of_length_le (h idiom (by simp))]
      exact congrArg Except.ok hfits
    · intro other hother
      rw [fits_of_length_le (h other (by simp [hother]))]
      simpa [Idiom.fitsWindow] using hbefore other hother
  · rintro ⟨before, after, rfl, hfits, hbefore⟩
    rw [fits_of_length_le (h idiom (by simp)), Except.ok.injEq] at hfits
    refine ⟨hfits, before, after, rfl, ?_⟩
    intro other hother
    have hother' := hbefore other hother
    rw [fits_of_length_le (h other (by simp [hother])), Except.ok.injEq] at hother'
    rw [Idiom.fitsWindow, hother']
    rfl

theorem elementAt?_eq_none_iff {α : Type} {l : List α} {position : Int} :
    elementAt? l position = none ↔ position < -l.length ∨ l.length ≤ position := by
  unfold elementAt?
  split
  · rw [List.getElem?_eq_none_iff]
    omega
  · split
    · rw [List.getElem?_eq_none_iff]
      omega
    · simp only [true_iff]
      omega

theorem selectorAt_eq_error_iff {position : Int} {e : ScanError} (hlen : window.length = windowSize) :
    selectorAt window position = .error e
      ↔
    e = .position ∧ (position < -5 ∨ 4 < position)
      ∨ e = .noOperand ∧ ∃ i, elementAt? window position = some i ∧ i.operand = none := by
  have hnone : elementAt? window position = none ↔ position < -5 ∨ 4 < position := by
    rw [elementAt?_eq_none_iff, hlen, windowSize]
    omega
  rw [← hnone, selectorAt]
  cases elementAt? window position with
  | none => simp [eq_comm]
  | some i => cases hi : i.operand <;> simp [hi, eq_comm]

theorem matchWindow_eq_error_iff {e : ScanError}
    (h : ∀ idiom ∈ idioms, idiom.shape.length ≤ window.length) :
    matchWindow idioms window = .error e
      ↔
    ∃ idiom, FirstFit idioms window idiom ∧ selectorAt window idiom.position = .error e := by
  rw [matchWindow_eq_find? h]
  simp only [← find?_eq_some_iff_firstFit h]
  cases idioms.find? (fun idiom => idiom.fitsWindow window) with
  | none => simp
  | some idiom => cases hx : selectorAt window idiom.position <;> simp [hx, Except.map]

theorem selectorAt_eq_ok_iff {position : Int} {b : Bytes} :
    selectorAt window position = .ok b
      ↔
    ∃ i literal,
      elementAt? window position = some i
        ∧ i.operand = some literal
        ∧ b = Selector.padLiteral literal := by
  rw [selectorAt]
  cases elementAt? window position with
  | none => simp
  | some i => cases hi : i.operand <;> simp [hi, eq_comm]

theorem matchWindow_eq_some_iff {m : Match}
    (h : ∀ idiom ∈ idioms, idiom.shape.length ≤ window.length) :
    matchWindow idioms window = .ok (some m)
      ↔
    ∃ idiom,
      FirstFit idioms window idiom
        ∧ m.idiom = idiom.name
        ∧ selectorAt window idiom.position = .ok m.selector := by
  obtain ⟨name, selector⟩ := m
  rw [matchWindow_eq_find? h]
  simp only [← find?_eq_some_iff_firstFit h]
  cases idioms.find? (fun idiom => idiom.fitsWindow window) with
  | none => simp
  | some idiom =>
    cases hx : selectorAt window idiom.position <;> simp [hx, Except.map, eq_comm]

theorem size_le_length_of_matchWindow_eq_some {m : Match}
    (h : matchWindow idioms window = .ok (some m)) :
    Selector.size ≤ m.selector.length := by
  induction idioms with
  | nil => cases h
  | cons idiom rest ih =>
    rw [matchWindow] at h
    split at h
    · cases h
    · exact ih h
    · split at h
      · cases h
      · next hselector =>
        cases h
        obtain ⟨i, literal, -, -, rfl⟩ := selectorAt_eq_ok_iff.1 hselector
        rw [Selector.padLiteral, Bytes.length_pad]
        apply Nat.le_max_left

/--
All that the window at a start can give to the scan.
-/
inductive Giving (idioms : List Idiom) (l : List Instruction) (start : Nat) :
    Except ScanError (Option Finding) → Prop where
  | short (hlen : l.length < start + windowSize) : Giving idioms l start (.ok none)
  | fault {e : ScanError} (hlen : start + windowSize ≤ l.length)
      (h : fault? (matchAt idioms l start) = some e) :
      Giving idioms l start (.error e)
  | unmatched (hlen : start + windowSize ≤ l.length) (h : matchAt idioms l start = .ok none) :
      Giving idioms l start (.ok none)
  | matched {m : Match} {x : Selector} {i : Instruction} (hlen : start + windowSize ≤ l.length)
      (h : matchAt idioms l start = .ok (some m)) (hx : m.selector = x.bytes) (hi : l[start]? = some i) :
      Giving idioms l start (.ok (some { selector := x, idiom := m.idiom, offset := i.offset }))

theorem giving_findingAt (idioms : List Idiom) (l : List Instruction) (start : Nat) :
    Giving idioms l start (findingAt idioms (l.drop start)) := by
  have hlength := List.length_drop (i := start) (l := l)
  have hi := List.head?_drop (l := l) (i := start)
  have hmatch : matchAt idioms l start = matchWindow idioms ((l.drop start).take windowSize) := rfl
  generalize l.drop start = after at hlength hi hmatch
  unfold findingAt
  split
  · refine .short ?_
    rw [List.length_nil] at hlength
    unfold windowSize
    omega
  · next i rest =>
    split
    · exact .short (by omega)
    · next hlen =>
      have hlen : start + windowSize ≤ l.length := by
        have : 0 < windowSize := by decide
        omega
      cases hm : matchWindow idioms ((i :: rest).take windowSize) with
      | error e => exact .fault hlen (by rw [hmatch, hm, fault?])
      | ok m =>
        cases m with
        | none => exact .unmatched hlen (hmatch.trans hm)
        | some m =>
          dsimp only
          cases hx : Selector.ofBytes m.selector with
          | error n =>
            -- Literals are padded to the size of a selector, so that one of another size is longer.
            have hsize := size_le_length_of_matchWindow_eq_some hm
            obtain ⟨hne, rfl⟩ := Selector.ofBytes_eq_error_iff.1 hx
            unfold Selector.size at hsize
            refine .fault hlen ?_
            rw [hmatch, hm, fault?, Selector.size, if_pos (by omega)]
          | ok x => exact .matched hlen (hmatch.trans hm) (Selector.ofBytes_eq_ok_iff.1 hx) hi.symm

theorem fault?_of_selector_eq {m : Match} {x : Selector} (h : m.selector = x.bytes) :
    fault? (.ok (some m)) = none := by
  rw [fault?, h, Selector.length_bytes, if_neg (Nat.lt_irrefl _)]

theorem findingAt_eq_error_iff {e : ScanError} :
    findingAt idioms l = .error e
      ↔
    windowSize ≤ l.length ∧ fault? (matchAt idioms l 0) = some e := by
  have hgiving := giving_findingAt idioms l 0
  rw [List.drop_zero] at hgiving
  generalize findingAt idioms l = given at hgiving
  cases hgiving with
  | short hlen =>
    simp only [reduceCtorEq, false_iff, not_and]
    omega
  | fault hlen h =>
    rw [Nat.zero_add] at hlen
    simp [hlen, h]
  | unmatched hlen h => simp [h, fault?]
  | matched hlen h hx hi => simp [h, fault?_of_selector_eq hx]

structure LeftmostFault (idioms : List Idiom) (l : List Instruction) (start : Nat) (e : ScanError) :
    Prop where
  le_length : start + windowSize ≤ l.length
  fault : fault? (matchAt idioms l start) = some e
  leftmost : ∀ before < start, fault? (matchAt idioms l before) = none

theorem exists_leftmostFault {start : Nat} (hlen : start + windowSize ≤ l.length)
    (h : fault? (matchAt idioms l start) ≠ none) :
    ∃ start e, LeftmostFault idioms l start e := by
  have hexists : ∃ start, fault? (matchAt idioms l start) ≠ none := ⟨start, h⟩
  obtain ⟨e, he⟩ := Option.ne_none_iff_exists'.1 (Nat.find_spec hexists)
  have hle := Nat.find_min' hexists h
  refine ⟨Nat.find hexists, e, by omega, he, ?_⟩
  intro before hbefore
  exact not_not.1 (Nat.find_min hexists hbefore)

theorem leftmostFault_zero_iff {e : ScanError} :
    LeftmostFault idioms l 0 e ↔ findingAt idioms l = .error e := by
  rw [findingAt_eq_error_iff]
  constructor
  · intro h
    exact ⟨by simpa using h.le_length, h.fault⟩
  · rintro ⟨hlen, h⟩
    exact ⟨by simpa using hlen, h, by simp⟩

theorem leftmostFault_succ_iff {i : Instruction} {rest : List Instruction} {start : Nat}
    {e : ScanError} :
    LeftmostFault idioms (i :: rest) (start + 1) e
      ↔
    (∃ f, findingAt idioms (i :: rest) = .ok f) ∧ LeftmostFault idioms rest start e := by
  constructor
  · intro h
    have hle := h.le_length
    rw [List.length_cons] at hle
    refine ⟨?_, by omega, h.fault, ?_⟩
    · cases hf : findingAt idioms (i :: rest) with
      | error e' =>
        have hzero := h.leftmost 0 (by omega)
        rw [(findingAt_eq_error_iff.1 hf).2] at hzero
        cases hzero
      | ok f => exact ⟨f, rfl⟩
    · intro before hbefore
      exact h.leftmost (before + 1) (by omega)
  · rintro ⟨⟨f, hf⟩, h⟩
    -- The window at the front is whole, as a window behind it is, and it gives no error.
    have hle := h.le_length
    refine ⟨by rw [List.length_cons]; omega, h.fault, ?_⟩
    intro before hbefore
    cases before with
    | zero =>
      rw [Option.eq_none_iff_forall_ne_some]
      intro e' he'
      have herror := findingAt_eq_error_iff.2 ⟨by rw [List.length_cons]; omega, he'⟩
      rw [hf] at herror
      cases herror
    | succ before => exact h.leftmost before (by omega)

theorem findings_eq_error_iff {e : ScanError} :
    findings idioms l = .error e ↔ ∃ start, LeftmostFault idioms l start e := by
  induction l with
  | nil =>
    simp only [findings, reduceCtorEq, false_iff, not_exists]
    intro start h
    have hle := h.le_length
    simp [windowSize] at hle
  | cons i rest ih =>
    rw [← Nat.or_exists_add_one, leftmostFault_zero_iff, findings_cons_eq_error_iff, ih]
    simp only [leftmostFault_succ_iff, exists_and_left]

theorem findingAt_congr {idioms' : List Idiom} {l' : List Instruction}
    (hoffset : l'.map Instruction.offset = l.map Instruction.offset)
    (hmatch : windowSize ≤ l.length → matchAt idioms' l' 0 = matchAt idioms l 0) :
    findingAt idioms' l' = findingAt idioms l := by
  have hlen := congrArg List.length hoffset
  rw [List.length_map, List.length_map] at hlen
  by_cases hwindow : windowSize ≤ l.length
  · have hmatch := hmatch hwindow
    cases l with
    | nil => cases hwindow
    | cons i rest =>
      cases l' with
      | nil => cases hlen
      | cons i' rest' =>
        rw [List.map_cons, List.map_cons, List.cons.injEq] at hoffset
        unfold matchAt at hmatch
        rw [List.drop_zero, List.drop_zero] at hmatch
        rw [findingAt, findingAt, hlen, hmatch, hoffset.1]
  · rw [findingAt_of_length_lt (by omega), findingAt_of_length_lt (by omega)]

/--
Of instructions and idioms, the scan knows no more than the offsets and what each window gives.
-/
theorem scan_congr {idioms' : List Idiom} {l' : List Instruction}
    (hoffset : l'.map Instruction.offset = l.map Instruction.offset)
    (hmatch : ∀ start, start + windowSize ≤ l.length →
      matchAt idioms' l' start = matchAt idioms l start) :
    scan idioms' l' = scan idioms l := by
  have hfindings : findings idioms' l' = findings idioms l := by
    induction l generalizing l' with
    | nil =>
      rw [List.map_nil, List.map_eq_nil_iff] at hoffset
      rw [hoffset]
      rfl
    | cons i rest ih =>
      cases l' with
      | nil => cases hoffset
      | cons i' rest' =>
        have hfront : findingAt idioms' (i' :: rest') = findingAt idioms (i :: rest) := by
          apply findingAt_congr hoffset
          intro hlen
          apply hmatch
          omega
        have hrest : findings idioms' rest' = findings idioms rest := by
          apply ih (List.cons.inj hoffset).2
          intro start hstart
          apply hmatch (start + 1)
          rw [List.length_cons]
          omega
        rw [findings, findings, hfront, hrest]
  rw [scan_eq_ofFindings, scan_eq_ofFindings, hfindings]

theorem scan_eq_error_iff {e : ScanError} :
    scan idioms l = .error e ↔ ∃ start, LeftmostFault idioms l start e := by
  rw [scan_eq_ofFindings, ← findings_eq_error_iff]
  cases findings idioms l <;> simp [Except.map]

def starts (l : List Instruction) : List Nat :=
  List.range (l.length + 1 - windowSize)

theorem mem_starts_iff {start : Nat} : start ∈ starts l ↔ start + windowSize ≤ l.length := by
  unfold starts
  rw [List.mem_range]
  omega

theorem starts_cons {i : Instruction} {rest : List Instruction} (h : windowSize ≤ (i :: rest).length) :
    starts (i :: rest) = 0 :: (starts rest).map (· + 1) := by
  have hlen : (i :: rest).length + 1 - windowSize = rest.length + 1 - windowSize + 1 := by
    rw [List.length_cons] at h ⊢
    omega
  rw [starts, hlen, List.range_succ_eq_map]
  rfl

/--
What the window at a start gives to the scan, if it is not at fault.
-/
def findingFrom? (idioms : List Idiom) (l : List Instruction) (start : Nat) : Option Finding :=
  (findingAt idioms (l.drop start)).toOption.join

theorem findings_eq_filterMap_starts {found : List Finding} (h : findings idioms l = .ok found) :
    found = (starts l).filterMap (findingFrom? idioms l) := by
  induction l generalizing found with
  | nil =>
    cases h
    rfl
  | cons i rest ih =>
    by_cases hlen : windowSize ≤ (i :: rest).length
    · obtain ⟨f, after, hf, hafter, rfl⟩ := findings_cons_eq_ok_iff.1 h
      have hzero : findingFrom? idioms (i :: rest) 0 = f := by
        rw [findingFrom?, List.drop_zero, hf]
        rfl
      have hsucc : findingFrom? idioms (i :: rest) ∘ (· + 1) = findingFrom? idioms rest := rfl
      rw [starts_cons hlen, List.filterMap_cons, List.filterMap_map, hzero, hsucc, ← ih hafter]
      cases f <;> rfl
    · rw [findings_of_length_lt (by omega)] at h
      cases h
      rw [starts, Nat.sub_eq_zero_of_le (by omega)]
      rfl

/--
The leftmost window that matches a selector, with what it matches and its first instruction.
-/
structure FirstMatch (idioms : List Idiom) (l : List Instruction) (selector : Bytes) (start : Nat)
    (m : Match) (i : Instruction) : Prop where
  le_length : start + windowSize ≤ l.length
  matched : matchAt idioms l start = .ok (some m)
  selector_eq : m.selector = selector
  head : l[start]? = some i
  leftmost : ∀ before < start, ∀ m', matchAt idioms l before = .ok (some m') → m'.selector ≠ selector

/--
Whether an entry of the log tells of a selector.
-/
def Tells (idioms : List Idiom) (l : List Instruction) (selector : Bytes) (entry : Log.Entry) : Prop :=
  ∃ start m i,
    FirstMatch idioms l selector start m i
      ∧ entry.level = .debug
      ∧ entry.text =
          "selector " ++ String.ofList (markedHex selector) ++ " via " ++ m.idiom ++ " at offset "
            ++ toString i.offset

def matchedSelectors (idioms : List Idiom) (l : List Instruction) : List Bytes :=
  (starts l).filterMap (fun start =>
    match matchAt idioms l start with
    | .ok (some m) => some m.selector
    | _ => none)

theorem exists_findingFrom?_eq_some {start : Nat} {m : Match} {x : Selector}
    (hlen : start + windowSize ≤ l.length) (h : matchAt idioms l start = .ok (some m))
    (hx : m.selector = x.bytes) :
    ∃ f, findingFrom? idioms l start = some f ∧ f.selector = x := by
  have hgiving := giving_findingAt idioms l start
  unfold findingFrom?
  generalize findingAt idioms (l.drop start) = given at hgiving
  cases hgiving with
  | short hlen' => omega
  | fault _ h' =>
    rw [h, fault?_of_selector_eq hx] at h'
    cases h'
  | unmatched _ h' =>
    rw [h] at h'
    cases h'
  | matched _ h' hx' _ =>
    rw [h] at h'
    cases h'
    exact ⟨_, rfl, Selector.bytes_injective (hx'.symm.trans hx)⟩

theorem exists_matchAt_of_findingFrom?_eq_some {start : Nat} {f : Finding}
    (h : findingFrom? idioms l start = some f) :
    ∃ m i,
      matchAt idioms l start = .ok (some m)
        ∧ m.selector = f.selector.bytes
        ∧ l[start]? = some i
        ∧ f.idiom = m.idiom
        ∧ f.offset = i.offset := by
  have hgiving := giving_findingAt idioms l start
  unfold findingFrom? at h
  generalize findingAt idioms (l.drop start) = given at hgiving h
  cases hgiving with
  | short _ | fault _ _ | unmatched _ _ => cases h
  | matched _ hm hx hi =>
    cases h
    exact ⟨_, _, hm, hx, hi, rfl, rfl⟩

theorem map_bytes_filterMap_findingFrom?
    (h : ∀ start, start + windowSize ≤ l.length → fault? (matchAt idioms l start) = none) :
    ((starts l).filterMap (findingFrom? idioms l)).map (fun f => f.selector.bytes)
      =
    matchedSelectors idioms l := by
  rw [List.map_filterMap, matchedSelectors]
  apply List.filterMap_congr
  intro start hstart
  rw [mem_starts_iff] at hstart
  have hfault := h start hstart
  have hgiving := giving_findingAt idioms l start
  unfold findingFrom?
  generalize findingAt idioms (l.drop start) = given at hgiving
  cases hgiving with
  | short hlen => omega
  | fault _ he =>
    rw [he] at hfault
    cases hfault
  | unmatched _ hm =>
    rw [hm]
    rfl
  | matched _ hm hx _ =>
    rw [hm]
    exact congrArg some hx.symm

theorem exists_firstMatch_of_find?_eq_some {f : Finding}
    (h : ((starts l).filterMap (findingFrom? idioms l)).find? (fun g => g.selector == f.selector)
      = some f) :
    ∃ start m i,
      FirstMatch idioms l f.selector.bytes start m i ∧ f.idiom = m.idiom ∧ f.offset = i.offset := by
  rw [List.find?_filterMap, Option.bind_eq_some_iff] at h
  obtain ⟨start, hstart, hf⟩ := h
  have hlen := mem_starts_iff.1 (List.mem_of_find?_eq_some hstart)
  rw [starts, List.find?_range_eq_some] at hstart
  obtain ⟨-, -, hbefore⟩ := hstart
  obtain ⟨m, i, hm, hx, hi, hidiom, hoffset⟩ := exists_matchAt_of_findingFrom?_eq_some hf
  refine ⟨start, m, i, ⟨hlen, hm, hx, hi, ?_⟩, hidiom, hoffset⟩
  intro before hlt m' hm' hx'
  -- A match of the same selector further left would have been found there.
  obtain ⟨g, hg, hselector⟩ := exists_findingFrom?_eq_some (by omega) hm' hx'
  have hnone := hbefore before hlt
  simp [hg, hselector] at hnone

theorem forall₂_tells_of_findings_eq_ok {found : List Finding}
    (h : findings idioms l = .ok found) :
    List.Forall₂ (Tells idioms l) (Scan.ofFindings found).selectors.bytes
      (Scan.ofFindings found).log := by
  rw [SelectorSet.bytes, ← Scan.map_selector_findings_ofFindings, Scan.log, List.map_map,
    List.forall₂_map_left_iff, List.forall₂_map_right_iff, List.forall₂_same]
  intro f hf
  have hfind := Scan.find?_of_mem_findings_ofFindings hf
  rw [findings_eq_filterMap_starts h] at hfind
  obtain ⟨start, m, i, hfirst, hidiom, hoffset⟩ := exists_firstMatch_of_find?_eq_some hfind
  refine ⟨start, m, i, hfirst, rfl, ?_⟩
  rw [← hidiom, ← hoffset]
  rfl

theorem exists_scan_eq_ok
    (h : ∀ start, start + windowSize ≤ l.length → fault? (matchAt idioms l start) = none) :
    ∃ found,
      scan idioms l = .ok found
        ∧ found.selectors.bytes = (matchedSelectors idioms l).eraseDups
        ∧ List.Forall₂ (Tells idioms l) found.selectors.bytes found.log := by
  cases hfound : findings idioms l with
  | error e =>
    obtain ⟨start, hfault⟩ := findings_eq_error_iff.1 hfound
    have hnone := h start hfault.le_length
    rw [hfault.fault] at hnone
    cases hnone
  | ok found =>
    refine ⟨.ofFindings found, ?_, ?_, forall₂_tells_of_findings_eq_ok hfound⟩
    · rw [scan_eq_ofFindings, hfound]
      rfl
    · rw [Scan.bytes_selectors_ofFindings, List.map_map, ← map_bytes_filterMap_findingFrom? h,
        ← findings_eq_filterMap_starts hfound]
      rfl

theorem Idiom.length_shape_le_of_shape_mem
    (h : ∀ idiom ∈ idioms, idiom.shape ∈ known.map shape) (hlen : window.length = windowSize)
    : ∀ idiom ∈ idioms, idiom.shape.length ≤ window.length := by
  intro idiom hidiom
  obtain ⟨idiom', hidiom', hshape⟩ := List.mem_map.1 (h idiom hidiom)
  rw [← hshape]
  exact length_shape_le_of_known hlen idiom' hidiom'

theorem scan_outcome {idioms : List Idiom}
    (h : ∀ idiom ∈ idioms, idiom.shape ∈ Idiom.known.map Idiom.shape) (l : List Instruction) :
    (∀ start window, start + 5 ≤ l.length → window = (l.drop start).take 5 →
        (∀ e,
          matchAt idioms l start = .error e
            ↔
          ∃ idiom,
            FirstFit idioms window idiom
              ∧ (e = .position ∧ (idiom.position < -5 ∨ 4 < idiom.position)
                ∨ e = .noOperand ∧ ∃ i, elementAt? window idiom.position = some i ∧ i.operand = none))
          ∧ ∀ m,
              matchAt idioms l start = .ok (some m)
                ↔
              ∃ idiom,
                FirstFit idioms window idiom
                  ∧ m.idiom = idiom.name
                  ∧ ∃ i literal,
                      elementAt? window idiom.position = some i
                        ∧ i.operand = some literal
                        ∧ m.selector = Selector.padLiteral literal)
      ∧ ((∃ e, scan idioms l = .error e)
          ↔
        ∃ start, start + 5 ≤ l.length ∧ fault? (matchAt idioms l start) ≠ none)
      ∧ (∀ start e, LeftmostFault idioms l start e →
          scan idioms l = .error e
            ∧ ∀ n, e = .selectorSize n →
                Selector.wrongSize n = "selector must be 4 bytes, got " ++ toString n)
      ∧ ((∀ start, start + 5 ≤ l.length → fault? (matchAt idioms l start) = none) →
          ∃ found,
            scan idioms l = .ok found
              ∧ found.selectors.bytes = (matchedSelectors idioms l).eraseDups
              ∧ List.Forall₂ (Tells idioms l) found.selectors.bytes found.log)
      ∧ (l.length < 5 → scan idioms l = .ok .empty) := by
  refine ⟨?_, ?_, ?_, exists_scan_eq_ok, ?_⟩
  · rintro start window hlen rfl
    have hwindow : ((l.drop start).take 5).length = windowSize := by
      rw [List.length_take, List.length_drop, windowSize]
      omega
    have hshape := Idiom.length_shape_le_of_shape_mem h hwindow
    constructor
    · intro e
      have herror := matchWindow_eq_error_iff (e := e) hshape
      simp only [selectorAt_eq_error_iff hwindow] at herror
      exact herror
    · intro m
      have hmatch := matchWindow_eq_some_iff (m := m) hshape
      simp only [selectorAt_eq_ok_iff] at hmatch
      exact hmatch
  · constructor
    · rintro ⟨e, he⟩
      obtain ⟨start, hfault⟩ := scan_eq_error_iff.1 he
      refine ⟨start, hfault.le_length, ?_⟩
      rw [hfault.fault]
      exact Option.some_ne_none e
    · rintro ⟨start, hlen, hfault⟩
      obtain ⟨first, e, hfirst⟩ := exists_leftmostFault hlen hfault
      exact ⟨e, scan_eq_error_iff.2 ⟨first, hfirst⟩⟩
  · intro start e hfault
    refine ⟨scan_eq_error_iff.2 ⟨start, hfault⟩, ?_⟩
    intro n _
    rfl
  · intro hlen
    rw [scan_eq_ofFindings, findings_of_length_lt hlen]
    rfl

-- The window at the front matches, by a position from the end, and a later one has five bytes to take.
theorem scan_outcome_oversized :
    let idioms := [{ Idiom.dupEq with name := "dispatch", position := -4 }]
    let l : List Instruction :=
      [⟨.dup 0, 0, none⟩, ⟨.push 4, 1, some [1, 2, 3, 4]⟩, ⟨.eq, 6, none⟩, ⟨.push 1, 7, some [9]⟩,
        ⟨.jumpi, 9, none⟩,
        ⟨.dup 0, 10, none⟩, ⟨.push 4, 11, some [1, 2, 3, 4, 5]⟩, ⟨.eq, 16, none⟩,
        ⟨.push 1, 17, some [9]⟩, ⟨.jumpi, 19, none⟩]
    matchAt idioms l 0 = .ok (some { idiom := "dispatch", selector := [1, 2, 3, 4] })
      ∧ scan idioms l = .error (.selectorSize 5) := by
  intro idioms l
  have hshape : ∀ idiom ∈ idioms, idiom.shape ∈ Idiom.known.map Idiom.shape := by decide
  obtain ⟨-, -, hfault, -⟩ := scan_outcome hshape l
  have hfirst : LeftmostFault idioms l 5 (.selectorSize 5) := ⟨by decide, by decide, by decide⟩
  exact ⟨rfl, (hfault 5 _ hfirst).1⟩

end EvmSelectors
