import Mathlib.Data.List.Induction
import Mathlib.Data.List.Perm.Subperm
import EvmSelectors.Dispatch.Scan
import EvmSelectors.Proofs.SelectorSet

/-!
This module contains the laws of the scan for selectors: what it finds is what every window gives on its
own, from left to right, with each selector kept where it comes first.
-/

namespace EvmSelectors

def Idiom.fitsWindow (idiom : Idiom) (window : List Instruction) : Bool :=
  (idiom.shape.zip window).all (fun p => p.1.accepts p.2)

theorem fits_of_length_le {slots : List Slot} {window : List Instruction}
    (h : slots.length ≤ window.length) :
    fits slots window = .ok ((slots.zip window).all (fun p => p.1.accepts p.2)) := by
  induction slots generalizing window with
  | nil => rfl
  | cons slot slots ih =>
    cases window with
    | nil => simp at h
    | cons i rest =>
      simp only [List.length_cons, Nat.add_le_add_iff_right] at h
      rw [fits, List.zip_cons_cons, List.all_cons]
      split
      · next hi => rw [ih h, hi, Bool.true_and]
      · next hi =>
        rw [Bool.not_eq_true] at hi
        rw [hi, Bool.false_and]

theorem matchWindow_eq_find? {idioms : List Idiom} {window : List Instruction}
    (h : ∀ idiom ∈ idioms, idiom.shape.length ≤ window.length) :
    matchWindow idioms window
      =
    match idioms.find? (fun idiom => idiom.fitsWindow window) with
    | none => .ok none
    | some idiom =>
      (selectorAt window idiom.position).map
        (fun selector => some { idiom := idiom.name, selector }) := by
  induction idioms with
  | nil => rfl
  | cons idiom rest ih =>
    simp only [List.mem_cons, forall_eq_or_imp] at h
    rw [matchWindow, fits_of_length_le h.1, List.find?_cons, Idiom.fitsWindow]
    cases (idiom.shape.zip window).all (fun p => p.1.accepts p.2) with
    | false => exact ih h.2
    | true =>
      dsimp only
      cases selectorAt window idiom.position <;> rfl

theorem matchWindow_congr {idioms : List Idiom} {window window' : List Instruction}
    (hfits : ∀ idiom ∈ idioms, fits idiom.shape window = fits idiom.shape window')
    (hselector : ∀ idiom ∈ idioms, fits idiom.shape window = .ok true →
      selectorAt window idiom.position = selectorAt window' idiom.position) :
    matchWindow idioms window = matchWindow idioms window' := by
  induction idioms with
  | nil => rfl
  | cons idiom rest ih =>
    simp only [List.mem_cons, forall_eq_or_imp] at hfits hselector
    rw [matchWindow, matchWindow, ← hfits.1, ih hfits.2 hselector.2]
    cases hfit : fits idiom.shape window with
    | error e => rfl
    | ok fit =>
      cases fit with
      | false => rfl
      | true => rw [hselector.1 hfit]

theorem Idiom.length_shape_le_of_known {window : List Instruction} (hlen : window.length = windowSize)
    : ∀ idiom ∈ known, idiom.shape.length ≤ window.length := by
  rw [hlen]
  decide

theorem Idiom.eq_of_fitsWindow {idiom idiom' : Idiom} {window : List Instruction}
    (hidiom : idiom ∈ known) (hidiom' : idiom' ∈ known) (hlen : 2 ≤ window.length)
    (h : idiom.fitsWindow window) (h' : idiom'.fitsWindow window) : idiom = idiom' := by
  match window, hlen with
  | i :: j :: rest, _ =>
    simp only [known, List.mem_cons, List.not_mem_nil, or_false] at hidiom hidiom'
    rcases hidiom with rfl | rfl | rfl <;> rcases hidiom' with rfl | rfl | rfl
    case inl.inl | inr.inl.inr.inl | inr.inr.inr.inr => rfl
    -- The first two places tell the known idioms apart.
    all_goals
      simp only [fitsWindow, dupEq, dupXor, loadEq, Slot.accepts, List.zip_cons_cons, List.all_cons,
        Bool.and_eq_true, beq_iff_eq] at h h'
      obtain ⟨hi, hj, -⟩ := h
      obtain ⟨hi', hj', -⟩ := h'
      simp_all [Opcode.isSelectorPush, Opcode.immediateLength]

theorem Idiom.find?_eq_some_of_known {idioms : List Idiom} {idiom : Idiom}
    {window : List Instruction} (hknown : ∀ other ∈ idioms, other ∈ known) (hidiom : idiom ∈ idioms)
    (hlen : 2 ≤ window.length) (h : idiom.fitsWindow window) :
    idioms.find? (fun idiom => idiom.fitsWindow window) = some idiom := by
  cases hfind : idioms.find? (fun idiom => idiom.fitsWindow window) with
  | none =>
    rw [List.find?_eq_none] at hfind
    exact absurd h (hfind idiom hidiom)
  | some idiom' =>
    have hidiom' := hknown idiom' (List.mem_of_find?_eq_some hfind)
    have hfits : idiom'.fitsWindow window := by simpa using List.find?_some hfind
    rw [eq_of_fitsWindow hidiom' (hknown idiom hidiom) hlen hfits h]

namespace Scan

def empty : Scan where
  selectors := .empty
  findings := []

def record (s : Scan) (f : Finding) : Scan :=
  if s.selectors.contains f.selector then
    s
  else
    { selectors := s.selectors.insert f.selector, findings := s.findings ++ [f] }

theorem selectors_record (s : Scan) (f : Finding) :
    (s.record f).selectors = s.selectors.insert f.selector := by
  unfold record
  split
  · next h =>
    unfold SelectorSet.insert
    rw [dif_pos h]
  · rfl

theorem selectors_foldl_record (s : Scan) (found : List Finding) :
    (found.foldl record s).selectors = (found.map Finding.selector).foldl .insert s.selectors := by
  induction found generalizing s with
  | nil => rfl
  | cons f found ih => rw [List.foldl_cons, ih, selectors_record, List.map_cons, List.foldl_cons]

def ofFindings (found : List Finding) : Scan :=
  found.foldl record empty

theorem toList_selectors_ofFindings (found : List Finding) :
    (ofFindings found).selectors.toList = (found.map Finding.selector).eraseDups := by
  unfold ofFindings
  rw [selectors_foldl_record, SelectorSet.toList_foldl_insert]
  rfl

theorem bytes_selectors_ofFindings (found : List Finding) :
    (ofFindings found).selectors.bytes
      =
    ((found.map Finding.selector).map Selector.bytes).eraseDups := by
  have hbytes : Function.Injective Selector.bytes := by
    intro x y
    apply Selector.bytes_injective
  unfold SelectorSet.bytes
  rw [toList_selectors_ofFindings, eraseDups_map hbytes]

theorem findings_isPrefix_foldl_record (s : Scan) (found : List Finding) :
    s.findings <+: (found.foldl record s).findings := by
  induction found generalizing s with
  | nil => apply List.prefix_refl
  | cons f found ih =>
    have hrecord : s.findings <+: (s.record f).findings := by
      unfold record
      split
      · apply List.prefix_refl
      · apply List.prefix_append
    exact hrecord.trans (ih (s.record f))

theorem findings_ofFindings_isPrefix_append (found after : List Finding) :
    (ofFindings found).findings <+: (ofFindings (found ++ after)).findings := by
  unfold ofFindings
  rw [List.foldl_append]
  apply findings_isPrefix_foldl_record

theorem bytes_selectors_ofFindings_isPrefix_append (found after : List Finding) :
    (ofFindings found).selectors.bytes <+: (ofFindings (found ++ after)).selectors.bytes := by
  rw [bytes_selectors_ofFindings, bytes_selectors_ofFindings, List.map_append, List.map_append,
    List.eraseDups_append]
  apply List.prefix_append

theorem ofFindings_append_singleton (found : List Finding) (f : Finding) :
    ofFindings (found ++ [f]) = (ofFindings found).record f := by
  unfold ofFindings
  rw [List.foldl_append]
  rfl

theorem map_selector_findings_ofFindings (found : List Finding) :
    (ofFindings found).findings.map Finding.selector = (ofFindings found).selectors.toList := by
  induction found using List.reverseRecOn with
  | nil => rfl
  | append_singleton found f ih =>
    rw [ofFindings_append_singleton, record]
    split
    · exact ih
    · next hf =>
      rw [SelectorSet.contains_iff_mem_toList] at hf
      rw [List.map_append, ih, SelectorSet.toList_insert_of_not_mem hf]
      rfl

theorem find?_of_mem_findings_ofFindings {found : List Finding} {f : Finding}
    (h : f ∈ (ofFindings found).findings) :
    found.find? (fun g => g.selector == f.selector) = some f := by
  induction found using List.reverseRecOn with
  | nil => cases h
  | append_singleton found f' ih =>
    rw [ofFindings_append_singleton, record] at h
    rw [List.find?_append]
    split at h
    · rw [ih h]
      rfl
    · next hf =>
      rw [List.mem_append, List.mem_singleton] at h
      cases h with
      | inl h =>
        rw [ih h]
        rfl
      | inr h =>
        subst h
        rw [SelectorSet.contains_iff_mem_toList, toList_selectors_ofFindings, List.mem_eraseDups] at hf
        have hnone : found.find? (fun g => g.selector == f.selector) = none := by
          rw [List.find?_eq_none]
          intro g hg heq
          apply hf
          rw [List.mem_map]
          exact ⟨g, hg, by simpa using heq⟩
        rw [hnone]
        simp

theorem size_selectors_ofFindings_le (found : List Finding) :
    (ofFindings found).selectors.size ≤ found.length := by
  have hsubset : (ofFindings found).selectors.toList ⊆ found.map Finding.selector := by
    intro x hx
    rw [toList_selectors_ofFindings, List.mem_eraseDups] at hx
    exact hx
  have hle := (List.subperm_of_subset (SelectorSet.nodup_toList _) hsubset).length_le
  rw [List.length_map] at hle
  rw [SelectorSet.size_eq_length_toList]
  exact hle

end Scan

/--
What the window at the front of a list of instructions gives. A list that is shorter than a window
gives nothing.
-/
def findingAt (idioms : List Idiom) (l : List Instruction) : Except ScanError (Option Finding) :=
  match l with
  | [] => .ok none
  | i :: rest =>
    if (i :: rest).length < windowSize then
      .ok none
    else
      match matchWindow idioms ((i :: rest).take windowSize) with
      | .error e => .error e
      | .ok none => .ok none
      | .ok (some m) =>
        match Selector.ofBytes m.selector with
        | .error n => .error (.selectorSize n)
        | .ok x => .ok (some { selector := x, idiom := m.idiom, offset := i.offset })

def findings (idioms : List Idiom) (l : List Instruction) : Except ScanError (List Finding) :=
  match l with
  | [] => .ok []
  | i :: rest =>
    match findingAt idioms (i :: rest) with
    | .error e => .error e
    | .ok f => (findings idioms rest).map (f.toList ++ ·)

theorem findings_cons_eq_ok_iff {idioms : List Idiom} {i : Instruction} {rest : List Instruction}
    {found : List Finding} :
    findings idioms (i :: rest) = .ok found
      ↔
    ∃ f after,
      findingAt idioms (i :: rest) = .ok f
        ∧ findings idioms rest = .ok after
        ∧ found = f.toList ++ after := by
  rw [findings]
  cases findingAt idioms (i :: rest) with
  | error e => simp
  | ok f =>
    cases findings idioms rest with
    | error e => simp [Except.map]
    | ok after => simp [Except.map, eq_comm]

theorem findings_cons_eq_error_iff {idioms : List Idiom} {i : Instruction} {rest : List Instruction}
    {e : ScanError} :
    findings idioms (i :: rest) = .error e
      ↔
    findingAt idioms (i :: rest) = .error e
      ∨ (∃ f, findingAt idioms (i :: rest) = .ok f) ∧ findings idioms rest = .error e := by
  rw [findings]
  cases findingAt idioms (i :: rest) with
  | error e' => simp
  | ok f => cases findings idioms rest <;> simp [Except.map]

theorem findingAt_of_length_lt {idioms : List Idiom} {l : List Instruction}
    (h : l.length < windowSize) :
    findingAt idioms l = .ok none := by
  unfold findingAt
  split
  · rfl
  · rw [if_pos h]

theorem findingAt_eq_none {l : List Instruction}
    (h : windowSize ≤ l.length → ∀ idiom ∈ Idiom.known, ¬idiom.fitsWindow (l.take windowSize)) :
    findingAt Idiom.known l = .ok none := by
  cases l with
  | nil => rfl
  | cons i rest =>
    rw [findingAt]
    split
    · rfl
    · next hlen =>
      have hwindow : ((i :: rest).take windowSize).length = windowSize := by
        rw [List.length_take]
        omega
      have hnone :
          Idiom.known.find? (fun idiom => idiom.fitsWindow ((i :: rest).take windowSize)) = none := by
        rw [List.find?_eq_none]
        exact h (by omega)
      rw [matchWindow_eq_find? (Idiom.length_shape_le_of_known hwindow), hnone]

theorem findingAt_of_matchWindow_eq_some {idioms : List Idiom} {i : Instruction}
    {rest : List Instruction} {m : Match} {x : Selector} (hlen : windowSize ≤ (i :: rest).length)
    (hm : matchWindow idioms ((i :: rest).take windowSize) = .ok (some m))
    (hx : Selector.ofBytes m.selector = .ok x) :
    findingAt idioms (i :: rest)
      =
    .ok (some { selector := x, idiom := m.idiom, offset := i.offset }) := by
  rw [findingAt, if_neg (by omega), hm]
  dsimp only
  rw [hx]

theorem findings_of_length_lt {idioms : List Idiom} {l : List Instruction}
    (h : l.length < windowSize) :
    findings idioms l = .ok [] := by
  induction l with
  | nil => rfl
  | cons i rest ih =>
    have hrest : rest.length < windowSize := by
      rw [List.length_cons] at h
      omega
    rw [findings, findingAt_of_length_lt h]
    dsimp
    rw [ih hrest]
    rfl

theorem scan.go_eq_foldl_findings (idioms : List Idiom) (l : List Instruction) (selectors : SelectorSet)
    (acc : List Finding) :
    scan.go idioms l selectors acc
      =
    (findings idioms l).map (fun found => found.foldl Scan.record ⟨selectors, acc.reverse⟩) := by
  induction l generalizing selectors acc with
  | nil => rfl
  | cons i rest ih =>
    rw [scan.go]
    split
    · next h =>
      rw [findings_of_length_lt]
      · rfl
      · rw [List.length_take] at h
        omega
    · next h =>
      rw [List.length_take] at h
      have hlen : ¬((i :: rest).length < windowSize) := by omega
      rw [findings, findingAt, if_neg hlen]
      cases matchWindow idioms ((i :: rest).take windowSize) with
      | error e => rfl
      | ok m =>
        cases m with
        | none =>
          dsimp only
          rw [ih]
          cases findings idioms rest <;> rfl
        | some m =>
          dsimp only
          cases Selector.ofBytes m.selector with
          | error n => rfl
          | ok x =>
            dsimp only
            split
            all_goals
              next hx =>
                rw [ih]
                cases findings idioms rest with
                | error e => rfl
                | ok found => simp [Except.map, Scan.record, hx]

theorem scan_eq_ofFindings (idioms : List Idiom) (l : List Instruction) :
    scan idioms l = (findings idioms l).map Scan.ofFindings := by
  unfold scan
  rw [scan.go_eq_foldl_findings]
  rfl

end EvmSelectors
