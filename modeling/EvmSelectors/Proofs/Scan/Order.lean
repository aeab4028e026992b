import EvmSelectors.Proofs.Overlap
import EvmSelectors.Proofs.Scan.Outcome

/-!
This module contains the law that the known idioms exclude each other. What a window gives, be it a match
or an error, and what the scan reports do not depend on the order in which the idioms are tried.
-/

namespace EvmSelectors

variable {idioms : List Idiom} {window : List Instruction}

theorem fits_of_length_lt {slots : List Slot} (h : window.length < slots.length) :
    fits slots window
      =
    if (slots.zip window).all (fun p => p.1.accepts p.2) then .error .windowEnd else .ok false := by
  induction slots generalizing window with
  | nil => cases h
  | cons slot slots ih =>
    cases window with
    | nil => rfl
    | cons i rest =>
      rw [List.length_cons, List.length_cons, Nat.add_lt_add_iff_right] at h
      rw [fits, ih h, List.zip_cons_cons, List.all_cons]
      cases slot.accepts i <;> rfl

theorem matchWindow_of_length_lt (h : ∀ idiom ∈ idioms, window.length < idiom.shape.length) :
    matchWindow idioms window
      =
    if idioms.any (fun idiom => idiom.fitsWindow window) then .error .windowEnd else .ok none := by
  induction idioms with
  | nil => rfl
  | cons idiom rest ih =>
    simp only [List.mem_cons, forall_eq_or_imp] at h
    rw [matchWindow, fits_of_length_lt h.1, ih h.2, List.any_cons, Idiom.fitsWindow]
    cases (idiom.shape.zip window).all (fun p => p.1.accepts p.2) <;> rfl

/--
All that a window can give, with no regard to the order in which the known idioms are tried.
-/
inductive Matching (window : List Instruction) : Except ScanError (Option Match) → Prop where
  | ended {idiom : Idiom} (hidiom : idiom ∈ Idiom.known) (hlen : window.length < windowSize)
      (hfits : idiom.fitsWindow window) : Matching window (.error .windowEnd)
  | unmatched (hfits : ∀ idiom ∈ Idiom.known, ¬idiom.fitsWindow window) : Matching window (.ok none)
  | noOperand {idiom : Idiom} {i : Instruction} (hidiom : idiom ∈ Idiom.known)
      (hfits : fits idiom.shape window = .ok true)
      (hi : elementAt? window idiom.position = some i) (hoperand : i.operand = none) :
      Matching window (.error .noOperand)
  | matched {idiom : Idiom} {i : Instruction} {literal : Bytes} (hidiom : idiom ∈ Idiom.known)
      (hfits : fits idiom.shape window = .ok true)
      (hi : elementAt? window idiom.position = some i) (hoperand : i.operand = some literal) :
      Matching window (.ok (some { idiom := idiom.name, selector := Selector.padLiteral literal }))

section

variable (h : idioms.Perm Idiom.known)

include h

theorem Idiom.length_shape_of_perm : ∀ idiom ∈ idioms, idiom.shape.length = windowSize := by
  intro idiom hidiom
  apply length_shape_of_known
  rw [← h.mem_iff]
  exact hidiom

theorem Idiom.length_shape_le_of_perm (hlen : windowSize ≤ window.length)
    : ∀ idiom ∈ idioms, idiom.shape.length ≤ window.length := by
  intro idiom hidiom
  rw [length_shape_of_perm h idiom hidiom]
  exact hlen

theorem matchWindow_of_perm_of_length_lt (hlen : window.length < windowSize) :
    matchWindow idioms window
      =
    if Idiom.known.any (fun idiom => idiom.fitsWindow window) then .error .windowEnd else .ok none := by
  rw [matchWindow_of_length_lt, h.any_eq]
  intro idiom hidiom
  rw [Idiom.length_shape_of_perm h idiom hidiom]
  exact hlen

theorem matching_matchWindow (window : List Instruction) :
    Matching window (matchWindow idioms window) := by
  by_cases hlen : windowSize ≤ window.length
  · rw [matchWindow_eq_find? (Idiom.length_shape_le_of_perm h hlen)]
    cases hfind : idioms.find? (fun idiom => idiom.fitsWindow window) with
    | none =>
      apply Matching.unmatched
      intro idiom hidiom
      rw [← h.mem_iff] at hidiom
      exact List.find?_eq_none.1 hfind idiom hidiom
    | some idiom =>
      have hidiom := h.mem_iff.1 (List.mem_of_find?_eq_some hfind)
      have hfitsWindow : idiom.fitsWindow window := by simpa using List.find?_some hfind
      have hfits := (Idiom.fits_eq_true_iff_of_known hidiom).2 ⟨hlen, hfitsWindow⟩
      obtain ⟨i, hi, -⟩ := Idiom.exists_selectorPush_of_fits hidiom hfits
      dsimp only
      rw [selectorAt, hi]
      dsimp only
      cases hoperand : i.operand with
      | none => exact .noOperand hidiom hfits hi hoperand
      | some literal => exact .matched hidiom hfits hi hoperand
  · rw [matchWindow_of_perm_of_length_lt h (by omega)]
    split
    · next hany =>
      obtain ⟨idiom, hidiom, hfits⟩ := List.any_eq_true.1 hany
      exact .ended hidiom (by omega) hfits
    · next hany =>
      apply Matching.unmatched
      intro idiom hidiom hfits
      exact hany (List.any_eq_true.2 ⟨idiom, hidiom, hfits⟩)

theorem Idiom.find?_eq_some_of_perm {idiom : Idiom} (hidiom : idiom ∈ known)
    (hfits : fits idiom.shape window = .ok true) :
    idioms.find? (fun idiom => idiom.fitsWindow window) = some idiom := by
  obtain ⟨hlen, hfits⟩ := (fits_eq_true_iff_of_known hidiom).1 hfits
  apply find?_eq_some_of_known
  · intro other hother
    exact h.mem_iff.1 hother
  · exact h.mem_iff.2 hidiom
  · exact Nat.le_trans (by decide) hlen
  · exact hfits

theorem Matching.matchWindow_eq {r : Except ScanError (Option Match)} (hmatching : Matching window r) :
    matchWindow idioms window = r := by
  cases hmatching with
  | ended hidiom hlen hfits =>
    rw [matchWindow_of_perm_of_length_lt h hlen, if_pos]
    exact List.any_eq_true.2 ⟨_, hidiom, hfits⟩
  | unmatched hfits =>
    by_cases hlen : windowSize ≤ window.length
    · have hnone : idioms.find? (fun idiom => idiom.fitsWindow window) = none := by
        rw [List.find?_eq_none]
        intro idiom hidiom
        apply hfits
        exact h.mem_iff.1 hidiom
      rw [matchWindow_eq_find? (Idiom.length_shape_le_of_perm h hlen), hnone]
    · rw [matchWindow_of_perm_of_length_lt h (by omega), if_neg]
      simpa using hfits
  | noOperand hidiom hfits hi hoperand | matched hidiom hfits hi hoperand =>
    have hlen := ((Idiom.fits_eq_true_iff_of_known hidiom).1 hfits).1
    rw [matchWindow_eq_find? (Idiom.length_shape_le_of_perm h hlen),
      Idiom.find?_eq_some_of_perm h hidiom hfits]
    dsimp only
    rw [selectorAt, hi]
    dsimp only
    rw [hoperand]
    rfl

end

theorem Idiom.eq_of_fits {idiom idiom' : Idiom} (hidiom : idiom ∈ known) (hidiom' : idiom' ∈ known)
    (hfits : fits idiom.shape window = .ok true) (hfits' : fits idiom'.shape window = .ok true) :
    idiom = idiom' := by
  rw [fits_eq_true_iff_of_known hidiom] at hfits
  rw [fits_eq_true_iff_of_known hidiom'] at hfits'
  exact eq_of_fitsWindow hidiom hidiom' (Nat.le_trans (by decide) hfits.1) hfits.2 hfits'.2

theorem matchWindow_of_perm (h : idioms.Perm Idiom.known) (window : List Instruction) :
    matchWindow idioms window = matchWindow Idiom.known window := by
  apply Matching.matchWindow_eq h
  exact matching_matchWindow (.refl _) window

theorem scan_of_perm (h : idioms.Perm Idiom.known) (l : List Instruction) :
    scan idioms l = scan Idiom.known l := by
  apply scan_congr rfl
  intro start _
  apply matchWindow_of_perm h

/--
No window fits two known idioms, so that neither the match nor the error of a window depends on the order
in which they are tried, and the outcome of the scan does not either.
-/
theorem matchWindow_and_scan_of_perm {idioms : List Idiom} (h : idioms.Perm Idiom.known) :
    (∀ window,
        matchWindow idioms window = matchWindow Idiom.known window
          ∧ (∀ idiom ∈ Idiom.known, ∀ idiom' ∈ Idiom.known,
              fits idiom.shape window = .ok true → fits idiom'.shape window = .ok true → idiom = idiom')
          ∧ (matchWindow idioms window = .error .windowEnd
                ↔
              window.length < 5 ∧ ∃ idiom ∈ Idiom.known, idiom.fitsWindow window)
          ∧ (matchWindow idioms window = .error .noOperand
                ↔
              ∃ idiom ∈ Idiom.known,
                fits idiom.shape window = .ok true
                  ∧ ∃ i, elementAt? window idiom.position = some i ∧ i.operand = none)
          ∧ (∀ e, matchWindow idioms window = .error e → e = .windowEnd ∨ e = .noOperand)
          ∧ ∀ m,
              matchWindow idioms window = .ok (some m)
                ↔
              ∃ idiom ∈ Idiom.known,
                fits idiom.shape window = .ok true
                  ∧ m.idiom = idiom.name
                  ∧ ∃ i literal,
                      elementAt? window idiom.position = some i
                        ∧ i.operand = some literal
                        ∧ m.selector = Selector.padLiteral literal)
      ∧ ∀ l, scan idioms l = scan Idiom.known l := by
  refine ⟨?_, scan_of_perm h⟩
  intro window
  have hmatching := matching_matchWindow h window
  refine ⟨matchWindow_of_perm h window, ?_, ?_, ?_, ?_, ?_⟩
  · intro idiom hidiom idiom' hidiom'
    apply Idiom.eq_of_fits hidiom hidiom'
  · constructor
    · intro he
      rw [he] at hmatching
      cases hmatching with
      | ended hidiom hlen hfits => exact ⟨hlen, _, hidiom, hfits⟩
    · rintro ⟨hlen, idiom, hidiom, hfits⟩
      exact (Matching.ended hidiom hlen hfits).matchWindow_eq h
  · constructor
    · intro he
      rw [he] at hmatching
      cases hmatching with
      | noOperand hidiom hfits hi hoperand => exact ⟨_, hidiom, hfits, _, hi, hoperand⟩
    · rintro ⟨idiom, hidiom, hfits, i, hi, hoperand⟩
      exact (Matching.noOperand hidiom hfits hi hoperand).matchWindow_eq h
  · intro e he
    rw [he] at hmatching
    cases hmatching with
    | ended => simp
    | noOperand => simp
  · intro m
    constructor
    · intro hm
      rw [hm] at hmatching
      cases hmatching with
      | matched hidiom hfits hi hoperand => exact ⟨_, hidiom, hfits, rfl, _, _, hi, hoperand, rfl⟩
    · obtain ⟨name, selector⟩ := m
      rintro ⟨idiom, hidiom, hfits, rfl, i, literal, hi, hoperand, rfl⟩
      exact (Matching.matched hidiom hfits hi hoperand).matchWindow_eq h

-- One window ends within an idiom, and the other one fits an idiom but has no operand to take.
theorem matchWindow_and_scan_of_perm_reversed :
    let short : List Instruction := [⟨.push 4, 0, some [1, 2, 3, 4]⟩, ⟨.push 1, 5, some [0]⟩]
    let bare : List Instruction :=
      [⟨.push 4, 0, none⟩, ⟨.dup 1, 5, none⟩, ⟨.xor, 6, none⟩, ⟨.push 1, 7, some [9]⟩,
        ⟨.jumpi, 9, none⟩]
    Idiom.known.reverse.Perm Idiom.known
      ∧ Idiom.known.reverse ≠ Idiom.known
      ∧ matchWindow Idiom.known.reverse short = .error .windowEnd
      ∧ matchWindow Idiom.known.reverse bare = .error .noOperand
      ∧ scan Idiom.known.reverse bare = scan Idiom.known bare := by
  intro short bare
  have hperm := List.reverse_perm Idiom.known
  obtain ⟨hwindow, hscan⟩ := matchWindow_and_scan_of_perm hperm
  obtain ⟨-, -, hended, -⟩ := hwindow short
  obtain ⟨-, -, -, hbare, -⟩ := hwindow bare
  refine ⟨hperm, by decide, hended.2 ⟨by decide, .loadEq, by decide, by decide⟩, ?_, hscan bare⟩
  exact hbare.2 ⟨.dupXor, by decide, by decide, _, rfl, rfl⟩

end EvmSelectors
