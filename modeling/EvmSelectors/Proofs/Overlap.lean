import EvmSelectors.Proofs.Opcode
import EvmSelectors.Proofs.Scan

/-!
This module contains the law that no two matches of the known idioms share an instruction. A scan that
goes on behind a match, instead of one instruction further, therefore has the same outcome.
-/

namespace EvmSelectors
namespace Slot

/--
What a place asks of the opcode, whatever the operand is.
-/
def suits : Slot → Opcode → Bool
  | opcode op, op' => op' == op
  | selectorPush, op => op.isSelectorPush
  | literalPush, op => op.isLiteralPush
  | zeroPush, op => op.immediateLength == 1

theorem suits_of_accepts {slot : Slot} {i : Instruction} (h : slot.accepts i) :
    slot.suits i.opcode := by
  cases slot with
  | zeroPush =>
    simp only [accepts, Bool.and_eq_true, beq_iff_eq] at h
    rw [suits, h.1]
    rfl
  | _ => exact h

def excludes (slot slot' : Slot) : Bool :=
  Opcode.all.all (fun op => !(slot.suits op && slot'.suits op))

theorem not_accepts_of_excludes {slot slot' : Slot} {i : Instruction} (h : slot.excludes slot')
    (hi : slot.accepts i) : ¬slot'.accepts i := by
  intro hi'
  unfold excludes at h
  rw [List.all_eq_true] at h
  have hop := h i.opcode (Opcode.mem_all i.opcode)
  simp [suits_of_accepts hi, suits_of_accepts hi'] at hop

end Slot

namespace Idiom

theorem length_shape_of_known : ∀ idiom ∈ known, idiom.shape.length = windowSize := by
  decide

theorem any_excludes_of_known
    : ∀ idiom ∈ known, ∀ idiom' ∈ known, ∀ n < windowSize, 0 < n →
        ((idiom.shape.drop n).zip idiom'.shape).any (fun p => p.1.excludes p.2) := by
  decide +kernel

theorem exists_excludes_of_known {idiom idiom' : Idiom} {n : Nat} (hidiom : idiom ∈ known)
    (hidiom' : idiom' ∈ known) (hpos : 0 < n) (hlt : n < windowSize) :
    ∃ (k : Nat) (slot slot' : Slot),
      idiom.shape[n + k]? = some slot ∧ idiom'.shape[k]? = some slot' ∧ slot.excludes slot' := by
  have hany := any_excludes_of_known idiom hidiom idiom' hidiom' n hlt hpos
  rw [List.any_eq_true] at hany
  obtain ⟨⟨slot, slot'⟩, hmem, hexcludes⟩ := hany
  obtain ⟨k, hk⟩ := List.mem_iff_getElem?.1 hmem
  rw [List.getElem?_zip_eq_some, List.getElem?_drop] at hk
  exact ⟨k, slot, slot', hk.1, hk.2, hexcludes⟩

theorem accepts_of_fitsWindow {idiom : Idiom} {window : List Instruction} {n : Nat} {slot : Slot}
    {i : Instruction} (h : idiom.fitsWindow window) (hslot : idiom.shape[n]? = some slot)
    (hi : window[n]? = some i) : slot.accepts i := by
  unfold fitsWindow at h
  rw [List.all_eq_true] at h
  apply h (slot, i)
  rw [List.mem_iff_getElem?]
  exact ⟨n, List.getElem?_zip_eq_some.2 ⟨hslot, hi⟩⟩

end Idiom

theorem length_le_of_fits_eq_true {slots : List Slot} {window : List Instruction}
    (h : fits slots window = .ok true) : slots.length ≤ window.length := by
  induction slots generalizing window with
  | nil => apply Nat.zero_le
  | cons slot slots ih =>
    cases window with
    | nil => cases h
    | cons i rest =>
      rw [fits] at h
      split at h
      · rw [List.length_cons, List.length_cons]
        have := ih h
        omega
      · cases h

theorem Idiom.fits_eq_true_iff_of_known {idiom : Idiom} {window : List Instruction}
    (hidiom : idiom ∈ known) :
    fits idiom.shape window = .ok true ↔ windowSize ≤ window.length ∧ idiom.fitsWindow window := by
  rw [← length_shape_of_known idiom hidiom]
  constructor
  · intro h
    have hlen := length_le_of_fits_eq_true h
    rw [fits_of_length_le hlen, Except.ok.injEq] at h
    exact ⟨hlen, h⟩
  · rintro ⟨hlen, h⟩
    rw [fits_of_length_le hlen, ← h]
    rfl

theorem Idiom.shape_position_of_known
    : ∀ idiom ∈ known,
        0 ≤ idiom.position ∧ idiom.shape[idiom.position.toNat]? = some .selectorPush := by
  decide

theorem Idiom.exists_selectorPush_of_fits {idiom : Idiom} {window : List Instruction}
    (hidiom : idiom ∈ known) (h : fits idiom.shape window = .ok true) :
    ∃ i, elementAt? window idiom.position = some i ∧ i.opcode.isSelectorPush := by
  obtain ⟨hnonneg, hslot⟩ := shape_position_of_known idiom hidiom
  obtain ⟨hlt, -⟩ := List.getElem?_eq_some_iff.1 hslot
  have hlen := length_le_of_fits_eq_true h
  have hi := List.getElem?_eq_getElem (Nat.lt_of_lt_of_le hlt hlen)
  refine ⟨_, ?_, accepts_of_fitsWindow ((fits_eq_true_iff_of_known hidiom).1 h).2 hslot hi⟩
  rw [elementAt?, if_pos hnonneg, hi]

/--
Whether the window at the front of a list of instructions fits a known idiom.
-/
def HasMatch (l : List Instruction) : Prop :=
  ∃ idiom ∈ Idiom.known, fits idiom.shape (l.take windowSize) = .ok true

theorem hasMatch_iff {l : List Instruction} :
    HasMatch l
      ↔
    windowSize ≤ l.length ∧ ∃ idiom ∈ Idiom.known, idiom.fitsWindow (l.take windowSize) := by
  have hlen : windowSize ≤ (l.take windowSize).length ↔ windowSize ≤ l.length := by
    rw [List.length_take]
    omega
  constructor
  · rintro ⟨idiom, hidiom, h⟩
    rw [Idiom.fits_eq_true_iff_of_known hidiom, hlen] at h
    exact ⟨h.1, idiom, hidiom, h.2⟩
  · rintro ⟨hle, idiom, hidiom, h⟩
    refine ⟨idiom, hidiom, ?_⟩
    rw [Idiom.fits_eq_true_iff_of_known hidiom, hlen]
    exact ⟨hle, h⟩

theorem HasMatch.not_hasMatch_drop {l : List Instruction} {n : Nat} (h : HasMatch l) (hpos : 0 < n)
    (hlt : n < windowSize) : ¬HasMatch (l.drop n) := by
  intro h'
  rw [hasMatch_iff] at h h'
  obtain ⟨-, idiom, hidiom, hfits⟩ := h
  obtain ⟨hlen, idiom', hidiom', hfits'⟩ := h'
  -- Some instruction would have to fit two places that exclude each other.
  obtain ⟨k, slot, slot', hslot, hslot', hexcludes⟩ :=
    Idiom.exists_excludes_of_known hidiom hidiom' hpos hlt
  obtain ⟨hbound, -⟩ := List.getElem?_eq_some_iff.1 hslot
  rw [Idiom.length_shape_of_known idiom hidiom] at hbound
  rw [List.length_drop] at hlen
  have hi : l[n + k]? = some l[n + k] := List.getElem?_eq_getElem (by omega)
  apply Slot.not_accepts_of_excludes hexcludes
  · apply Idiom.accepts_of_fitsWindow hfits hslot
    rw [List.getElem?_take_of_lt hbound]
    exact hi
  · apply Idiom.accepts_of_fitsWindow hfits' hslot'
    rw [List.getElem?_take_of_lt (by omega), List.getElem?_drop]
    exact hi

theorem HasMatch.not_hasMatch_append {l r : List Instruction} (h : HasMatch r) (hpos : 0 < l.length)
    (hlt : l.length < windowSize) : ¬HasMatch (l ++ r) := by
  intro h'
  apply h'.not_hasMatch_drop hpos hlt
  rw [List.drop_left]
  exact h

theorem findingAt_of_not_hasMatch {l : List Instruction} (h : ¬HasMatch l) :
    findingAt Idiom.known l = .ok none := by
  apply findingAt_eq_none
  intro hlen idiom hidiom hfits
  exact h (hasMatch_iff.2 ⟨hlen, idiom, hidiom, hfits⟩)

theorem hasMatch_of_findingAt_eq_some {l : List Instruction} {f : Finding}
    (h : findingAt Idiom.known l = .ok (some f)) : HasMatch l := by
  by_contra hl
  rw [findingAt_of_not_hasMatch hl] at h
  cases h

theorem hasMatch_of_matchWindow_eq_some {i : Instruction} {rest : List Instruction} {m : Match}
    {x : Selector} (hlen : ¬((i :: rest).take windowSize).length < windowSize)
    (hm : matchWindow Idiom.known ((i :: rest).take windowSize) = .ok (some m))
    (hx : Selector.ofBytes m.selector = .ok x) : HasMatch (i :: rest) := by
  rw [List.length_take] at hlen
  apply hasMatch_of_findingAt_eq_some
  exact findingAt_of_matchWindow_eq_some (by omega) hm hx

theorem findings_eq_findings_drop {l : List Instruction} {n : Nat}
    (h : ∀ k < n, ¬HasMatch (l.drop k)) :
    findings Idiom.known l = findings Idiom.known (l.drop n) := by
  induction n with
  | zero => rw [List.drop_zero]
  | succ n ih =>
    rw [ih (fun k hk => h k (by omega))]
    have hn := findingAt_of_not_hasMatch (h n (by omega))
    cases hdrop : l.drop n with
    | nil => rw [← List.drop_drop, hdrop, List.drop_nil]
    | cons i rest =>
      rw [hdrop] at hn
      rw [findings, hn, ← List.drop_drop, hdrop, List.drop_one, List.tail_cons]
      cases findings Idiom.known rest <;> rfl

theorem HasMatch.findings_tail {i : Instruction} {rest : List Instruction} (h : HasMatch (i :: rest)) :
    findings Idiom.known rest = findings Idiom.known ((i :: rest).drop windowSize) := by
  have hrest : ∀ k < windowSize - 1, ¬HasMatch (rest.drop k) := by
    intro k hk
    exact h.not_hasMatch_drop (Nat.succ_pos k) (by omega)
  exact findings_eq_findings_drop hrest

theorem findings_of_findingAt_eq_some {l : List Instruction} {f : Finding} {found : List Finding}
    (hf : findingAt Idiom.known l = .ok (some f))
    (hfound : findings Idiom.known (l.drop windowSize) = .ok found) :
    findings Idiom.known l = .ok (f :: found) := by
  cases l with
  | nil => cases hf
  | cons i rest =>
    have hmatch := hasMatch_of_findingAt_eq_some hf
    rw [findings_cons_eq_ok_iff]
    exact ⟨some f, found, hf, hmatch.findings_tail.trans hfound, rfl⟩

/--
Like `scan`, but goes on behind the window of a match.
-/
def scanDisjoint (idioms : List Idiom) (instructions : List Instruction) : Except ScanError Scan :=
  go instructions .empty []
where
  go (instructions : List Instruction) (selectors : SelectorSet) (acc : List Finding) :
      Except ScanError Scan :=
    match instructions with
    | [] => .ok { selectors, findings := acc.reverse }
    | i :: rest =>
      let window := (i :: rest).take windowSize
      if window.length < windowSize then
        .ok { selectors, findings := acc.reverse }
      else
        match matchWindow idioms window with
        | .error e => .error e
        | .ok none => go rest selectors acc
        | .ok (some m) =>
          match Selector.ofBytes m.selector with
          | .error n => .error (.selectorSize n)
          | .ok x =>
            let behind := (i :: rest).drop windowSize
            if selectors.contains x then
              go behind selectors acc
            else
              go behind (selectors.insert x)
                ({ selector := x, idiom := m.idiom, offset := i.offset } :: acc)
  termination_by instructions.length
  decreasing_by
    all_goals
      simp only [windowSize, List.drop_succ_cons, List.length_cons, List.length_drop]
      omega

theorem HasMatch.scan_go_tail {i : Instruction} {rest : List Instruction} (h : HasMatch (i :: rest))
    (selectors : SelectorSet) (acc : List Finding) :
    scan.go Idiom.known rest selectors acc
      =
    scan.go Idiom.known ((i :: rest).drop windowSize) selectors acc := by
  rw [scan.go_eq_foldl_findings, scan.go_eq_foldl_findings, h.findings_tail]

theorem scanDisjoint.go_eq_scan_go (l : List Instruction) (selectors : SelectorSet)
    (acc : List Finding) :
    scanDisjoint.go Idiom.known l selectors acc = scan.go Idiom.known l selectors acc := by
  fun_induction scanDisjoint.go Idiom.known l selectors acc with
  | case1 selectors acc => rfl
  | case2 selectors acc i rest window h =>
    rw [scan.go, if_pos h]
  | case3 selectors acc i rest window h e he =>
    rw [scan.go, if_neg h, he]
  | case4 selectors acc i rest window h hm ih =>
    rw [scan.go, if_neg h, hm]
    exact ih
  | case5 selectors acc i rest window h m hm n hn =>
    rw [scan.go, if_neg h, hm]
    dsimp only
    rw [hn]
  | case6 selectors acc i rest window h m hm x hx behind hmem ih =>
    have hmatch := hasMatch_of_matchWindow_eq_some h hm hx
    rw [scan.go, if_neg h, hm]
    dsimp only
    rw [hx]
    dsimp only
    rw [if_pos hmem, hmatch.scan_go_tail, ih]
  | case7 selectors acc i rest window h m hm x hx behind hmem ih =>
    have hmatch := hasMatch_of_matchWindow_eq_some h hm hx
    rw [scan.go, if_neg h, hm]
    dsimp only
    rw [hx]
    dsimp only
    rw [if_neg hmem, hmatch.scan_go_tail, ih]

theorem length_findings_mul_windowSize_le {l : List Instruction} {found : List Finding}
    (h : findings Idiom.known l = .ok found) : found.length * windowSize ≤ l.length := by
  match l with
  | [] =>
    cases h
    apply Nat.zero_le
  | i :: rest =>
    obtain ⟨f, after, hf, hafter, rfl⟩ := findings_cons_eq_ok_iff.1 h
    cases f with
    | none =>
      have hle := length_findings_mul_windowSize_le hafter
      rw [Option.toList_none, List.nil_append, List.length_cons]
      omega
    | some f =>
      have hmatch := hasMatch_of_findingAt_eq_some hf
      rw [hmatch.findings_tail] at hafter
      have hle := length_findings_mul_windowSize_le hafter
      have hlen := (hasMatch_iff.1 hmatch).1
      rw [List.length_drop] at hle
      rw [Option.toList_some, List.singleton_append, List.length_cons, Nat.succ_mul]
      omega
termination_by l.length
decreasing_by
  all_goals
    simp only [windowSize, List.drop_succ_cons, List.length_cons, List.length_drop]
    omega

theorem scanDisjoint_eq_scan (l : List Instruction) :
    (∀ i j, i < j → HasMatch (l.drop i) → HasMatch (l.drop j) → windowSize ≤ j - i)
      ∧ scanDisjoint Idiom.known l = scan Idiom.known l
      ∧ (∀ found, scan Idiom.known l = .ok found →
          found.selectors.size ≤ l.length / windowSize) := by
  refine ⟨?_, scanDisjoint.go_eq_scan_go l .empty [], ?_⟩
  · intro i j hij hi hj
    by_contra hlt
    have hdrop : (l.drop i).drop (j - i) = l.drop j := by
      rw [List.drop_drop]
      congr 1
      omega
    rw [← hdrop] at hj
    exact hi.not_hasMatch_drop (by omega) (by omega) hj
  · intro s hs
    rw [scan_eq_ofFindings] at hs
    cases hfound : findings Idiom.known l with
    | error e =>
      rw [hfound] at hs
      cases hs
    | ok found =>
      rw [hfound] at hs
      cases hs
      apply Nat.le_trans (Scan.size_selectors_ofFindings_le found)
      rw [Nat.le_div_iff_mul_le (by decide)]
      exact length_findings_mul_windowSize_le hfound

end EvmSelectors
