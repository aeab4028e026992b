import EvmSelectors.Log
import EvmSelectors.Proofs.Concatenation
import EvmSelectors.Proofs.DispatchBlock
import EvmSelectors.Proofs.Overlap

/-!
This module contains the laws of the scan of code that is put together from pieces. What is found in code
stays found, in its place, when more code follows, and blocks between two pieces of code are found beside
what the pieces give on their own.
-/

namespace EvmSelectors

def Finding.shift (n : Int) (f : Finding) : Finding :=
  { f with offset := f.offset + n }

theorem Slot.accepts_shift (slot : Slot) (n : Int) (i : Instruction) :
    slot.accepts (i.shift n) = slot.accepts i := by
  cases slot <;> rfl

theorem fits_map_shift (slots : List Slot) (n : Int) (window : List Instruction) :
    fits slots (window.map (.shift n)) = fits slots window := by
  induction slots generalizing window with
  | nil => rfl
  | cons slot slots ih =>
    cases window with
    | nil => rfl
    | cons i rest => rw [List.map_cons, fits, fits, Slot.accepts_shift, ih]

theorem elementAt?_map {α β : Type} (f : α → β) (l : List α) (position : Int) :
    elementAt? (l.map f) position = (elementAt? l position).map f := by
  unfold elementAt?
  split
  · apply List.getElem?_map
  · rw [List.length_map]
    split
    · apply List.getElem?_map
    · rfl

theorem selectorAt_map_shift (n : Int) (window : List Instruction) (position : Int) :
    selectorAt (window.map (.shift n)) position = selectorAt window position := by
  unfold selectorAt
  rw [elementAt?_map]
  cases elementAt? window position <;> rfl

theorem matchWindow_map_shift (idioms : List Idiom) (n : Int) (window : List Instruction) :
    matchWindow idioms (window.map (.shift n)) = matchWindow idioms window := by
  apply matchWindow_congr
  · intro idiom _
    apply fits_map_shift
  · intro idiom _ _
    apply selectorAt_map_shift

theorem findingAt_map_shift (idioms : List Idiom) (n : Int) (l : List Instruction) :
    findingAt idioms (l.map (.shift n)) = (findingAt idioms l).map (Option.map (.shift n)) := by
  cases l with
  | nil => rfl
  | cons i rest =>
    rw [List.map_cons, findingAt, findingAt, ← List.map_cons, List.length_map, ← List.map_take,
      matchWindow_map_shift]
    split
    · rfl
    · cases matchWindow idioms ((i :: rest).take windowSize) with
      | error e => rfl
      | ok m =>
        cases m with
        | none => rfl
        | some m =>
          dsimp only
          cases Selector.ofBytes m.selector <;> rfl

theorem findings_map_shift (idioms : List Idiom) (n : Int) (l : List Instruction) :
    findings idioms (l.map (.shift n)) = (findings idioms l).map (List.map (.shift n)) := by
  induction l with
  | nil => rfl
  | cons i rest ih =>
    rw [List.map_cons, findings, findings, ← List.map_cons, findingAt_map_shift, ih]
    cases findingAt idioms (i :: rest) with
    | error e => rfl
    | ok f =>
      cases f <;> cases findings idioms rest <;> rfl

theorem findingAt_append_of_length_le {idioms : List Idiom} {l : List Instruction}
    (h : windowSize ≤ l.length) (r : List Instruction) :
    findingAt idioms (l ++ r) = findingAt idioms l := by
  cases l with
  | nil => simp [windowSize] at h
  | cons i rest =>
    have htake : (i :: (rest ++ r)).take windowSize = (i :: rest).take windowSize := by
      rw [← List.cons_append, List.take_append_of_le_length h]
    have hlen : ¬(i :: (rest ++ r)).length < windowSize := by
      rw [← List.cons_append, List.length_append]
      omega
    rw [List.cons_append, findingAt, findingAt, if_neg hlen, if_neg (by omega), htake]

theorem findings_append_of_hasMatch {l r : List Instruction} {found after : List Finding}
    (h : HasMatch r) (hl : findings Idiom.known l = .ok found) (hr : findings Idiom.known r = .ok after) :
    findings Idiom.known (l ++ r) = .ok (found ++ after) := by
  induction l generalizing found with
  | nil =>
    cases hl
    exact hr
  | cons i l ih =>
    obtain ⟨f, found, hf, hfound, rfl⟩ := findings_cons_eq_ok_iff.1 hl
    rw [List.cons_append, findings_cons_eq_ok_iff, ← List.cons_append]
    refine ⟨f, found ++ after, ?_, ih hfound, List.append_assoc ..⟩
    by_cases hlen : windowSize ≤ (i :: l).length
    · rw [findingAt_append_of_length_le hlen, hf]
    · -- The window reaches into that of the match behind it, and matches do not overlap.
      have hshort : (i :: l).length < windowSize := by omega
      have hnot : ¬HasMatch (i :: l ++ r) := h.not_hasMatch_append (Nat.succ_pos l.length) hshort
      rw [findingAt_of_not_hasMatch hnot, ← hf, findingAt_of_length_lt hshort]

namespace DispatchBlock

theorem disassembleFrom_bytes_append (block : DispatchBlock) (start : Nat) (rest : Bytes) :
    disassembleFrom start (block.bytes ++ rest)
      =
    place start block.bodies ++ disassembleFrom (start + span (place start block.bodies)) rest := by
  rw [← assemble_place_bodies block start]
  apply disassembleFrom_assemble_place_append
  apply whole_of_mem_bodies

theorem findings_place_append {block : DispatchBlock} {start : Nat} {rest : List Instruction}
    {found : List Finding} (h : findings Idiom.known rest = .ok found) :
    findings Idiom.known (place start block.bodies ++ rest) = .ok (block.finding start :: found) := by
  apply findings_of_findingAt_eq_some
  · apply findingAt_of_place_isPrefix
    apply List.prefix_append
  · rw [← length_place_bodies block start, List.drop_left]
    exact h

theorem hasMatch_disassembleFrom_flatMap_append {blocks : List DispatchBlock} (h : blocks ≠ [])
    (start : Nat) (after : Bytes) :
    HasMatch (disassembleFrom start (blocks.flatMap bytes ++ after)) := by
  cases blocks with
  | nil => contradiction
  | cons block blocks =>
    rw [List.flatMap_cons, List.append_assoc, disassembleFrom_bytes_append]
    apply hasMatch_of_findingAt_eq_some
    apply findingAt_of_place_isPrefix
    apply List.prefix_append

theorem exists_findings_flatMap_append (blocks : List DispatchBlock) (start : Nat) {after : Bytes}
    {found : List Finding} (h : findings Idiom.known (disassemble after) = .ok found) :
    ∃ all,
      findings Idiom.known (disassembleFrom start (blocks.flatMap bytes ++ after)) = .ok all
        ∧ all.map Finding.selector = blocks.map selector ++ found.map Finding.selector := by
  induction blocks generalizing start with
  | nil =>
    refine ⟨found.map (.shift start), ?_, ?_⟩
    · rw [List.flatMap_nil, List.nil_append, disassembleFrom_eq_map_shift_disassemble,
        findings_map_shift, h]
      rfl
    · rw [List.map_map]
      rfl
  | cons block blocks ih =>
    obtain ⟨all, hall, hselectors⟩ := ih (start + span (place start block.bodies))
    refine ⟨block.finding start :: all, ?_, ?_⟩
    · rw [List.flatMap_cons, List.append_assoc, disassembleFrom_bytes_append]
      apply findings_place_append
      exact hall
    · rw [List.map_cons, hselectors]
      rfl

end DispatchBlock

theorem exists_findings_disassemble (code : Bytes) :
    ∃ found, findings Idiom.known (disassemble code) = .ok found := by
  obtain ⟨_, found, _, hfound, _⟩ := findings_known_of_suffix (List.suffix_refl (disassemble code))
  exact ⟨found, hfound⟩

theorem scanCode_of_findings_eq_ok {code : Bytes} {found : List Finding}
    (h : findings Idiom.known (disassemble code) = .ok found) :
    scanCode code = .ok (Scan.ofFindings found) := by
  rw [scanCode, scan_eq_ofFindings, h]
  rfl

theorem scanCode_append_dispatchBlocks {before : Bytes} {blocks : List DispatchBlock}
    (hbefore : EndsWhole before) (hblocks : blocks ≠ []) (after : Bytes) :
    ∃ foundBefore foundAfter found : Scan,
      scanCode before = .ok foundBefore
        ∧ scanCode after = .ok foundAfter
        ∧ scanCode (before ++ blocks.flatMap DispatchBlock.bytes ++ after) = .ok found
        ∧ found.selectors.bytes
            =
          (foundBefore.selectors.bytes
            ++ blocks.map (fun block => block.literal.bytes.leftpad 4 0)
            ++ foundAfter.selectors.bytes).eraseDups := by
  obtain ⟨foundBefore, hfoundBefore⟩ := exists_findings_disassemble before
  obtain ⟨foundAfter, hfoundAfter⟩ := exists_findings_disassemble after
  obtain ⟨found, hfound, hselectors⟩ :=
    DispatchBlock.exists_findings_flatMap_append blocks before.length hfoundAfter
  have hall :
      findings Idiom.known (disassemble (before ++ (blocks.flatMap DispatchBlock.bytes ++ after)))
        =
      .ok (foundBefore ++ found) := by
    rw [hbefore.disassemble_append_eq]
    apply findings_append_of_hasMatch _ hfoundBefore hfound
    exact DispatchBlock.hasMatch_disassembleFrom_flatMap_append hblocks before.length after
  rw [← List.append_assoc] at hall
  refine ⟨_, _, _, scanCode_of_findings_eq_ok hfoundBefore, scanCode_of_findings_eq_ok hfoundAfter,
    scanCode_of_findings_eq_ok hall, ?_⟩
  have hliterals : (blocks.map DispatchBlock.selector).map Selector.bytes
      = blocks.map (fun block => block.literal.bytes.leftpad 4 0) := by
    rw [List.map_map]
    congr 1
    funext block
    exact block.bytes_selector
  rw [Scan.bytes_selectors_ofFindings, Scan.bytes_selectors_ofFindings,
    Scan.bytes_selectors_ofFindings, eraseDups_eraseDups_append_eraseDups, List.map_append, hselectors]
  simp only [List.map_append, hliterals, List.append_assoc]

-- Both blocks push the same number, and the code ends within a push.
theorem scanCode_append_dispatchBlocks_repeated :
    EndsWhole [0x60, 0x80]
      ∧ ([.dupEq ⟨⟨[0xab, 0xcd], by decide, by decide⟩, by decide⟩ ⟨[0x0a], by decide, by decide⟩,
          .loadEq ⟨⟨[0x00, 0xab, 0xcd], by decide, by decide⟩, by decide⟩] : List DispatchBlock) ≠ []
      ∧ ∃ foundBefore foundAfter found : Scan,
          scanCode [0x60, 0x80] = .ok foundBefore
            ∧ scanCode [0x80, 0x63, 0x01] = .ok foundAfter
            ∧ scanCode
                ([0x60, 0x80]
                  ++ [0x80, 0x61, 0xab, 0xcd, 0x14, 0x60, 0x0a, 0x57]
                  ++ [0x62, 0x00, 0xab, 0xcd, 0x60, 0x00, 0x51, 0x14, 0x15]
                  ++ [0x80, 0x63, 0x01])
                =
              .ok found
            ∧ found.selectors.bytes
                =
              (foundBefore.selectors.bytes
                ++ [[0x00, 0x00, 0xab, 0xcd], [0x00, 0x00, 0xab, 0xcd]]
                ++ foundAfter.selectors.bytes).eraseDups := by
  have hbefore : EndsWhole [0x60, 0x80] := by decide
  refine ⟨hbefore, ?hne, scanCode_append_dispatchBlocks hbefore ?hne [0x80, 0x63, 0x01]⟩
  simp

theorem fits_append_singleton_congr {slots : List Slot} {window : List Instruction}
    {i i' : Instruction} (hlen : slots.length = window.length + 1)
    (h : ∀ slot ∈ slots.getLast?, slot.accepts i = slot.accepts i') :
    fits slots (window ++ [i]) = fits slots (window ++ [i']) := by
  induction slots generalizing window with
  | nil => rfl
  | cons slot slots ih =>
    cases window with
    | nil =>
      rw [List.length_cons, List.length_nil, Nat.add_right_cancel_iff, List.length_eq_zero_iff] at hlen
      subst hlen
      rw [List.nil_append, List.nil_append, fits, fits, h slot rfl]
      rfl
    | cons j window =>
      rw [List.length_cons, List.length_cons, Nat.add_right_cancel_iff] at hlen
      rw [List.cons_append, List.cons_append, fits, fits, ih hlen]
      intro slot' hslot'
      apply h
      rw [List.getLast?_cons, Option.mem_def.1 hslot']
      rfl

theorem elementAt?_append_left {α : Type} {l : List α} {position : Int} (hnonneg : 0 ≤ position)
    (hlt : position.toNat < l.length) (r : List α) :
    elementAt? (l ++ r) position = elementAt? l position := by
  unfold elementAt?
  rw [if_pos hnonneg, if_pos hnonneg, List.getElem?_append_left hlt]

theorem Idiom.getLast?_shape_of_known
    : ∀ idiom ∈ known, ∃ op, idiom.shape.getLast? = some (.opcode op) := by
  simp [known, dupEq, dupXor, loadEq]

theorem Idiom.position_bounds_of_known
    : ∀ idiom ∈ known, 0 ≤ idiom.position ∧ idiom.position.toNat + 1 < windowSize := by
  decide

theorem matchWindow_known_congr_last {window : List Instruction} {i i' : Instruction}
    (hlen : window.length + 1 = windowSize) (h : i.opcode = i'.opcode) :
    matchWindow Idiom.known (window ++ [i]) = matchWindow Idiom.known (window ++ [i']) := by
  apply matchWindow_congr
  · intro idiom hidiom
    apply fits_append_singleton_congr
    · rw [Idiom.length_shape_of_known idiom hidiom, hlen]
    · intro slot hslot
      obtain ⟨op, hop⟩ := Idiom.getLast?_shape_of_known idiom hidiom
      rw [hop] at hslot
      cases hslot
      rw [Slot.accepts, Slot.accepts, h]
  · intro idiom hidiom _
    obtain ⟨hnonneg, hlt⟩ := Idiom.position_bounds_of_known idiom hidiom
    unfold selectorAt
    rw [elementAt?_append_left hnonneg (by omega), elementAt?_append_left hnonneg (by omega)]

theorem findingAt_known_congr_last {window : List Instruction} {i i' : Instruction}
    (hlen : window.length + 1 = windowSize) (h : i.opcode = i'.opcode) :
    findingAt Idiom.known (window ++ [i]) = findingAt Idiom.known (window ++ [i']) := by
  cases window with
  | nil => cases hlen
  | cons j rest =>
    have htake : ∀ k, (j :: (rest ++ [k])).take windowSize = j :: rest ++ [k] := by
      intro k
      apply List.take_of_length_le
      simp only [List.length_cons, List.length_append, List.length_nil] at hlen ⊢
      omega
    rw [List.cons_append, List.cons_append, findingAt, findingAt, htake, htake,
      matchWindow_known_congr_last hlen h]
    simp only [List.length_cons, List.length_append, List.length_nil]

theorem findingAt_append_cons_of_opcode_eq {init : List Instruction} {last last' : Instruction}
    (h : last.opcode = last'.opcode) (hlen : windowSize ≤ (init ++ [last]).length)
    (after : List Instruction) :
    findingAt Idiom.known (init ++ last' :: after) = findingAt Idiom.known (init ++ [last]) := by
  have hlen' : windowSize ≤ (init ++ [last']).length := by
    rw [List.length_append] at hlen ⊢
    exact hlen
  rw [List.append_cons, findingAt_append_of_length_le hlen']
  by_cases hinit : windowSize ≤ init.length
  · rw [findingAt_append_of_length_le hinit, findingAt_append_of_length_le hinit]
  · rw [List.length_append, List.length_singleton] at hlen
    rw [findingAt_known_congr_last (by omega) h]

theorem findings_isPrefix_of_opcode_eq {init after : List Instruction} {last last' : Instruction}
    {found found' : List Finding} (h : last.opcode = last'.opcode)
    (hfound : findings Idiom.known (init ++ [last]) = .ok found)
    (hfound' : findings Idiom.known (init ++ last' :: after) = .ok found') : found <+: found' := by
  by_cases hlen : windowSize ≤ (init ++ [last]).length
  · cases init with
    | nil => simp [windowSize] at hlen
    | cons i init =>
      rw [List.cons_append, findings_cons_eq_ok_iff, ← List.cons_append] at hfound hfound'
      obtain ⟨f, found, hf, hfound, rfl⟩ := hfound
      obtain ⟨f', found', hf', hfound', rfl⟩ := hfound'
      rw [findingAt_append_cons_of_opcode_eq h hlen, hf, Except.ok.injEq] at hf'
      rw [hf', List.prefix_append_right_inj]
      exact findings_isPrefix_of_opcode_eq h hfound hfound'
  · -- The instructions before the seam are too few for a window.
    rw [findings_of_length_lt (by omega)] at hfound
    cases hfound
    apply List.nil_prefix

theorem findings_isPrefix_append {code after : Bytes} {found found' : List Finding}
    (hfound : findings Idiom.known (disassemble code) = .ok found)
    (hfound' : findings Idiom.known (disassemble (code ++ after)) = .ok found') : found <+: found' := by
  by_cases hcode : code = []
  · rw [hcode] at hfound
    cases hfound
    apply List.nil_prefix
  · obtain ⟨init, last, hlast, _, happend⟩ := exists_disassemble_append hcode after
    rw [hlast] at hfound
    rw [happend] at hfound'
    apply findings_isPrefix_of_opcode_eq _ hfound hfound'
    rfl

theorem scanCode_isPrefix_append (code after : Bytes) :
    ∃ found found' : Scan,
      scanCode code = .ok found
        ∧ scanCode (code ++ after) = .ok found'
        ∧ found.selectors.bytes <+: found'.selectors.bytes
        ∧ found.findings <+: found'.findings
        ∧ found.log <+: found'.log := by
  obtain ⟨found, hfound⟩ := exists_findings_disassemble code
  obtain ⟨found', hfound'⟩ := exists_findings_disassemble (code ++ after)
  have hprefix : found <+: found' := findings_isPrefix_append hfound hfound'
  obtain ⟨more, rfl⟩ := hprefix
  have hfindings := Scan.findings_ofFindings_isPrefix_append found more
  refine ⟨_, _, scanCode_of_findings_eq_ok hfound, scanCode_of_findings_eq_ok hfound', ?_, hfindings, ?_⟩
  · apply Scan.bytes_selectors_ofFindings_isPrefix_append
  · exact hfindings.map Finding.entry

end EvmSelectors
