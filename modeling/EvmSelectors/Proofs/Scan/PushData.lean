import EvmSelectors.Interface
import EvmSelectors.Proofs.Composition
import EvmSelectors.Proofs.Scan.Outcome

/-!
This module contains the law that the operands of `PUSH5` to `PUSH32` are never looked at. Code in which
only such operands differ is split in the same places, gives the same selectors and is of the same kind.
-/

namespace EvmSelectors

/--
Whether the opcode is one of `PUSH5` to `PUSH32`, which push more bytes than a selector has.
-/
def Opcode.isLongPush (op : Opcode) : Bool :=
  decide (5 ≤ op.immediateLength)

theorem Opcode.not_isLongPush_of_isSelectorPush {op : Opcode} (h : op.isSelectorPush) :
    ¬op.isLongPush := by
  simp only [isSelectorPush, isLongPush, decide_eq_true_eq] at h ⊢
  omega

namespace Instruction

/--
The positions of the bytes of the operand.
-/
def operandPositions (i : Instruction) : List Nat :=
  List.range' (i.offset.toNat + 1) (i.operand.getD []).length

theorem mem_operandPositions_ofBytes_iff {start p : Nat} {b : UInt8} {rest : Bytes} :
    start + p ∈ (ofBytes start b rest).operandPositions
      ↔
    0 < p ∧ p ≤ (Opcode.ofByte b).immediateLength ∧ p ≤ rest.length := by
  rw [operandPositions, operandBytes_ofBytes, offset_ofBytes, Int.toNat_natCast, List.mem_range'_1,
    List.length_take]
  omega

/--
Two instructions that differ at most in the operand bytes of a long push.
-/
structure Similar (i i' : Instruction) : Prop where
  opcode : i'.opcode = i.opcode
  offset : i'.offset = i.offset
  length : i'.operand.map List.length = i.operand.map List.length
  operand : ¬i.opcode.isLongPush → i'.operand = i.operand

theorem similar_ofBytes {b : UInt8} {rest rest' : Bytes} (hlen : rest'.length = rest.length)
    (hrest : ¬(Opcode.ofByte b).isLongPush →
      rest'.take (Opcode.ofByte b).immediateLength = rest.take (Opcode.ofByte b).immediateLength)
    (offset : Int) : Similar (ofBytes offset b rest) (ofBytes offset b rest') := by
  constructor
  · rfl
  · rfl
  · rw [operand_ofBytes, operand_ofBytes]
    split
    · rfl
    · simp [hlen]
  · intro hlong
    rw [operand_ofBytes, operand_ofBytes, hrest hlong]

end Instruction

/--
Whether the byte at a position is one of the operand of a long push.
-/
def IsLongPushData (l : List Instruction) (p : Nat) : Prop :=
  ∃ i ∈ l, i.opcode.isLongPush ∧ p ∈ i.operandPositions

instance (l : List Instruction) (p : Nat) : Decidable (IsLongPushData l p) :=
  inferInstanceAs (Decidable (∃ i ∈ l, i.opcode.isLongPush ∧ p ∈ i.operandPositions))

theorem lt_of_isLongPushData {start p : Nat} {code : Bytes}
    (h : IsLongPushData (disassembleFrom start code) p) : start < p := by
  obtain ⟨i, hi, -, hp⟩ := h
  have hle := (wellFormed_disassembleFrom start code).le_offset i hi
  rw [Instruction.operandPositions, List.mem_range'_1] at hp
  omega

section

variable {start : Nat} {b b' : UInt8} {rest rest' : Bytes}

theorem isLongPushData_cons_iff {p : Nat} :
    IsLongPushData (disassembleFrom start (b :: rest)) (start + p)
      ↔
    ((Opcode.ofByte b).isLongPush
        ∧ 0 < p
        ∧ p ≤ (Opcode.ofByte b).immediateLength
        ∧ p ≤ rest.length)
      ∨ ((Opcode.ofByte b).immediateLength < p
        ∧ IsLongPushData
            (disassembleFrom (start + 1 + (Opcode.ofByte b).immediateLength)
              (rest.drop (Opcode.ofByte b).immediateLength))
            (start + p)) := by
  rw [and_iff_right_of_imp (a := (Opcode.ofByte b).immediateLength < p)]
  · unfold IsLongPushData
    simp only [disassembleFrom_cons, List.mem_cons, exists_eq_or_imp, Instruction.opcode_ofBytes,
      Instruction.mem_operandPositions_ofBytes_iff]
  · intro h
    have hlt := lt_of_isLongPushData h
    omega

/--
What a difference in nothing but the data of long pushes means for the first instruction and for the code
behind it.
-/
theorem differ_cons
    (h : ∀ p, (b' :: rest')[p]? ≠ (b :: rest)[p]? →
      IsLongPushData (disassembleFrom start (b :: rest)) (start + p)) :
    b' = b
      ∧ (¬(Opcode.ofByte b).isLongPush →
          rest'.take (Opcode.ofByte b).immediateLength = rest.take (Opcode.ofByte b).immediateLength)
      ∧ ∀ p,
          (rest'.drop (Opcode.ofByte b).immediateLength)[p]?
              ≠ (rest.drop (Opcode.ofByte b).immediateLength)[p]? →
            IsLongPushData
              (disassembleFrom (start + 1 + (Opcode.ofByte b).immediateLength)
                (rest.drop (Opcode.ofByte b).immediateLength))
              (start + 1 + (Opcode.ofByte b).immediateLength + p) := by
  simp only [isLongPushData_cons_iff] at h
  refine ⟨?_, ?_, ?_⟩
  · by_contra hne
    have hdata := h 0 (by simpa using hne)
    omega
  · intro hlong
    apply List.ext_getElem?
    intro p
    rw [List.getElem?_take, List.getElem?_take]
    split
    · by_contra hne
      rcases h (p + 1) (by simpa using hne) with ⟨hlong', -⟩ | ⟨hlt, -⟩
      · exact hlong hlong'
      · omega
    · rfl
  · intro p hne
    rw [List.getElem?_drop, List.getElem?_drop] at hne
    rcases h (_ + p + 1) (by simpa using hne) with ⟨-, -, hle, -⟩ | ⟨-, hdata⟩
    · omega
    · have hp : start + ((Opcode.ofByte b).immediateLength + p + 1)
          = start + 1 + (Opcode.ofByte b).immediateLength + p := by
        omega
      rw [← hp]
      exact hdata

end

theorem forall₂_similar_disassembleFrom {start : Nat} {code code' : Bytes}
    (hlen : code'.length = code.length)
    (h : ∀ p, code'[p]? ≠ code[p]? → IsLongPushData (disassembleFrom start code) (start + p)) :
    List.Forall₂ Instruction.Similar (disassembleFrom start code) (disassembleFrom start code') := by
  induction start, code using disassembleFrom.induct generalizing code' with
  | case1 start =>
    rw [List.length_nil, List.length_eq_zero_iff] at hlen
    rw [hlen, disassembleFrom_nil]
    apply List.Forall₂.nil
  | case2 start b rest n =>
    next ih =>
    cases code' with
    | nil => cases hlen
    | cons b' rest' =>
      rw [List.length_cons, List.length_cons, Nat.add_right_cancel_iff] at hlen
      obtain ⟨rfl, htake, hdrop⟩ := differ_cons h
      rw [disassembleFrom_cons, disassembleFrom_cons]
      apply List.Forall₂.cons
      · apply Instruction.similar_ofBytes hlen htake
      · apply ih _ hdrop
        rw [List.length_drop, List.length_drop, hlen]

theorem Slot.accepts_of_similar {i i' : Instruction} (h : i.Similar i') (slot : Slot) :
    slot.accepts i' = slot.accepts i := by
  cases slot with
  | zeroPush =>
    by_cases hop : i.opcode = .push 1
    · have hlong : ¬i.opcode.isLongPush := by
        rw [hop]
        decide
      rw [accepts, accepts, h.opcode, h.operand hlong]
    · have hop' : (i.opcode == .push 1) = false := by simpa using hop
      rw [accepts, accepts, h.opcode, hop', Bool.false_and, Bool.false_and]
  | opcode op | selectorPush | literalPush => rw [accepts, accepts, h.opcode]

variable {window window' : List Instruction}

theorem fits_of_similar (h : List.Forall₂ Instruction.Similar window window') (slots : List Slot) :
    fits slots window' = fits slots window := by
  induction slots generalizing window window' with
  | nil => rfl
  | cons slot slots ih =>
    cases h with
    | nil => rfl
    | cons hi hrest => rw [fits, fits, Slot.accepts_of_similar hi, ih hrest]

theorem exists_elementAt?_of_forall₂ {α : Type} {R : α → α → Prop} {l l' : List α} {position : Int}
    {x : α} (h : List.Forall₂ R l l') (hx : elementAt? l position = some x) :
    ∃ x', elementAt? l' position = some x' ∧ R x x' := by
  obtain ⟨hlen, hrel⟩ := List.forall₂_iff_get.1 h
  have hget : ∀ n : Nat, l[n]? = some x → ∃ x', l'[n]? = some x' ∧ R x x' := by
    intro n hn
    obtain ⟨hlt, rfl⟩ := List.getElem?_eq_some_iff.1 hn
    refine ⟨_, List.getElem?_eq_getElem (by omega), ?_⟩
    apply hrel
  unfold elementAt? at hx ⊢
  rw [← hlen]
  split
  · next hnonneg =>
    rw [if_pos hnonneg] at hx
    exact hget _ hx
  · next hneg =>
    rw [if_neg hneg] at hx
    split
    · next hle =>
      rw [if_pos hle] at hx
      exact hget _ hx
    · next hle =>
      rw [if_neg hle] at hx
      cases hx

theorem selectorAt_of_similar {idiom : Idiom} (hidiom : idiom ∈ Idiom.known)
    (h : List.Forall₂ Instruction.Similar window window')
    (hfits : fits idiom.shape window = .ok true) :
    selectorAt window' idiom.position = selectorAt window idiom.position := by
  obtain ⟨i, hi, hselector⟩ := Idiom.exists_selectorPush_of_fits hidiom hfits
  obtain ⟨i', hi', hsimilar⟩ := exists_elementAt?_of_forall₂ h hi
  unfold selectorAt
  rw [hi, hi']
  dsimp only
  rw [hsimilar.operand (Opcode.not_isLongPush_of_isSelectorPush hselector)]

theorem matchWindow_known_of_similar (h : List.Forall₂ Instruction.Similar window window') :
    matchWindow Idiom.known window' = matchWindow Idiom.known window := by
  symm
  apply matchWindow_congr
  · intro idiom _
    rw [fits_of_similar h]
  · intro idiom hidiom hfits
    rw [selectorAt_of_similar hidiom h hfits]

theorem scan_known_of_similar {l l' : List Instruction} (h : List.Forall₂ Instruction.Similar l l') :
    scan Idiom.known l' = scan Idiom.known l := by
  apply scan_congr
  · symm
    rw [← List.forall₂_eq_eq_eq, List.forall₂_map_left_iff, List.forall₂_map_right_iff]
    apply h.imp
    intro i i' hi
    exact hi.offset.symm
  · intro start _
    apply matchWindow_known_of_similar
    apply List.forall₂_take
    apply List.forall₂_drop
    exact h

/--
Whatever the operands of long pushes hold, even whole dispatch blocks, makes no difference.
-/
theorem scanCode_eq_of_differ_in_longPushData {code code' : Bytes}
    (hlen : code'.length = code.length)
    (h : ∀ p, code'[p]? ≠ code[p]? → IsLongPushData (disassemble code) p) :
    (disassemble code').map (fun i => (i.opcode, i.offset, i.operand.map List.length))
        =
      (disassemble code).map (fun i => (i.opcode, i.offset, i.operand.map List.length))
      ∧ ∃ found kind,
          (scanCode code = .ok found ∧ scanCode code' = .ok found)
            ∧ classifyCode code = .ok kind
            ∧ classifyCode code' = .ok kind := by
  have hsimilar : List.Forall₂ Instruction.Similar (disassemble code) (disassemble code') := by
    rw [disassemble_eq_disassembleFrom] at h ⊢
    rw [disassemble_eq_disassembleFrom]
    apply forall₂_similar_disassembleFrom hlen
    simpa using h
  constructor
  · rw [← List.forall₂_eq_eq_eq, List.forall₂_map_left_iff, List.forall₂_map_right_iff]
    apply hsimilar.flip.imp
    intro i' i hi
    rw [hi.opcode, hi.offset, hi.length]
  · obtain ⟨found, hfound⟩ := exists_findings_disassemble code
    have hscan := scanCode_of_findings_eq_ok hfound
    have hscan' : scanCode code' = .ok (.ofFindings found) := by
      rw [← hscan]
      exact scan_known_of_similar hsimilar
    exact ⟨_, _, ⟨hscan, hscan'⟩, classifyCode_of_scanCode_eq_ok hscan,
      classifyCode_of_scanCode_eq_ok hscan'⟩

-- The operand of the first push spells a dispatch block, and the end of the code cuts the last one short.
theorem scanCode_eq_of_differ_in_longPushData_blocks :
    let block : Bytes := [0x80, 0x63, 0x01, 0x02, 0x03, 0x04, 0x14, 0x60, 0x00, 0x57]
    let code : Bytes := 0x69 :: List.replicate 10 0x00 ++ block ++ [0x7f, 0xaa]
    let code' : Bytes :=
      0x69 :: [0x80, 0x63, 0xa9, 0x05, 0x9c, 0xbb, 0x14, 0x60, 0x00, 0x57] ++ block ++ [0x7f, 0xbb]
    (∀ p, code'[p]? ≠ code[p]? → IsLongPushData (disassemble code) p)
      ∧ (scanCode code').map (fun found => found.selectors.bytes) = .ok [[0x01, 0x02, 0x03, 0x04]]
      ∧ ∃ found kind,
          (scanCode code = .ok found ∧ scanCode code' = .ok found)
            ∧ classifyCode code = .ok kind
            ∧ classifyCode code' = .ok kind := by
  intro block code code'
  have hlen : code'.length = code.length := by rfl
  have h : ∀ p, code'[p]? ≠ code[p]? → IsLongPushData (disassemble code) p := by
    intro p hne
    by_cases hp : p < code.length
    · have hdata : ∀ p < code.length, code'[p]? ≠ code[p]? → IsLongPushData (disassemble code) p := by
        decide +kernel
      exact hdata p hp hne
    · rw [List.getElem?_eq_none (by omega), List.getElem?_eq_none (by omega)] at hne
      contradiction
  exact ⟨h, by decide +kernel, (scanCode_eq_of_differ_in_longPushData hlen h).2⟩

end EvmSelectors
