import Mathlib.Data.List.Chain
import EvmSelectors.Instruction.Basic
import EvmSelectors.Proofs.Opcode

/-!
This module contains the laws of the disassembly of a byte string. Its instructions cover the bytes from
the first to the last, each of them once, and no other list of instructions does so.
-/

namespace EvmSelectors

attribute [ext] Instruction

namespace Instruction

def width (i : Instruction) : Nat :=
  1 + (i.operand.getD []).length

def positions (i : Instruction) : List Nat :=
  List.range' i.offset.toNat i.width

def Complete (i : Instruction) : Prop :=
  (i.operand.getD []).length = i.opcode.immediateLength

structure WellFormed (i : Instruction) : Prop where
  opcode : i.opcode ≠ .difficulty
  operand : i.operand = none ↔ i.opcode.immediateLength = 0
  length_le : ∀ bytes ∈ i.operand, bytes.length ≤ i.opcode.immediateLength

theorem complete_iff {i : Instruction} (h : i.operand = none ↔ i.opcode.immediateLength = 0) :
    i.Complete ↔ ∀ bytes ∈ i.operand, bytes.length = i.opcode.immediateLength := by
  unfold Complete
  cases hi : i.operand with
  | none => simp [h.1 hi]
  | some bytes => simp

@[simp]
theorem opcode_ofBytes (offset : Int) (b : UInt8) (rest : Bytes) :
    (ofBytes offset b rest).opcode = Opcode.ofByte b := by
  rfl

@[simp]
theorem offset_ofBytes (offset : Int) (b : UInt8) (rest : Bytes) :
    (ofBytes offset b rest).offset = offset := by
  rfl

theorem operand_ofBytes (offset : Int) (b : UInt8) (rest : Bytes) :
    (ofBytes offset b rest).operand =
      if (Opcode.ofByte b).immediateLength = 0 then
        none
      else
        some (rest.take (Opcode.ofByte b).immediateLength) := by
  rfl

@[simp]
theorem operandBytes_ofBytes (offset : Int) (b : UInt8) (rest : Bytes) :
    (ofBytes offset b rest).operand.getD [] = rest.take (Opcode.ofByte b).immediateLength := by
  rw [operand_ofBytes]
  split
  · next h => simp [h]
  · rfl

theorem operand_ofBytes_eq_none_iff {offset : Int} {b : UInt8} {rest : Bytes} :
    (ofBytes offset b rest).operand = none ↔ (Opcode.ofByte b).immediateLength = 0 := by
  rw [operand_ofBytes]
  split
  · next h => simp [h]
  · next h => simp [h]

theorem wellFormed_ofBytes (offset : Int) (b : UInt8) (rest : Bytes) :
    (ofBytes offset b rest).WellFormed := by
  constructor
  · apply Opcode.ofByte_ne_difficulty
  · exact operand_ofBytes_eq_none_iff
  · intro bytes hbytes
    rw [operand_ofBytes] at hbytes
    split at hbytes
    · cases hbytes
    · cases hbytes
      exact List.length_take_le ..

theorem complete_ofBytes_iff {offset : Int} {b : UInt8} {rest : Bytes} :
    (ofBytes offset b rest).Complete ↔ (Opcode.ofByte b).immediateLength ≤ rest.length := by
  unfold Complete
  rw [operandBytes_ofBytes, opcode_ofBytes, List.length_take]
  omega

end Instruction

def disassembleFrom (offset : Nat) (code : Bytes) : List Instruction :=
  match code with
  | [] => []
  | b :: rest =>
    let n := (Opcode.ofByte b).immediateLength
    Instruction.ofBytes offset b rest :: disassembleFrom (offset + 1 + n) (rest.drop n)
termination_by code.length
decreasing_by
  simp only [List.length_cons, List.length_drop]
  omega

@[simp]
theorem disassembleFrom_nil (offset : Nat) : disassembleFrom offset [] = [] := by
  rw [disassembleFrom]

theorem disassembleFrom_cons (offset : Nat) (b : UInt8) (rest : Bytes) :
    disassembleFrom offset (b :: rest) =
      Instruction.ofBytes offset b rest ::
        disassembleFrom (offset + 1 + (Opcode.ofByte b).immediateLength)
          (rest.drop (Opcode.ofByte b).immediateLength) := by
  rw [disassembleFrom]

theorem disassemble_go_eq_disassembleFrom (offset : Nat) (code : Bytes) :
    disassemble.go code 0 offset [] = disassembleFrom offset code := by
  fun_induction disassembleFrom offset code with
  | case1 offset => apply disassemble.go_nil
  | case2 offset b rest n ih =>
    rw [disassemble.go_cons, ← ih]
    simp [Instruction.next, n]

theorem disassemble_eq_disassembleFrom (code : Bytes) : disassemble code = disassembleFrom 0 code := by
  apply disassemble_go_eq_disassembleFrom

theorem disassembleFrom_ne_nil {offset : Nat} {code : Bytes} :
    disassembleFrom offset code ≠ [] ↔ code ≠ [] := by
  cases code with
  | nil => simp
  | cons b rest => simp [disassembleFrom_cons]

theorem eq_disassembleFrom_of_suffix {offset : Nat} {code : Bytes} {l : List Instruction}
    (h : l <:+ disassembleFrom offset code) :
    ∃ n, l = disassembleFrom (offset + n) (code.drop n) := by
  fun_induction disassembleFrom offset code with
  | case1 offset =>
    rw [List.suffix_nil] at h
    exact ⟨0, by simp [h]⟩
  | case2 offset b rest n ih =>
    rw [List.suffix_cons_iff] at h
    cases h with
    | inl h =>
      rw [← disassembleFrom_cons] at h
      exact ⟨0, h⟩
    | inr h =>
      obtain ⟨m, hm⟩ := ih h
      refine ⟨n + m + 1, ?_⟩
      rw [hm, List.drop_drop, List.drop_succ_cons]
      congr 1
      omega

theorem eq_ofBytes_of_mem_disassemble {code : Bytes} {i : Instruction} (h : i ∈ disassemble code) :
    ∃ (p : Nat) (b : UInt8) (rest : Bytes),
      code.drop p = b :: rest ∧ i = Instruction.ofBytes p b rest := by
  rw [disassemble_eq_disassembleFrom] at h
  obtain ⟨before, after, hl⟩ := List.append_of_mem h
  obtain ⟨p, hp⟩ := eq_disassembleFrom_of_suffix ⟨before, hl.symm⟩
  rw [Nat.zero_add] at hp
  cases hcode : code.drop p with
  | nil => simp [hcode] at hp
  | cons b rest =>
    rw [hcode, disassembleFrom_cons, List.cons.injEq] at hp
    exact ⟨p, b, rest, hcode, hp.1⟩

structure Consecutive (start : Nat) (l : List Instruction) : Prop where
  first : ∀ i ∈ l.head?, i.offset = start
  next : l.IsChain (fun i j => j.offset = i.next)

theorem consecutive_nil (start : Nat) : Consecutive start [] := by
  constructor
  · simp
  · exact List.IsChain.nil

theorem consecutive_cons_iff {start : Nat} {i : Instruction} {l : List Instruction} :
    Consecutive start (i :: l)
      ↔
    i.offset = start ∧ Consecutive (start + 1 + i.opcode.immediateLength) l := by
  constructor
  · intro h
    have hi : i.offset = start := h.first i rfl
    refine ⟨hi, ?_, h.next.tail⟩
    intro j hj
    have hnext := h.next
    rw [List.isChain_cons] at hnext
    rw [hnext.1 j hj, Instruction.next, hi]
    omega
  · rintro ⟨hi, h⟩
    constructor
    · intro j hj
      cases hj
      exact hi
    · rw [List.isChain_cons]
      refine ⟨?_, h.next⟩
      intro j hj
      rw [h.first j hj, Instruction.next, hi]
      omega

theorem Consecutive.le_offset {start : Nat} {l : List Instruction} (h : Consecutive start l)
    : ∀ i ∈ l, start ≤ i.offset := by
  induction l generalizing start with
  | nil => simp
  | cons j l ih =>
    rw [consecutive_cons_iff] at h
    intro i hi
    cases hi with
    | head => omega
    | tail _ hi =>
      have := ih h.2 i hi
      omega

theorem Consecutive.offset_lt {start : Nat} {l : List Instruction} (h : Consecutive start l) :
    l.Pairwise (fun i j => i.offset < j.offset) := by
  induction l generalizing start with
  | nil => exact List.Pairwise.nil
  | cons i l ih =>
    rw [consecutive_cons_iff] at h
    apply List.Pairwise.cons
    · intro j hj
      have := h.2.le_offset j hj
      omega
    · exact ih h.2

/--
Instructions that code can consist of: the opcodes are those of bytes, the offsets run on from the
start, and only the last operand may be shorter than its opcode asks for.
-/
structure WellFormed (start : Nat) (l : List Instruction) : Prop extends Consecutive start l where
  opcode : ∀ i ∈ l, i.opcode ≠ .difficulty
  operand : ∀ i ∈ l, i.operand = none ↔ i.opcode.immediateLength = 0
  complete : ∀ i ∈ l.dropLast, ∀ bytes ∈ i.operand, bytes.length = i.opcode.immediateLength
  last : ∀ i ∈ l.getLast?, ∀ bytes ∈ i.operand, bytes.length ≤ i.opcode.immediateLength

theorem wellFormed_nil (start : Nat) : WellFormed start [] where
  toConsecutive := consecutive_nil start
  opcode := by simp
  operand := by simp
  complete := by simp
  last := by simp

theorem WellFormed.head {start : Nat} {i : Instruction} {l : List Instruction}
    (h : WellFormed start (i :: l)) : i.WellFormed ∧ (l ≠ [] → i.Complete) := by
  have hoperand := h.operand i (List.mem_cons_self ..)
  refine ⟨⟨h.opcode i (List.mem_cons_self ..), hoperand, ?_⟩, ?_⟩
  · intro bytes hbytes
    cases l with
    | nil => exact h.last i rfl bytes hbytes
    | cons j l =>
      apply Nat.le_of_eq
      exact h.complete i (List.mem_cons_self ..) bytes hbytes
  · intro hl
    rw [Instruction.complete_iff hoperand]
    apply h.complete
    rw [List.dropLast_cons_of_ne_nil hl]
    apply List.mem_cons_self

theorem WellFormed.tail {start : Nat} {i : Instruction} {l : List Instruction}
    (h : WellFormed start (i :: l)) : WellFormed (start + 1 + i.opcode.immediateLength) l := by
  refine ⟨(consecutive_cons_iff.1 h.toConsecutive).2, ?_, ?_, ?_, ?_⟩
  · intro j hj
    exact h.opcode j (List.mem_cons_of_mem _ hj)
  · intro j hj
    exact h.operand j (List.mem_cons_of_mem _ hj)
  · intro j hj
    have hl : l ≠ [] := List.ne_nil_of_mem (List.dropLast_subset _ hj)
    apply h.complete
    rw [List.dropLast_cons_of_ne_nil hl]
    exact List.mem_cons_of_mem _ hj
  · intro j hj
    apply h.last
    rw [List.getLast?_cons, Option.mem_def.1 hj]
    rfl

theorem WellFormed.cons {start : Nat} {i : Instruction} {l : List Instruction}
    (hoffset : i.offset = start) (hi : i.WellFormed) (hcomplete : l ≠ [] → i.Complete)
    (hl : WellFormed (start + 1 + i.opcode.immediateLength) l) : WellFormed start (i :: l) := by
  refine ⟨consecutive_cons_iff.2 ⟨hoffset, hl.toConsecutive⟩, ?_, ?_, ?_, ?_⟩
  · simp only [List.mem_cons, forall_eq_or_imp]
    exact ⟨hi.opcode, hl.opcode⟩
  · simp only [List.mem_cons, forall_eq_or_imp]
    exact ⟨hi.operand, hl.operand⟩
  · cases l with
    | nil => simp
    | cons j l =>
      simp only [List.dropLast_cons_cons, List.mem_cons, forall_eq_or_imp]
      refine ⟨?_, hl.complete⟩
      rw [← Instruction.complete_iff hi.operand]
      apply hcomplete
      simp
  · cases l with
    | nil =>
      intro j hj
      cases hj
      exact hi.length_le
    | cons j l =>
      intro k hk
      rw [List.getLast?_cons_cons] at hk
      exact hl.last k hk

theorem wellFormed_cons_iff {start : Nat} {i : Instruction} {l : List Instruction} :
    WellFormed start (i :: l)
      ↔
    i.offset = start
      ∧ i.WellFormed
      ∧ (l ≠ [] → i.Complete)
      ∧ WellFormed (start + 1 + i.opcode.immediateLength) l := by
  constructor
  · intro h
    exact ⟨(consecutive_cons_iff.1 h.toConsecutive).1, h.head.1, h.head.2, h.tail⟩
  · rintro ⟨hoffset, hi, hcomplete, hl⟩
    exact .cons hoffset hi hcomplete hl

theorem wellFormed_disassembleFrom (offset : Nat) (code : Bytes) :
    WellFormed offset (disassembleFrom offset code) := by
  fun_induction disassembleFrom offset code with
  | case1 offset => exact wellFormed_nil offset
  | case2 offset b rest n ih =>
    rw [wellFormed_cons_iff]
    refine ⟨rfl, Instruction.wellFormed_ofBytes .., ?_, ih⟩
    intro hne
    rw [disassembleFrom_ne_nil, ne_eq, List.drop_eq_nil_iff] at hne
    rw [Instruction.complete_ofBytes_iff]
    omega

/--
Instructions that cover code from a position on: each of them is what the bytes at its offset say, and
the positions of their bytes, put one after the other, are those of the code in order.
-/
structure Tiles (start : Nat) (code : Bytes) (l : List Instruction) : Prop
    extends Consecutive start l where
  opcode : ∀ i ∈ l, ∃ (p : Nat) (h : p < code.length),
    i.offset = p ∧ i.opcode = Opcode.ofByte code[p]
  operand : ∀ i ∈ l, i.operand =
    if i.opcode.immediateLength = 0 then
      none
    else
      some (code.extract (i.offset.toNat + 1)
        (min (i.offset.toNat + 1 + i.opcode.immediateLength) code.length))
  positions : l.flatMap Instruction.positions = List.range' start (code.length - start)

theorem tiles_nil_iff {start : Nat} {code : Bytes} : Tiles start code [] ↔ code.length ≤ start := by
  constructor
  · intro h
    have hlen := congrArg List.length h.positions
    simp only [List.flatMap_nil, List.length_nil, List.length_range'] at hlen
    omega
  · intro h
    refine ⟨consecutive_nil start, by simp, by simp, ?_⟩
    rw [Nat.sub_eq_zero_of_le h]
    rfl

theorem extract_min_length (code : Bytes) (start n : Nat) :
    code.extract start (min (start + n) code.length) = (code.drop start).take n := by
  unfold List.extract
  rw [List.take_eq_take_iff, List.length_drop]
  omega

theorem positions_ofBytes_append {start : Nat} {code : Bytes} {b : UInt8} {rest : Bytes}
    (h : code.drop start = b :: rest) :
    (Instruction.ofBytes start b rest).positions ++
        List.range' (start + 1 + (Opcode.ofByte b).immediateLength)
          (code.length - (start + 1 + (Opcode.ofByte b).immediateLength))
      =
    List.range' start (code.length - start) := by
  have hlen := congrArg List.length h
  rw [List.length_drop, List.length_cons] at hlen
  unfold Instruction.positions Instruction.width
  rw [Instruction.operandBytes_ofBytes, Instruction.offset_ofBytes, List.length_take, Int.toNat_natCast]
  -- Where the end of the code cuts the operand short, nothing follows it.
  by_cases hn : (Opcode.ofByte b).immediateLength ≤ rest.length
  · rw [Nat.min_eq_left hn, Nat.add_assoc start 1, List.range'_append_1]
    congr 1
    omega
  · have hzero : code.length - (start + 1 + (Opcode.ofByte b).immediateLength) = 0 := by omega
    rw [hzero, List.range'_zero, List.append_nil]
    congr 1
    omega

theorem tiles_cons_iff {start : Nat} {code : Bytes} {i : Instruction} {l : List Instruction} :
    Tiles start code (i :: l)
      ↔
    ∃ b rest,
      code.drop start = b :: rest
        ∧ i = Instruction.ofBytes start b rest
        ∧ Tiles (start + 1 + i.opcode.immediateLength) code l := by
  constructor
  · intro h
    have hc := consecutive_cons_iff.1 h.toConsecutive
    obtain ⟨p, hp, hoffset, hopcode⟩ := h.opcode i (List.mem_cons_self ..)
    have hoperand := h.operand i (List.mem_cons_self ..)
    obtain rfl : start = p := by omega
    have hdrop := List.drop_eq_getElem_cons hp
    have hi : i = Instruction.ofBytes start code[start] (code.drop (start + 1)) := by
      rw [hoffset, hopcode, Int.toNat_natCast, extract_min_length] at hoperand
      exact Instruction.ext hopcode hoffset hoperand
    have hpositions := h.positions
    rw [List.flatMap_cons, ← positions_ofBytes_append hdrop, ← hi, List.append_right_inj] at hpositions
    refine ⟨_, _, hdrop, hi, hc.2, ?_, ?_, ?_⟩
    · intro j hj
      exact h.opcode j (List.mem_cons_of_mem _ hj)
    · intro j hj
      exact h.operand j (List.mem_cons_of_mem _ hj)
    · rw [hpositions, hi]
      rfl
  · rintro ⟨b, rest, hdrop, rfl, h⟩
    have hstart : start < code.length := by
      have hne : code.drop start ≠ [] := by simp [hdrop]
      rw [ne_eq, List.drop_eq_nil_iff] at hne
      omega
    have hcode := List.drop_eq_getElem_cons hstart
    rw [hdrop, List.cons.injEq] at hcode
    refine ⟨consecutive_cons_iff.2 ⟨rfl, h.toConsecutive⟩, ?_, ?_, ?_⟩
    · simp only [List.mem_cons, forall_eq_or_imp]
      refine ⟨⟨start, hstart, rfl, ?_⟩, h.opcode⟩
      rw [← hcode.1]
      rfl
    · simp only [List.mem_cons, forall_eq_or_imp]
      refine ⟨?_, h.operand⟩
      rw [Instruction.offset_ofBytes, Int.toNat_natCast, extract_min_length, ← hcode.2]
      rfl
    · rw [List.flatMap_cons, h.positions]
      exact positions_ofBytes_append hdrop

theorem tiles_iff_eq_disassembleFrom {start : Nat} {code : Bytes} {l : List Instruction} :
    Tiles start code l ↔ l = disassembleFrom start (code.drop start) := by
  induction l generalizing start with
  | nil =>
    rw [tiles_nil_iff, eq_comm, ← List.drop_eq_nil_iff, ← not_iff_not]
    exact disassembleFrom_ne_nil.symm
  | cons i l ih =>
    rw [tiles_cons_iff]
    cases hdrop : code.drop start with
    | nil => simp
    | cons b rest =>
      have hrest : code.drop (start + 1 + (Opcode.ofByte b).immediateLength)
          = rest.drop (Opcode.ofByte b).immediateLength := by
        rw [← List.drop_drop, ← List.drop_drop, hdrop, List.drop_one, List.tail_cons]
      rw [disassembleFrom_cons, List.cons.injEq, ← hrest]
      constructor
      · rintro ⟨b', rest', heq, rfl, h⟩
        cases heq
        exact ⟨rfl, ih.1 h⟩
      · rintro ⟨rfl, h⟩
        exact ⟨b, rest, rfl, rfl, ih.2 h⟩

theorem tiles_iff_eq_disassemble (code : Bytes) :
    (∀ l, Tiles 0 code l ↔ l = disassemble code)
      ∧ (∀ i ∈ (disassemble code).dropLast, ∀ bytes ∈ i.operand,
          bytes.length = i.opcode.immediateLength)
      ∧ (disassemble code).Pairwise (fun i j => i.offset < j.offset) := by
  rw [disassemble_eq_disassembleFrom]
  refine ⟨?_, ?_, ?_⟩
  · intro l
    exact tiles_iff_eq_disassembleFrom
  · exact (wellFormed_disassembleFrom 0 code).complete
  · exact (wellFormed_disassembleFrom 0 code).offset_lt

end EvmSelectors
