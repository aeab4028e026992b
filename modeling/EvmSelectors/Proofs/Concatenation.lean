import EvmSelectors.Proofs.Disassembly

/-!
This module contains the law of the disassembly of code that more code is appended to. The last
instruction takes in the operand bytes that it lacks, and what follows them is disassembled as it would
be on its own.
-/

namespace EvmSelectors
namespace Instruction

def shift (n : Int) (i : Instruction) : Instruction :=
  { i with offset := i.offset + n }

/--
The number of operand bytes that the opcode asks for and the instruction does not have.
-/
def missing (i : Instruction) : Nat :=
  i.opcode.immediateLength - (i.operand.getD []).length

/--
Puts bytes behind those of the operand. Where there is no operand, none comes into being.
-/
def extend (bytes : Bytes) (i : Instruction) : Instruction :=
  { i with operand := i.operand.map (· ++ bytes) }

theorem extend_nil (i : Instruction) : i.extend [] = i := by
  simp [extend]

theorem missing_ofBytes (offset : Int) (b : UInt8) (rest : Bytes) :
    (ofBytes offset b rest).missing = (Opcode.ofByte b).immediateLength - rest.length := by
  rw [missing, operandBytes_ofBytes, opcode_ofBytes, List.length_take]
  omega

theorem shift_ofBytes (n offset : Int) (b : UInt8) (rest : Bytes) :
    (ofBytes offset b rest).shift n = ofBytes (offset + n) b rest := by
  rfl

theorem ofBytes_append (offset : Int) (b : UInt8) (rest after : Bytes) :
    ofBytes offset b (rest ++ after)
      =
    (ofBytes offset b rest).extend (after.take (ofBytes offset b rest).missing) := by
  apply Instruction.ext
  · rfl
  · rfl
  · rw [missing_ofBytes, extend, operand_ofBytes, operand_ofBytes, List.take_append]
    split
    · rfl
    · rfl

end Instruction

theorem disassembleFrom_eq_map_shift (start n : Nat) (code : Bytes) :
    disassembleFrom (start + n) code = (disassembleFrom start code).map (Instruction.shift n) := by
  fun_induction disassembleFrom start code with
  | case1 start => simp
  | case2 start b rest m ih =>
    have hnext : start + n + 1 + m = start + 1 + m + n := by omega
    rw [disassembleFrom_cons, List.map_cons, Instruction.shift_ofBytes, hnext, ih, Int.natCast_add]

theorem disassembleFrom_eq_map_shift_disassemble (start : Nat) (code : Bytes) :
    disassembleFrom start code = (disassemble code).map (Instruction.shift start) := by
  rw [disassemble_eq_disassembleFrom, ← disassembleFrom_eq_map_shift, Nat.zero_add]

theorem disassembleFrom_cons_append (start : Nat) (b : UInt8) (rest after : Bytes) :
    disassembleFrom start (b :: rest ++ after)
      =
    (Instruction.ofBytes start b rest).extend (after.take (Instruction.ofBytes start b rest).missing) ::
      disassembleFrom (start + 1 + (Opcode.ofByte b).immediateLength)
        (rest.drop (Opcode.ofByte b).immediateLength ++
          after.drop (Instruction.ofBytes start b rest).missing) := by
  rw [List.cons_append, disassembleFrom_cons, Instruction.ofBytes_append, List.drop_append,
    Instruction.missing_ofBytes]

theorem disassembleFrom_append (start : Nat) {code : Bytes} (h : code ≠ []) (after : Bytes) :
    ∃ (init : List Instruction) (last : Instruction),
      disassembleFrom start code = init ++ [last]
        ∧ last.next = ((start + code.length + last.missing : Nat) : Int)
        ∧ disassembleFrom start (code ++ after)
            =
          init ++ last.extend (after.take last.missing) ::
            disassembleFrom (start + code.length + last.missing) (after.drop last.missing) := by
  fun_induction disassembleFrom start code with
  | case1 start => contradiction
  | case2 start b rest n ih =>
    have hmissing : (Instruction.ofBytes start b rest).missing = n - rest.length := by
      apply Instruction.missing_ofBytes
    by_cases hrest : rest.drop n = []
    · -- The code ends with this instruction, which is the one that goes on.
      have hnext : start + (b :: rest).length + (n - rest.length) = start + 1 + n := by
        rw [List.drop_eq_nil_iff] at hrest
        rw [List.length_cons]
        omega
      refine ⟨[], Instruction.ofBytes start b rest, ?_, ?_, ?_⟩
      · rw [hrest, disassembleFrom_nil, List.nil_append]
      · rw [hmissing, hnext]
        simp [Instruction.next, n]
      · rw [disassembleFrom_cons_append, hrest, hmissing, hnext, List.nil_append, List.nil_append]
    · -- More bytes follow, so that the operand is complete and takes in nothing.
      obtain ⟨init, last, hlast, hnext, happend⟩ := ih hrest
      rw [List.drop_eq_nil_iff] at hrest
      have hzero : n - rest.length = 0 := by omega
      have hlen : start + 1 + n + (rest.drop n).length = start + (b :: rest).length := by
        rw [List.length_drop, List.length_cons]
        omega
      rw [hlen] at hnext happend
      refine ⟨Instruction.ofBytes start b rest :: init, last, ?_, hnext, ?_⟩
      · rw [hlast, List.cons_append]
      · rw [disassembleFrom_cons_append, hmissing, hzero, List.take_zero, List.drop_zero,
          Instruction.extend_nil, happend, List.cons_append]

theorem exists_disassemble_append {code : Bytes} (h : code ≠ []) (after : Bytes) :
    ∃ (init : List Instruction) (last : Instruction),
      disassemble code = init ++ [last]
        ∧ last.next = code.length + last.missing
        ∧ disassemble (code ++ after)
            =
          init ++ last.extend (after.take last.missing) ::
            disassembleFrom (code.length + last.missing) (after.drop last.missing) := by
  have happend := disassembleFrom_append 0 h after
  simp only [← disassemble_eq_disassembleFrom, Nat.zero_add, Int.natCast_add] at happend
  exact happend

/--
Code that ends where its last instruction ends, which a push that lacks operand bytes does not.
-/
def EndsWhole (code : Bytes) : Prop :=
  ∀ i ∈ (disassemble code).getLast?, i.next = code.length

instance (code : Bytes) : Decidable (EndsWhole code) :=
  inferInstanceAs (Decidable (∀ i ∈ (disassemble code).getLast?, i.next = code.length))

theorem EndsWhole.disassemble_append_eq {code : Bytes} (h : EndsWhole code) (after : Bytes) :
    disassemble (code ++ after) = disassemble code ++ disassembleFrom code.length after := by
  by_cases hcode : code = []
  · rw [hcode, disassemble_eq_disassembleFrom, disassemble_eq_disassembleFrom]
    simp
  · obtain ⟨init, last, hlast, hnext, happend⟩ := exists_disassemble_append hcode after
    have hend : last.next = code.length := by
      apply h
      simp [hlast]
    have hzero : last.missing = 0 := by omega
    rw [happend, hlast, hzero]
    simp [Instruction.extend_nil]

theorem disassemble_append {code : Bytes} (h : code ≠ []) (after : Bytes) :
    ∃ (init : List Instruction) (last : Instruction),
      disassemble code = init ++ [last]
        ∧ last.next = code.length + last.missing
        ∧ disassemble (code ++ after)
            =
          init ++ last.extend (after.take last.missing) ::
            (disassemble (after.drop last.missing)).map (.shift (code.length + last.missing))
        ∧ (last.missing = 0 →
            disassemble (code ++ after)
              =
            disassemble code ++ (disassemble after).map (.shift code.length)) := by
  obtain ⟨init, last, hlast, hnext, happend⟩ := exists_disassemble_append h after
  rw [disassembleFrom_eq_map_shift_disassemble, Int.natCast_add] at happend
  refine ⟨init, last, hlast, hnext, happend, ?_⟩
  intro hzero
  have hwhole : EndsWhole code := by
    unfold EndsWhole
    simp [hlast, hnext, hzero]
  rw [hwhole.disassemble_append_eq, disassembleFrom_eq_map_shift_disassemble]

-- The push takes in the first byte behind it, and the second one is an instruction.
theorem disassemble_append_cut_push :
    ([0x61, 0xab] : Bytes) ≠ []
      ∧ ∃ (init : List Instruction) (last : Instruction),
          disassemble [0x61, 0xab] = init ++ [last]
            ∧ last.next = 2 + last.missing
            ∧ disassemble [0x61, 0xab, 0xcd, 0x00]
                =
              init ++ last.extend (([0xcd, 0x00] : Bytes).take last.missing) ::
                (disassemble (([0xcd, 0x00] : Bytes).drop last.missing)).map
                  (.shift (2 + last.missing))
            ∧ (last.missing = 0 →
                disassemble [0x61, 0xab, 0xcd, 0x00]
                  =
                disassemble [0x61, 0xab] ++ (disassemble [0xcd, 0x00]).map (.shift 2)) := by
  have hne : ([0x61, 0xab] : Bytes) ≠ [] := by simp
  exact ⟨hne, disassemble_append hne [0xcd, 0x00]⟩

end EvmSelectors
