import Mathlib.Data.List.Nodup
import EvmSelectors.Opcode

/-!
This module contains the laws between opcodes and the bytes that encode them. Decoding undoes encoding
except for the opcodes that only encode, and encoding undoes decoding except for unassigned bytes.
-/

namespace EvmSelectors
namespace Opcode

theorem mem_all (op : Opcode) : op ∈ all := by
  cases op
  case push n | dup n | swap n | log n =>
    rw [all, List.mem_flatten]
    exact ⟨_, by simp, List.mem_map_of_mem (List.mem_finRange n)⟩
  all_goals decide

theorem mem_current_iff {op : Opcode} : op ∈ current ↔ op ≠ .difficulty := by
  unfold current historical
  simp [mem_all]

theorem toByte_lt_of_current : (current.map toByte).IsChain (· < ·) := by decide +kernel

theorem toByte_injective_of_current {op op' : Opcode} (h : op ≠ .difficulty) (h' : op' ≠ .difficulty)
    (heq : op.toByte = op'.toByte) : op = op' := by
  -- The list of opcodes goes through the bytes upwards, so that neighbours are enough to compare.
  have hlt : (current.map toByte).Pairwise (· < ·) := by
    rw [← List.isChain_iff_pairwise]
    exact toByte_lt_of_current
  have hnodup : (current.map toByte).Nodup := hlt.imp (fun h => UInt8.ne_of_lt h)
  exact List.inj_on_of_nodup_map hnodup (mem_current_iff.2 h) (mem_current_iff.2 h') heq

theorem find?_toByte_of_isAssigned {b : UInt8} (h : isAssigned b) :
    ∃ op, current.find? (fun op => op.toByte == b) = some op := by
  unfold isAssigned at h
  rw [← Option.isSome_iff_exists, List.find?_isSome]
  exact List.any_eq_true.1 h

theorem toByte_ofByte {b : UInt8} (h : isAssigned b) : (ofByte b).toByte = b := by
  obtain ⟨op, hop⟩ := find?_toByte_of_isAssigned h
  have hb := List.find?_some hop
  unfold ofByte
  rw [hop]
  simpa using hb

theorem ofByte_of_not_isAssigned {b : UInt8} (h : ¬isAssigned b) : ofByte b = .invalid := by
  have hnone : current.find? (fun op => op.toByte == b) = none := by
    rw [List.find?_eq_none]
    intro op hop hb
    apply h
    exact List.any_eq_true.2 ⟨op, hop, hb⟩
  unfold ofByte
  rw [hnone]
  rfl

theorem ofByte_ne_difficulty (b : UInt8) : ofByte b ≠ .difficulty := by
  rw [← mem_current_iff]
  unfold ofByte
  cases h : current.find? (fun op => op.toByte == b) with
  | none =>
    rw [mem_current_iff]
    simp
  | some op => exact List.mem_of_find?_eq_some h

theorem isAssigned_toByte {op : Opcode} (h : op ≠ .difficulty) : isAssigned op.toByte := by
  unfold isAssigned
  rw [List.any_eq_true]
  exact ⟨op, mem_current_iff.2 h, beq_self_eq_true _⟩

theorem ofByte_toByte {op : Opcode} (h : op ≠ .difficulty) : ofByte op.toByte = op := by
  apply toByte_injective_of_current
  · apply ofByte_ne_difficulty
  · exact h
  · apply toByte_ofByte
    exact isAssigned_toByte h

theorem toByte_ofByte_eq (b : UInt8) :
    (ofByte b).toByte = if isAssigned b then b else Opcode.invalid.toByte := by
  by_cases h : isAssigned b
  · rw [if_pos h, toByte_ofByte h]
  · rw [if_neg h, ofByte_of_not_isAssigned h]

theorem eq_toByte_of_ofByte_ne_invalid {b : UInt8} (h : ofByte b ≠ .invalid) :
    b = (ofByte b).toByte := by
  symm
  apply toByte_ofByte
  by_cases hb : isAssigned b
  · exact hb
  · exact absurd (ofByte_of_not_isAssigned hb) h

end Opcode
end EvmSelectors
