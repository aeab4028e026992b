import Mathlib.Data.Nat.Digits.Defs
import EvmSelectors.Proofs.Disassembly
import EvmSelectors.Proofs.Scan.Order

/-!
This module contains the laws of the numbers that code pushes. Padding keeps the number that a literal
spells, and of the numbers that matches compare with, the scan records each where it is pushed first.
-/

namespace EvmSelectors

namespace Bytes

theorem value_append_singleton (b : Bytes) (x : UInt8) :
    value (b ++ [x]) = 256 * b.value + x.toNat := by
  simp [value]

theorem value_eq_ofDigits (b : Bytes) : b.value = Nat.ofDigits 256 (b.reverse.map UInt8.toNat) := by
  induction b using List.reverseRecOn with
  | nil => rfl
  | append_singleton b x ih =>
    rw [value_append_singleton, ih, List.reverse_append, List.reverse_singleton, List.singleton_append,
      List.map_cons, Nat.ofDigits_cons, Nat.add_comm]

theorem value_pad (width : Nat) (b : Bytes) : (b.pad width).value = b.value := by
  -- Zero bytes in front are the highest digits.
  rw [value_eq_ofDigits, value_eq_ofDigits, pad, List.leftpad, List.reverse_append,
    List.reverse_replicate, List.map_append, List.map_replicate]
  apply Nat.ofDigits_append_replicate_zero

theorem eq_of_value_eq {b c : Bytes} (hlen : b.length = c.length) (h : b.value = c.value) : b = c := by
  have hdigit : ∀ b : Bytes, ∀ n ∈ b.reverse.map UInt8.toNat, n < 256 := by
    intro b n hn
    obtain ⟨x, -, rfl⟩ := List.mem_map.1 hn
    apply UInt8.toNat_lt
  rw [value_eq_ofDigits, value_eq_ofDigits] at h
  have hmap := Nat.ofDigits_inj_of_len_eq (by decide) (by simpa using hlen) (hdigit b) (hdigit c) h
  rw [List.map_inj_right (fun _ _ => UInt8.toNat_inj.1)] at hmap
  exact List.reverse_inj.1 hmap

end Bytes

namespace Selector

theorem length_padLiteral (literal : Bytes) : (padLiteral literal).length = max size literal.length := by
  apply Bytes.length_pad

theorem length_padLiteral_of_le {literal : Bytes} (h : literal.length ≤ size) :
    (padLiteral literal).length = size := by
  rw [length_padLiteral, Nat.max_eq_left h]

theorem value_padLiteral (literal : Bytes) : (padLiteral literal).value = literal.value := by
  apply Bytes.value_pad

theorem eq_padLiteral_of_value_eq {b literal : Bytes} (hliteral : literal.length ≤ size)
    (hb : b.length = size) (h : b.value = literal.value) : b = padLiteral literal := by
  apply Bytes.eq_of_value_eq
  · rw [hb, length_padLiteral_of_le hliteral]
  · rw [h, value_padLiteral]

end Selector

theorem Instruction.operandValue_of_operand_eq {i : Instruction} {literal : Bytes}
    (h : i.operand = some literal) : i.operandValue = some (Selector.padLiteral literal).value := by
  rw [operandValue, h, Selector.value_padLiteral]
  rfl

/--
The push from which a window takes its selector, if it fits a known idiom.
-/
def selectorPush? (window : List Instruction) : Option Instruction :=
  (Idiom.known.find? (fun idiom => idiom.fitsWindow window)).bind
    (fun idiom => elementAt? window idiom.position)

def selectorPushAt? (l : List Instruction) (start : Nat) : Option Instruction :=
  selectorPush? ((l.drop start).take windowSize)

/--
The pushes from which the windows that fit known idioms take their selectors, from left to right.
-/
def selectorPushes (l : List Instruction) : List Instruction :=
  (starts l).filterMap (selectorPushAt? l)

theorem mem_of_elementAt?_eq_some {α : Type} {l : List α} {position : Int} {a : α}
    (h : elementAt? l position = some a) : a ∈ l := by
  unfold elementAt? at h
  split at h
  · exact List.mem_of_getElem? h
  · split at h
    · exact List.mem_of_getElem? h
    · cases h

theorem Instruction.WellFormed.exists_literal {i : Instruction} (h : i.WellFormed)
    (hpush : i.opcode.isSelectorPush) :
    ∃ literal, i.operand = some literal ∧ literal.length ≤ Selector.size := by
  simp only [Opcode.isSelectorPush, decide_eq_true_eq] at hpush
  cases hoperand : i.operand with
  | none =>
    rw [h.operand] at hoperand
    omega
  | some literal =>
    have hle := h.length_le literal hoperand
    exact ⟨literal, rfl, Nat.le_trans hle hpush.2⟩

/--
All that a window of disassembled code can push and give.
-/
inductive Pushing : Option Instruction → Except ScanError (Option Match) → Prop where
  | unmatched : Pushing none (.ok none)
  | matched {i : Instruction} {literal : Bytes} {m : Match} (hpush : i.opcode.isSelectorPush)
      (hoperand : i.operand = some literal) (hlen : literal.length ≤ Selector.size)
      (hselector : m.selector = Selector.padLiteral literal) :
      Pushing (some i) (.ok (some m))

theorem pushing_matchWindow {window : List Instruction} (hwindow : ∀ i ∈ window, i.WellFormed)
    (hlen : windowSize ≤ window.length) :
    Pushing (selectorPush? window) (matchWindow Idiom.known window) := by
  unfold selectorPush?
  cases hfind : Idiom.known.find? (fun idiom => idiom.fitsWindow window) with
  | none =>
    have hmatching : Matching window (.ok none) := .unmatched (List.find?_eq_none.1 hfind)
    rw [hmatching.matchWindow_eq (.refl _)]
    exact .unmatched
  | some idiom =>
    have hidiom := List.mem_of_find?_eq_some hfind
    have hfitsWindow : idiom.fitsWindow window := by simpa using List.find?_some hfind
    have hfits := (Idiom.fits_eq_true_iff_of_known hidiom).2 ⟨hlen, hfitsWindow⟩
    obtain ⟨i, hi, hpush⟩ := Idiom.exists_selectorPush_of_fits hidiom hfits
    obtain ⟨literal, hoperand, hle⟩ := (hwindow i (mem_of_elementAt?_eq_some hi)).exists_literal hpush
    rw [(Matching.matched hidiom hfits hi hoperand).matchWindow_eq (.refl _), Option.bind_some, hi]
    exact .matched hpush hoperand hle rfl

theorem pushing_matchAt {code : Bytes} {start : Nat}
    (hlen : start + windowSize ≤ (disassemble code).length) :
    Pushing (selectorPushAt? (disassemble code) start)
      (matchAt Idiom.known (disassemble code) start) := by
  apply pushing_matchWindow
  · intro i hi
    have hmem := List.mem_of_mem_drop (List.mem_of_mem_take hi)
    obtain ⟨p, b, rest, -, rfl⟩ := eq_ofBytes_of_mem_disassemble hmem
    apply Instruction.wellFormed_ofBytes
  · rw [List.length_take, List.length_drop]
    omega

theorem fault?_matchAt_disassemble {code : Bytes} {start : Nat}
    (hlen : start + windowSize ≤ (disassemble code).length) :
    fault? (matchAt Idiom.known (disassemble code) start) = none := by
  have hpushing := pushing_matchAt hlen
  generalize selectorPushAt? (disassemble code) start = push,
    matchAt Idiom.known (disassemble code) start = given at hpushing
  cases hpushing with
  | unmatched => rfl
  | matched _ _ hle hselector =>
    rw [fault?, hselector, Selector.length_padLiteral_of_le hle, if_neg (Nat.lt_irrefl _)]

theorem length_of_mem_matchedSelectors {code b : Bytes}
    (h : b ∈ matchedSelectors Idiom.known (disassemble code)) : b.length = Selector.size := by
  obtain ⟨start, hstart, hb⟩ := List.mem_filterMap.1 h
  have hpushing := pushing_matchAt (mem_starts_iff.1 hstart)
  generalize selectorPushAt? (disassemble code) start = push,
    matchAt Idiom.known (disassemble code) start = given at hpushing hb
  cases hpushing with
  | unmatched => cases hb
  | matched _ _ hle hselector =>
    cases hb
    rw [hselector, Selector.length_padLiteral_of_le hle]

theorem map_value_matchedSelectors (code : Bytes) :
    (matchedSelectors Idiom.known (disassemble code)).map (fun b => some b.value)
      =
    (selectorPushes (disassemble code)).map Instruction.operandValue := by
  unfold matchedSelectors selectorPushes
  rw [List.map_filterMap, List.map_filterMap]
  apply List.filterMap_congr
  intro start hstart
  have hpushing := pushing_matchAt (mem_starts_iff.1 hstart)
  generalize selectorPushAt? (disassemble code) start = push,
    matchAt Idiom.known (disassemble code) start = given at hpushing
  cases hpushing with
  | unmatched => rfl
  | matched _ hoperand _ hselector =>
    rw [Option.map_some, Option.map_some, hselector, Instruction.operandValue_of_operand_eq hoperand]

theorem isSelectorPush_of_mem_selectorPushes {code : Bytes} {i : Instruction}
    (h : i ∈ selectorPushes (disassemble code)) : i.opcode.isSelectorPush := by
  obtain ⟨start, hstart, hi⟩ := List.mem_filterMap.1 h
  have hpushing := pushing_matchAt (mem_starts_iff.1 hstart)
  rw [hi] at hpushing
  generalize matchAt Idiom.known (disassemble code) start = given at hpushing
  cases hpushing with
  | matched hpush _ _ _ => exact hpush

/--
A match of the window at a start, with the push of its selector.
-/
structure PushesAt (l : List Instruction) (start : Nat) (m : Match) (i : Instruction) : Prop where
  le_length : start + windowSize ≤ l.length
  matched : matchAt Idiom.known l start = .ok (some m)
  push : selectorPushAt? l start = some i

namespace PushesAt

variable {code : Bytes} {start start' : Nat} {m m' : Match} {i i' : Instruction}

theorem selector_mem (h : PushesAt (disassemble code) start m i) :
    m.selector ∈ matchedSelectors Idiom.known (disassemble code) := by
  apply List.mem_filterMap.2
  refine ⟨start, mem_starts_iff.2 h.le_length, ?_⟩
  rw [h.matched]

theorem operandValue_eq (h : PushesAt (disassemble code) start m i) :
    i.operandValue = some m.selector.value := by
  have hpushing := pushing_matchAt h.le_length
  rw [h.matched, h.push] at hpushing
  cases hpushing with
  | matched _ hoperand _ hselector =>
    rw [hselector, Instruction.operandValue_of_operand_eq hoperand]

theorem selector_eq_iff (h : PushesAt (disassemble code) start m i)
    (h' : PushesAt (disassemble code) start' m' i') :
    m.selector = m'.selector ↔ i.operandValue = i'.operandValue := by
  rw [h.operandValue_eq, h'.operandValue_eq, Option.some.injEq]
  constructor
  · intro heq
    rw [heq]
  · apply Bytes.eq_of_value_eq
    rw [length_of_mem_matchedSelectors h.selector_mem, length_of_mem_matchedSelectors h'.selector_mem]

end PushesAt

theorem countP_or_of_nodup {α : Type} [BEq α] [LawfulBEq α] [DecidableEq α] {l : List α}
    (hl : l.Nodup) {a b : α} (ha : a ∈ l) (hb : b ∈ l) :
    l.countP (fun c => c == a || c == b) = if a = b then 1 else 2 := by
  have hmem : ∀ c, c ∈ l.filter (fun c => c == a || c == b) ↔ c = a ∨ c = b := by
    intro c
    rw [List.mem_filter, Bool.or_eq_true, beq_iff_eq, beq_iff_eq, and_iff_right_of_imp]
    rintro (rfl | rfl) <;> assumption
  rw [List.countP_eq_length_filter]
  have hnodup := hl.filter (fun c => c == a || c == b)
  generalize l.filter (fun c => c == a || c == b) = recorded at hmem hnodup
  split
  · next h =>
    have hperm : recorded.Perm [a] := by
      rw [List.perm_ext_iff_of_nodup hnodup (List.nodup_singleton a)]
      simp [hmem, h]
    exact hperm.length_eq
  · next h =>
    have hperm : recorded.Perm [a, b] := by
      rw [List.perm_ext_iff_of_nodup hnodup (by simpa using h)]
      simp [hmem]
    exact hperm.length_eq

theorem exists_scanCode_matchedSelectors (code : Bytes) :
    ∃ found,
      scanCode code = .ok found
        ∧ found.selectors.bytes = (matchedSelectors Idiom.known (disassemble code)).eraseDups := by
  obtain ⟨found, hfound, hbytes, -⟩ := exists_scan_eq_ok (fun start => fault?_matchAt_disassemble)
  exact ⟨found, hfound, hbytes⟩

/--
Padding keeps the number that a literal spells, in the only way that four bytes can. The scan of code
therefore records the numbers that its matches push, each where it is pushed first and in whatever width.
-/
theorem scanCode_by_pushed_value (v code : Bytes) :
    ((Selector.padLiteral v).length = max 4 v.length
        ∧ (Selector.padLiteral v).value = v.value
        ∧ (∀ i : Instruction, i.operand = some v → i.operandValue = some (Selector.padLiteral v).value)
        ∧ (v.length ≤ 4 → ∀ b : Bytes, b.length = 4 → b.value = v.value → b = Selector.padLiteral v))
      ∧ ∃ found,
          scanCode code = .ok found
            ∧ (∀ i ∈ selectorPushes (disassemble code), i.opcode.isSelectorPush)
            ∧ found.selectors.bytes.map (fun b => some b.value)
                =
              ((selectorPushes (disassemble code)).map Instruction.operandValue).eraseDups
            ∧ ∀ start start' m m' i i',
                PushesAt (disassemble code) start m i → PushesAt (disassemble code) start' m' i' →
                  found.selectors.bytes.countP (fun b => b == m.selector || b == m'.selector)
                    =
                  if i.operandValue = i'.operandValue then 1 else 2 := by
  constructor
  · refine ⟨Selector.length_padLiteral v, Selector.value_padLiteral v, ?_, ?_⟩
    · intro i
      apply Instruction.operandValue_of_operand_eq
    · intro hv b
      apply Selector.eq_padLiteral_of_value_eq hv
  · obtain ⟨found, hfound, hbytes⟩ := exists_scanCode_matchedSelectors code
    refine ⟨found, hfound, fun i => isSelectorPush_of_mem_selectorPushes, ?_, ?_⟩
    · rw [hbytes, ← map_value_matchedSelectors, eraseDups_map_of_injOn]
      intro b hb c hc h
      apply Bytes.eq_of_value_eq
      · rw [length_of_mem_matchedSelectors hb, length_of_mem_matchedSelectors hc]
      · exact Option.some.inj h
    · intro start start' m m' i i' h h'
      have hnodup := found.selectors.nodup_bytes
      rw [hbytes] at hnodup
      rw [hbytes, countP_or_of_nodup hnodup]
      · simp only [h.selector_eq_iff h']
      · rw [List.mem_eraseDups]
        exact h.selector_mem
      · rw [List.mem_eraseDups]
        exact h'.selector_mem

-- `PUSH1 2a` and `PUSH4 0000002a` push the same number in different idioms, and `PUSH2 0102` another one.
theorem scanCode_by_pushed_value_widths :
    let wide : Bytes := [0x00, 0x00, 0x00, 0x2a]
    let other : Bytes := [0x00, 0x00, 0x01, 0x02]
    let code : Bytes :=
      [0x80, 0x60, 0x2a, 0x14, 0x60, 0x00, 0x57] ++ 0x63 :: wide ++ [0x81, 0x18, 0x60, 0x00, 0x57]
        ++ [0x61, 0x01, 0x02, 0x60, 0x00, 0x51, 0x14, 0x15]
    PushesAt (disassemble code) 0 ⟨"solc-dup1-eq", wide⟩ ⟨.push 1, 1, some [0x2a]⟩
      ∧ PushesAt (disassemble code) 5 ⟨"vyper-dup2-xor", wide⟩ ⟨.push 4, 7, some wide⟩
      ∧ PushesAt (disassemble code) 10 ⟨"vyper-mload-eq", other⟩ ⟨.push 2, 17, some [0x01, 0x02]⟩
      ∧ wide = Selector.padLiteral [0x2a]
      ∧ ∃ found,
          scanCode code = .ok found
            ∧ found.selectors.bytes.map (fun b => some b.value) = [some 0x2a, some 0x102]
            ∧ found.selectors.bytes.countP (fun b => b == wide || b == wide) = 1
            ∧ found.selectors.bytes.countP (fun b => b == wide || b == other) = 2 := by
  intro wide other code
  have hnarrow : PushesAt (disassemble code) 0 ⟨"solc-dup1-eq", wide⟩ ⟨.push 1, 1, some [0x2a]⟩ :=
    ⟨by decide +kernel, by decide +kernel, by decide +kernel⟩
  have hwide : PushesAt (disassemble code) 5 ⟨"vyper-dup2-xor", wide⟩ ⟨.push 4, 7, some wide⟩ :=
    ⟨by decide +kernel, by decide +kernel, by decide +kernel⟩
  have hother :
      PushesAt (disassemble code) 10 ⟨"vyper-mload-eq", other⟩ ⟨.push 2, 17, some [0x01, 0x02]⟩ :=
    ⟨by decide +kernel, by decide +kernel, by decide +kernel⟩
  have hpushes : ((selectorPushes (disassemble code)).map Instruction.operandValue).eraseDups
      = [some 0x2a, some 0x102] := by
    decide +kernel
  obtain ⟨⟨-, -, -, hunique⟩, found, hfound, -, hvalues, honce⟩ := scanCode_by_pushed_value [0x2a] code
  exact ⟨hnarrow, hwide, hother, hunique (by decide) wide rfl rfl, found, hfound, hvalues.trans hpushes,
    honce 0 5 _ _ _ _ hnarrow hwide, honce 0 10 _ _ _ _ hnarrow hother⟩

end EvmSelectors
