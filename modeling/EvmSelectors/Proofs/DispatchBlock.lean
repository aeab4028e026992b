import Mathlib.Data.List.Forall2
import Mathlib.Data.List.ReduceOption
import EvmSelectors.Proofs.Assembly
import EvmSelectors.Proofs.Scan

/-!
This module contains the runs of bytes that compare the selector of a call with a literal, and the law
that the scan of code finds the literals of exactly those that start where an instruction starts.
-/

namespace EvmSelectors

structure Literal where
  bytes : Bytes
  length_pos : 0 < bytes.length
  length_le : bytes.length ≤ 32

structure SelectorLiteral extends Literal where
  length_le_four : bytes.length ≤ 4

namespace Literal

def code (l : Literal) : Bytes :=
  (0x5f + UInt8.ofNat l.bytes.length) :: l.bytes

def opcode (l : Literal) : Opcode :=
  .push ⟨l.bytes.length, Nat.lt_succ_of_le l.length_le⟩

def body (l : Literal) : Body :=
  (l.opcode, some l.bytes)

theorem body_injective {l l' : Literal} (h : l.body = l'.body) : l = l' := by
  have hbytes : l.bytes = l'.bytes := Option.some.inj (congrArg Prod.snd h)
  cases l
  cases l'
  cases hbytes
  rfl

@[simp]
theorem immediateLength_opcode (l : Literal) : l.opcode.immediateLength = l.bytes.length := by
  rfl

@[simp]
theorem isLiteralPush_opcode (l : Literal) : l.opcode.isLiteralPush := by
  simp [Opcode.isLiteralPush, l.length_pos]

theorem whole_body (l : Literal) : l.body.Whole := by
  simp [body, opcode, Opcode.immediateLength, l.length_pos]

end Literal

namespace SelectorLiteral

theorem body_injective {l l' : SelectorLiteral} (h : l.body = l'.body) : l = l' := by
  have hl := Literal.body_injective h
  cases l
  cases l'
  cases hl
  rfl

@[simp]
theorem isSelectorPush_opcode (l : SelectorLiteral) : l.opcode.isSelectorPush := by
  have hpos := l.length_pos
  have hle := l.length_le_four
  unfold Opcode.isSelectorPush
  rw [Literal.immediateLength_opcode, decide_eq_true_eq]
  omega

end SelectorLiteral

theorem Opcode.exists_push_of_immediateLength_pos {op : Opcode} (h : 0 < op.immediateLength) :
    ∃ n, op = .push n := by
  unfold immediateLength at h
  split at h
  · next n => exact ⟨n, rfl⟩
  · cases h

theorem Body.Whole.exists_literal {body : Body} (h : body.Whole) (hpos : 0 < body.1.immediateLength) :
    ∃ literal : Literal, body = literal.body := by
  obtain ⟨op, operand⟩ := body
  obtain ⟨n, rfl⟩ := Opcode.exists_push_of_immediateLength_pos hpos
  obtain ⟨bytes, rfl⟩ : ∃ bytes, operand = some bytes := by
    rw [← Option.ne_none_iff_exists', ne_eq, h.operand]
    omega
  have hlen : bytes.length = n.val := h.length_eq bytes rfl
  have hpos : 0 < n.val := hpos
  refine ⟨⟨bytes, by omega, by omega⟩, ?_⟩
  simp [Literal.body, Literal.opcode, hlen]

namespace Slot

variable {i : Instruction}

theorem body_of_accepts_opcode {op : Opcode} (hi : i.WellFormed) (hop : op.immediateLength = 0)
    (h : (opcode op).accepts i) : i.body = (op, none) := by
  simp only [accepts, beq_iff_eq] at h
  have hoperand : i.operand = none := by rw [hi.operand, h, hop]
  rw [Instruction.body, h, hoperand]

theorem body_of_accepts_zeroPush (h : zeroPush.accepts i) : i.body = (.push 1, some [0]) := by
  simp only [accepts, Bool.and_eq_true, beq_iff_eq] at h
  rw [Instruction.body, h.1, h.2]

theorem exists_literal_of_accepts_literalPush (hi : i.body.Whole) (h : literalPush.accepts i) :
    ∃ literal : Literal, i.body = literal.body := by
  simp only [accepts, Opcode.isLiteralPush, decide_eq_true_eq] at h
  apply hi.exists_literal
  exact h

theorem exists_literal_of_accepts_selectorPush (hi : i.body.Whole) (h : selectorPush.accepts i) :
    ∃ literal : SelectorLiteral, i.body = literal.body := by
  simp only [accepts, Opcode.isSelectorPush, decide_eq_true_eq] at h
  obtain ⟨literal, hliteral⟩ := hi.exists_literal h.1
  have hopcode : i.opcode = literal.opcode := congrArg Prod.fst hliteral
  refine ⟨⟨literal, ?_⟩, hliteral⟩
  rw [hopcode, Literal.immediateLength_opcode] at h
  exact h.2

end Slot

/--
The code that compares the selector of a call with a literal, for each of the known idioms.
-/
inductive DispatchBlock where
  | dupEq (literal : SelectorLiteral) (target : Literal)
  | dupXor (literal : SelectorLiteral) (target : Literal)
  | loadEq (literal : SelectorLiteral)

namespace DispatchBlock

def literal : DispatchBlock → SelectorLiteral
  | dupEq literal _ => literal
  | dupXor literal _ => literal
  | loadEq literal => literal

def bytes : DispatchBlock → Bytes
  | dupEq literal target => 0x80 :: literal.code ++ 0x14 :: target.code ++ [0x57]
  | dupXor literal target => literal.code ++ [0x81, 0x18] ++ target.code ++ [0x57]
  | loadEq literal => literal.code ++ [0x60, 0x00, 0x51, 0x14, 0x15]

def idiom : DispatchBlock → Idiom
  | dupEq .. => .dupEq
  | dupXor .. => .dupXor
  | loadEq .. => .loadEq

def bodies : DispatchBlock → List Body
  | dupEq literal target =>
    [(.ofByte 0x80, none), literal.body, (.ofByte 0x14, none), target.body, (.ofByte 0x57, none)]
  | dupXor literal target =>
    [literal.body, (.ofByte 0x81, none), (.ofByte 0x18, none), target.body, (.ofByte 0x57, none)]
  | loadEq literal =>
    [literal.body, (.ofByte 0x60, some [0]), (.ofByte 0x51, none), (.ofByte 0x14, none),
      (.ofByte 0x15, none)]

@[simp]
theorem bodies_dupEq (literal : SelectorLiteral) (target : Literal) :
    (dupEq literal target).bodies
      =
    [(.dup 0, none), literal.body, (.eq, none), target.body, (.jumpi, none)] := by
  rfl

@[simp]
theorem bodies_dupXor (literal : SelectorLiteral) (target : Literal) :
    (dupXor literal target).bodies
      =
    [literal.body, (.dup 1, none), (.xor, none), target.body, (.jumpi, none)] := by
  rfl

@[simp]
theorem bodies_loadEq (literal : SelectorLiteral) :
    (loadEq literal).bodies
      =
    [literal.body, (.push 1, some [0]), (.mload, none), (.eq, none), (.iszero, none)] := by
  rfl

theorem bodies_injective {block block' : DispatchBlock} (h : block.bodies = block'.bodies) :
    block = block' := by
  cases block <;> cases block'
  case dupEq.dupEq | dupXor.dupXor =>
    simp only [bodies_dupEq, bodies_dupXor, List.cons.injEq, true_and, and_true] at h
    rw [SelectorLiteral.body_injective h.1, Literal.body_injective h.2]
  case loadEq.loadEq =>
    simp only [bodies_loadEq, List.cons.injEq, and_true] at h
    rw [SelectorLiteral.body_injective h]
  all_goals simp [Literal.body, Literal.opcode] at h

theorem whole_of_mem_bodies (block : DispatchBlock) : ∀ body ∈ block.bodies, body.Whole := by
  cases block
  all_goals simp [Literal.whole_body, Opcode.immediateLength]

theorem assemble_place_bodies (block : DispatchBlock) (start : Nat) :
    assemble (place start block.bodies) = block.bytes := by
  cases block
  all_goals
    simp [assemble, place, bytes, Instruction.toBytes, Literal.code, Literal.body,
      Literal.opcode, Opcode.toByte]

theorem opcode_ne_invalid_of_mem_bodies (block : DispatchBlock)
    : ∀ body ∈ block.bodies, body.1 ≠ .invalid := by
  cases block <;> simp [Literal.body, Literal.opcode]

theorem bytes_isPrefix_iff {block : DispatchBlock} {code : Bytes} (start : Nat) :
    block.bytes <+: code ↔ place start block.bodies <+: disassembleFrom start code := by
  rw [← assemble_place_bodies block start, assemble_place_isPrefix_iff]
  · apply whole_of_mem_bodies
  · apply opcode_ne_invalid_of_mem_bodies

theorem idiom_mem_known (block : DispatchBlock) : block.idiom ∈ Idiom.known := by
  cases block <;> simp [idiom, Idiom.known]

theorem fitsWindow_place_bodies (block : DispatchBlock) (start : Nat) :
    block.idiom.fitsWindow (place start block.bodies) := by
  cases block
  all_goals
    simp [Idiom.fitsWindow, idiom, place, Idiom.dupEq, Idiom.dupXor, Idiom.loadEq, Literal.body,
      Slot.accepts]

theorem selectorAt_place_bodies (block : DispatchBlock) (start : Nat) :
    selectorAt (place start block.bodies) block.idiom.position
      =
    .ok (Selector.padLiteral block.literal.bytes) := by
  cases block <;> rfl

theorem length_place_bodies (block : DispatchBlock) (start : Nat) :
    (place start block.bodies).length = windowSize := by
  rw [length_place]
  cases block <;> rfl

theorem matchWindow_place_bodies (block : DispatchBlock) (start : Nat) :
    matchWindow Idiom.known (place start block.bodies)
      =
    .ok (some { idiom := block.idiom.name, selector := Selector.padLiteral block.literal.bytes }) := by
  have hlen := length_place_bodies block start
  rw [matchWindow_eq_find? (Idiom.length_shape_le_of_known hlen),
    Idiom.find?_eq_some_of_known (fun _ h => h) (idiom_mem_known block)]
  · dsimp only
    rw [selectorAt_place_bodies]
    rfl
  · rw [hlen]
    decide
  · apply fitsWindow_place_bodies

theorem length_padLiteral_literal (block : DispatchBlock) :
    (Selector.padLiteral block.literal.bytes).length = 4 := by
  have hle := block.literal.length_le_four
  rw [Selector.padLiteral, Bytes.length_pad, Selector.size]
  omega

def selector (block : DispatchBlock) : Selector where
  value := (Selector.padLiteral block.literal.bytes).value
  value_lt := Selector.value_lt_of_length block.length_padLiteral_literal

theorem bytes_selector (block : DispatchBlock) :
    block.selector.bytes = Selector.padLiteral block.literal.bytes := by
  exact Selector.bytes_of_length block.length_padLiteral_literal

def finding (block : DispatchBlock) (offset : Int) : Finding where
  selector := block.selector
  idiom := block.idiom.name
  offset := offset

theorem findingAt_of_place_isPrefix {block : DispatchBlock} {start : Nat} {l : List Instruction}
    (h : place start block.bodies <+: l) :
    findingAt Idiom.known l = .ok (some (block.finding start)) := by
  obtain ⟨rest, rfl⟩ := h
  obtain ⟨i, w, hw, hi⟩ : ∃ i w, place start block.bodies = i :: w ∧ i.offset = start := by
    cases block <;> exact ⟨_, _, rfl, rfl⟩
  have hlen := length_place_bodies block start
  have hmatch := matchWindow_place_bodies block start
  have hselector : Selector.ofBytes (Selector.padLiteral block.literal.bytes) = .ok block.selector := by
    rw [Selector.ofBytes_eq_ok_iff, bytes_selector]
  rw [hw] at hlen hmatch ⊢
  have htake : (i :: (w ++ rest)).take windowSize = i :: w := by
    rw [← List.cons_append, ← hlen, List.take_left]
  rw [← htake] at hmatch
  rw [List.cons_append, findingAt_of_matchWindow_eq_some _ hmatch hselector, hi]
  · rfl
  · rw [← List.cons_append, List.length_append]
    omega

theorem exists_bodies_of_fitsWindow {a b c d e : Instruction} {idiom : Idiom} (ha : a.body.Whole)
    (hb : b.body.Whole) (hc : c.body.Whole) (hd : d.body.Whole) (he : e.WellFormed)
    (hidiom : idiom ∈ Idiom.known) (h : idiom.fitsWindow [a, b, c, d, e]) :
    ∃ block : DispatchBlock, [a, b, c, d, e].map Instruction.body = block.bodies := by
  have hplain : ∀ {i : Instruction} {op : Opcode}, i.body.Whole → op.immediateLength = 0 →
      (Slot.opcode op).accepts i → i.body = (op, none) := by
    intro i op hi
    exact Slot.body_of_accepts_opcode (Instruction.whole_body_iff.1 hi).1
  simp only [Idiom.known, List.mem_cons, List.not_mem_nil, or_false] at hidiom
  rcases hidiom with rfl | rfl | rfl
  all_goals
    simp only [Idiom.fitsWindow, Idiom.dupEq, Idiom.dupXor, Idiom.loadEq, List.zip_cons_cons,
      List.zip_nil_left, List.all_cons, List.all_nil, Bool.and_eq_true, and_true] at h
    obtain ⟨sa, sb, sc, sd, se⟩ := h
    simp only [List.map_cons, List.map_nil]
    rw [Slot.body_of_accepts_opcode he rfl se]
  · obtain ⟨literal, hliteral⟩ := Slot.exists_literal_of_accepts_selectorPush hb sb
    obtain ⟨target, htarget⟩ := Slot.exists_literal_of_accepts_literalPush hd sd
    rw [hplain ha rfl sa, hliteral, hplain hc rfl sc, htarget]
    exact ⟨.dupEq literal target, rfl⟩
  · obtain ⟨literal, hliteral⟩ := Slot.exists_literal_of_accepts_selectorPush ha sa
    obtain ⟨target, htarget⟩ := Slot.exists_literal_of_accepts_literalPush hd sd
    rw [hliteral, hplain hb rfl sb, hplain hc rfl sc, htarget]
    exact ⟨.dupXor literal target, rfl⟩
  · obtain ⟨literal, hliteral⟩ := Slot.exists_literal_of_accepts_selectorPush ha sa
    rw [hliteral, Slot.body_of_accepts_zeroPush sb, hplain hc rfl sc, hplain hd rfl sd]
    exact ⟨.loadEq literal, rfl⟩

theorem exists_place_isPrefix_of_fitsWindow {start : Nat} {l : List Instruction} {idiom : Idiom}
    (hl : WellFormed start l) (hlen : windowSize ≤ l.length) (hidiom : idiom ∈ Idiom.known)
    (h : idiom.fitsWindow (l.take windowSize)) :
    ∃ block : DispatchBlock, place start block.bodies <+: l := by
  have hplace := hl.eq_place
  match l, hlen with
  | a :: b :: c :: d :: e :: rest, _ =>
    -- All instructions of the window but the last are complete because another one follows.
    simp only [wellFormed_cons_iff, ne_eq, reduceCtorEq, not_false_eq_true, true_implies] at hl
    obtain ⟨_, ha, hac, _, hb, hbc, _, hc, hcc, _, hd, hdc, _, he, _⟩ := hl
    obtain ⟨block, hblock⟩ := exists_bodies_of_fitsWindow (Instruction.whole_body_iff.2 ⟨ha, hac⟩)
      (Instruction.whole_body_iff.2 ⟨hb, hbc⟩) (Instruction.whole_body_iff.2 ⟨hc, hcc⟩)
      (Instruction.whole_body_iff.2 ⟨hd, hdc⟩) he hidiom h
    refine ⟨block, ?_⟩
    rw [← hplace, ← hblock]
    apply place_isPrefix
    exact ⟨rest.map Instruction.body, rfl⟩

theorem eq_of_place_isPrefix {block block' : DispatchBlock} {start : Nat} {l : List Instruction}
    (h : place start block.bodies <+: l) (h' : place start block'.bodies <+: l) : block = block' := by
  have hlen : (place start block.bodies).length = (place start block'.bodies).length := by
    rw [length_place_bodies, length_place_bodies]
  have hplace := (List.prefix_of_prefix_length_le h h' (Nat.le_of_eq hlen)).eq_of_length hlen
  apply bodies_injective
  rw [← map_body_place start block.bodies, hplace, map_body_place]

theorem findingAt_disassembleFrom (start : Nat) (code : Bytes) :
    ∃ found : Option DispatchBlock,
      (∀ block, found = some block ↔ block.bytes <+: code)
        ∧ findingAt Idiom.known (disassembleFrom start code)
            =
          .ok (found.map (fun block => block.finding start)) := by
  by_cases h : ∃ block : DispatchBlock, place start block.bodies <+: disassembleFrom start code
  · obtain ⟨block, h⟩ := h
    refine ⟨some block, ?_, findingAt_of_place_isPrefix h⟩
    intro block'
    rw [bytes_isPrefix_iff start]
    constructor
    · rintro ⟨rfl⟩
      exact h
    · intro h'
      rw [eq_of_place_isPrefix h h']
  · refine ⟨none, ?_, ?_⟩
    · intro block
      rw [bytes_isPrefix_iff start]
      constructor
      · rintro ⟨⟩
      · intro h'
        exact absurd ⟨block, h'⟩ h
    · apply findingAt_eq_none
      intro hlen idiom hidiom hfits
      exact h (exists_place_isPrefix_of_fitsWindow (wellFormed_disassembleFrom ..) hlen hidiom hfits)

end DispatchBlock

/--
The block that the code holds from the offset of an instruction on, or none where no block stands.
-/
def DispatchBlock.StartsAt (code : Bytes) (i : Instruction) (start : Option DispatchBlock) : Prop :=
  ∀ block, start = some block ↔ block.bytes <+: code.drop i.offset.toNat

theorem findings_known_of_suffix {code : Bytes} {l : List Instruction} (h : l <:+ disassemble code) :
    ∃ (blocks : List (Option DispatchBlock)) (found : List Finding),
      List.Forall₂ (DispatchBlock.StartsAt code) l blocks
        ∧ findings Idiom.known l = .ok found
        ∧ found.map Finding.selector = blocks.reduceOption.map DispatchBlock.selector := by
  induction l with
  | nil => exact ⟨[], [], .nil, rfl, rfl⟩
  | cons i rest ih =>
    have hrest : rest <:+ disassemble code := List.IsSuffix.trans (List.suffix_cons ..) h
    obtain ⟨blocks, found, hblocks, hfound, hselectors⟩ := ih hrest
    rw [disassemble_eq_disassembleFrom] at h
    obtain ⟨p, hp⟩ := eq_disassembleFrom_of_suffix h
    rw [Nat.zero_add] at hp
    obtain ⟨start, hstart, hfinding⟩ := DispatchBlock.findingAt_disassembleFrom p (code.drop p)
    have hoffset : i.offset = p := by
      have hc := (wellFormed_disassembleFrom p (code.drop p)).toConsecutive
      rw [← hp, consecutive_cons_iff] at hc
      exact hc.1
    rw [← hp] at hfinding
    refine ⟨start :: blocks, (start.map (fun block => block.finding p)).toList ++ found, ?_, ?_, ?_⟩
    · apply List.Forall₂.cons
      · unfold DispatchBlock.StartsAt
        rw [hoffset, Int.toNat_natCast]
        exact hstart
      · exact hblocks
    · rw [findings, hfinding, hfound]
      rfl
    · cases start with
      | none => exact hselectors
      | some block =>
        rw [List.reduceOption_cons_of_some, List.map_cons, ← hselectors]
        rfl

theorem scanCode_eq_ok_dispatchBlocks (code : Bytes) :
    ∃ (blocks : List (Option DispatchBlock)) (found : Scan),
      List.Forall₂ (DispatchBlock.StartsAt code) (disassemble code) blocks
        ∧ scanCode code = .ok found
        ∧ found.selectors.bytes
            =
          (blocks.reduceOption.map (fun block => block.literal.bytes.leftpad 4 0)).eraseDups := by
  obtain ⟨blocks, found, hblocks, hfound, hselectors⟩ :=
    findings_known_of_suffix (List.suffix_refl (disassemble code))
  refine ⟨blocks, Scan.ofFindings found, hblocks, ?_, ?_⟩
  · rw [scanCode, scan_eq_ofFindings, hfound]
    rfl
  · rw [Scan.bytes_selectors_ofFindings, hselectors, List.map_map]
    congr 2
    funext block
    exact block.bytes_selector

-- The bytes of the second block are the operand of a push.
example :
    (scanCode [0x80, 0x61, 0xab, 0xcd, 0x14, 0x60, 0x0a, 0x57,
      0x66, 0x80, 0x60, 0x01, 0x14, 0x60, 0x0b, 0x57]).map (fun found => found.selectors.bytes)
      =
    .ok [[0x00, 0x00, 0xab, 0xcd]] := by
  rfl

end EvmSelectors
