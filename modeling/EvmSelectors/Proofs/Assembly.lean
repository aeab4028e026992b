import EvmSelectors.Proofs.Disassembly

/-!
This module contains the laws between the disassembly of bytes and the assembly of instructions. The
instructions that bytes can be split into are the well-formed ones, and assembling them gives back the
bytes up to those that no instruction is assigned to.
-/

namespace EvmSelectors

theorem assemble_cons (i : Instruction) (l : List Instruction) :
    assemble (i :: l) = i.opcode.toByte :: (i.operand.getD [] ++ assemble l) := by
  rfl

def span (l : List Instruction) : Nat :=
  match l with
  | [] => 0
  | i :: rest => 1 + i.opcode.immediateLength + span rest

/--
An instruction without its offset.
-/
abbrev Body := Opcode × Option Bytes

structure Body.Whole (body : Body) : Prop where
  opcode : body.1 ≠ .difficulty
  operand : body.2 = none ↔ body.1.immediateLength = 0
  length_eq : ∀ bytes ∈ body.2, bytes.length = body.1.immediateLength

@[simp]
theorem Body.whole_none_iff {op : Opcode} :
    Whole (op, none) ↔ op ≠ .difficulty ∧ op.immediateLength = 0 := by
  constructor
  · intro h
    exact ⟨h.opcode, h.operand.1 rfl⟩
  · rintro ⟨hop, hzero⟩
    exact ⟨hop, by simp [hzero], by simp⟩

@[simp]
theorem Body.whole_some_iff {op : Opcode} {bytes : Bytes} :
    Whole (op, some bytes)
      ↔
    op ≠ .difficulty ∧ 0 < op.immediateLength ∧ bytes.length = op.immediateLength := by
  constructor
  · intro h
    have hpos := h.operand
    simp only [reduceCtorEq, false_iff] at hpos
    exact ⟨h.opcode, by omega, h.length_eq bytes rfl⟩
  · rintro ⟨hop, hpos, hlen⟩
    refine ⟨hop, ?_, ?_⟩
    · simp only [reduceCtorEq, false_iff]
      omega
    · simp [hlen]

def Instruction.body (i : Instruction) : Body :=
  (i.opcode, i.operand)

theorem Instruction.whole_body_iff {i : Instruction} : i.body.Whole ↔ i.WellFormed ∧ i.Complete := by
  constructor
  · intro h
    refine ⟨⟨h.opcode, h.operand, ?_⟩, (complete_iff h.operand).2 h.length_eq⟩
    intro bytes hbytes
    apply Nat.le_of_eq
    exact h.length_eq bytes hbytes
  · rintro ⟨h, hcomplete⟩
    exact ⟨h.opcode, h.operand, (complete_iff h.operand).1 hcomplete⟩

def place (start : Nat) (bodies : List Body) : List Instruction :=
  match bodies with
  | [] => []
  | body :: rest =>
    { opcode := body.1, offset := start, operand := body.2 } ::
      place (start + 1 + body.1.immediateLength) rest

theorem length_place (start : Nat) (bodies : List Body) :
    (place start bodies).length = bodies.length := by
  induction bodies generalizing start with
  | nil => rfl
  | cons body rest ih => rw [place, List.length_cons, ih, List.length_cons]

theorem map_body_place (start : Nat) (bodies : List Body) :
    (place start bodies).map Instruction.body = bodies := by
  induction bodies generalizing start with
  | nil => rfl
  | cons body rest ih =>
    rw [place, List.map_cons, ih]
    rfl

theorem place_isPrefix {start : Nat} {bodies bodies' : List Body} (h : bodies <+: bodies') :
    place start bodies <+: place start bodies' := by
  induction bodies generalizing start bodies' with
  | nil => apply List.nil_prefix
  | cons body rest ih =>
    cases bodies' with
    | nil => simp at h
    | cons body' rest' =>
      rw [List.cons_prefix_cons] at h
      rw [place, place, h.1, List.cons_prefix_cons]
      exact ⟨rfl, ih h.2⟩

theorem Consecutive.eq_place {start : Nat} {l : List Instruction} (h : Consecutive start l) :
    place start (l.map Instruction.body) = l := by
  induction l generalizing start with
  | nil => rfl
  | cons i l ih =>
    rw [consecutive_cons_iff] at h
    rw [List.map_cons, place, List.cons.injEq]
    refine ⟨?_, ih h.2⟩
    apply Instruction.ext
    · rfl
    · exact h.1.symm
    · rfl

theorem body_mem_of_mem_place {start : Nat} {bodies : List Body} {i : Instruction}
    (h : i ∈ place start bodies) : i.body ∈ bodies := by
  rw [← map_body_place start bodies]
  exact List.mem_map_of_mem h

theorem wellFormed_place {bodies : List Body} (h : ∀ body ∈ bodies, body.Whole) (start : Nat) :
    WellFormed start (place start bodies) := by
  induction bodies generalizing start with
  | nil => apply wellFormed_nil
  | cons body rest ih =>
    simp only [List.mem_cons, forall_eq_or_imp] at h
    have hbody : (Instruction.mk body.1 start body.2).body.Whole := h.1
    rw [Instruction.whole_body_iff] at hbody
    rw [place, wellFormed_cons_iff]
    exact ⟨rfl, hbody.1, fun _ => hbody.2, ih h.2 _⟩

theorem Instruction.split_operand_append {i : Instruction} {rest : Bytes} (hi : i.WellFormed)
    (h : i.Complete ∨ rest = []) :
    (i.operand.getD [] ++ rest).take i.opcode.immediateLength = i.operand.getD []
      ∧ (i.operand.getD [] ++ rest).drop i.opcode.immediateLength = rest := by
  cases h with
  | inl h => exact ⟨List.take_left' h, List.drop_left' h⟩
  | inr h =>
    have hlen : (i.operand.getD []).length ≤ i.opcode.immediateLength := by
      cases hoperand : i.operand with
      | none => simp
      | some bytes => exact hi.length_le bytes hoperand
    rw [h, List.append_nil]
    exact ⟨List.take_of_length_le hlen, List.drop_eq_nil_of_le hlen⟩

theorem Instruction.ofBytes_operand_append {i : Instruction} {rest : Bytes} (hi : i.WellFormed)
    (h : i.Complete ∨ rest = []) :
    ofBytes i.offset i.opcode.toByte (i.operand.getD [] ++ rest) = i := by
  have hop : Opcode.ofByte i.opcode.toByte = i.opcode := Opcode.ofByte_toByte hi.opcode
  apply Instruction.ext
  · exact hop
  · rfl
  · rw [operand_ofBytes, hop, (split_operand_append hi h).1]
    split
    · next hzero => rw [hi.operand.2 hzero]
    · next hzero =>
      rw [← hi.operand] at hzero
      obtain ⟨bytes, hbytes⟩ := Option.ne_none_iff_exists'.1 hzero
      rw [hbytes, Option.getD_some]

theorem disassembleFrom_assemble_append {start : Nat} {l : List Instruction} {rest : Bytes}
    (hl : WellFormed start l) (h : (∀ i ∈ l.getLast?, i.Complete) ∨ rest = []) :
    disassembleFrom start (assemble l ++ rest) = l ++ disassembleFrom (start + span l) rest := by
  induction l generalizing start with
  | nil => rfl
  | cons i l ih =>
    rw [wellFormed_cons_iff] at hl
    obtain ⟨hoffset, hi, hcomplete, hl⟩ := hl
    -- What follows the operand cannot be taken for a part of it.
    have hstep : i.Complete ∨ assemble l ++ rest = [] := by
      cases l with
      | nil =>
        cases h with
        | inl h => exact .inl (h i rfl)
        | inr h => exact .inr h
      | cons j l => exact .inl (hcomplete (by simp))
    have hrest : (∀ j ∈ l.getLast?, j.Complete) ∨ rest = [] := by
      cases h with
      | inl h =>
        left
        intro j hj
        apply h
        rw [List.getLast?_cons, Option.mem_def.1 hj]
        rfl
      | inr h => exact .inr h
    rw [assemble_cons, List.cons_append, List.append_assoc, disassembleFrom_cons,
      Opcode.ofByte_toByte hi.opcode, (Instruction.split_operand_append hi hstep).2, ← hoffset,
      Instruction.ofBytes_operand_append hi hstep, ih hl hrest, List.cons_append, span]
    congr 3
    omega

theorem disassembleFrom_assemble_place_append {start : Nat} {bodies : List Body}
    (h : ∀ body ∈ bodies, body.Whole) (rest : Bytes) :
    disassembleFrom start (assemble (place start bodies) ++ rest)
      =
    place start bodies ++ disassembleFrom (start + span (place start bodies)) rest := by
  apply disassembleFrom_assemble_append
  · exact wellFormed_place h start
  · left
    intro i hi
    have hi := h _ (body_mem_of_mem_place (List.mem_of_getLast? hi))
    exact (Instruction.whole_body_iff.1 hi).2

theorem assemble_isPrefix_of_isPrefix {start : Nat} {l : List Instruction} {code : Bytes}
    (hl : ∀ i ∈ l, i.opcode ≠ .invalid) (h : l <+: disassembleFrom start code) :
    assemble l <+: code := by
  induction l generalizing start code with
  | nil => apply List.nil_prefix
  | cons i l ih =>
    cases code with
    | nil => simp at h
    | cons b rest =>
      rw [disassembleFrom_cons, List.cons_prefix_cons] at h
      obtain ⟨rfl, h⟩ := h
      simp only [List.mem_cons, forall_eq_or_imp, Instruction.opcode_ofBytes] at hl
      have hrest := ih hl.2 h
      rw [assemble_cons, Instruction.opcode_ofBytes, ← Opcode.eq_toByte_of_ofByte_ne_invalid hl.1,
        Instruction.operandBytes_ofBytes, List.cons_prefix_cons]
      refine ⟨rfl, ?_⟩
      rw [← List.prefix_append_right_inj (rest.take (Opcode.ofByte b).immediateLength),
        List.take_append_drop] at hrest
      exact hrest

theorem assemble_place_isPrefix_iff {start : Nat} {bodies : List Body} {code : Bytes}
    (hwhole : ∀ body ∈ bodies, body.Whole) (hvalid : ∀ body ∈ bodies, body.1 ≠ .invalid) :
    assemble (place start bodies) <+: code ↔ place start bodies <+: disassembleFrom start code := by
  constructor
  · rintro ⟨rest, rfl⟩
    rw [disassembleFrom_assemble_place_append hwhole]
    apply List.prefix_append
  · apply assemble_isPrefix_of_isPrefix
    intro i hi
    exact hvalid _ (body_mem_of_mem_place hi)

theorem disassemble_assemble {l : List Instruction} (h : WellFormed 0 l) :
    disassemble (assemble l) = l := by
  have hl := disassembleFrom_assemble_append h (.inr rfl)
  rw [List.append_nil, disassembleFrom_nil, List.append_nil] at hl
  rw [disassemble_eq_disassembleFrom, hl]

theorem wellFormed_disassemble (code : Bytes) : WellFormed 0 (disassemble code) := by
  rw [disassemble_eq_disassembleFrom]
  exact wellFormed_disassembleFrom 0 code

theorem disassemble_eq_iff_wellFormed (l : List Instruction) :
    ((∃ code, disassemble code = l) ↔ WellFormed 0 l)
      ∧ (WellFormed 0 l ↔ disassemble (assemble l) = l) := by
  have himage : (∃ code, disassemble code = l) → WellFormed 0 l := by
    rintro ⟨code, rfl⟩
    exact wellFormed_disassemble code
  refine ⟨⟨himage, ?_⟩, disassemble_assemble, ?_⟩
  · intro h
    exact ⟨assemble l, disassemble_assemble h⟩
  · intro h
    exact himage ⟨assemble l, h⟩

def reencode (code : Bytes) : Bytes :=
  assemble (disassemble code)

theorem assemble_disassembleFrom_cons (start : Nat) (b : UInt8) (rest : Bytes) :
    assemble (disassembleFrom start (b :: rest)) =
      (Opcode.ofByte b).toByte ::
        (rest.take (Opcode.ofByte b).immediateLength ++
          assemble (disassembleFrom (start + 1 + (Opcode.ofByte b).immediateLength)
            (rest.drop (Opcode.ofByte b).immediateLength))) := by
  rw [disassembleFrom_cons, assemble_cons, Instruction.operandBytes_ofBytes, Instruction.opcode_ofBytes]

theorem length_assemble_disassembleFrom (start : Nat) (code : Bytes) :
    (assemble (disassembleFrom start code)).length = code.length := by
  fun_induction disassembleFrom start code with
  | case1 start => rfl
  | case2 start b rest n ih =>
    rw [← disassembleFrom_cons, assemble_disassembleFrom_cons, List.length_cons, List.length_append, ih,
      ← List.length_append, List.take_append_drop, List.length_cons]

theorem mem_offsets_disassembleFrom_cons {start p : Nat} {b : UInt8} {rest : Bytes} :
    (p : Int) ∈ (disassembleFrom start (b :: rest)).map Instruction.offset
      ↔
    p = start
      ∨ (start + 1 + (Opcode.ofByte b).immediateLength ≤ p
          ∧ (p : Int) ∈ (disassembleFrom (start + 1 + (Opcode.ofByte b).immediateLength)
              (rest.drop (Opcode.ofByte b).immediateLength)).map Instruction.offset) := by
  rw [disassembleFrom_cons, List.map_cons, List.mem_cons, Instruction.offset_ofBytes, Int.natCast_inj]
  constructor
  · intro h
    cases h with
    | inl h => exact .inl h
    | inr h =>
      right
      refine ⟨?_, h⟩
      rw [List.mem_map] at h
      obtain ⟨i, hi, hp⟩ := h
      have := (wellFormed_disassembleFrom ..).le_offset i hi
      omega
  · intro h
    cases h with
    | inl h => exact .inl h
    | inr h => exact .inr h.2

theorem getElem?_assemble_disassembleFrom (start : Nat) (code : Bytes)
    : ∀ (k : Nat),
        (assemble (disassembleFrom start code))[k]?
          =
        code[k]?.map (fun b =>
          if ((start + k : Nat) : Int) ∈ (disassembleFrom start code).map Instruction.offset
              ∧ ¬Opcode.isAssigned b then
            0xfe
          else
            b) := by
  fun_induction disassembleFrom start code with
  | case1 start => simp [assemble]
  | case2 start b rest n ih =>
    rw [← disassembleFrom_cons, assemble_disassembleFrom_cons]
    intro k
    simp only [mem_offsets_disassembleFrom_cons]
    cases k with
    | zero =>
      simp only [List.getElem?_cons_zero, Option.map_some, Opcode.toByte_ofByte_eq]
      by_cases hb : Opcode.isAssigned b
      · simp [hb]
      · simp [hb, Opcode.toByte]
    | succ k =>
      rw [List.getElem?_cons_succ, List.getElem?_cons_succ]
      have hrest : rest[k]? = (rest.take n ++ rest.drop n)[k]? := by rw [List.take_append_drop]
      rw [hrest, List.getElem?_append, List.getElem?_append]
      split
      · next hk =>
        rw [List.length_take] at hk
        have hnext : ¬(start + 1 + n ≤ start + (k + 1)) := by omega
        simp [n, hnext]
      · next hk =>
        rw [ih]
        cases hdrop : rest.drop n with
        | nil => rfl
        | cons c after =>
          -- Bytes follow the operand, so that it is complete and the offsets are positions again.
          have hne : rest.drop n ≠ [] := by simp [hdrop]
          rw [ne_eq, List.drop_eq_nil_iff] at hne
          rw [List.length_take, Nat.min_eq_left (by omega)] at hk ⊢
          have hp : start + 1 + n + (k - n) = start + (k + 1) := by omega
          have hnext : start + 1 + n ≤ start + (k + 1) := by omega
          simp [n, hp, hnext]

theorem length_reencode (code : Bytes) : (reencode code).length = code.length := by
  unfold reencode
  rw [disassemble_eq_disassembleFrom]
  apply length_assemble_disassembleFrom

theorem getElem?_reencode (code : Bytes) (p : Nat) :
    (reencode code)[p]?
      =
    code[p]?.map (fun b =>
      if (p : Int) ∈ (disassemble code).map Instruction.offset ∧ ¬Opcode.isAssigned b then
        0xfe
      else
        b) := by
  unfold reencode
  rw [disassemble_eq_disassembleFrom, getElem?_assemble_disassembleFrom, Nat.zero_add]

theorem reencode_eq_self_iff {code : Bytes} :
    reencode code = code
      ↔
    ∀ i ∈ disassemble code, ∀ b ∈ code[i.offset.toNat]?, Opcode.isAssigned b := by
  constructor
  · intro h i hi b hb
    obtain ⟨p, _, _, _, rfl⟩ := eq_ofBytes_of_mem_disassemble hi
    rw [Instruction.offset_ofBytes, Int.toNat_natCast, Option.mem_def] at hb
    have hp := getElem?_reencode code p
    have hmem : (p : Int) ∈ (disassemble code).map Instruction.offset := List.mem_map_of_mem hi
    rw [h, hb, Option.map_some, Option.some.injEq] at hp
    by_cases hassigned : Opcode.isAssigned b
    · exact hassigned
    · -- The byte would have become `0xfe`, which is assigned.
      rw [if_pos ⟨hmem, hassigned⟩] at hp
      rw [hp]
      decide
  · intro h
    apply List.ext_getElem?
    intro p
    rw [getElem?_reencode]
    cases hb : code[p]? with
    | none => rfl
    | some b =>
      rw [Option.map_some, if_neg]
      rintro ⟨hmem, hassigned⟩
      rw [List.mem_map] at hmem
      obtain ⟨i, hi, hoffset⟩ := hmem
      apply hassigned
      apply h i hi
      rw [hoffset, Int.toNat_natCast]
      exact hb

theorem disassemble_reencode (code : Bytes) : disassemble (reencode code) = disassemble code := by
  apply disassemble_assemble
  apply wellFormed_disassemble

theorem disassemble_eq_disassemble_iff {code code' : Bytes} :
    disassemble code = disassemble code' ↔ reencode code = reencode code' := by
  constructor
  · intro h
    rw [reencode, reencode, h]
  · intro h
    rw [← disassemble_reencode code, ← disassemble_reencode code', h]

theorem reencode_normal_form (code : Bytes) :
    (reencode code).length = code.length
      ∧ (∀ p : Nat,
          (reencode code)[p]?
            =
          code[p]?.map (fun b =>
            if (p : Int) ∈ (disassemble code).map Instruction.offset ∧ ¬Opcode.isAssigned b then
              0xfe
            else
              b))
      ∧ (reencode code = code
            ↔
          ∀ i ∈ disassemble code, ∀ b ∈ code[i.offset.toNat]?, Opcode.isAssigned b)
      ∧ disassemble (reencode code) = disassemble code
      ∧ reencode (reencode code) = reencode code
      ∧ (∀ other, disassemble code = disassemble other ↔ reencode code = reencode other) := by
  refine ⟨length_reencode code, getElem?_reencode code, reencode_eq_self_iff, disassemble_reencode code,
    ?_, ?_⟩
  · rw [reencode, disassemble_reencode]
    rfl
  · intro other
    exact disassemble_eq_disassemble_iff

end EvmSelectors
