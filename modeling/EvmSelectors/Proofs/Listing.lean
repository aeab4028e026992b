import EvmSelectors.Instruction.Listing
import EvmSelectors.Proofs.Assembly
import EvmSelectors.Proofs.Hex

/-!
This module contains the reading of listings. Any instructions are read back from their listing, so that
no two lists of instructions have the same one.
-/

namespace EvmSelectors

namespace Text

/--
The number that hexadecimal digits spell.
-/
def hexValue (digits : List Char) : Nat :=
  digits.foldl (fun n c => 16 * n + (Hex.digit? c).getD 0) 0

theorem hexValue_append_singleton (digits : List Char) (c : Char) :
    hexValue (digits ++ [c]) = 16 * hexValue digits + (Hex.digit? c).getD 0 := by
  simp [hexValue]

theorem hexValue_replicate_append (width : Nat) (digits : List Char) :
    hexValue (List.replicate width '0' ++ digits) = hexValue digits := by
  induction width with
  | zero => rfl
  | succ width ih =>
    rw [List.replicate_succ, List.cons_append, ← ih]
    rfl

theorem hexValue_toDigits (n : Nat) : hexValue (Nat.toDigits 16 n) = n := by
  induction n using Nat.strongRecOn with
  | ind n ih =>
    rw [Nat.toDigits_eq_if (by omega)]
    split
    · next h =>
      rw [← List.nil_append [n.digitChar], hexValue_append_singleton, Hex.digit?_digitChar n h]
      simp [hexValue]
    · next h =>
      rw [hexValue_append_singleton, ih (n / 16) (by omega), Hex.digit?_digitChar _ (by omega)]
      rw [Option.getD_some]
      omega

theorem hexValue_hexNumber (width n : Nat) : hexValue (hexNumber width n) = n := by
  rw [hexNumber, List.leftpad, hexValue_replicate_append, hexValue_toDigits]

theorem isSome_digit?_of_mem_toDigits (n : Nat) :
    ∀ c ∈ Nat.toDigits 16 n, (Hex.digit? c).isSome := by
  induction n using Nat.strongRecOn with
  | ind n ih =>
    rw [Nat.toDigits_eq_if (by omega)]
    split
    · next h => simp [Hex.digit?_digitChar n h]
    · next h =>
      intro c hc
      rw [List.mem_append, List.mem_singleton] at hc
      rcases hc with hc | rfl
      · exact ih (n / 16) (by omega) c hc
      · simp [Hex.digit?_digitChar (n % 16) (by omega)]

theorem isSome_digit?_of_mem_hexNumber (width n : Nat) :
    ∀ c ∈ hexNumber width n, (Hex.digit? c).isSome := by
  intro c hc
  rw [hexNumber, List.leftpad, List.mem_append, List.mem_replicate] at hc
  rcases hc with ⟨-, rfl⟩ | hc
  · rfl
  · exact isSome_digit?_of_mem_toDigits n c hc

end Text

namespace Opcode

/--
No two opcodes share a mnemonic, the historical ones included.
-/
theorem all_ofMnemonic?_mnemonic :
    all.all (fun op => ofMnemonic? op.mnemonic == some op) := by
  decide +kernel

theorem ofMnemonic?_mnemonic (op : Opcode) : ofMnemonic? op.mnemonic = some op := by
  have hall := all_ofMnemonic?_mnemonic
  rw [List.all_eq_true] at hall
  simpa using hall op (mem_all op)

theorem not_mem_mnemonic {c : Char} (hc : c = ' ' ∨ c = '\n') (op : Opcode) :
    c ∉ op.mnemonic.toList := by
  have hdigits : ∀ n, c ∉ Nat.toDigits 10 n := by
    intro n hmem
    have hdigit := Nat.isDigit_of_mem_toDigits (by omega) (by omega) hmem
    rcases hc with rfl | rfl
    · cases hdigit
    · cases hdigit
  cases op with
  | push n | dup n | swap n | log n => rcases hc with rfl | rfl <;> simp [mnemonic, hdigits]
  | _ => rcases hc with rfl | rfl <;> simp [mnemonic]

end Opcode

namespace Instruction

/--
The offset that a text in hexadecimal spells.
-/
def readOffset : List Char → Int
  | '-' :: digits => -Text.hexValue digits
  | digits => Text.hexValue digits

/--
The operand behind a mnemonic. A space without digits is not the same as nothing.
-/
def readOperand : List Char → Option Bytes
  | [] => none
  | _ :: digits => some (Hex.decode digits)

def readText (offset : Int) (s : List Char) : Option Instruction :=
  match Opcode.ofMnemonic? (String.ofList (s.takeWhile (· != ' '))) with
  | none => none
  | some opcode => some { opcode, offset, operand := readOperand (s.dropWhile (· != ' ')) }

def readLine (s : List Char) : Option Instruction :=
  match s.dropWhile (· != ':') with
  | ':' :: ' ' :: text => readText (readOffset (s.takeWhile (· != ':'))) text
  | _ => none

end Instruction

/--
The instructions that a text lists.
-/
def readListing (s : List Char) : Option (List Instruction) :=
  if s.isEmpty then some [] else (s.splitOn '\n').mapM Instruction.readLine

/--
A text splits in front of the first place of a character.
-/
theorem takeWhile_append_cons {c : Char} {s : List Char} (h : c ∉ s) (rest : List Char) :
    (s ++ c :: rest).takeWhile (· != c) = s := by
  rw [List.takeWhile_append_of_pos, List.takeWhile_cons_of_neg (by simp), List.append_nil]
  grind

theorem dropWhile_append_cons {c : Char} {s : List Char} (h : c ∉ s) (rest : List Char) :
    (s ++ c :: rest).dropWhile (· != c) = c :: rest := by
  rw [List.dropWhile_append_of_pos, List.dropWhile_cons_of_neg (by simp)]
  grind

namespace Instruction

theorem readOffset_offsetText (offset : Int) : readOffset (offsetText offset) = offset := by
  unfold offsetText
  split
  · next h =>
    simp only [readOffset, Text.hexValue_hexNumber]
    omega
  · next h =>
    have hdigits := Text.isSome_digit?_of_mem_hexNumber 4 offset.natAbs
    have hvalue := Text.hexValue_hexNumber 4 offset.natAbs
    -- The sign is no digit, so that only the text of a negative offset starts with it.
    generalize Text.hexNumber 4 offset.natAbs = digits at hdigits hvalue
    unfold readOffset
    split
    · next digits => cases hdigits '-' List.mem_cons_self
    · rw [hvalue]
      omega

theorem not_mem_offsetText {c : Char} (hdigit : Hex.digit? c = none) (hsign : c ≠ '-') (offset : Int) :
    c ∉ offsetText offset := by
  have hnumber : ∀ width, c ∉ Text.hexNumber width offset.natAbs := by
    intro width hmem
    have hsome := Text.isSome_digit?_of_mem_hexNumber width offset.natAbs c hmem
    simp [hdigit] at hsome
  unfold offsetText
  split
  · simp [hsign, hnumber]
  · exact hnumber 4

theorem readText_text (i : Instruction) : readText i.offset i.text = some i := by
  obtain ⟨opcode, offset, operand⟩ := i
  have hspace := Opcode.not_mem_mnemonic (Or.inl rfl) opcode
  cases operand with
  | none =>
    have hall : ∀ c ∈ opcode.mnemonic.toList, (c != ' ') = true := by grind
    simp only [text, readText]
    rw [List.takeWhile_eq_self_iff.mpr hall, List.dropWhile_eq_nil_iff.mpr hall]
    rw [String.ofList_toList, Opcode.ofMnemonic?_mnemonic]
    rfl
  | some operand =>
    simp only [text, readText]
    rw [takeWhile_append_cons hspace, dropWhile_append_cons hspace]
    rw [String.ofList_toList, Opcode.ofMnemonic?_mnemonic]
    rw [readOperand, Hex.decode_encode]

theorem readLine_line (i : Instruction) : readLine i.line = some i := by
  have hcolon : ':' ∉ offsetText i.offset := not_mem_offsetText rfl (by decide) i.offset
  rw [readLine, line, dropWhile_append_cons hcolon, takeWhile_append_cons hcolon]
  simp only
  rw [readOffset_offsetText, readText_text]

theorem not_mem_line (i : Instruction) : '\n' ∉ i.line := by
  have hoffset : '\n' ∉ offsetText i.offset := not_mem_offsetText rfl (by decide) i.offset
  have hmnemonic := Opcode.not_mem_mnemonic (Or.inr rfl) i.opcode
  have hoperand : ∀ b, '\n' ∉ Hex.encode b := by
    intro b hmem
    cases Hex.isSome_digit?_of_map_toLower_eq (Hex.map_toLower_encode b) _ hmem
  have htext : '\n' ∉ i.text := by
    unfold text
    split
    · simp [hmnemonic, hoperand]
    · exact hmnemonic
  simp [line, hoffset, htext]

theorem line_ne_nil (i : Instruction) : i.line ≠ [] := by
  simp [line]

end Instruction

theorem mapM_readLine_map_line (l : List Instruction) :
    (l.map Instruction.line).mapM Instruction.readLine = some l := by
  induction l with
  | nil => rfl
  | cons i l ih => simp [List.mapM_cons, Instruction.readLine_line, ih]

theorem splitOn_listing {l : List Instruction} (h : l ≠ []) :
    (listing l none).splitOn '\n' = l.map Instruction.line := by
  apply List.splitOn_intercalate
  · simp [Instruction.not_mem_line]
  · simpa using h

theorem listing_ne_nil {l : List Instruction} (h : l ≠ []) : listing l none ≠ [] := by
  -- The empty text has one line, which is empty as no line of an instruction is.
  intro hnil
  have hlines := splitOn_listing h
  rw [hnil, List.splitOn_nil] at hlines
  obtain ⟨i, l, rfl⟩ := List.exists_cons_of_ne_nil h
  rw [List.map_cons, List.cons.injEq] at hlines
  exact i.line_ne_nil hlines.1.symm

theorem readListing_listing (l : List Instruction) : readListing (listing l none) = some l := by
  unfold readListing
  split
  · next hempty =>
    by_cases h : l = []
    · rw [h]
    · exact absurd (List.isEmpty_iff.mp hempty) (listing_ne_nil h)
  · next hempty =>
    have h : l ≠ [] := by
      rintro rfl
      exact hempty rfl
    rw [splitOn_listing h, mapM_readLine_map_line]

theorem listing_eq_listing_iff {l l' : List Instruction} : listing l none = listing l' none ↔ l = l' := by
  constructor
  · intro h
    have hread := congrArg readListing h
    rw [readListing_listing, readListing_listing] at hread
    exact Option.some.inj hread
  · intro h
    rw [h]

/--
A listing loses nothing: any instructions are read back from theirs, so that different instructions have
different listings. The listings of two codes are the same just if the codes assemble again to the same
bytes.
-/
theorem listing_faithful :
    (∀ l, readListing (listing l none) = some l)
      ∧ (∀ l l', listing l none = listing l' none ↔ l = l')
      ∧ (∀ code code',
          listing (disassemble code) none = listing (disassemble code') none
            ↔
          reencode code = reencode code') := by
  refine ⟨readListing_listing, fun _ _ => listing_eq_listing_iff, ?_⟩
  intro code code'
  rw [listing_eq_listing_iff, disassemble_eq_disassemble_iff]

end EvmSelectors
