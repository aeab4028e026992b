import Mathlib.Data.List.TakeWhile
import EvmSelectors.Hex

/-!
This module contains the laws of hexadecimal text: a byte string is read back from any form of it, in
whatever letter case its digits are, with a mark or without one and with white space around it.
-/

namespace EvmSelectors

theorem Text.trimBy_append_append {α : Type} {p : α → Bool} {before s after : List α}
    (hbefore : ∀ a ∈ before, p a) (hhead : ∀ a ∈ s.head?, p a = false)
    (hlast : ∀ a ∈ s.getLast?, p a = false) (hafter : ∀ a ∈ after, p a) :
    trimBy p (before ++ s ++ after) = s := by
  unfold trimBy
  rw [List.append_assoc, List.dropWhile_append_of_pos hbefore]
  cases s with
  | nil =>
    rw [List.nil_append, List.dropWhile_eq_nil_iff.2 hafter]
    rfl
  | cons a s =>
    have hreverse : (a :: s).reverse.dropWhile p = (a :: s).reverse := by
      rw [List.dropWhile_eq_self_iff]
      intro hlen
      rw [hlast]
      · apply Bool.false_ne_true
      · rw [← List.head?_reverse, List.head?_eq_getElem?, List.getElem?_eq_getElem hlen]
        rfl
    have ha : ¬p a := by
      rw [hhead a rfl]
      apply Bool.false_ne_true
    rw [List.cons_append, List.dropWhile_cons_of_neg ha, ← List.cons_append, List.reverse_append,
      List.dropWhile_append_of_pos (by simpa using hafter), hreverse, List.reverse_reverse]

namespace Hex

/--
The marks that may stand in front of digits, one of which is no mark at all.
-/
def marks : List (List Char) := [[], ['0', 'x'], ['0', 'X']]

/--
Whether a text is a form of a byte string: its digits in any mix of letter cases, behind a mark or
without one.
-/
def Spells (text : List Char) (b : Bytes) : Prop :=
  ∃ mark ∈ marks, ∃ digits : List Char, text = mark ++ digits ∧ digits.map Char.toLower = encode b

theorem digit?_toLower (c : Char) : digit? c.toLower = digit? c := by
  unfold Char.toLower
  split
  · next h =>
    have hupper : 65 ≤ c.toNat ∧ c.toNat ≤ 90 := h
    simp only [digit?, Char.toNat, UInt32.toNat_add] at hupper ⊢
    grind
  · rfl

theorem digit?_digitChar : ∀ n < 16, digit? (Nat.digitChar n) = some n := by
  decide

theorem toLower_digitChar : ∀ n < 16, (Nat.digitChar n).toLower = Nat.digitChar n := by
  decide

theorem digit?_of_toLower_eq {c : Char} {n : Nat} (hn : n < 16) (h : c.toLower = Nat.digitChar n) :
    digit? c = some n := by
  rw [← digit?_toLower, h, digit?_digitChar n hn]

theorem map_toLower_encode (b : Bytes) : (encode b).map Char.toLower = encode b := by
  induction b with
  | nil => rfl
  | cons x b ih =>
    have hx := x.toNat_lt
    rw [encode_cons, List.map_append, ih, encodeByte, List.map_cons, List.map_cons, List.map_nil,
      toLower_digitChar _ (by omega), toLower_digitChar _ (by omega)]

theorem spells_encode (b : Bytes) : Spells (encode b) b := by
  refine ⟨[], by simp [marks], encode b, rfl, ?_⟩
  apply map_toLower_encode

theorem map_toLower_eq_encode_cons {digits : List Char} {x : UInt8} {b : Bytes}
    (h : digits.map Char.toLower = encode (x :: b)) :
    ∃ hi lo rest,
      digits = hi :: lo :: rest
        ∧ digit? hi = some (x.toNat / 16)
        ∧ digit? lo = some (x.toNat % 16)
        ∧ rest.map Char.toLower = encode b := by
  have hx := x.toNat_lt
  rw [encode_cons, encodeByte, List.cons_append, List.cons_append, List.nil_append,
    List.map_eq_cons_iff] at h
  obtain ⟨hi, digits, rfl, hhi, h⟩ := h
  rw [List.map_eq_cons_iff] at h
  obtain ⟨lo, rest, rfl, hlo, hrest⟩ := h
  refine ⟨hi, lo, rest, rfl, ?_, ?_, hrest⟩
  · exact digit?_of_toLower_eq (by omega) hhi
  · exact digit?_of_toLower_eq (by omega) hlo

theorem decode_of_map_toLower_eq {digits : List Char} {b : Bytes}
    (h : digits.map Char.toLower = encode b) : decode digits = b := by
  induction b generalizing digits with
  | nil =>
    rw [encode_nil, List.map_eq_nil_iff] at h
    subst h
    rfl
  | cons x b ih =>
    obtain ⟨hi, lo, rest, rfl, hhi, hlo, hrest⟩ := map_toLower_eq_encode_cons h
    have hx : 16 * (x.toNat / 16) + x.toNat % 16 = x.toNat := by omega
    rw [decode_cons_cons, ih hrest, pair, hhi, hlo, Option.getD_some, Option.getD_some, hx,
      UInt8.ofNat_toNat]

theorem decode_encode (b : Bytes) : decode (encode b) = b :=
  decode_of_map_toLower_eq (map_toLower_encode b)

theorem isSome_digit?_of_map_toLower_eq {digits : List Char} {b : Bytes}
    (h : digits.map Char.toLower = encode b) : ∀ c ∈ digits, (digit? c).isSome := by
  induction b generalizing digits with
  | nil =>
    rw [encode_nil, List.map_eq_nil_iff] at h
    simp [h]
  | cons x b ih =>
    obtain ⟨hi, lo, rest, rfl, hhi, hlo, hrest⟩ := map_toLower_eq_encode_cons h
    simp only [List.mem_cons, forall_eq_or_imp]
    refine ⟨?_, ?_, ih hrest⟩
    · rw [hhi]
      rfl
    · rw [hlo]
      rfl

theorem isBlank_eq_false_of_digit {c : Char} (h : (digit? c).isSome) : Text.isBlank c = false := by
  unfold digit? at h
  simp only [Text.isBlank, Text.blankRanges, List.any_cons, List.any_nil, Bool.or_eq_false_iff,
    Bool.and_eq_false_iff, decide_eq_false_iff_not]
  grind

theorem toNat_lt_of_digit {c : Char} (h : (digit? c).isSome) : c.toNat < 128 := by
  unfold digit? at h
  grind

theorem readDigits_of_map_toLower_eq {digits : List Char} {b : Bytes}
    (h : digits.map Char.toLower = encode b) : readDigits (digits.map .char) = .ok b := by
  have hlen : digits.length = 2 * b.length := by
    rw [← length_encode, ← h, List.length_map]
  have hdigits : (digits.map CodePoint.char).find? (fun p => !isDigit p) = none := by
    rw [List.find?_eq_none]
    intro p hp
    rw [List.mem_map] at hp
    obtain ⟨c, hc, rfl⟩ := hp
    have hdigit := isSome_digit?_of_map_toLower_eq h c hc
    simp [isDigit, CodePoint.char?, hdigit]
  have hchars : (digits.map CodePoint.char).filterMap CodePoint.char? = digits := by
    rw [List.filterMap_map]
    exact List.filterMap_some
  unfold readDigits
  rw [if_neg (by rw [List.length_map]; omega), hdigits, hchars, decode_of_map_toLower_eq h]

theorem mem_of_isMarked {s : List CodePoint} (h : isMarked s) : .char 'x' ∈ s ∨ .char 'X' ∈ s := by
  unfold isMarked at h
  split at h
  · simp
  · simp
  · cases h

theorem isMarked_map_char_eq_false {digits : List Char} (h : ∀ c ∈ digits, (digit? c).isSome) :
    isMarked (digits.map .char) = false := by
  have hx : 'x' ∉ digits := fun hmem => absurd (h 'x' hmem) (by decide)
  have hX : 'X' ∉ digits := fun hmem => absurd (h 'X' hmem) (by decide)
  rw [← Bool.not_eq_true]
  intro hmarked
  have hmem := mem_of_isMarked hmarked
  simp [hx, hX] at hmem

theorem unmarked_append {mark digits : List Char} (hmark : mark ∈ marks)
    (hdigits : ∀ c ∈ digits, (digit? c).isSome) :
    unmarked ((mark ++ digits).map .char) = digits.map .char := by
  simp only [marks, List.mem_cons, List.not_mem_nil, or_false] at hmark
  rcases hmark with rfl | rfl | rfl
  · rw [List.nil_append, unmarked, isMarked_map_char_eq_false hdigits]
    rfl
  · rfl
  · rfl

theorem Spells.isSome_digit?_or {text : List Char} {b : Bytes} (h : Spells text b)
    : ∀ c ∈ text, (digit? c).isSome ∨ c = 'x' ∨ c = 'X' := by
  obtain ⟨mark, hmark, digits, rfl, hdigits⟩ := h
  intro c hc
  rw [List.mem_append] at hc
  rcases hc with hc | hc
  · have hzero : (digit? '0').isSome := by decide
    simp only [marks, List.mem_cons, List.not_mem_nil, or_false] at hmark
    rcases hmark with rfl | rfl | rfl
    · cases hc
    · grind
    · grind
  · exact .inl (isSome_digit?_of_map_toLower_eq hdigits c hc)

theorem Spells.isBlank_eq_false {text : List Char} {b : Bytes} (h : Spells text b)
    : ∀ c ∈ text, Text.isBlank c = false := by
  intro c hc
  rcases h.isSome_digit?_or c hc with hdigit | rfl | rfl
  · exact isBlank_eq_false_of_digit hdigit
  · decide
  · decide

theorem Spells.toNat_lt {text : List Char} {b : Bytes} (h : Spells text b)
    : ∀ c ∈ text, c.toNat < 128 := by
  intro c hc
  rcases h.isSome_digit?_or c hc with hdigit | rfl | rfl
  · exact toNat_lt_of_digit hdigit
  · decide
  · decide

theorem Spells.parse_eq {text before after : List Char} {b : Bytes} (h : Spells text b)
    (hbefore : ∀ c ∈ before, Text.isBlank c) (hafter : ∀ c ∈ after, Text.isBlank c) :
    parse ((before ++ text ++ after).map .char) = .ok b := by
  have hblank : ∀ p ∈ text.map CodePoint.char, p.char?.any Text.isBlank = false := by
    simpa [CodePoint.char?] using h.isBlank_eq_false
  have htrim : Text.trim ((before ++ text ++ after).map .char) = text.map .char := by
    rw [List.map_append, List.map_append]
    apply Text.trimBy_append_append
    · simpa [CodePoint.char?] using hbefore
    · intro p hp
      exact hblank p (List.mem_of_mem_head? hp)
    · intro p hp
      exact hblank p (List.mem_of_mem_getLast? hp)
    · simpa [CodePoint.char?] using hafter
  obtain ⟨mark, hmark, digits, rfl, hdigits⟩ := h
  unfold parse
  rw [htrim, unmarked_append hmark (isSome_digit?_of_map_toLower_eq hdigits),
    readDigits_of_map_toLower_eq hdigits]

theorem Spells.parse_map_char_eq {text : List Char} {b : Bytes} (h : Spells text b) :
    parse (text.map .char) = .ok b := by
  have hparse : parse (([] ++ text ++ []).map .char) = .ok b := by
    apply h.parse_eq
    · simp
    · simp
  rwa [List.nil_append, List.append_nil] at hparse

end Hex
end EvmSelectors
