import EvmSelectors.Proofs.Hex

/-!
This module contains the grammar of hexadecimal text: which texts are read, as what, and why any other
text is refused.
-/

namespace EvmSelectors
namespace Text

def isBlankPoint (p : CodePoint) : Bool :=
  p.char?.any isBlank

/--
Whether `core` is a text without the white space at its two ends.
-/
def IsCore (core s : List CodePoint) : Prop :=
  ∃ before after,
    s = before ++ core ++ after
      ∧ (∀ p ∈ before, isBlankPoint p)
      ∧ (∀ p ∈ core.head?, isBlankPoint p = false)
      ∧ (∀ p ∈ core.getLast?, isBlankPoint p = false)
      ∧ (∀ p ∈ after, isBlankPoint p)

theorem exists_eq_append_trimBy {α : Type} (p : α → Bool) (s : List α) :
    ∃ before after,
      s = before ++ trimBy p s ++ after
        ∧ (∀ a ∈ before, p a)
        ∧ (∀ a ∈ (trimBy p s).head?, p a = false)
        ∧ (∀ a ∈ (trimBy p s).getLast?, p a = false)
        ∧ (∀ a ∈ after, p a) := by
  have hrest : s.dropWhile p = trimBy p s ++ ((s.dropWhile p).reverse.takeWhile p).reverse := by
    unfold trimBy
    rw [← List.reverse_append, List.takeWhile_append_dropWhile, List.reverse_reverse]
  have hfirst : ∀ l : List α, ∀ a ∈ (l.dropWhile p).head?, p a = false := by
    intro l a ha
    have hnot := List.head?_dropWhile_not p l
    rw [ha] at hnot
    simpa using hnot
  refine ⟨s.takeWhile p, ((s.dropWhile p).reverse.takeWhile p).reverse, ?_, ?_, ?_, ?_, ?_⟩
  · rw [List.append_assoc, ← hrest, List.takeWhile_append_dropWhile]
  · intro a ha
    exact List.mem_takeWhile_imp ha
  · intro a ha
    apply hfirst s
    rw [hrest, List.head?_append, ha]
    rfl
  · intro a ha
    apply hfirst (s.dropWhile p).reverse
    rw [← List.getLast?_reverse]
    exact ha
  · intro a ha
    rw [List.mem_reverse] at ha
    exact List.mem_takeWhile_imp ha

theorem isCore_iff {core s : List CodePoint} : IsCore core s ↔ core = trim s := by
  constructor
  · rintro ⟨before, after, rfl, hbefore, hhead, hlast, hafter⟩
    exact (trimBy_append_append hbefore hhead hlast hafter).symm
  · rintro rfl
    apply exists_eq_append_trimBy

end Text

namespace Hex

/--
The digits in both letter cases.
-/
def alphabet : List Char := "0123456789abcdefABCDEF".toList

theorem digit?_ofNat
    : ∀ n < 128,
        (digit? (Char.ofNat n)).isSome = alphabet.contains (Char.ofNat n)
          ∧ ∀ v ∈ digit? (Char.ofNat n), v < 16 ∧ Nat.digitChar v = (Char.ofNat n).toLower := by
  decide +kernel

theorem isSome_digit?_iff {c : Char} : (digit? c).isSome ↔ c ∈ alphabet := by
  by_cases hc : c.toNat < 128
  · have h := (digit?_ofNat c.toNat hc).1
    rw [Char.ofNat_toNat] at h
    rw [h, List.contains_iff_mem]
  · constructor
    · intro h
      exact absurd (toNat_lt_of_digit h) hc
    · intro h
      have hall : alphabet.all (fun c => c.toNat < 128) := by decide
      rw [List.all_eq_true] at hall
      simpa [hc] using hall c h

theorem exists_digit?_of_mem {c : Char} (h : c ∈ alphabet) :
    ∃ n, digit? c = some n ∧ n < 16 ∧ Nat.digitChar n = c.toLower := by
  rw [← isSome_digit?_iff] at h
  have hn := (digit?_ofNat c.toNat (toNat_lt_of_digit h)).2
  rw [Char.ofNat_toNat] at hn
  obtain ⟨n, hc⟩ := Option.isSome_iff_exists.1 h
  exact ⟨n, hc, hn n hc⟩

theorem isDigit_iff {p : CodePoint} : isDigit p ↔ p ∈ alphabet.map .char := by
  unfold isDigit
  cases p with
  | char c => simp [CodePoint.char?, isSome_digit?_iff]
  | surrogate index => simp [CodePoint.char?]

theorem encodeByte_pair {hi lo : Char} (hhi : hi ∈ alphabet) (hlo : lo ∈ alphabet) :
    encodeByte (pair hi lo) = [hi.toLower, lo.toLower] := by
  obtain ⟨n, hn, hnlt, hnlower⟩ := exists_digit?_of_mem hhi
  obtain ⟨m, hm, hmlt, hmlower⟩ := exists_digit?_of_mem hlo
  have hvalue : (pair hi lo).toNat = 16 * n + m := by
    rw [pair, hn, hm, Option.getD_some, Option.getD_some, UInt8.toNat_ofNat']
    omega
  have hdiv : (16 * n + m) / 16 = n := by omega
  have hmod : (16 * n + m) % 16 = m := by omega
  rw [encodeByte, hvalue, hdiv, hmod, hnlower, hmlower]

theorem encode_decode {digits : List Char} (hdigits : ∀ c ∈ digits, c ∈ alphabet)
    (heven : digits.length % 2 = 0) : encode (decode digits) = digits.map Char.toLower := by
  match digits with
  | [] => rfl
  | [_] => simp at heven
  | hi :: lo :: rest =>
    simp only [List.mem_cons, forall_eq_or_imp] at hdigits
    have hrest : rest.length % 2 = 0 := by
      simp only [List.length_cons] at heven
      omega
    rw [decode_cons_cons, encode_cons, encodeByte_pair hdigits.1 hdigits.2.1,
      encode_decode hdigits.2.2 hrest]
    rfl

/--
Whether a text is an even number of digits.
-/
def IsDigits (d : List CodePoint) : Prop :=
  (∀ p ∈ d, p ∈ alphabet.map .char) ∧ d.length % 2 = 0

theorem exists_eq_map_char {d : List CodePoint} (h : ∀ p ∈ d, p ∈ alphabet.map .char) :
    ∃ digits : List Char, d = digits.map .char ∧ ∀ c ∈ digits, c ∈ alphabet := by
  induction d with
  | nil => exact ⟨[], rfl, by simp⟩
  | cons p d ih =>
    simp only [List.mem_cons, forall_eq_or_imp] at h
    obtain ⟨c, hc, rfl⟩ := List.mem_map.1 h.1
    obtain ⟨digits, rfl, hdigits⟩ := ih h.2
    refine ⟨c :: digits, rfl, ?_⟩
    simp only [List.mem_cons, forall_eq_or_imp]
    exact ⟨hc, hdigits⟩

theorem IsDigits.exists_eq_map_char {d : List CodePoint} (h : IsDigits d) :
    ∃ digits : List Char,
      d = digits.map .char ∧ (∀ c ∈ digits, c ∈ alphabet) ∧ digits.length % 2 = 0 := by
  obtain ⟨digits, rfl, hdigits⟩ := Hex.exists_eq_map_char h.1
  refine ⟨digits, rfl, hdigits, ?_⟩
  rw [← List.length_map CodePoint.char]
  exact h.2

theorem readDigits_of_digits {digits : List Char} (hdigits : ∀ c ∈ digits, c ∈ alphabet)
    (heven : digits.length % 2 = 0) : readDigits (digits.map .char) = .ok (decode digits) := by
  apply readDigits_of_map_toLower_eq
  rw [encode_decode hdigits heven]

theorem readDigits_eq_oddLength_iff {d : List CodePoint} {n : Nat} :
    readDigits d = .error (.oddLength n) ↔ d.length = n ∧ n % 2 = 1 := by
  unfold readDigits
  split
  · grind
  · split <;> grind

theorem readDigits_eq_badDigit_iff {d : List CodePoint} {p : CodePoint} :
    readDigits d = .error (.badDigit p)
      ↔
    d.length % 2 = 0
      ∧ p ∉ alphabet.map .char
      ∧ ∃ good rest, d = good ++ p :: rest ∧ ∀ q ∈ good, q ∈ alphabet.map .char := by
  have hfind :
      d.find? (fun q => !isDigit q) = some p
        ↔
      p ∉ alphabet.map .char
        ∧ ∃ good rest, d = good ++ p :: rest ∧ ∀ q ∈ good, q ∈ alphabet.map .char := by
    simp only [List.find?_eq_some_iff_append, ← isDigit_iff, Bool.not_eq_true', Bool.not_eq_true,
      Bool.not_not]
  rw [← hfind]
  unfold readDigits
  split
  · next hodd => simp [hodd]
  · next hodd =>
    have heven : d.length % 2 = 0 := by omega
    simp only [heven, true_and]
    split
    · next q hq => simp [hq]
    · next hnone => simp [hnone]

theorem isDigits_of_readDigits_eq_ok {d : List CodePoint} {b : Bytes} (h : readDigits d = .ok b) :
    IsDigits d := by
  unfold readDigits at h
  split at h
  · cases h
  · next heven =>
    split at h
    · cases h
    · next hnone =>
      rw [List.find?_eq_none] at hnone
      refine ⟨?_, by omega⟩
      intro p hp
      rw [← isDigit_iff]
      simpa using hnone p hp

theorem readDigits_eq_ok_iff {d : List CodePoint} {b : Bytes} :
    readDigits d = .ok b
      ↔
    IsDigits d
      ∧ ∃ digits : List Char, d = digits.map .char ∧ digits.map Char.toLower = encode b := by
  constructor
  · intro h
    have hd := isDigits_of_readDigits_eq_ok h
    obtain ⟨digits, rfl, hdigits, heven⟩ := hd.exists_eq_map_char
    rw [readDigits_of_digits hdigits heven, Except.ok.injEq] at h
    refine ⟨hd, digits, rfl, ?_⟩
    rw [← h, encode_decode hdigits heven]
  · rintro ⟨-, digits, rfl, hdigits⟩
    exact readDigits_of_map_toLower_eq hdigits

/--
Whether a text starts with a mark.
-/
def HasMark (s : List CodePoint) : Prop :=
  CodePoint.ofString "0x" <+: s ∨ CodePoint.ofString "0X" <+: s

/--
Whether `d` is a text without the mark that it may start with.
-/
def IsUnmarked (d s : List CodePoint) : Prop :=
  HasMark s ∧ d = s.drop 2 ∨ ¬HasMark s ∧ d = s

theorem isMarked_iff {s : List CodePoint} : isMarked s ↔ HasMark s := by
  unfold isMarked
  split
  · next rest => exact iff_of_true rfl (.inl ⟨rest, rfl⟩)
  · next rest => exact iff_of_true rfl (.inr ⟨rest, rfl⟩)
  · next hx hX =>
    apply iff_of_false Bool.false_ne_true
    rintro (⟨rest, hs⟩ | ⟨rest, hs⟩)
    · exact hx rest hs.symm
    · exact hX rest hs.symm

theorem isUnmarked_iff {d s : List CodePoint} : IsUnmarked d s ↔ d = unmarked s := by
  unfold IsUnmarked unmarked
  rw [← isMarked_iff]
  split
  · next h => simp [h]
  · next h => simp [h]

theorem exists_mark_append_unmarked (s : List CodePoint) :
    ∃ mark ∈ marks, s = mark.map .char ++ unmarked s := by
  unfold unmarked isMarked
  split
  · exact ⟨['0', 'x'], by simp [marks], rfl⟩
  · exact ⟨['0', 'X'], by simp [marks], rfl⟩
  · exact ⟨[], by simp [marks], rfl⟩

theorem parse_of_isCore {core s : List CodePoint} (h : Text.IsCore core s) :
    parse s = readDigits (unmarked core) := by
  rw [parse, Text.isCore_iff.1 h]

theorem exists_spells_of_parse_eq_ok {s : List CodePoint} {b : Bytes} (h : parse s = .ok b) :
    ∃ before text after,
      s = before ++ text.map .char ++ after
        ∧ Spells text b
        ∧ (∀ p ∈ before, Text.isBlankPoint p)
        ∧ (∀ p ∈ after, Text.isBlankPoint p) := by
  obtain ⟨before, after, hs, hbefore, -, -, hafter⟩ := Text.isCore_iff.2 (Eq.refl (Text.trim s))
  obtain ⟨mark, hmark, hcore⟩ := exists_mark_append_unmarked (Text.trim s)
  obtain ⟨-, digits, hd, hdigits⟩ := readDigits_eq_ok_iff.1 h
  refine ⟨before, mark ++ digits, after, ?_, ⟨mark, hmark, digits, rfl, hdigits⟩, hbefore, hafter⟩
  rw [List.map_append, ← hd, ← hcore]
  exact hs

def isSpace (c : Char) : Bool :=
  (0x09 ≤ c.toNat && c.toNat ≤ 0x0d) || c.toNat == 0x20

/--
Reads digits in pairs, and passes over white space in front of a pair and behind the last one.
-/
def decodeSpaced? : List Char → Option Bytes
  | [] => some []
  | hi :: rest =>
    if isSpace hi then
      decodeSpaced? rest
    else
      match rest with
      | [] => none
      | lo :: rest =>
        match digit? hi, digit? lo with
        | some n, some m => (decodeSpaced? rest).map (UInt8.ofNat (16 * n + m) :: ·)
        | _, _ => none

theorem isSpace_eq_false {c : Char} (h : c ∈ alphabet) : isSpace c = false := by
  have hall : alphabet.all (fun c => !isSpace c) := by decide
  rw [List.all_eq_true] at hall
  simpa using hall c h

theorem decodeSpaced?_of_digits {digits : List Char} (hdigits : ∀ c ∈ digits, c ∈ alphabet)
    (heven : digits.length % 2 = 0) : decodeSpaced? digits = some (decode digits) := by
  match digits with
  | [] => rfl
  | [_] => simp at heven
  | hi :: lo :: rest =>
    simp only [List.mem_cons, forall_eq_or_imp] at hdigits
    obtain ⟨n, hn, -⟩ := exists_digit?_of_mem hdigits.1
    obtain ⟨m, hm, -⟩ := exists_digit?_of_mem hdigits.2.1
    have hrest : rest.length % 2 = 0 := by
      simp only [List.length_cons] at heven
      omega
    rw [decode_cons_cons, pair, decodeSpaced?, isSpace_eq_false hdigits.1, hn, hm,
      decodeSpaced?_of_digits hdigits.2.2 hrest]
    rfl

theorem parse_grammar (s : List CodePoint) :
    ∃ core d,
      Text.IsCore core s
        ∧ IsUnmarked d core
        ∧ (∀ b,
            parse s = .ok b
              ↔
            IsDigits d
              ∧ ∃ digits : List Char, d = digits.map .char ∧ digits.map Char.toLower = encode b)
        ∧ (∀ n, parse s = .error (.oddLength n) ↔ d.length = n ∧ n % 2 = 1)
        ∧ (∀ p,
            parse s = .error (.badDigit p)
              ↔
            d.length % 2 = 0
              ∧ p ∉ alphabet.map .char
              ∧ ∃ good rest, d = good ++ p :: rest ∧ ∀ q ∈ good, q ∈ alphabet.map .char)
        ∧ (∀ n, (Error.oddLength n).message = "odd number of hex digits (" ++ toString n ++ ")")
        ∧ (∀ p, (Error.badDigit p).message = "invalid hex character " ++ Text.quotedPoints [p])
        ∧ (IsDigits d →
            ∃ digits b,
              d = digits.map .char
                ∧ (∀ c ∈ digits, isSpace c = false)
                ∧ decodeSpaced? digits = some b
                ∧ parse s = .ok b)
        ∧ (∀ before text after b,
            s = (before ++ text ++ after).map .char → Spells text b →
              (∀ c ∈ before, Text.isBlank c) → (∀ c ∈ after, Text.isBlank c) →
                parse s = .ok b) := by
  have hcore : Text.IsCore (Text.trim s) s := Text.isCore_iff.2 rfl
  refine ⟨Text.trim s, unmarked (Text.trim s), hcore, isUnmarked_iff.2 rfl, ?_, ?_, ?_, ?_, ?_, ?_,
    ?_⟩
  · intro b
    rw [parse_of_isCore hcore, readDigits_eq_ok_iff]
  · intro n
    rw [parse_of_isCore hcore, readDigits_eq_oddLength_iff]
  · intro p
    rw [parse_of_isCore hcore, readDigits_eq_badDigit_iff]
  · intro n
    rfl
  · intro p
    rfl
  · intro h
    obtain ⟨digits, hd, hdigits, heven⟩ := h.exists_eq_map_char
    refine ⟨digits, decode digits, hd, ?_, decodeSpaced?_of_digits hdigits heven, ?_⟩
    · intro c hc
      exact isSpace_eq_false (hdigits c hc)
    · rw [parse_of_isCore hcore, hd, readDigits_of_digits hdigits heven]
  · rintro before text after b rfl htext hbefore hafter
    exact htext.parse_eq hbefore hafter

end Hex
end EvmSelectors
