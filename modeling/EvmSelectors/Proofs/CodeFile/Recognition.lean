import EvmSelectors.Proofs.CodeFile
import EvmSelectors.Proofs.Hex.Grammar

/-!
This module contains the decision whether the content of a file is hexadecimal text or the code itself.
-/

namespace EvmSelectors
namespace CodeFile

theorem compact_ofAscii {text : List Char} (h : ∀ c ∈ text, c.toNat < 128) :
    compact (Bytes.ofAscii text) = (text.map .char).filter (fun p => !Text.isBlankPoint p) := by
  have hfilter :
      (Bytes.ofAscii text).filter (fun b => !isBlank b)
        =
      Bytes.ofAscii (text.filter (fun c => !Text.isBlank c)) := by
    unfold Bytes.ofAscii
    rw [List.filter_map]
    congr 1
    apply List.filter_congr
    intro c hc
    rw [Function.comp_apply, isBlank_ofNat (h c hc)]
  rw [compact, hfilter, Bytes.toAscii_ofAscii, List.filter_map]
  · rfl
  · intro c hc
    exact h c (List.mem_filter.1 hc).1

theorem toNat_lt_of_isAscii {content : Bytes} (h : content.isAscii)
    : ∀ c ∈ Bytes.toAscii content, c.toNat < 128 := by
  intro c hc
  unfold Bytes.isAscii at h
  rw [List.all_eq_true] at h
  obtain ⟨b, hb, rfl⟩ := List.mem_map.1 hc
  have hlt := h b hb
  rw [decide_eq_true_iff, UInt8.lt_iff_toNat_lt] at hlt
  have hb := b.toNat_lt
  have hvalid : b.toNat.isValidChar := .inl (by omega)
  rw [Char.ofNat, dif_pos hvalid]
  exact hlt

theorem isCore_compact {content : Bytes} (h : content.isAscii) :
    Text.IsCore (compact content) (compact content) := by
  have hblank : ∀ p ∈ compact content, Text.isBlankPoint p = false := by
    intro p hp
    rw [← Bytes.ofAscii_toAscii content, compact_ofAscii (toNat_lt_of_isAscii h),
      List.mem_filter] at hp
    simpa using hp.2
  refine ⟨[], [], by simp, by simp, ?_, ?_, by simp⟩
  · intro p hp
    exact hblank p (List.mem_of_mem_head? hp)
  · intro p hp
    exact hblank p (List.mem_of_mem_getLast? hp)

theorem decode_of_isAscii {content : Bytes} (h : content.isAscii) (path : String) :
    (decode path content).1
      =
    match Hex.readDigits (Hex.unmarked (compact content)) with
    | .ok code => .ok code
    | .error e => if Hex.isMarked (compact content) then .error e else .ok content := by
  rw [decode, if_pos h, decodeText, Hex.parse_of_isCore (isCore_compact h)]
  cases Hex.readDigits (Hex.unmarked (compact content)) with
  | ok code => rfl
  | error e =>
    cases hmarked : Hex.isMarked (compact content) with
    | true => simp
    | false => simp

theorem length_compact_le (content : Bytes) : (compact content).length ≤ content.length := by
  unfold compact Bytes.toAscii
  rw [List.length_map, List.length_map]
  apply List.length_filter_le

theorem isText_of_compact_eq {content code : Bytes} {text : List Char}
    (h : compact content = text.map .char) (htext : Hex.Spells text code) : IsText content code := by
  have hchar : ∀ c c', CodePoint.char c = CodePoint.char c' → c = c' := by
    intro c c' hc
    cases hc
    rfl
  rw [compact, List.map_inj_right hchar] at h
  refine ⟨text, htext, ?_⟩
  rw [← h, Bytes.ofAscii_toAscii]

theorem exists_isText {content : Bytes} (h : Hex.IsDigits (Hex.unmarked (compact content))) :
    ∃ (digits : List Char) (code : Bytes),
      Hex.unmarked (compact content) = digits.map .char
        ∧ digits.map Char.toLower = Hex.encode code
        ∧ IsText content code := by
  obtain ⟨digits, hd, hdigits, heven⟩ := h.exists_eq_map_char
  obtain ⟨mark, hmark, hcompact⟩ := Hex.exists_mark_append_unmarked (compact content)
  have hlower : digits.map Char.toLower = Hex.encode (Hex.decode digits) := by
    rw [Hex.encode_decode hdigits heven]
  refine ⟨digits, Hex.decode digits, hd, hlower, ?_⟩
  apply isText_of_compact_eq _ ⟨mark, hmark, digits, rfl, hlower⟩
  rw [hcompact, hd, List.map_append]

theorem isText_ofAscii_of_parse_eq_ok {text : List Char} {code : Bytes}
    (h : ∀ c ∈ text, c.toNat < 128) (hparse : Hex.parse (text.map .char) = .ok code) :
    IsText (Bytes.ofAscii text) code := by
  obtain ⟨before, core, after, htext, hcore, hbefore, hafter⟩ :=
    Hex.exists_spells_of_parse_eq_ok hparse
  have hkept : ∀ p ∈ core.map CodePoint.char, !Text.isBlankPoint p := by
    simpa [Text.isBlankPoint, CodePoint.char?] using hcore.isBlank_eq_false
  apply isText_of_compact_eq _ hcore
  rw [compact_ofAscii h, htext, List.filter_append, List.filter_append, List.filter_eq_self.2 hkept,
    List.filter_eq_nil_iff.2, List.filter_eq_nil_iff.2, List.nil_append, List.append_nil]
  · simpa using hafter
  · simpa using hbefore

theorem two_mul_length_le {content code : Bytes} {digits : List Char}
    (hd : Hex.unmarked (compact content) = digits.map .char)
    (hlower : digits.map Char.toLower = Hex.encode code) : 2 * code.length ≤ content.length := by
  obtain ⟨mark, -, hcompact⟩ := Hex.exists_mark_append_unmarked (compact content)
  have hle := length_compact_le content
  rw [hcompact, hd, List.length_append, List.length_map, List.length_map] at hle
  rw [← Hex.length_encode, ← hlower, List.length_map]
  omega

section Read

variable {s : Store} {path : String} {content : Bytes}

theorem read_eq_mapError_decode (hread : s.read path = .ok content) :
    (read s path).1 = (decode path content).1.mapError .hex := by
  rw [read, hread]
  dsimp only
  generalize decode path content = r
  obtain ⟨result, log⟩ := r
  cases result <;> rfl

theorem read_of_not_isAscii (hread : s.read path = .ok content) (h : ¬content.isAscii) :
    (read s path).1 = .ok content := by
  rw [read_eq_mapError_decode hread, decode_of_not_isAscii h]
  rfl

theorem read_of_isText {code : Bytes} (hread : s.read path = .ok content) (h : IsText content code) :
    (read s path).1 = .ok code := by
  rw [read_eq_mapError_decode hread, h.decode_eq]
  rfl

theorem read_of_not_isDigits (hread : s.read path = .ok content) (hascii : content.isAscii)
    (h : ¬Hex.IsDigits (Hex.unmarked (compact content))) :
    ∃ e,
      (read s path).1 = if Hex.isMarked (compact content) then .error (.hex e) else .ok content := by
  rw [read_eq_mapError_decode hread, decode_of_isAscii hascii]
  cases hdigits : Hex.readDigits (Hex.unmarked (compact content)) with
  | ok code => exact absurd (Hex.isDigits_of_readDigits_eq_ok hdigits) h
  | error e =>
    refine ⟨e, ?_⟩
    dsimp only
    split <;> rfl

theorem read_eq_ok_self_iff (hread : s.read path = .ok content) :
    (read s path).1 = .ok content
      ↔
    content = []
      ∨ ¬content.isAscii
      ∨ (¬Hex.IsDigits (Hex.unmarked (compact content)) ∧ ¬Hex.isMarked (compact content)) := by
  by_cases hascii : content.isAscii
  case neg => simp [hascii, read_of_not_isAscii hread hascii]
  by_cases hd : Hex.IsDigits (Hex.unmarked (compact content))
  · obtain ⟨digits, code, hdigits, hlower, htext⟩ := exists_isText hd
    have hle := two_mul_length_le hdigits hlower
    rw [read_of_isText hread htext, Except.ok.injEq]
    -- Two digits stand for a byte, so that no text but the empty one is its own code.
    simp only [hascii, hd, not_true, false_and, or_false]
    constructor
    · rintro rfl
      rw [← List.length_eq_zero_iff]
      omega
    · rintro rfl
      rw [List.length_nil] at hle
      rw [← List.length_eq_zero_iff]
      omega
  · obtain ⟨e, he⟩ := read_of_not_isDigits hread hascii hd
    rw [he]
    split
    · next hmark =>
      simp only [hascii, hmark, not_true, and_false, or_false, reduceCtorEq, false_iff]
      rintro rfl
      cases hmark
    · next hmark => simp [hd, hmark]

end Read

theorem read_recognises {s : Store} {path : String} {content : Bytes}
    (hread : s.read path = .ok content) :
    ∃ d,
      Hex.IsUnmarked d (compact content)
        ∧ ((∃ b ∈ content, 0x80 ≤ b) → (read s path).1 = .ok content)
        ∧ ((∀ b ∈ content, b < 0x80) →
            (Hex.IsDigits d →
              ∃ (digits : List Char) (code : Bytes),
                d = digits.map .char
                  ∧ digits.map Char.toLower = Hex.encode code
                  ∧ (read s path).1 = .ok code)
              ∧ (¬Hex.IsDigits d → Hex.HasMark (compact content) →
                  ∃ e, (read s path).1 = .error (.hex e))
              ∧ (¬Hex.IsDigits d → ¬Hex.HasMark (compact content) →
                  (read s path).1 = .ok content))
        ∧ ((read s path).1 = .ok content
            ↔
          content = []
            ∨ (∃ b ∈ content, 0x80 ≤ b)
            ∨ (¬Hex.IsDigits d ∧ ¬Hex.HasMark (compact content)))
        ∧ (Hex.IsDigits d →
            ∀ s' path' content',
              s'.read path' = .ok content' →
                content'.filter (fun b => !isBlank b) = content.filter (fun b => !isBlank b) →
                  (read s' path').1 = (read s path).1)
        ∧ (∀ text code,
            content = Bytes.ofAscii text → (∀ c ∈ text, c.toNat < 128) →
              Hex.parse (text.map .char) = .ok code → (read s path).1 = .ok code) := by
  have hascii : (∀ b ∈ content, b < 0x80) ↔ content.isAscii := by
    simp [Bytes.isAscii]
  rw [hascii]
  simp only [← Bytes.not_isAscii_iff, ← Hex.isMarked_iff]
  refine ⟨Hex.unmarked (compact content), Hex.isUnmarked_iff.2 rfl, read_of_not_isAscii hread, ?_, ?_,
    ?_, ?_⟩
  · intro hascii
    refine ⟨?_, ?_, ?_⟩
    · intro hd
      obtain ⟨digits, code, hdigits, hlower, htext⟩ := exists_isText hd
      exact ⟨digits, code, hdigits, hlower, read_of_isText hread htext⟩
    · intro hd hmark
      obtain ⟨e, he⟩ := read_of_not_isDigits hread hascii hd
      rw [if_pos hmark] at he
      exact ⟨e, he⟩
    · intro hd hmark
      obtain ⟨e, he⟩ := read_of_not_isDigits hread hascii hd
      rw [if_neg hmark] at he
      exact he
  · exact read_eq_ok_self_iff hread
  · intro hd s' path' content' hread' hfilter
    obtain ⟨_, code, -, -, htext⟩ := exists_isText hd
    have htext' : IsText content' code := by
      unfold IsText
      rw [hfilter]
      exact htext
    rw [read_of_isText hread htext, read_of_isText hread' htext']
  · rintro text code rfl hlt hparse
    exact read_of_isText hread (isText_ofAscii_of_parse_eq_ok hlt hparse)

-- A line break splits the mark, and a digit is missing.
theorem read_recognises_split_mark :
    let content : Bytes := [0x30, 0x0a, 0x78, 0x36]
    let s : Store := { home := [], entries := [(["a"], .file content)] }
    s.read "a" = .ok content ∧ ∃ e, (read s "a").1 = .error (.hex e) := by
  intro content s
  have hread : s.read "a" = .ok content := by decide +kernel
  obtain ⟨d, hd, -, hascii, -⟩ := read_recognises hread
  rw [Hex.isUnmarked_iff] at hd
  subst hd
  obtain ⟨-, hmarked, -⟩ := hascii (by simp [content])
  refine ⟨hread, hmarked ?_ ?_⟩
  · rintro ⟨-, heven⟩
    exact absurd heven (by decide)
  · exact Hex.isMarked_iff.1 rfl

end CodeFile
end EvmSelectors
