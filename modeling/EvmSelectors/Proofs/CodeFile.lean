import EvmSelectors.CodeFile
import EvmSelectors.Proofs.Hex
import EvmSelectors.Proofs.Store

/-!
This module contains the laws of code files: code is read back from any hexadecimal text of it, and from
its own bytes if these are no text.
-/

namespace EvmSelectors

theorem Bytes.toAscii_ofAscii {text : List Char} (h : ∀ c ∈ text, c.toNat < 128) :
    toAscii (ofAscii text) = text := by
  unfold toAscii ofAscii
  rw [List.map_map]
  conv => rhs; rw [← List.map_id text]
  apply List.map_congr_left
  intro c hc
  have hlt := h c hc
  rw [Function.comp_apply, UInt8.toNat_ofNat', Nat.mod_eq_of_lt (by omega), Char.ofNat_toNat, id]

theorem Bytes.ofAscii_toAscii (b : Bytes) : ofAscii (toAscii b) = b := by
  unfold toAscii ofAscii
  rw [List.map_map]
  conv => rhs; rw [← List.map_id b]
  apply List.map_congr_left
  intro x _
  have hx := x.toNat_lt
  have hvalid : x.toNat.isValidChar := .inl (by omega)
  rw [Function.comp_apply, Char.ofNat, dif_pos hvalid]
  exact UInt8.ofNat_toNat

theorem Bytes.not_isAscii_iff {b : Bytes} : ¬b.isAscii ↔ ∃ x ∈ b, 0x80 ≤ x := by
  simp [isAscii]

namespace CodeFile

/--
Whether the content of a file is a hexadecimal text of some code, in which white space may stand
anywhere.
-/
def IsText (content code : Bytes) : Prop :=
  ∃ text, Hex.Spells text code ∧ content.filter (fun b => !isBlank b) = Bytes.ofAscii text

theorem isBlank_iff {b : UInt8} :
    isBlank b ↔ 9 ≤ b.toNat ∧ b.toNat ≤ 13 ∨ 28 ≤ b.toNat ∧ b.toNat ≤ 32 := by
  simp [isBlank, UInt8.le_iff_toNat_le]

theorem isBlank_ofNat {c : Char} (h : c.toNat < 128) :
    isBlank (UInt8.ofNat c.toNat) = Text.isBlank c := by
  rw [Bool.eq_iff_iff, isBlank_iff, UInt8.toNat_ofNat', Nat.mod_eq_of_lt (by omega)]
  simp only [Text.isBlank, Text.blankRanges, List.any_cons, List.any_nil, Bool.or_eq_true,
    Bool.and_eq_true, decide_eq_true_eq, Bool.false_eq_true, or_false]
  omega

theorem IsText.isAscii {content code : Bytes} (h : IsText content code) : content.isAscii := by
  obtain ⟨text, htext, hcontent⟩ := h
  unfold Bytes.isAscii
  rw [List.all_eq_true]
  intro b hb
  rw [decide_eq_true_iff, UInt8.lt_iff_toNat_lt]
  change b.toNat < 128
  by_cases hblank : isBlank b
  · rw [isBlank_iff] at hblank
    omega
  · have hmem : b ∈ Bytes.ofAscii text := by
      rw [← hcontent, List.mem_filter]
      simp [hb, hblank]
    rw [Bytes.ofAscii, List.mem_map] at hmem
    obtain ⟨c, hc, rfl⟩ := hmem
    have hlt := htext.toNat_lt c hc
    rw [UInt8.toNat_ofNat']
    omega

theorem IsText.decode_eq {content code : Bytes} (h : IsText content code) (path : String) :
    decode path content = (.ok code, []) := by
  obtain ⟨text, htext, hcontent⟩ := id h
  have hcompact : compact content = text.map .char := by
    rw [compact, hcontent, Bytes.toAscii_ofAscii htext.toNat_lt]
  rw [decode, if_pos h.isAscii, decodeText, hcompact, htext.parse_map_char_eq]

theorem isText_encode (code : Bytes) : IsText (encode code) code := by
  have htext := Hex.spells_encode code
  refine ⟨Hex.encode code, htext, ?_⟩
  unfold encode
  rw [List.filter_eq_self]
  intro b hb
  rw [Bytes.ofAscii, List.mem_map] at hb
  obtain ⟨c, hc, rfl⟩ := hb
  rw [isBlank_ofNat (htext.toNat_lt c hc), htext.isBlank_eq_false c hc]
  rfl

theorem decode_of_not_isAscii {content : Bytes} (h : ¬content.isAscii) (path : String) :
    decode path content = (.ok content, []) := by
  rw [decode, if_neg h]

theorem read_eq_of_decode_eq {s : Store} {path : String} {content code : Bytes}
    (hread : s.read path = .ok content) (hdecode : decode path content = (.ok code, [])) :
    read s path = (.ok code, []) := by
  rw [read, hread]
  dsimp only
  rw [hdecode]

theorem of_read_eq_error {s : Store} {path : String} {e : ReadError} (h : (read s path).1 = .error e) :
    (∃ cause, s.contentAt path = .error cause ∧ e = .store { cause, path })
      ∨ (∃ content e', s.contentAt path = .ok content ∧ e = .hex e') := by
  unfold read Store.read at h
  cases hcontent : s.contentAt path with
  | error cause =>
    rw [hcontent] at h
    cases h
    exact .inl ⟨cause, rfl, rfl⟩
  | ok content =>
    rw [hcontent] at h
    dsimp only at h
    split at h
    · next e' _ _ =>
      cases h
      exact .inr ⟨content, e', rfl, rfl⟩
    · cases h

theorem exists_contentAt_of_read_eq_ok {s : Store} {path : String} {code : Bytes}
    (h : (read s path).1 = .ok code) : ∃ content, s.contentAt path = .ok content := by
  unfold read Store.read at h
  cases hcontent : s.contentAt path with
  | error cause =>
    rw [hcontent] at h
    cases h
  | ok content => exact ⟨content, rfl⟩

/--
To save bytes is to write their hexadecimal text.
-/
theorem save_bytes_eq (memory : Nat) (s : Store) (path : String) (code : Bytes) :
    save memory s path (.bytes code)
      =
    {
      store := (s.write path (encode code)).store
      result := (s.write path (encode code)).result.mapError .store
      log :=
        match (s.write path (encode code)).result with
        | .error _ => []
        | .ok () => [savedEntry path code.length]
    } := by
  unfold save Store.write ByteSource.toBytes
  cases s.openToWrite path with
  | error e => rfl
  | ok opened =>
    obtain ⟨target, opened⟩ := opened
    dsimp only
    cases opened.fill (encode code) target with
    | mk after refusal => cases refusal <;> rfl

end CodeFile
end EvmSelectors
