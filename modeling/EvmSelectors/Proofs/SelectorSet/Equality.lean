import Mathlib.Data.List.Basic
import EvmSelectors.Proofs.Hex
import EvmSelectors.Proofs.SelectorSet.History

/-!
This module contains the laws of the equality of sets of selectors. Sets are equal if what has been put in
came in first in the same order, and equal sets are those that no later use tells apart.
-/

namespace EvmSelectors

theorem append_intercalate_of_ne_nil {α : Type} {sep : List α} {l : List (List α)} (h : l ≠ []) :
    sep ++ sep.intercalate l = l.flatMap (sep ++ ·) := by
  induction l with
  | nil => contradiction
  | cons a l ih =>
    cases l with
    | nil => simp
    | cons b l =>
      rw [List.intercalate_cons_cons, List.flatMap_cons, ← ih (List.cons_ne_nil b l)]
      simp only [List.append_assoc]

section FixedLength

variable {α β : Type} {sep : List β} {f : α → List β} {n : Nat} (hlen : ∀ a, (f a).length = n + 1)

include hlen

theorem ne_nil_of_length (a : α) : f a ≠ [] := by
  rw [← List.length_pos_iff, hlen]
  apply Nat.succ_pos

theorem flatMap_injective_of_length (hf : Function.Injective f) {l l' : List α}
    (h : l.flatMap f = l'.flatMap f) : l = l' := by
  induction l generalizing l' with
  | nil =>
    cases l' with
    | nil => rfl
    | cons a' l' => simp [ne_nil_of_length hlen a'] at h
  | cons a l ih =>
    cases l' with
    | nil => simp [ne_nil_of_length hlen a] at h
    | cons a' l' =>
      rw [List.flatMap_cons, List.flatMap_cons] at h
      obtain ⟨ha, hl⟩ := List.append_inj h (by rw [hlen, hlen])
      rw [hf ha, ih hl]

theorem intercalate_map_eq_nil_iff {l : List α} : sep.intercalate (l.map f) = [] ↔ l = [] := by
  cases l with
  | nil => simp
  | cons a l => cases l <;> simp [ne_nil_of_length hlen a]

theorem intercalate_map_injective (hf : Function.Injective f) {l l' : List α}
    (h : sep.intercalate (l.map f) = sep.intercalate (l'.map f)) : l = l' := by
  by_cases hl : l = []
  · rw [hl, List.map_nil, List.intercalate_nil, eq_comm, intercalate_map_eq_nil_iff hlen] at h
    rw [hl, h]
  · have hl' : l' ≠ [] := by
      rintro rfl
      rw [List.map_nil, List.intercalate_nil, intercalate_map_eq_nil_iff hlen] at h
      exact hl h
    have happend := congrArg (sep ++ ·) h
    rw [append_intercalate_of_ne_nil (by simpa using hl),
      append_intercalate_of_ne_nil (by simpa using hl'), List.flatMap_map, List.flatMap_map] at happend
    have hlen' : ∀ a, (sep ++ f a).length = sep.length + n + 1 := by
      intro a
      rw [List.length_append, hlen, Nat.add_assoc]
    apply flatMap_injective_of_length hlen' _ happend
    intro a a' ha
    exact hf (List.append_cancel_left ha)

end FixedLength

theorem Text.quoted_of_forall_escape {s : String}
    (h : ∀ c ∈ s.toList, c ≠ singleQuote ∧ escape singleQuote (.char c) = [c]) :
    quoted s = String.ofList (singleQuote :: (s.toList ++ [singleQuote])) := by
  have hmark : quoteMark (CodePoint.ofString s) = singleQuote := by
    have hnone : CodePoint.char singleQuote ∉ CodePoint.ofString s := by
      intro hmem
      obtain ⟨c, hc, heq⟩ := List.mem_map.1 hmem
      cases heq
      exact (h _ hc).1 rfl
    simp [quoteMark, hnone]
  have hescape : (CodePoint.ofString s).flatMap (escape singleQuote) = s.toList := by
    rw [CodePoint.ofString, List.flatMap_map, List.flatMap_congr (fun c hc => (h c hc).2),
      List.flatMap_singleton']
  rw [quoted, quotedPoints, hmark, hescape]

theorem Hex.exists_digitChar_of_mem_encode {b : Bytes} {c : Char} (h : c ∈ encode b) :
    ∃ n < 16, c = Nat.digitChar n := by
  obtain ⟨x, -, hc⟩ := List.mem_flatMap.1 h
  have hx := x.toNat_lt
  simp only [encodeByte, List.mem_cons, List.not_mem_nil, or_false] at hc
  rcases hc with rfl | rfl
  · exact ⟨x.toNat / 16, by omega, rfl⟩
  · exact ⟨x.toNat % 16, by omega, rfl⟩

theorem Hex.escape_digitChar
    : ∀ n < 16,
        Nat.digitChar n ≠ Text.singleQuote
          ∧ Text.escape Text.singleQuote (.char (Nat.digitChar n)) = [Nat.digitChar n] := by
  decide +kernel

theorem escape_of_mem_markedHex {b : Bytes} {c : Char} (h : c ∈ markedHex b) :
    c ≠ Text.singleQuote ∧ Text.escape Text.singleQuote (.char c) = [c] := by
  simp only [markedHex, List.mem_cons] at h
  rcases h with rfl | rfl | h
  · decide +kernel
  · decide +kernel
  · obtain ⟨n, hn, rfl⟩ := Hex.exists_digitChar_of_mem_encode h
    exact Hex.escape_digitChar n hn

theorem markedHex_injective {b c : Bytes} (h : markedHex b = markedHex c) : b = c := by
  simp only [markedHex, List.cons.injEq, true_and] at h
  rw [← Hex.decode_encode b, h, Hex.decode_encode]

namespace Selector

/--
A selector as it stands in the text that shows a set.
-/
def quotedHex (x : Selector) : List Char :=
  Text.singleQuote :: (markedHex x.bytes ++ [Text.singleQuote])

theorem length_quotedHex (x : Selector) : x.quotedHex.length = 12 := by
  simp [quotedHex, markedHex, Hex.length_encode, x.length_bytes, size]

theorem quotedHex_injective {x y : Selector} (h : x.quotedHex = y.quotedHex) : x = y := by
  apply bytes_injective
  apply markedHex_injective
  simpa [quotedHex] using h

theorem toList_quoted_markedHex (x : Selector) :
    (Text.quoted (String.ofList (markedHex x.bytes))).toList = x.quotedHex := by
  rw [Text.quoted_of_forall_escape]
  · rw [String.toList_ofList, String.toList_ofList, quotedHex]
  · rw [String.toList_ofList]
    intro c
    apply escape_of_mem_markedHex

end Selector

namespace SelectorSet

variable {s t : SelectorSet}

theorem toList_injective (h : s.toList = t.toList) : s = t := by
  obtain ⟨latest, _⟩ := s
  obtain ⟨latest', _⟩ := t
  have hlatest : latest = latest' := List.reverse_inj.1 h
  subst hlatest
  rfl

instance : LawfulBEq SelectorSet where
  eq_of_beq h := toList_injective (beq_iff_toList_eq.1 h)
  rfl := beq_iff_toList_eq.2 rfl

theorem beq_iff_bytes_eq : s == t ↔ s.bytes = t.bytes := by
  unfold bytes
  rw [beq_iff_toList_eq, List.map_inj_right]
  intro x y
  apply Selector.bytes_injective

theorem map_quoted_hexStrings (s : SelectorSet) :
    (s.hexStrings.map Text.quoted).map String.toList = s.toList.map Selector.quotedHex := by
  simp only [hexStrings, bytes, List.map_map]
  apply List.map_congr_left
  intro x _
  apply Selector.toList_quoted_markedHex

theorem render_injective (h : s.render = t.render) : s = t := by
  unfold render at h
  rw [String.append_left_inj, String.append_right_inj, ← String.toList_inj, String.toList_intercalate,
    String.toList_intercalate, map_quoted_hexStrings, map_quoted_hexStrings] at h
  apply toList_injective
  apply intercalate_map_injective Selector.length_quotedHex _ h
  intro x y
  apply Selector.quotedHex_injective

theorem selectorOf_eq_ok {memory : Nat} {value : ByteSource} {b : Bytes}
    (h : value.toBytes memory = .ok b) (hlen : b.length = Selector.size) :
    ∃ x, selectorOf memory value = .ok x ∧ x.bytes = b := by
  have hx := Selector.bytes_of_length hlen
  generalize Selector.mk b.value (Selector.value_lt_of_length hlen) = x at hx
  refine ⟨x, ?_, hx⟩
  rw [selectorOf_eq, h]
  dsimp only
  rw [Selector.ofBytes_eq_ok_iff.2 hx.symm]

theorem exists_addAll_eq_ok {memory : Nat} (s : SelectorSet) {values : List ByteSource}
    {bs : List Bytes} (h : ByteSource.allToBytes memory values = .ok bs)
    (hlen : ∀ b ∈ bs, b.length = Selector.size) :
    ∃ xs : List Selector,
      s.addAll memory values = .ok (xs.foldl insert s) ∧ xs.map Selector.bytes = bs := by
  induction values generalizing s bs with
  | nil =>
    cases h
    exact ⟨[], rfl, rfl⟩
  | cons value rest ih =>
    obtain ⟨b, tail, hb, htail, rfl⟩ := ByteSource.allToBytes_cons_eq_ok_iff.1 h
    simp only [List.mem_cons, forall_eq_or_imp] at hlen
    obtain ⟨x, hx, rfl⟩ := selectorOf_eq_ok hb hlen.1
    obtain ⟨xs, hxs, rfl⟩ := ih (s.insert x) htail hlen.2
    refine ⟨x :: xs, ?_, rfl⟩
    rw [addAll, add, hx]
    exact hxs

theorem exists_ofValues_eq_ok {memory : Nat} {values : List ByteSource} {bs : List Bytes}
    (h : ByteSource.allToBytes memory values = .ok bs) (hlen : ∀ b ∈ bs, b.length = Selector.size) :
    ∃ s, ofValues memory values = .ok s ∧ s.bytes = bs.eraseDups := by
  obtain ⟨xs, hxs, rfl⟩ := exists_addAll_eq_ok empty h hlen
  have hbytes : Function.Injective Selector.bytes := fun _ _ => Selector.bytes_injective
  refine ⟨_, hxs, ?_⟩
  rw [bytes, toList_foldl_insert, toList_empty, List.nil_append, eraseDups_map hbytes]

theorem ofValues_map_bytes (memory : Nat) (s : SelectorSet) :
    ofValues memory (s.bytes.map .bytes) = .ok s := by
  obtain ⟨t, ht, hbytes⟩ := exists_ofValues_eq_ok (ByteSource.allToBytes_map_bytes memory s.bytes)
    (fun b hb => length_of_mem_bytes hb)
  rw [eraseDups_of_nodup s.nodup_bytes, ← beq_iff_bytes_eq, beq_iff_eq] at hbytes
  rw [ht, hbytes]

/--
Whether two sets give the same answers: to the addition of values one after the other and, behind these,
to every question on membership, when they are shown and when their kind is guessed.
-/
structure Alike (memory : Nat) (s t : SelectorSet) (values : List ByteSource) : Prop where
  answers : (s.perform memory (values.map .add)).map Prod.snd
    = (t.perform memory (values.map .add)).map Prod.snd
  contains : ∀ value,
    (s.after memory (values.map .add)).ask memory (.contains value)
      = (t.after memory (values.map .add)).ask memory (.contains value)
  render : (s.after memory (values.map .add)).render = (t.after memory (values.map .add)).render
  classify : (s.after memory (values.map .add)).classify
    = (t.after memory (values.map .add)).classify

theorem beq_iff_forall_alike (memory : Nat) : s == t ↔ ∀ values, Alike memory s t values := by
  constructor
  · -- A set is no more than its elements in their order, so that equal sets are the same set.
    intro h values
    rw [eq_of_beq h]
    exact ⟨rfl, fun _ => rfl, rfl, rfl⟩
  · intro h
    rw [beq_iff_eq]
    exact render_injective (h []).render

/--
The equality of sets compares what was put in by the places where it came in first, and so does the one
with a list, where a repeated element makes a difference. A set is equal to the one made of its own
elements, and sets are equal if and only if no later use tells them apart.
-/
theorem equality_by_discovery {memory : Nat} {xs ys : List ByteSource} {bs cs : List Bytes}
    (hxs : ByteSource.allToBytes memory xs = .ok bs) (hbs : ∀ b ∈ bs, b.length = 4)
    (hys : ByteSource.allToBytes memory ys = .ok cs) (hcs : ∀ c ∈ cs, c.length = 4) :
    (∃ s t,
        ofValues memory xs = .ok s
          ∧ ofValues memory ys = .ok t
          ∧ s.ask memory (.equalsSet ys) = .ok (.truth (s == t))
          ∧ (s == t ↔ bs.eraseDups = cs.eraseDups)
          ∧ (∀ values ds, ByteSource.allToBytes memory values = .ok ds →
              s.ask memory (.equalsList values) = .ok (.truth (decide (bs.eraseDups = ds))))
          ∧ s.ask memory (.equalsList xs) = .ok (.truth (decide bs.Nodup)))
      ∧ (∀ s, ∃ t, ofValues memory (s.bytes.map .bytes) = .ok t ∧ t == s)
      ∧ (∀ s t, s == t ↔ ∀ values, Alike memory s t values)
      ∧ ∀ s t : SelectorSet, s == t →
          ∀ values : List ByteSource,
            s.after memory (values.map .add) == t.after memory (values.map .add) := by
  refine ⟨?_, ?_, ?_, ?_⟩
  · obtain ⟨s, hs, hsbytes⟩ := exists_ofValues_eq_ok hxs hbs
    obtain ⟨t, ht, htbytes⟩ := exists_ofValues_eq_ok hys hcs
    have hlist : ∀ values ds, ByteSource.allToBytes memory values = .ok ds →
        s.ask memory (.equalsList values) = .ok (.truth (decide (bs.eraseDups = ds))) := by
      intro values ds hvalues
      rw [ask_equalsList, hvalues, hsbytes]
      dsimp only
      rw [beq_eq_decide]
    have hnodup : bs.eraseDups = bs ↔ bs.Nodup := by
      constructor
      · intro h
        rw [← h, ← hsbytes]
        apply nodup_bytes
      · apply eraseDups_of_nodup
    refine ⟨s, t, hs, ht, ?_, ?_, hlist, ?_⟩
    · rw [ask, ht]
    · rw [beq_iff_bytes_eq, hsbytes, htbytes]
    · rw [hlist xs bs hxs]
      simp only [hnodup]
  · intro s
    exact ⟨s, ofValues_map_bytes memory s, beq_self_eq_true s⟩
  · intro s t
    exact beq_iff_forall_alike memory
  · intro s t h values
    rw [eq_of_beq h, beq_iff_eq]

-- The same elements in other forms, one of them twice in each of the lists but not at the same places.
theorem equality_by_discovery_repeated :
    let memory := 4096
    let xs := [.bytes [1, 2, 3, 4], .octets [some 1, some 2, some 3, some 4], .zeros 4]
    let ys := [.octets [some 1, some 2, some 3, some 4], .bytes [0, 0, 0, 0], .bytes [1, 2, 3, 4]]
    ∃ s t,
      ofValues memory xs = .ok s
        ∧ ofValues memory ys = .ok t
        ∧ s.ask memory (.equalsSet ys) = .ok (.truth true)
        ∧ s.ask memory (.equalsList xs) = .ok (.truth false)
        ∧ s.ask memory (.equalsList [.bytes [1, 2, 3, 4], .zeros 4]) = .ok (.truth true)
        ∧ ∀ values, Alike memory s t values := by
  intro memory xs ys
  have hxs : ByteSource.allToBytes memory xs = .ok [[1, 2, 3, 4], [1, 2, 3, 4], [0, 0, 0, 0]] := rfl
  have hys : ByteSource.allToBytes memory ys = .ok [[1, 2, 3, 4], [0, 0, 0, 0], [1, 2, 3, 4]] := rfl
  obtain ⟨⟨s, t, hs, ht, hset, hequal, hlist, hself⟩, -, halike, -⟩ :=
    equality_by_discovery hxs (by decide) hys (by decide)
  have hst : s == t := hequal.2 (by decide)
  rw [hst] at hset
  exact ⟨s, t, hs, ht, hset, hself, hlist _ [[1, 2, 3, 4], [0, 0, 0, 0]] rfl, (halike s t).1 hst⟩

end SelectorSet
end EvmSelectors
