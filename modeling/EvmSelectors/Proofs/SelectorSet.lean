import Mathlib.Logic.Function.Basic
import EvmSelectors.Selector.Set

/-!
This module contains the laws of sets of selectors: a set that elements are put into one after the other
lists each of them where it came in first.
-/

namespace EvmSelectors

theorem eraseDups_append_cons_of_mem {α : Type} [BEq α] [LawfulBEq α] {l r : List α} {a : α}
    (h : a ∈ l) :
    (l ++ a :: r).eraseDups = (l ++ r).eraseDups := by
  rw [List.eraseDups_append, List.eraseDups_append, List.cons_removeAll]
  simp [h]

theorem eraseDups_append_filter_append {α : Type} [BEq α] [LawfulBEq α] {l r t : List α} {p : α → Bool}
    (h : ∀ a ∈ r, p a = false → a ∈ l) :
    (l ++ (r.filter p ++ t)).eraseDups = (l ++ (r ++ t)).eraseDups := by
  induction r generalizing l with
  | nil => rfl
  | cons a r ih =>
    simp only [List.mem_cons, forall_eq_or_imp] at h
    cases hp : p a with
    | false =>
      rw [List.filter_cons_of_neg (by simp [hp]), ih h.2, List.cons_append,
        eraseDups_append_cons_of_mem (h.1 hp)]
    | true =>
      have hr : ∀ b ∈ r, p b = false → b ∈ l ++ [a] := by
        intro b hb hpb
        exact List.mem_append_left _ (h.2 b hb hpb)
      have := ih hr
      rw [List.filter_cons_of_pos hp]
      simpa using this

theorem eraseDups_append_eraseDups_append {α : Type} [BEq α] [LawfulBEq α] (l r t : List α) :
    (l ++ (r.eraseDups ++ t)).eraseDups = (l ++ (r ++ t)).eraseDups := by
  match r with
  | [] => rfl
  | a :: r =>
    have hlen : (r.filter (fun b => !b == a)).length ≤ r.length := List.length_filter_le ..
    have hfilter : ∀ b ∈ r, (!b == a) = false → b ∈ l ++ [a] := by
      intro b _ hb
      simp only [Bool.not_eq_false', beq_iff_eq] at hb
      simp [hb]
    have ih := eraseDups_append_eraseDups_append (l ++ [a]) (r.filter (fun b => !b == a)) t
    rw [eraseDups_append_filter_append hfilter] at ih
    rw [List.eraseDups_cons]
    simpa using ih
termination_by r.length
decreasing_by
  rw [List.length_cons]
  omega

theorem eraseDups_eraseDups_append_eraseDups {α : Type} [BEq α] [LawfulBEq α] (l r t : List α) :
    (l.eraseDups ++ r ++ t.eraseDups).eraseDups = (l ++ r ++ t).eraseDups := by
  have hl := eraseDups_append_eraseDups_append [] l (r ++ t.eraseDups)
  have ht := eraseDups_append_eraseDups_append (l ++ r) t []
  simp only [List.nil_append, List.append_nil, ← List.append_assoc] at hl ht
  rw [hl, ht]

theorem eraseDups_of_nodup {α : Type} [BEq α] [LawfulBEq α] {l : List α} (h : l.Nodup) :
    l.eraseDups = l := by
  induction l with
  | nil => rfl
  | cons a l ih =>
    rw [List.nodup_cons] at h
    have hfilter : l.filter (fun b => !b == a) = l := by
      rw [List.filter_eq_self]
      intro b hb
      have hne : b ≠ a := by
        rintro rfl
        exact h.1 hb
      simp [hne]
    rw [List.eraseDups_cons, hfilter, ih h.2]

theorem eraseDups_map_of_injOn {α β : Type} [BEq α] [LawfulBEq α] [BEq β] [LawfulBEq β] {f : α → β}
    {l : List α} (hf : ∀ a ∈ l, ∀ b ∈ l, f a = f b → a = b) :
    (l.map f).eraseDups = l.eraseDups.map f := by
  match l with
  | [] => rfl
  | a :: l =>
    have hlen : (l.filter (fun b => !b == a)).length ≤ l.length := List.length_filter_le ..
    have hfilter : (l.map f).filter (fun b => !b == f a) = (l.filter (fun b => !b == a)).map f := by
      rw [List.filter_map]
      congr 1
      apply List.filter_congr
      intro b hb
      rw [Function.comp_apply, Bool.not_inj_iff, Bool.eq_iff_iff, beq_iff_eq, beq_iff_eq]
      constructor
      · exact hf b (List.mem_cons_of_mem a hb) a List.mem_cons_self
      · rintro rfl
        rfl
    have htail : ∀ b ∈ l.filter (fun b => !b == a), ∀ c ∈ l.filter (fun b => !b == a),
        f b = f c → b = c := by
      intro b hb c hc
      exact hf b (List.mem_cons_of_mem a (List.mem_filter.1 hb).1) c
        (List.mem_cons_of_mem a (List.mem_filter.1 hc).1)
    rw [List.map_cons, List.eraseDups_cons, List.eraseDups_cons, hfilter, eraseDups_map_of_injOn htail,
      List.map_cons]
termination_by l.length
decreasing_by
  rw [List.length_cons]
  omega

theorem eraseDups_map {α β : Type} [BEq α] [LawfulBEq α] [BEq β] [LawfulBEq β] {f : α → β}
    (hf : Function.Injective f) (l : List α) : (l.map f).eraseDups = l.eraseDups.map f := by
  apply eraseDups_map_of_injOn
  intro a _ b _ h
  exact hf h

namespace SelectorSet

theorem nodup_bytes (s : SelectorSet) : s.bytes.Nodup := by
  unfold bytes List.Nodup
  rw [List.pairwise_map]
  apply List.Pairwise.imp _ s.nodup_toList
  intro x y hne h
  exact hne (Selector.bytes_injective h)

theorem eraseDups_toList_insert_append (s : SelectorSet) (x : Selector) (xs : List Selector) :
    ((s.insert x).toList ++ xs).eraseDups = (s.toList ++ x :: xs).eraseDups := by
  by_cases h : x ∈ s.toList
  · rw [toList_insert_of_mem h, eraseDups_append_cons_of_mem h]
  · rw [toList_insert_of_not_mem h, List.append_assoc, List.singleton_append]

theorem toList_foldl_insert (s : SelectorSet) (xs : List Selector) :
    (xs.foldl insert s).toList = (s.toList ++ xs).eraseDups := by
  induction xs generalizing s with
  | nil =>
    rw [List.foldl_nil, List.append_nil, eraseDups_of_nodup]
    apply nodup_toList
  | cons x xs ih => rw [List.foldl_cons, ih, eraseDups_toList_insert_append]

end SelectorSet
end EvmSelectors
