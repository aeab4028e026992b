import EvmSelectors.Json.Parser

/-!
This module contains the laws of the fields of an object: they come from the fields that its text lists,
and of several values that are listed for a name the last counts.
-/

namespace EvmSelectors
namespace Json

abbrev Field := List CodePoint × Json

theorem field?_setField (name : String) (fields : List Field) (f : Field) :
    field? name (setField fields f.1 f.2)
      =
    if f.1 = CodePoint.ofString name then some f.2 else field? name fields := by
  generalize hn : CodePoint.ofString name = n
  unfold field? setField
  rw [hn]
  split
  · next hany =>
    -- A field that takes the new value keeps its name, so that the same field is found.
    have hsame :
        (fun g : Field => g.1 == n) ∘ (fun g => if g.1 == f.1 then (f.1, f.2) else g)
          =
        (fun g : Field => g.1 == n) := by
      funext g
      by_cases hg : g.1 = f.1
      · simp [hg]
      · simp [hg]
    rw [List.find?_map, hsame, Option.map_map]
    cases hfind : fields.find? (fun g => g.1 == n) with
    | none =>
      rw [if_neg]
      · rfl
      · rintro rfl
        rw [List.find?_eq_none] at hfind
        obtain ⟨g, hg, hname⟩ := List.any_eq_true.1 hany
        exact hfind g hg hname
    | some g =>
      have hname : g.1 = n := by simpa using List.find?_some hfind
      by_cases hf : f.1 = n
      · simp [hf, hname]
      · have hg : ¬g.1 = f.1 := by
          rw [hname]
          exact Ne.symm hf
        simp [hf, hg]
  · next hany =>
    rw [List.find?_append]
    by_cases hf : f.1 = n
    · have hnone : fields.find? (fun g => g.1 == n) = none := by
        rw [List.find?_eq_none]
        intro g hg hname
        apply hany
        rw [List.any_eq_true, hf]
        exact ⟨g, hg, hname⟩
      simp [hf, hnone]
    · simp [hf]

def setFields (fields listed : List Field) : List Field :=
  listed.foldl (fun fields f => setField fields f.1 f.2) fields

/--
Whether no value is listed for a name.
-/
def IsAbsent (name : String) (listed : List Field) : Prop :=
  ∀ f ∈ listed, f.1 ≠ CodePoint.ofString name

/--
Whether a value is the last one that is listed for a name.
-/
def IsLast (name : String) (value : Json) (listed : List Field) : Prop :=
  ∃ before after,
    listed = before ++ (CodePoint.ofString name, value) :: after ∧ IsAbsent name after

theorem field?_setFields_of_isAbsent {name : String} {listed : List Field} (h : IsAbsent name listed)
    (fields : List Field) : field? name (setFields fields listed) = field? name fields := by
  induction listed generalizing fields with
  | nil => rfl
  | cons f listed ih =>
    unfold IsAbsent at h
    rw [List.forall_mem_cons] at h
    unfold setFields
    rw [List.foldl_cons, ← setFields, ih h.2, field?_setField, if_neg h.1]

theorem IsLast.field?_setFields_eq {name : String} {value : Json} {listed : List Field}
    (h : IsLast name value listed) (fields : List Field) :
    field? name (setFields fields listed) = some value := by
  obtain ⟨before, after, rfl, hafter⟩ := h
  unfold setFields
  rw [List.foldl_append, List.foldl_cons, ← setFields, field?_setFields_of_isAbsent hafter,
    field?_setField, if_pos rfl]

theorem isAbsent_or_isLast (name : String) (listed : List Field) :
    IsAbsent name listed ∨ ∃ value, IsLast name value listed := by
  induction listed with
  | nil =>
    left
    simp [IsAbsent]
  | cons f listed ih =>
    rcases ih with habsent | ⟨value, before, after, rfl, hafter⟩
    · by_cases hf : f.1 = CodePoint.ofString name
      · right
        exact ⟨f.2, [], listed, by rw [← hf, List.nil_append], habsent⟩
      · left
        unfold IsAbsent
        rw [List.forall_mem_cons]
        exact ⟨hf, habsent⟩
    · right
      exact ⟨value, f :: before, after, rfl, hafter⟩

theorem field?_setFields_nil_eq_none_iff {name : String} {listed : List Field} :
    field? name (setFields [] listed) = none ↔ IsAbsent name listed := by
  constructor
  · intro h
    rcases isAbsent_or_isLast name listed with habsent | ⟨value, hlast⟩
    · exact habsent
    · rw [hlast.field?_setFields_eq] at h
      cases h
  · intro h
    exact field?_setFields_of_isAbsent h []

theorem field?_setFields_nil_eq_some_iff {name : String} {value : Json} {listed : List Field} :
    field? name (setFields [] listed) = some value ↔ IsLast name value listed := by
  constructor
  · intro h
    rcases isAbsent_or_isLast name listed with habsent | ⟨value', hlast⟩
    · rw [field?_setFields_of_isAbsent habsent] at h
      cases h
    · rw [hlast.field?_setFields_eq, Option.some.injEq] at h
      exact h ▸ hlast
  · intro h
    exact h.field?_setFields_eq []

/--
Whether an object has the fields that are listed, of which the last one counts for each name.
-/
def Merges (fields listed : List Field) : Prop :=
  ∀ name,
    (field? name fields = none ↔ IsAbsent name listed)
      ∧ ∀ value, field? name fields = some value ↔ IsLast name value listed

theorem merges_setFields (listed : List Field) : Merges (setFields [] listed) listed := by
  intro name
  refine ⟨field?_setFields_nil_eq_none_iff, ?_⟩
  intro value
  exact field?_setFields_nil_eq_some_iff

/--
Whether a text starts with a field, the white space behind which is left out of the rest: a name in
quotes, a colon and a value.
-/
def Starts (depth : Nat) (s : List Char) (f : Field) (rest : List Char) : Prop :=
  ∃ text behindName behindColon behindValue fuel,
    s = '\x22' :: text
      ∧ readText s (text.length + 1) text [] = .ok (f.1, behindName)
      ∧ skipSpace behindName = ':' :: behindColon
      ∧ readValue fuel depth (skipSpace behindColon) = .ok (f.2, behindValue)
      ∧ skipSpace behindValue = rest

/--
The fields that a text lists up to the brace that closes their object, and what stands behind it.
-/
inductive Lists (depth : Nat) : List Char → List Field → List Char → Prop where
  | last {s rest : List Char} {f : Field} (hf : Starts depth s f ('\x7d' :: rest)) :
      Lists depth s [f] rest
  | cons {s rest behind : List Char} {f : Field} {listed : List Field}
      (hf : Starts depth s f (',' :: rest)) (hlisted : Lists depth (skipSpace rest) listed behind) :
      Lists depth s (f :: listed) behind

/--
Whether a text spells an object that lists the given fields, with white space around it.
-/
def Spells (depth : Nat) (s : String) (listed : List Field) : Prop :=
  ∃ inner text behind,
    depth = inner + 1
      ∧ skipSpace s.toList = '\x7b' :: text
      ∧ (listed = [] ∧ skipSpace text = '\x7d' :: behind ∨ Lists inner (skipSpace text) listed behind)
      ∧ skipSpace behind = []

theorem exists_lists_of_readFields_eq_ok {fuel depth : Nat} {s rest : List Char} {acc : List Field}
    {value : Json} (h : readFields fuel depth s acc = .ok (value, rest)) :
    ∃ listed, Lists depth s listed rest ∧ value = .object (setFields acc listed) := by
  induction fuel generalizing s acc with
  | zero => cases h
  | succ fuel ih =>
    unfold readFields at h
    split at h
    · next text =>
      split at h
      · cases h
      · next name behindName hname =>
        split at h
        · next behindColon hcolon =>
          split at h
          · cases h
          · next item behindValue hvalue =>
            have hf : Starts depth ('\x22' :: text) (name, item) (skipSpace behindValue) :=
              ⟨text, behindName, behindColon, behindValue, fuel, rfl, hname, hcolon, hvalue, rfl⟩
            split at h
            · next hrest =>
              cases h
              rw [hrest] at hf
              exact ⟨[(name, item)], .last hf, rfl⟩
            · next hrest =>
              obtain ⟨listed, hlisted, rfl⟩ := ih h
              rw [hrest] at hf
              exact ⟨(name, item) :: listed, .cons hf hlisted, rfl⟩
            · cases h
        · cases h
    · cases h

theorem exists_eq_array_of_readItems_eq_ok {fuel depth : Nat} {s rest : List Char} {acc : List Json}
    {value : Json} (h : readItems fuel depth s acc = .ok (value, rest)) :
    ∃ items, value = .array items := by
  induction fuel generalizing s acc with
  | zero => cases h
  | succ fuel ih =>
    rw [readItems] at h
    split at h
    · cases h
    · split at h
      · cases h
        exact ⟨_, rfl⟩
      · exact ih h
      · cases h

theorem readNumber_ne_object (s rest : List Char) (fields : List Field) :
    readNumber s ≠ .ok (.object fields, rest) := by
  unfold readNumber fault
  grind

theorem readScalar_ne_object (s rest : List Char) (fields : List Field) :
    readScalar s ≠ .ok (.object fields, rest) := by
  have hwords : ∀ w ∈ words, w.2 ≠ .object fields := by simp [words]
  unfold readScalar
  split
  · next word value hword =>
    have hvalue : value ≠ .object fields := hwords _ (List.mem_of_find?_eq_some hword)
    simp [hvalue]
  · apply readNumber_ne_object

theorem exists_spells_of_readValue {fuel depth : Nat} {s rest : List Char} {fields : List Field}
    (h : readValue fuel depth s = .ok (.object fields, rest)) :
    ∃ inner text listed,
      depth = inner + 1
        ∧ s = '\x7b' :: text
        ∧ (listed = [] ∧ skipSpace text = '\x7d' :: rest ∨ Lists inner (skipSpace text) listed rest)
        ∧ fields = setFields [] listed := by
  cases fuel with
  | zero => cases h
  | succ fuel =>
    unfold readValue at h
    split at h
    · split at h <;> cases h
    · split at h
      · cases h
      · split at h
        · cases h
        · obtain ⟨_, hitems⟩ := exists_eq_array_of_readItems_eq_ok h
          cases hitems
    · next text =>
      split at h
      · cases h
      · next inner =>
        split at h
        · next hclose =>
          cases h
          exact ⟨inner, text, [], rfl, rfl, .inl ⟨rfl, hclose⟩, rfl⟩
        · obtain ⟨listed, hlisted, hfields⟩ := exists_lists_of_readFields_eq_ok h
          cases hfields
          exact ⟨inner, text, listed, rfl, rfl, .inr hlisted, rfl⟩
    · exact absurd h (readScalar_ne_object s rest fields)

theorem exists_spells_of_parse_eq_ok_object {depth : Nat} {s : String} {fields : List Field}
    (h : parse depth s = .ok (.object fields)) :
    ∃ listed, Spells depth s listed ∧ fields = setFields [] listed := by
  unfold parse at h
  split at h
  · next value hread =>
    cases h
    unfold read at hread
    split at hread
    · cases hread
    · split at hread
      · cases hread
      · next value behind hvalue =>
        dsimp only at hread
        split at hread
        · next hbehind =>
          cases hread
          obtain ⟨inner, text, listed, hdepth, hs, hlisted, hfields⟩ := exists_spells_of_readValue hvalue
          exact ⟨listed, ⟨inner, text, behind, hdepth, hs, hlisted, List.isEmpty_iff.1 hbehind⟩, hfields⟩
        · cases hread
  · cases h
  · cases h
  · cases h

end Json
end EvmSelectors
